import Pgx.Conn.Receive

namespace Pgx

namespace Conn

/-- The start of a turn of `WaitForNotification`: arm the read deadline, peek, clear the deadline; a
peek that times out gives `NotificationTimeoutError`. -/
def waitPeek (c : Conn) : Conn × Option Error :=
  match c.conn.setReadDeadline with
  | some e => (c, some (.io e))
  | none =>
    match c.conn.peek with
    | (some e, t) => ({ c with conn := t }, some (if e = .timeout then NotificationTimeoutError else .io e))
    | (none, t) => ({ c with conn := t }, t.setReadDeadline.map .io)

theorem waitPeek_conn (c : Conn) : ∃ t, (waitPeek c).1 = { c with conn := t } := by
  unfold waitPeek
  split
  · exact ⟨c.conn, rfl⟩
  · split <;> exact ⟨_, rfl⟩

/-- The rest of a turn of `WaitForNotification`, after `rxMsg`: the message goes to
`processContextFreeMsg`, then a queued notification is handed out, or the next turn starts. -/
def waitTurn (_ : Unit) (c : Conn) (t : UInt8) :
    Conn × Turn Unit (Option Notification × Option Error) :=
  match c.processContextFreeMsg t with
  | (c, some e) => (c, .exit (none, some e))
  | (c, none) =>
    match c.notifications with
    | n :: ns => ({ c with notifications := ns }, .exit (some n, none))
    | [] =>
      match waitPeek c with
      | (c, some e) => (c, .exit (none, some e))
      | (c, none) => (c, .next ())

/-- A turn of `WaitForNotification` hands out a queued notification, or changes only the socket. -/
theorem waitTurn_cases {c c' : Conn} {t : UInt8} {x : Turn Unit (Option Notification × Option Error)}
    (h : waitTurn () c t = (c', x)) :
    (∃ n ns, (c.processContextFreeMsg t).1.notifications = n :: ns ∧
      c' = { (c.processContextFreeMsg t).1 with notifications := ns } ∧ x = .exit (some n, none)) ∨
    (∃ tr, c' = { (c.processContextFreeMsg t).1 with conn := tr }) ∧ ∀ r, x = .exit r → r.1 = none := by
  unfold waitTurn at h
  split at h
  · rename_i c₁ _ hp
    rw [hp]
    cases h
    exact .inr ⟨⟨_, rfl⟩, fun r hr => by cases hr; rfl⟩
  · rename_i c₁ hp
    rw [hp]
    split at h
    · cases h
      exact .inl ⟨_, _, by assumption, rfl, rfl⟩
    · obtain ⟨tr, htr⟩ := waitPeek_conn c₁
      split at h <;> rename_i heq <;> rw [heq] at htr <;> cases h
      · exact .inr ⟨⟨tr, htr⟩, fun r hr => by cases hr; rfl⟩
      · exact .inr ⟨⟨tr, htr⟩, fun r hr => by cases hr⟩

def waitForNotification (c : Conn) (inbox : List Inbound) :
    (Option Notification × Option Error) × Conn × List Inbound :=
  match c.notifications with
  | n :: ns => ((some n, none), { c with notifications := ns }, inbox)
  | [] =>
    match waitPeek c with
    | (c, some e) => ((none, some e), c, inbox)
    | (c, none) => recv waitTurn (fun _ e => (none, some e)) () c inbox

end Conn

end Pgx

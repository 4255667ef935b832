import Pgx.Session.Dead
import Pgx.Protocol.Drain

namespace Pgx

open Backend

/-- One response: messages other than ReadyForQuery, then the ReadyForQuery with the transaction
status. -/
structure Response where
  msgs : List (UInt8 × Bytes)
  status : UInt8
  noReady : ∀ m ∈ msgs, m.1 ≠ readyForQuery

/-- Responses one after another on the stream. -/
def responses (rs : List Response) : List Inbound :=
  rs.flatMap fun r => frames r.msgs ++ [readyForQueryMsg r.status]

theorem responses_cons (r : Response) (rs : List Response) :
    responses (r :: rs) = frames r.msgs ++ readyForQueryMsg r.status :: responses rs := by
  simp [responses]

/-- The status the last of `rs` reports, or `s` if there is none. -/
def lastStatus (s : UInt8) (rs : List Response) : UInt8 := rs.foldl (fun _ r => r.status) s

/-- The calls that send one request and read its response through the ReadyForQuery. -/
def Op.answered : Op → Bool
  | .exec .. | .prepare .. | .deallocate _ | .listen _ => true
  | _ => false

namespace Conn

theorem rxErrorResponse_conn (c : Conn) (h : c.rxErrorResponse.2.alive = true) :
    c.rxErrorResponse.2.conn = c.conn := by
  revert h
  unfold rxErrorResponse
  split
  split_ifs
  · simp
  · exact fun _ => rfl

theorem processContextFreeMsg_conn (c : Conn) (t : UInt8)
    (h : (c.processContextFreeMsg t).1.alive = true) : (c.processContextFreeMsg t).1.conn = c.conn := by
  unfold processContextFreeMsg at h ⊢
  split_ifs at h ⊢
  all_goals first | rfl | exact rxErrorResponse_conn c h

theorem execTurn_conn (st : CommandTag × Option Error) (c : Conn) (t : UInt8)
    (h : (execTurn st c t).1.alive = true) : (execTurn st c t).1.conn = c.conn := by
  unfold execTurn at h ⊢
  split_ifs at h ⊢
  all_goals first | rfl | exact processContextFreeMsg_conn c t h

theorem prepareTurn_conn (name : Bytes) (st : PreparedStatement × Option Error) (c : Conn)
    (t : UInt8) (h : (prepareTurn name st c t).1.alive = true) :
    (prepareTurn name st c t).1.conn = c.conn := by
  unfold prepareTurn at h ⊢
  split_ifs at h ⊢
  · rfl
  · split <;> rename_i heq
    · rfl
    · obtain ⟨r, rfl⟩ := rxParameterDescription_ok heq
      rfl
  · split <;> rename_i heq
    · rfl
    · obtain ⟨r, rfl⟩ := rxRowDescription_ok heq
      rfl
  · rfl
  · rfl
  · exact processContextFreeMsg_conn c t h

/-- A receive loop whose turns keep the socket of a connection they leave alive keeps it too. -/
theorem recv_conn {σ ρ : Type} (body : σ → Conn → UInt8 → Conn × Turn σ ρ) (fail : σ → Error → ρ)
    (turn : ∀ s c t, (body s c t).1.alive = true → (body s c t).1.conn = c.conn) (s : σ) (c : Conn)
    (inbox : List Inbound) (h : (recv body fail s c inbox).2.1.alive = true) :
    (recv body fail s c inbox).2.1.conn = c.conn := by
  obtain ⟨_, -, hR⟩ := recv_rel body fail
    (fun c c' _ => c'.alive = true → c'.conn = c.conn ∧ c.alive = true)
    (fun h₁ h₂ ha => by
      obtain ⟨e₂, a₂⟩ := h₂ ha
      obtain ⟨e₁, a₁⟩ := h₁ a₂
      exact ⟨e₂.trans e₁, a₁⟩)
    (fun h ha => by
      rcases refuse_some h with ⟨-, rfl⟩ | ⟨-, rfl⟩
      · exact ⟨rfl, ha⟩
      · simp at ha)
    (fun _ _ ha => by simp at ha) (fun _ ha => by simp at ha)
    (fun s t b hr ha => ⟨turn s _ t ha, refuse_none_alive hr⟩) s c inbox
  exact (hR h).1

/-- A receive loop over an empty stream leaves the connection dead. -/
theorem recv_nil_dead {σ ρ : Type} (body : σ → Conn → UInt8 → Conn × Turn σ ρ)
    (fail : σ → Error → ρ) (s : σ) (c : Conn) : (recv body fail s c []).2.1.alive = false := by
  rcases h : c.refuse with _ | ⟨e, c'⟩
  · rw [recv_nil body fail h]
    rfl
  · rw [recv_refuse body fail h]
    exact refuse_dead h

/-- A request is sent whole or not at all, when the socket takes every write. -/
theorem sendQuery_cases (lib : Lib) (c : Conn) (sql : Bytes) (args : List Arg)
    (hopen : c.conn.closed = false) (hfaults : c.conn.writeFaults = []) :
    (∃ e, sendQuery lib c sql args = (some e, c)) ∨ ∃ buf, sendQuery lib c sql args =
      (none, { c with conn := { c.conn with writes := c.conn.writes ++ [buf] } }) := by
  unfold sendQuery sendPreparedQuery sendSimpleQuery
  split
  · split_ifs
    · exact .inl ⟨_, rfl⟩
    · split
      · exact .inl ⟨_, rfl⟩
      · exact .inr ⟨_, write_ok hopen hfaults _⟩
  · split
    · exact .inl ⟨_, rfl⟩
    · exact .inr ⟨_, write_ok hopen hfaults _⟩

end Conn

section Answered

variable (lib : Lib) {c : Conn} (hopen : c.conn.closed = false) (hfaults : c.conn.writeFaults = [])
include hopen hfaults

/-- What one answered call leaves when the connection is still alive: the socket as it was, and
either nothing written and nothing read, or one request written and exactly one response read. -/
def AnsweredBy (c c' : Conn) (rs : List Response) (inbox' : List Inbound) : Prop :=
  c'.conn.closed = c.conn.closed ∧ c'.conn.writeFaults = c.conn.writeFaults ∧
    ∃ k ≤ rs.length, c'.conn.writes.length = c.conn.writes.length + k ∧
      inbox' = responses (rs.drop k) ∧ c'.txStatus = lastStatus c.txStatus (rs.take k)

omit hopen hfaults in
theorem AnsweredBy.refl (c : Conn) (rs : List Response) : AnsweredBy c c rs (responses rs) :=
  ⟨rfl, rfl, 0, Nat.zero_le _, rfl, rfl, rfl⟩

theorem exec_answered (sql : Bytes) (args : List Arg) (rs : List Response)
    (halive : (Conn.exec lib c sql args (responses rs)).2.1.alive = true) :
    AnsweredBy c (Conn.exec lib c sql args (responses rs)).2.1 rs
      (Conn.exec lib c sql args (responses rs)).2.2 := by
  rcases Conn.sendQuery_cases lib c sql args hopen hfaults with ⟨e, hs⟩ | ⟨buf, hs⟩
  · simp only [Conn.exec, hs]
    exact AnsweredBy.refl c rs
  · have hconn := Conn.recv_conn _ _ Conn.execTurn_conn _ _ _ (by simpa only [Conn.exec, hs] using halive)
    simp only [Conn.exec, hs] at halive hconn ⊢
    cases rs with
    | nil => simp [responses, Conn.recv_nil_dead] at halive
    | cons r rs =>
      obtain ⟨hrest, hstatus⟩ := Conn.exec_reads_through_ready lib c sql args (by rw [hs]) r.msgs
        r.noReady r.status (responses rs) (by simpa only [Conn.exec, hs, responses_cons] using halive)
      simp only [Conn.exec, hs, responses_cons] at hrest hstatus hconn ⊢
      refine ⟨by rw [hconn], by rw [hconn], 1, by simp, by rw [hconn]; simp, by simpa using hrest, ?_⟩
      simpa [lastStatus] using hstatus

theorem prepare_answered (name sql : Bytes) (rs : List Response)
    (hok : (Conn.prepare c name sql (responses rs)).1.isOk = true)
    (halive : (Conn.prepare c name sql (responses rs)).2.1.alive = true) :
    AnsweredBy c (Conn.prepare c name sql (responses rs)).2.1 rs
      (Conn.prepare c name sql (responses rs)).2.2 := by
  have hw := Conn.write_ok hopen hfaults (Conn.prepareBuf name sql)
  have hconn := Conn.recv_conn _ _ (Conn.prepareTurn_conn name) _ _ _
    (by simpa only [Conn.prepare, hw] using halive)
  simp only [Conn.prepare, hw] at hok halive hconn ⊢
  cases rs with
  | nil => simp [responses, Conn.recv_nil_dead] at halive
  | cons r rs =>
    obtain ⟨hrest, hstatus⟩ := Conn.prepare_reads_through_ready c name sql (by rw [hw]) r.msgs
      r.noReady r.status (responses rs) (by simpa only [Conn.prepare, hw, responses_cons] using halive)
      (by simpa only [Conn.prepare, hw, responses_cons] using hok)
    simp only [Conn.prepare, hw, responses_cons] at hrest hstatus hconn ⊢
    refine ⟨by rw [hconn], by rw [hconn], 1, by simp, by rw [hconn]; simp, by simpa using hrest, ?_⟩
    simpa [lastStatus] using hstatus

omit hopen hfaults in
theorem AnsweredBy.of_pair {α : Type} {a a' : α} {rs : List Response} {c' : Conn}
    {inbox' : List Inbound} {p : Conn × List Inbound} (e : (a, p) = (a', c', inbox'))
    (hp : p.1.alive = true → AnsweredBy c p.1 rs p.2) (halive : c'.alive = true) :
    AnsweredBy c c' rs inbox' := by
  cases e
  exact hp halive

/-- An answered call that leaves the connection alive is answered by the responses. -/
theorem Op.step_answered {op : Op} (hop : op.answered = true) {rs : List Response}
    {handed : List Notification} {c' : Conn} {inbox' : List Inbound}
    (h : op.step lib c (responses rs) = .ok (handed, c', inbox')) (halive : c'.alive = true) :
    AnsweredBy c c' rs inbox' := by
  cases op with
  | exec sql args =>
    exact AnsweredBy.of_pair (Except.ok.inj h) (exec_answered lib hopen hfaults sql args rs) halive
  | prepare name sql =>
    obtain ⟨_, hr, he⟩ := Except.map_eq_ok h
    exact AnsweredBy.of_pair he.symm (prepare_answered hopen hfaults name sql rs (by rw [hr]; rfl))
      halive
  | deallocate name =>
    exact AnsweredBy.of_pair (Except.ok.inj h)
      (exec_answered lib (c := { c with
        preparedStatements := Function.update c.preparedStatements name none }) hopen hfaults _ [] rs)
      halive
  | listen channel =>
    exact AnsweredBy.of_pair (Except.ok.inj h) (exec_answered lib hopen hfaults _ [] rs) halive
  | _ => cases hop

end Answered

theorem lastStatus_append (s : UInt8) (rs rs' : List Response) :
    lastStatus s (rs ++ rs') = lastStatus (lastStatus s rs) rs' :=
  List.foldl_append _ _ _ _

/-- Answered calls compose: a run of them that leaves the connection alive is answered by the
responses. -/
theorem Op.run_answered (lib : Lib) (ops : List Op) (hops : ∀ op ∈ ops, op.answered = true) :
    ∀ c rs, c.conn.closed = false → c.conn.writeFaults = [] → ∀ handed c' inbox',
      Op.run lib ops c (responses rs) = .ok (handed, c', inbox') → c'.alive = true →
      AnsweredBy c c' rs inbox' := by
  induction ops with
  | nil =>
    intro c rs _ _ handed c' inbox' h _
    obtain ⟨rfl, rfl⟩ := Except.ok_conn h.symm
    exact AnsweredBy.refl c rs
  | cons op ops ih =>
    intro c rs hopen hfaults handed c' inbox' h halive
    obtain ⟨⟨h₁, c₁, i₁⟩, hs, h⟩ := Except.bind_eq_ok h
    obtain ⟨⟨h₂, c₂, i₂⟩, hr, h⟩ := Except.bind_eq_ok h
    obtain ⟨rfl, rfl⟩ := Except.ok_conn h.symm
    have halive₁ : c₁.alive = true := by
      cases hd : c₁.alive
      · simp [StaysDead.alive_false (StaysDead.run lib ops c₁ i₁ _ _ _ hr) hd] at halive
      · rfl
    obtain ⟨hclosed₁, hfaults₁, k₁, hk₁, hw₁, rfl, hs₁⟩ :=
      Op.step_answered lib hopen hfaults (hops op (List.mem_cons_self op ops)) hs halive₁
    obtain ⟨hclosed₂, hfaults₂, k₂, hk₂, hw₂, rfl, hs₂⟩ :=
      ih (fun op' h' => hops op' (List.mem_cons_of_mem op h')) c₁ (rs.drop k₁)
        (hclosed₁.trans hopen) (hfaults₁.trans hfaults) _ _ _ hr halive
    rw [List.length_drop] at hk₂
    refine ⟨hclosed₂.trans hclosed₁, hfaults₂.trans hfaults₁, k₁ + k₂, by omega, by omega,
      by rw [List.drop_drop], ?_⟩
    rw [hs₂, hs₁, List.take_add, lastStatus_append]

/-- A run of `Exec`, `Prepare`, `Deallocate` and `Listen` over a stream of responses that leaves the
connection alive reads one response per request written, in order, with the last one's status. -/
theorem answered_in_order (lib : Lib) (ops : List Op) (c : Conn) (rs : List Response)
    (hops : ∀ op ∈ ops, op.answered = true) (hopen : c.conn.closed = false)
    (hfaults : c.conn.writeFaults = []) :
    ∀ handed c' inbox', Op.run lib ops c (responses rs) = .ok (handed, c', inbox') →
      c'.alive = true → ∃ k ≤ rs.length, c'.conn.writes.length = c.conn.writes.length + k ∧
        inbox' = responses (rs.drop k) ∧ c'.txStatus = lastStatus c.txStatus (rs.take k) := by
  intro handed c' inbox' h halive
  exact (Op.run_answered lib ops hops c rs hopen hfaults _ _ _ h halive).2.2

/-- Four requests over five responses, the last request's Exec rejected by the server. -/
theorem four_requests_four_responses :
    let c : Conn := { conn := {}, config := {}, alive := true }
    let ops := [Op.prepare (ascii "s1") (ascii "select 1"), .exec (ascii "s1") [],
      .listen (ascii "jobs"), .deallocate (ascii "s1")]
    let e : PgError := ⟨ascii "ERROR", ascii "26000", ascii "prepared statement does not exist"⟩
    let rs : List Response :=
      [⟨[(parseComplete, []), (parameterDescription, be16 0), (noData, [])], 73, by decide⟩,
       ⟨[(bindComplete, []), (commandComplete, cstring (ascii "SELECT 0"))], 73, by decide⟩,
       ⟨[(noticeResponse, []), (commandComplete, cstring (ascii "LISTEN"))], 73, by decide⟩,
       ⟨[(errorResponse, fieldsBody (pgErrorFields e))], 69, by decide⟩,
       ⟨[(commandComplete, cstring (ascii "SELECT 1"))], 73, by decide⟩]
    ((∀ op ∈ ops, op.answered = true) ∧ c.conn.closed = false ∧ c.conn.writeFaults = []) ∧
    (Op.run exampleLib ops c (responses rs)).map (fun r => (r.2.1.alive, r.2.1.conn.writes.length,
      r.2.2, r.2.1.txStatus)) = .ok (true, 4, responses (rs.drop 4), 69) ∧
    ∀ handed c' inbox', Op.run exampleLib ops c (responses rs) = .ok (handed, c', inbox') →
      c'.alive = true → ∃ k ≤ rs.length, c'.conn.writes.length = c.conn.writes.length + k ∧
        inbox' = responses (rs.drop k) ∧ c'.txStatus = lastStatus c.txStatus (rs.take k) :=
  ⟨⟨by decide, rfl, rfl⟩, rfl, answered_in_order exampleLib _ _ _ (by decide) rfl rfl⟩

end Pgx

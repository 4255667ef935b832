import Pgx.Session.Async

namespace Pgx

/-- From `c` to `c'` over `consumed`: if `c` was dead, `c'` is dead of the same cause, and nothing
was consumed. -/
def StaysDead (c c' : Conn) (consumed : List Inbound) : Prop :=
  c.alive = false → c'.alive = false ∧ c'.causeOfDeath = c.causeOfDeath ∧ consumed = []

namespace StaysDead

/-- What a live connection does asks nothing of a dead one. -/
theorem of_alive {c c' : Conn} {l : List Inbound} (h : c.alive = true) : StaysDead c c' l :=
  fun hd => absurd (h.symm.trans hd) Bool.noConfusion

theorem of_same {c c' : Conn} (inbox : List Inbound) (ha : c'.alive = c.alive)
    (hc : c'.causeOfDeath = c.causeOfDeath) : Reaches StaysDead c inbox c' inbox :=
  ⟨[], rfl, fun hd => ⟨ha.trans hd, hc, rfl⟩⟩

end StaysDead

/-- Staying dead obeys the laws of the cursor's calls. -/
theorem staysDead_laws : CursorLaws StaysDead where
  refl _ hd := ⟨hd, rfl, rfl⟩
  trans h₁ h₂ hd := by
    obtain ⟨a₁, c₁, rfl⟩ := h₁ hd
    obtain ⟨a₂, c₂, rfl⟩ := h₂ a₁
    exact ⟨a₂, c₂.trans c₁, rfl⟩
  untouched h hd := ⟨h.2.2.2.2.2.2.1.trans hd, h.2.2.2.2.2.2.2, rfl⟩
  close c hd := by
    rw [QueryResult.close_eq]
    exact ⟨hd, rfl, rfl⟩
  die _ _ h := .of_alive h
  fail _ _ h := .of_alive h
  skip _ _ _ h _ _ := .of_alive h
  context _ _ _ h := .of_alive h

namespace StaysDead

theorem socket (c : Conn) (tr : Transport) (qr : QueryResult) :
    StaysDead c { c with conn := tr, qr := qr } [] :=
  fun hd => ⟨hd, rfl, rfl⟩

section Calls

variable (lib : Lib) (c : Conn) (inbox : List Inbound)

theorem exec (sql : Bytes) (args : List Arg) :
    Reaches StaysDead c inbox (Conn.exec lib c sql args inbox).2.1
      (Conn.exec lib c sql args inbox).2.2 :=
  staysDead_laws.exec_rel socket lib c inbox (fun _ _ _ _ h => of_alive h) sql args

theorem prepare (name sql : Bytes) :
    Reaches StaysDead c inbox (Conn.prepare c name sql inbox).2.1
      (Conn.prepare c name sql inbox).2.2 :=
  staysDead_laws.prepare_rel socket c inbox (fun _ _ _ _ h => of_alive h) sql

theorem query (sql : Bytes) (args : List Arg) :
    Reaches StaysDead c inbox (Conn.query lib c sql args inbox).2.1
      (Conn.query lib c sql args inbox).2.2 :=
  staysDead_laws.query_rel socket lib c inbox (fun _ _ _ h => of_alive h) sql args

theorem waitForNotification :
    Reaches StaysDead c inbox (c.waitForNotification inbox).2.1 (c.waitForNotification inbox).2.2 :=
  staysDead_laws.waitForNotification_rel socket c inbox (fun _ _ hd => ⟨hd, rfl, rfl⟩)
    (fun _ _ _ h => of_alive h)

theorem close : Reaches StaysDead c inbox c.close.2 inbox := by
  unfold Conn.close
  split_ifs with h
  · exact ⟨[], rfl, of_alive h⟩
  · exact of_same inbox rfl rfl

end Calls

theorem alive_false {c c' : Conn} {inbox inbox' : List Inbound}
    (h : Reaches StaysDead c inbox c' inbox') (hd : c.alive = false) : c'.alive = false := by
  obtain ⟨_, -, h⟩ := h
  exact (h hd).1

/-- Every call that does not panic leaves a dead connection dead of the same cause, having read
nothing. -/
theorem step (lib : Lib) {op : Op} {c c' : Conn} {inbox inbox' : List Inbound}
    {handed : List Notification} (h : op.step lib c inbox = .ok (handed, c', inbox')) :
    Reaches StaysDead c inbox c' inbox' := by
  cases op with
  | exec sql args => exact Reaches.of_pair (Except.ok.inj h) (exec lib c inbox sql args)
  | prepare name sql =>
    obtain ⟨_, -, he⟩ := Except.map_eq_ok h
    exact Reaches.of_pair he.symm (prepare c inbox name sql)
  | deallocate name =>
    exact Reaches.of_pair (Except.ok.inj h)
      (staysDead_laws.reaches_trans (of_same inbox rfl rfl) (exec lib _ inbox _ []))
  | listen channel => exact Reaches.of_pair (Except.ok.inj h) (exec lib c inbox _ [])
  | query sql args | queryRow sql args =>
    obtain ⟨_, -, he⟩ := Except.map_eq_ok h
    exact Reaches.of_pair he.symm (query lib c inbox sql args)
  | rowScan dests =>
    obtain ⟨⟨_, c₂, inbox₂⟩, h₂, he⟩ := Except.map_eq_ok h
    exact Reaches.of_pair he.symm (staysDead_laws.calls.rowScan_rel h₂)
  | cursor op =>
    obtain ⟨⟨c₂, inbox₂⟩, h₂, he⟩ := Except.map_eq_ok h
    exact Reaches.of_pair he.symm (staysDead_laws.calls.step_rel h₂)
  | waitForNotification => exact Reaches.of_pair (Except.ok.inj h) (waitForNotification c inbox)
  | close => exact Reaches.of_pair (Except.ok.inj h) (close c inbox)

theorem run (lib : Lib) (ops : List Op) (c : Conn) (inbox : List Inbound) :
    ∀ handed c' inbox', Op.run lib ops c inbox = .ok (handed, c', inbox') →
      Reaches StaysDead c inbox c' inbox' := by
  induction ops generalizing c inbox with
  | nil =>
    intro handed c' inbox' h
    obtain ⟨rfl, rfl⟩ := Except.ok_conn h.symm
    exact of_same inbox rfl rfl
  | cons op ops ih =>
    intro handed c' inbox' h
    obtain ⟨⟨h₁, c₁, i₁⟩, hs, h⟩ := Except.bind_eq_ok h
    obtain ⟨⟨h₂, c₂, i₂⟩, hr, h⟩ := Except.bind_eq_ok h
    obtain ⟨rfl, rfl⟩ := Except.ok_conn h.symm
    exact staysDead_laws.reaches_trans (step lib hs) (ih c₁ i₁ _ _ _ hr)

end StaysDead

/-- Once dead, a connection reads nothing through any run of calls, keeps its cause of death and
parameters, and hands out only the notifications already queued, oldest first. -/
theorem dead_run_inert (lib : Lib) (ops : List Op) (c : Conn) (inbox : List Inbound)
    (hdead : c.alive = false) :
    ∀ handed c' inbox', Op.run lib ops c inbox = .ok (handed, c', inbox') →
      inbox' = inbox ∧ c'.alive = false ∧ c'.causeOfDeath = c.causeOfDeath ∧
        c'.runtimeParams = c.runtimeParams ∧ handed ++ c'.notifications = c.notifications := by
  intro handed c' inbox' h
  obtain ⟨l, hl, hd⟩ := StaysDead.run lib ops c inbox _ _ _ h
  obtain ⟨ha, hc, rfl⟩ := hd hdead
  obtain ⟨l', hl', ht⟩ := Op.run_tracks lib ops c inbox _ _ _ h
  obtain rfl : l' = [] := List.append_left_eq_self.1 (hl'.symm.trans hl)
  exact ⟨hl.symm, ha, hc, ht.1, by simpa [notificationsIn] using ht.2⟩

open Backend in
/-- A connection dead at the end of its stream with one notification queued, then six calls. -/
theorem dead_connection_reads_nothing :
    let n : Notification := ⟨7, ascii "jobs", ascii "42"⟩
    let c : Conn :=
      ({ conn := {}, config := {}, alive := true, notifications := [n] } : Conn).die (.io .eof)
    let ops := [Op.exec (ascii "select 1") [], .waitForNotification, .waitForNotification,
      .query (ascii "select n from t") [], .cursor .nextRow, .close]
    let inbox := [readyForQueryMsg 73]
    c.alive = false ∧
    (Op.run exampleLib ops c inbox).map (fun r => (r.1, r.2.1.causeOfDeath, r.2.2)) =
      .ok ([n], some (.io .eof), inbox) ∧
    ∀ handed c' inbox', Op.run exampleLib ops c inbox = .ok (handed, c', inbox') →
      inbox' = inbox ∧ c'.alive = false ∧ c'.causeOfDeath = c.causeOfDeath ∧
        c'.runtimeParams = c.runtimeParams ∧ handed ++ c'.notifications = c.notifications :=
  ⟨rfl, rfl, dead_run_inert exampleLib _ _ _ rfl⟩

end Pgx

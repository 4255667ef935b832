import Pgx.Protocol.Loop
import Pgx.Session.Ops

namespace Pgx

theorem Except.ok_conn {α : Type} {a a' : α} {c c' : Conn} {i i' : List Inbound}
    (h : (Except.ok (a, c, i) : Except Panic _) = .ok (a', c', i')) : c' = c ∧ i' = i := by
  cases h
  exact ⟨rfl, rfl⟩

/-- `c'` agrees with `c` on the cursor's state, on what the server reports asynchronously, on the
statement cache, and on whether and of what the connection died. -/
def Untouched (c c' : Conn) : Prop :=
  c'.qr.closed = c.qr.closed ∧ c'.qr.pool = c.qr.pool ∧ c'.released = c.released ∧
    c'.runtimeParams = c.runtimeParams ∧ c'.notifications = c.notifications ∧
    c'.preparedStatements = c.preparedStatements ∧ c'.alive = c.alive ∧
    c'.causeOfDeath = c.causeOfDeath

/-- The laws a relation `Rel c c' consumed` must obey to hold across cursor calls. -/
structure CursorLaws (Rel : Conn → Conn → List Inbound → Prop) : Prop where
  refl : ∀ c, Rel c c []
  trans : ∀ {c₁ c₂ c₃ l₁ l₂}, Rel c₁ c₂ l₁ → Rel c₂ c₃ l₂ → Rel c₁ c₃ (l₁ ++ l₂)
  untouched : ∀ {c c'}, Untouched c c' → Rel c c' []
  close : ∀ c, Rel c (QueryResult.close c) []
  die : ∀ c e, c.alive = true → Rel c (c.die e) []
  fail : ∀ c e, c.alive = true → Rel c (c.die (.io e)) [.fail e]
  skip : ∀ c t b, c.alive = true → t ≠ 83 → t ≠ notificationResponse → Rel c c [.frame t b]
  context : ∀ c t b, c.alive = true →
    Rel c ({ c with mr := ⟨b, none⟩ }.processContextFreeMsg t).1 [.frame t b]

namespace CursorLaws

variable {Rel : Conn → Conn → List Inbound → Prop} (L : CursorLaws Rel)
include L

/-- A frame that is not ParameterStatus or NotificationResponse, after which the connection
changes only in the reader and the cursor's other fields. -/
theorem frame {c c' : Conn} {t : UInt8} (b : Bytes) (halive : c.alive = true)
    (ht : t ≠ 83 ∧ t ≠ notificationResponse) (h : Untouched c c') : Rel c c' [.frame t b] :=
  L.trans (L.skip c t b halive ht.1 ht.2) (L.untouched h)

theorem drainTurn_rel (c : Conn) (t : UInt8) (b : Bytes) (halive : c.alive = true) :
    Rel c (QueryResult.drainTurn () { c with mr := ⟨b, none⟩ } t).1 [.frame t b] := by
  unfold QueryResult.drainTurn
  split_ifs with h₁ h₂
  · exact L.frame b halive (by subst h₁; decide) ⟨rfl, rfl, rfl, rfl, rfl, rfl, rfl, rfl⟩
  · exact L.frame b halive (by rcases h₂ with rfl | rfl | rfl | rfl <;> decide)
      ⟨rfl, rfl, rfl, rfl, rfl, rfl, rfl, rfl⟩
  · split <;> rename_i h <;> exact (congrArg Prod.fst h) ▸ L.context c t b halive

theorem nextRowTurn_rel (c : Conn) (t : UInt8) (b : Bytes) (halive : c.alive = true) :
    Rel c (QueryResult.nextRowTurn () { c with mr := ⟨b, none⟩ } t).1 [.frame t b] := by
  unfold QueryResult.nextRowTurn
  dsimp only
  split_ifs with h₁ h₂ h₃ h₄
  · exact L.frame b halive (by subst h₁; decide) ⟨rfl, rfl, rfl, rfl, rfl, rfl, rfl, rfl⟩
  · exact L.frame b halive (by subst h₂; decide) ⟨rfl, rfl, rfl, rfl, rfl, rfl, rfl, rfl⟩
  · exact L.frame b halive (by subst h₂; decide) ⟨rfl, rfl, rfl, rfl, rfl, rfl, rfl, rfl⟩
  · exact L.frame b halive (by rcases h₄ with rfl | rfl <;> decide) ⟨rfl, rfl, rfl, rfl, rfl, rfl, rfl, rfl⟩
  · split <;> rename_i h <;> exact (congrArg Prod.fst h) ▸ L.context c t b halive

/-- A receive loop whose every turn obeys the laws obeys them, over the frames it consumed. -/
theorem recv_rel {σ ρ : Type} (body : σ → Conn → UInt8 → Conn × Conn.Turn σ ρ)
    (fail : σ → Error → ρ)
    (turn : ∀ s c t b, c.alive = true → Rel c (body s { c with mr := ⟨b, none⟩ } t).1 [.frame t b])
    (s : σ) (c : Conn) (inbox : List Inbound) :
    ∃ l, inbox = l ++ (Conn.recv body fail s c inbox).2.2 ∧
      Rel c (Conn.recv body fail s c inbox).2.1 l :=
  Conn.recv_rel body fail Rel L.trans
    (fun h => by
      rcases Conn.refuse_some h with ⟨-, rfl⟩ | ⟨halive, rfl⟩
      · exact L.refl _
      · exact L.die _ _ halive)
    (fun e h => L.fail _ e (Conn.refuse_none_alive h)) (fun h => L.die _ _ (Conn.refuse_none_alive h))
    (fun s t b h => turn s _ t b (Conn.refuse_none_alive h)) s c inbox

end CursorLaws

/-- `c` with `inbox` left becomes `c'` with `inbox'` left, over frames that `Rel` relates. -/
def Reaches (Rel : Conn → Conn → List Inbound → Prop) (c : Conn) (inbox : List Inbound)
    (c' : Conn) (inbox' : List Inbound) : Prop :=
  ∃ l, inbox = l ++ inbox' ∧ Rel c c' l

/-- A call that returned a value beside where it left the connection. -/
theorem Reaches.of_pair {Rel : Conn → Conn → List Inbound → Prop} {α : Type} {a a' : α}
    {c c' : Conn} {inbox inbox' : List Inbound} {p : Conn × List Inbound}
    (e : (a, p) = (a', c', inbox')) (hp : Reaches Rel c inbox p.1 p.2) :
    Reaches Rel c inbox c' inbox' := by
  cases e
  exact hp

/-- The laws a relation `R c inbox c' inbox'` between a call's start and its end must obey to hold
across cursor calls. -/
structure CallLaws (R : Conn → List Inbound → Conn → List Inbound → Prop) : Prop where
  refl : ∀ c inbox, R c inbox c inbox
  trans : ∀ {c₁ i₁ c₂ i₂ c₃ i₃}, R c₁ i₁ c₂ i₂ → R c₂ i₂ c₃ i₃ → R c₁ i₁ c₃ i₃
  untouched : ∀ {c c'} inbox, Untouched c c' → c'.txStatus = c.txStatus → c'.conn = c.conn →
    R c inbox c' inbox
  Close : ∀ c inbox, R c inbox (QueryResult.Close c inbox).1 (QueryResult.Close c inbox).2
  nextRow : ∀ c inbox, R c inbox (QueryResult.nextRow c inbox).2.1 (QueryResult.nextRow c inbox).2.2

namespace CursorLaws

variable {Rel : Conn → Conn → List Inbound → Prop} (L : CursorLaws Rel)
include L

theorem reaches_refl (c : Conn) (inbox : List Inbound) : Reaches Rel c inbox c inbox :=
  ⟨[], rfl, L.refl c⟩

theorem reaches_untouched {c c' : Conn} (inbox : List Inbound) (h : Untouched c c') :
    Reaches Rel c inbox c' inbox :=
  ⟨[], rfl, L.untouched h⟩

theorem reaches_trans {c₁ c₂ c₃ : Conn} {i₁ i₂ i₃ : List Inbound} (h₁ : Reaches Rel c₁ i₁ c₂ i₂)
    (h₂ : Reaches Rel c₂ i₂ c₃ i₃) : Reaches Rel c₁ i₁ c₃ i₃ := by
  obtain ⟨l₁, rfl, r₁⟩ := h₁
  obtain ⟨l₂, rfl, r₂⟩ := h₂
  exact ⟨l₁ ++ l₂, (List.append_assoc _ _ _).symm, L.trans r₁ r₂⟩

theorem reaches_close (c : Conn) (inbox : List Inbound) :
    Reaches Rel c inbox (QueryResult.close c) inbox :=
  ⟨[], rfl, L.close c⟩

open QueryResult

section Calls

variable {c : Conn} {inbox : List Inbound}

theorem readUntilReadyForQuery_rel :
    Reaches Rel c inbox (readUntilReadyForQuery c inbox).1 (readUntilReadyForQuery c inbox).2 :=
  L.reaches_trans (L.recv_rel drainTurn _ (fun _ => L.drainTurn_rel) () c inbox)
    (L.reaches_close _ _)

theorem Close_rel : Reaches Rel c inbox (Close c inbox).1 (Close c inbox).2 := by
  unfold Close
  split
  · exact L.reaches_refl c inbox
  · exact L.reaches_trans L.readUntilReadyForQuery_rel (L.reaches_close _ _)

theorem nextRow_rel : Reaches Rel c inbox (nextRow c inbox).2.1 (nextRow c inbox).2.2 := by
  unfold nextRow
  split
  · exact L.reaches_refl c inbox
  · dsimp only
    have h₀ := L.reaches_trans (L.reaches_untouched inbox (show Untouched c
        { c with qr := { c.qr with rowCount := c.qr.rowCount + 1, columnIdx := 0 } } from
        ⟨rfl, rfl, rfl, rfl, rfl, rfl, rfl, rfl⟩))
      (L.recv_rel nextRowTurn (fun _ e => RowExit.fatal e) (fun _ => L.nextRowTurn_rel) () _ inbox)
    generalize Conn.recv nextRowTurn _ () _ inbox = r at h₀ ⊢
    rcases r with ⟨_ | _ | e, c₂, inbox₂⟩
    · exact L.reaches_trans h₀ (L.reaches_close _ _)
    · exact L.reaches_trans h₀ (L.reaches_untouched _ (show Untouched c₂
        { c₂ with qr := { c₂.qr with mr := true } } from ⟨rfl, rfl, rfl, rfl, rfl, rfl, rfl, rfl⟩))
    · exact L.reaches_trans h₀ (L.reaches_trans (L.reaches_untouched inbox₂ (show Untouched c₂
        { c₂ with qr := { c₂.qr with err := some e } } from ⟨rfl, rfl, rfl, rfl, rfl, rfl, rfl, rfl⟩))
        L.Close_rel)

end Calls

/-- A relation that obeys the laws frame by frame obeys them call by call. -/
theorem calls : CallLaws (Reaches Rel) :=
  ⟨L.reaches_refl, L.reaches_trans, fun inbox h _ _ => L.reaches_untouched inbox h,
    fun _ _ => L.Close_rel, fun _ _ => L.nextRow_rel⟩

end CursorLaws

namespace CallLaws

theorem of_ok {R : Conn → List Inbound → Conn → List Inbound → Prop} {c : Conn}
    {inbox : List Inbound} {p : Conn × List Inbound} {c' inbox'}
    (h : (Except.ok p : Except Panic _) = .ok (c', inbox')) (hp : R c inbox p.1 p.2) :
    R c inbox c' inbox' := by
  cases h
  exact hp

variable {R : Conn → List Inbound → Conn → List Inbound → Prop} (L : CallLaws R)
include L

open QueryResult

section Calls

variable {lib : Lib} {c : Conn} {inbox : List Inbound}

theorem fatal_rel (e : Error) : R c inbox (fatal c e inbox).1 (fatal c e inbox).2 :=
  L.trans (L.untouched inbox (show Untouched c { c with qr := { c.qr with err := some e } } from
    ⟨rfl, rfl, rfl, rfl, rfl, rfl, rfl, rfl⟩) rfl rfl) (L.Close _ _)

theorem nextColumn_rel {col c' inbox'} (h : nextColumn c inbox = .ok (col, c', inbox')) :
    R c inbox c' inbox' := by
  unfold nextColumn at h
  by_cases hc : c.qr.closed = true
  · rw [if_pos hc] at h
    obtain ⟨rfl, rfl⟩ := Except.ok_conn h
    exact L.refl _ _
  · rw [if_neg hc] at h
    rcases hf : c.qr.fields[c.qr.columnIdx]? with _ | fd <;> simp only [hf] at h
    · obtain ⟨rfl, rfl⟩ := Except.ok_conn h
      exact L.fatal_rel _
    · split at h
      · obtain ⟨rfl, rfl⟩ := Except.ok_conn h
        exact L.untouched _ ⟨rfl, rfl, rfl, rfl, rfl, rfl, rfl, rfl⟩ rfl rfl
      · cases h

theorem decode_rel {dec fd size v c' inbox'}
    (h : decode dec fd size c inbox = .ok (v, c', inbox')) : R c inbox c' inbox' := by
  unfold decode at h
  split at h
  · cases h
  · rename_i fd
    have hk : Untouched c { c with mr := (c.mr.next (dec fd size c.mr).2.1).2 } :=
      ⟨rfl, rfl, rfl, rfl, rfl, rfl, rfl, rfl⟩
    rcases he : (dec fd size c.mr).2.2 with _ | e <;> simp only [he] at h <;>
      obtain ⟨rfl, rfl⟩ := Except.ok_conn h
    · exact L.untouched _ hk rfl rfl
    · exact L.trans (L.untouched _ hk rfl rfl) (L.fatal_rel e)

theorem scanDest_rel {d fd size r c' inbox'} (h : scanDest lib d fd size c inbox = .ok (r, c', inbox')) :
    R c inbox c' inbox' := by
  have stored : ∀ {dec}, ((decode dec fd size c inbox).map
      fun r => ((.ok (.value r.1) : Except Error Stored), r.2)) = .ok (r, c', inbox') →
      R c inbox c' inbox' := fun h => by
    obtain ⟨⟨v, c₁, inbox₁⟩, hd, he⟩ := Except.map_eq_ok h
    cases he
    exact L.decode_rel hd
  cases d
  case time =>
    simp only [scanDest] at h
    split at h
    · cases h
    · split_ifs at h
      · exact stored h
      · exact stored h
  case scanner s =>
    have hk : Untouched c { c with mr := (c.mr.next (s.scan fd size c.mr.body).1).2 } :=
      ⟨rfl, rfl, rfl, rfl, rfl, rfl, rfl, rfl⟩
    simp only [scanDest] at h
    rcases hf : (s.scan fd size c.mr.body).2.1 with _ | e₁ <;>
      rcases he : (s.scan fd size c.mr.body).2.2 with _ | e₂ <;> simp only [hf, he] at h <;>
      obtain ⟨rfl, rfl⟩ := Except.ok_conn h
    · exact L.untouched _ hk rfl rfl
    · exact L.untouched _ hk rfl rfl
    · exact L.trans (L.untouched _ hk rfl rfl) (L.fatal_rel e₁)
    · exact L.trans (L.untouched _ hk rfl rfl) (L.fatal_rel e₁)
  case other =>
    obtain ⟨rfl, rfl⟩ := Except.ok_conn h
    exact L.refl _ _
  all_goals exact stored h

theorem scanLoop_rel {dests : List Dest} {x c' inbox'}
    (h : scanLoop lib dests c inbox = .ok (x, c', inbox')) : R c inbox c' inbox' := by
  induction dests generalizing c inbox x inbox' with
  | nil =>
    obtain ⟨rfl, rfl⟩ := Except.ok_conn h
    exact L.refl _ _
  | cons d ds ih =>
    obtain ⟨⟨col, c₁, inbox₁⟩, h₁, h⟩ := Except.bind_eq_ok h
    obtain ⟨⟨r, c₂, inbox₂⟩, h₂, h⟩ := Except.bind_eq_ok h
    have hr₂ := L.trans (L.nextColumn_rel h₁) (L.scanDest_rel h₂)
    rcases r with e | v
    · obtain ⟨rfl, rfl⟩ := Except.ok_conn h
      exact hr₂
    · obtain ⟨⟨_, c₃, inbox₃⟩, h₃, h⟩ := Except.bind_eq_ok h
      obtain ⟨rfl, rfl⟩ := Except.ok_conn h
      exact L.trans hr₂ (ih h₃)

theorem scan_rel {dests : List Dest} {x c' inbox'} (h : scan lib dests c inbox = .ok (x, c', inbox')) :
    R c inbox c' inbox' := by
  unfold scan at h
  split at h
  · obtain ⟨rfl, rfl⟩ := Except.ok_conn h
    exact L.fatal_rel _
  · exact L.scanLoop_rel h

theorem readValue_rel {x c' inbox'} (h : readValue lib c inbox = .ok (x, c', inbox')) :
    R c inbox c' inbox' := by
  obtain ⟨⟨col, c₁, inbox₁⟩, h₁, h⟩ := Except.bind_eq_ok h
  have hr₁ := L.nextColumn_rel h₁
  dsimp only at h
  split at h
  · obtain ⟨rfl, rfl⟩ := Except.ok_conn h
    exact hr₁
  · cases h
  · rename_i fd size _
    have decoded : ∀ {dec}, ((decode dec (some fd) size c₁ inbox₁).map
        fun r => ((some r.1, r.2.1.qr.err), r.2)) = .ok (x, c', inbox') →
        R c inbox c' inbox' := fun h => by
      obtain ⟨⟨v, c₂, inbox₂⟩, hd, he⟩ := Except.map_eq_ok h
      cases he
      exact L.trans hr₁ (L.decode_rel hd)
    iterate 10
      rcases ite_eq_ok h with h | h
      · exact decoded h
    rcases ite_eq_ok h with h | h
    · obtain ⟨rfl, rfl⟩ := Except.ok_conn h
      exact L.trans hr₁ (L.untouched _ ⟨rfl, rfl, rfl, rfl, rfl, rfl, rfl, rfl⟩ rfl rfl)
    · obtain ⟨rfl, rfl⟩ := Except.ok_conn h
      exact hr₁

/-- `Row.Scan`: `NextRow`, then `Scan` and `Close` if there is a row. -/
theorem rowScan_rel {dests : List Dest} {x c' inbox'}
    (h : Row.scan lib dests c inbox = .ok (x, c', inbox')) :
    R c inbox c' inbox' := by
  unfold Row.scan at h
  split at h
  · obtain ⟨rfl, rfl⟩ := Except.ok_conn h
    exact L.refl _ _
  · have h₀ : R c inbox (QueryResult.nextRow c inbox).2.1 (QueryResult.nextRow c inbox).2.2 :=
      L.nextRow c inbox
    split at h <;> rename_i heq <;> rw [heq] at h₀
    · obtain ⟨rfl, rfl⟩ := Except.ok_conn h
      exact h₀
    · obtain ⟨⟨_, c₂, inbox₂⟩, h₂, h⟩ := Except.bind_eq_ok h
      dsimp only at h
      obtain ⟨rfl, rfl⟩ := Except.ok_conn h
      exact L.trans h₀ (L.trans (L.scan_rel h₂) (L.Close _ _))

end Calls

/-- Every cursor call that does not panic obeys the laws. -/
theorem step_rel {lib : Lib} {op : CursorOp} {c c' : Conn} {inbox inbox' : List Inbound}
    (h : op.step lib c inbox = .ok (c', inbox')) : R c inbox c' inbox' := by
  cases op with
  | nextRow => exact of_ok h (L.nextRow c inbox)
  | scan dests =>
    obtain ⟨⟨x, c₂, inbox₂⟩, h₂, he⟩ := Except.map_eq_ok h
    cases he
    exact L.scan_rel h₂
  | readValue =>
    obtain ⟨⟨x, c₂, inbox₂⟩, h₂, he⟩ := Except.map_eq_ok h
    cases he
    exact L.readValue_rel h₂
  | fatal e => exact of_ok h (L.fatal_rel e)
  | close => exact of_ok h (L.Close c inbox)

/-- Every run of cursor calls that does not panic obeys the laws. -/
theorem run_rel (lib : Lib) (ops : List CursorOp) (c : Conn) (inbox : List Inbound) :
    ∀ c' inbox', CursorOp.run lib ops c inbox = .ok (c', inbox') → R c inbox c' inbox' := by
  induction ops generalizing c inbox with
  | nil =>
    intro c' inbox' h
    obtain ⟨rfl, rfl⟩ : c = c' ∧ inbox = inbox' := by cases h; exact ⟨rfl, rfl⟩
    exact L.refl c inbox
  | cons op ops ih =>
    intro c' inbox' h
    obtain ⟨⟨c₁, inbox₁⟩, h₁, h⟩ := Except.bind_eq_ok h
    exact L.trans (L.step_rel h₁) (ih c₁ inbox₁ c' inbox' h)

end CallLaws

namespace CursorLaws

variable {Rel : Conn → Conn → List Inbound → Prop} (L : CursorLaws Rel)
include L

/-- Every run of cursor calls that does not panic obeys the laws. -/
theorem run_rel (lib : Lib) (ops : List CursorOp) (c : Conn) (inbox : List Inbound) :
    ∀ c' inbox', CursorOp.run lib ops c inbox = .ok (c', inbox') → Reaches Rel c inbox c' inbox' :=
  L.calls.run_rel lib ops c inbox

section ConnCalls

variable (hframe : ∀ c tr qr, Rel c { c with conn := tr, qr := qr } []) (lib : Lib) (c : Conn)
  (inbox : List Inbound)
include hframe

theorem exec_rel (hturn : ∀ st c t b, c.alive = true →
      Rel c (Conn.execTurn st { c with mr := ⟨b, none⟩ } t).1 [.frame t b])
    (sql : Bytes) (args : List Arg) :
    Reaches Rel c inbox (Conn.exec lib c sql args inbox).2.1 (Conn.exec lib c sql args inbox).2.2 := by
  obtain ⟨tr, ht⟩ := Conn.sendQuery_conn lib c sql args
  unfold Conn.exec
  rcases hs : Conn.sendQuery lib c sql args with ⟨_ | e, c₁⟩ <;> rw [hs] at ht <;>
    dsimp only at ht ⊢ <;> subst ht
  · exact L.reaches_trans ⟨[], rfl, hframe c tr c.qr⟩ (L.recv_rel _ _ hturn _ _ inbox)
  · exact ⟨[], rfl, hframe c tr c.qr⟩

omit lib in
theorem prepare_rel {name : Bytes} (hturn : ∀ st c t b, c.alive = true →
      Rel c (Conn.prepareTurn name st { c with mr := ⟨b, none⟩ } t).1 [.frame t b])
    (sql : Bytes) :
    Reaches Rel c inbox (Conn.prepare c name sql inbox).2.1 (Conn.prepare c name sql inbox).2.2 := by
  unfold Conn.prepare
  rcases hw : c.write (Conn.prepareBuf name sql) with ⟨_ | e, c₁⟩
  all_goals obtain rfl : c₁ = { c with conn := _ } := (congrArg Prod.snd hw).symm
  · exact L.reaches_trans ⟨[], rfl, hframe c _ c.qr⟩ (L.recv_rel _ _ hturn _ _ inbox)
  · exact ⟨[], rfl, hframe c _ c.qr⟩

theorem query_rel (hturn : ∀ c t b, c.alive = true →
      Rel c (Conn.queryTurn () { c with mr := ⟨b, none⟩ } t).1 [.frame t b])
    (sql : Bytes) (args : List Arg) :
    Reaches Rel c inbox (Conn.query lib c sql args inbox).2.1 (Conn.query lib c sql args inbox).2.2 := by
  unfold Conn.query
  dsimp only
  split
  · rename_i ps _
    obtain ⟨tr, ht⟩ := Conn.sendPreparedQuery_conn lib
      { c with qr := { fields := ps.fieldDescriptions } } ps args
    split <;> rename_i heq <;> rw [heq] at ht <;> dsimp only at ht <;> subst ht <;>
      exact ⟨[], rfl, hframe c tr _⟩
  · obtain ⟨tr, ht⟩ := Conn.sendSimpleQuery_conn lib { c with qr := {} } sql args
    split <;> rename_i heq <;> rw [heq] at ht <;> dsimp only at ht <;> subst ht
    · exact ⟨[], rfl, hframe c tr _⟩
    · have h₀ := L.reaches_trans ⟨[], rfl, hframe c tr {}⟩
        (L.recv_rel Conn.queryTurn (fun _ e => .ok (some e)) (fun _ => hturn) () _ inbox)
      split <;> rename_i heq'
      · rw [heq'] at h₀
        exact L.reaches_trans h₀ ⟨[], rfl, hframe _ _ _⟩
      · exact h₀

omit lib in
theorem waitForNotification_rel (hpop : ∀ c ns, Rel c { c with notifications := ns } [])
    (hturn : ∀ c t b, c.alive = true →
      Rel c (Conn.waitTurn () { c with mr := ⟨b, none⟩ } t).1 [.frame t b]) :
    Reaches Rel c inbox (c.waitForNotification inbox).2.1 (c.waitForNotification inbox).2.2 := by
  unfold Conn.waitForNotification
  split
  · exact ⟨[], rfl, hpop c _⟩
  · obtain ⟨tr, htr⟩ := Conn.waitPeek_conn c
    split <;> rename_i heq <;> rw [heq] at htr <;> dsimp only at htr <;> subst htr
    · exact ⟨[], rfl, hframe c tr c.qr⟩
    · exact L.reaches_trans ⟨[], rfl, hframe c tr c.qr⟩
        (L.recv_rel _ _ (fun _ => hturn) () _ inbox)

end ConnCalls

end CursorLaws

end Pgx

import Pgx.Session.Laws
import Pgx.Protocol.Backend

namespace Pgx

/-- The name whose statement a call stores or deletes. -/
def Op.statementName : Op → Option Bytes
  | .prepare name _ => some name
  | .deallocate name => some name
  | _ => none

/-- The cache holds at `k` what it held before. -/
def CacheKept (k : Bytes) (c c' : Conn) (_ : List Inbound) : Prop :=
  c'.preparedStatements k = c.preparedStatements k

theorem processContextFreeMsg_preparedStatements (c : Conn) (t : UInt8) :
    (c.processContextFreeMsg t).1.preparedStatements = c.preparedStatements := by
  obtain ⟨-, -, -, -, hc, -⟩ := c.rxErrorResponse_frame
  unfold Conn.processContextFreeMsg
  split_ifs
  · rfl
  · exact hc
  all_goals rfl

/-- Keeping the cache at a name obeys the laws of the cursor's calls. -/
theorem cacheKept_laws (k : Bytes) : CursorLaws (CacheKept k) where
  refl _ := rfl
  trans h₁ h₂ := h₂.trans h₁
  untouched h := congrFun h.2.2.2.2.2.1 k
  close c := by
    rw [QueryResult.close_eq]
    rfl
  die _ _ _ := rfl
  fail _ _ _ := rfl
  skip _ _ _ _ _ _ := rfl
  context c t _ _ := congrFun (processContextFreeMsg_preparedStatements _ t) k

namespace CacheKept

variable {k : Bytes}

theorem reaches_of_eq {c c' : Conn} (inbox : List Inbound)
    (h : c'.preparedStatements = c.preparedStatements) : Reaches (CacheKept k) c inbox c' inbox :=
  ⟨[], rfl, congrFun h k⟩

theorem kept {c c' : Conn} {inbox inbox' : List Inbound} (h : Reaches (CacheKept k) c inbox c' inbox') :
    c'.preparedStatements k = c.preparedStatements k := by
  obtain ⟨_, -, h⟩ := h
  exact h

theorem contextKept (c : Conn) (t : UInt8) (b : Bytes) :
    CacheKept k c ({ c with mr := ⟨b, none⟩ }.processContextFreeMsg t).1 [.frame t b] :=
  congrFun (processContextFreeMsg_preparedStatements _ t) k

section Turns

variable (c : Conn) (t : UInt8) (b : Bytes)

theorem execTurn (st : CommandTag × Option Error) :
    CacheKept k c (Conn.execTurn st { c with mr := ⟨b, none⟩ } t).1 [.frame t b] := by
  unfold Conn.execTurn
  split_ifs
  · rfl
  · rfl
  · rfl
  · exact contextKept c t b

/-- `Prepare`'s loop keeps the cache at every name but its own. -/
theorem prepareTurn {name : Bytes} (hk : name ≠ k) (st : PreparedStatement × Option Error) :
    CacheKept k c (Conn.prepareTurn name st { c with mr := ⟨b, none⟩ } t).1 [.frame t b] := by
  unfold Conn.prepareTurn
  split_ifs
  · rfl
  · split <;> rename_i heq
    · rfl
    · obtain ⟨r, rfl⟩ := Conn.rxParameterDescription_ok heq
      rfl
  · split <;> rename_i heq
    · rfl
    · obtain ⟨r, rfl⟩ := Conn.rxRowDescription_ok heq
      rfl
  · rfl
  · exact Function.update_noteq hk.symm _ _
  · exact contextKept c t b

theorem queryTurn :
    CacheKept k c (Conn.queryTurn () { c with mr := ⟨b, none⟩ } t).1 [.frame t b] := by
  unfold Conn.queryTurn
  split_ifs
  · split <;> rename_i heq
    · rfl
    · obtain ⟨r, rfl⟩ := Conn.rxRowDescription_ok heq
      rfl
  · split <;> rename_i heq <;> exact (congrArg Prod.fst heq) ▸ contextKept c t b

theorem waitTurn :
    CacheKept k c (Conn.waitTurn () { c with mr := ⟨b, none⟩ } t).1 [.frame t b] := by
  rcases Conn.waitTurn_cases (Prod.mk.eta (p := Conn.waitTurn () { c with mr := ⟨b, none⟩ } t))
    with ⟨_, _, -, h, -⟩ | ⟨⟨tr, h⟩, -⟩ <;>
  exact (congrArg (fun c' : Conn => c'.preparedStatements k) h).trans (contextKept c t b)

end Turns

section Calls

variable (lib : Lib) (c : Conn) (inbox : List Inbound)

theorem exec (sql : Bytes) (args : List Arg) :
    Reaches (CacheKept k) c inbox (Conn.exec lib c sql args inbox).2.1
      (Conn.exec lib c sql args inbox).2.2 :=
  (cacheKept_laws k).exec_rel (fun _ _ _ => rfl) lib c inbox (fun st c t b _ => execTurn c t b st)
    sql args

theorem prepare {name : Bytes} (sql : Bytes) (hk : name ≠ k) :
    Reaches (CacheKept k) c inbox (Conn.prepare c name sql inbox).2.1
      (Conn.prepare c name sql inbox).2.2 :=
  (cacheKept_laws k).prepare_rel (fun _ _ _ => rfl) c inbox (fun st c t b _ => prepareTurn c t b hk st)
    sql

theorem query (sql : Bytes) (args : List Arg) :
    Reaches (CacheKept k) c inbox (Conn.query lib c sql args inbox).2.1
      (Conn.query lib c sql args inbox).2.2 :=
  (cacheKept_laws k).query_rel (fun _ _ _ => rfl) lib c inbox (fun c t b _ => queryTurn c t b) sql args

theorem waitForNotification :
    Reaches (CacheKept k) c inbox (c.waitForNotification inbox).2.1
      (c.waitForNotification inbox).2.2 :=
  (cacheKept_laws k).waitForNotification_rel (fun _ _ _ => rfl) c inbox (fun _ _ => rfl)
    (fun c t b _ => waitTurn c t b)

end Calls

/-- A call that names no statement, or another name than `k`, keeps the cache at `k`. -/
theorem step (lib : Lib) {op : Op} {c c' : Conn} {inbox inbox' : List Inbound}
    {handed : List Notification} (hk : op.statementName ≠ some k)
    (h : op.step lib c inbox = .ok (handed, c', inbox')) : Reaches (CacheKept k) c inbox c' inbox' := by
  cases op with
  | exec sql args => exact Reaches.of_pair (Except.ok.inj h) (exec lib c inbox sql args)
  | prepare name sql =>
    obtain ⟨_, -, he⟩ := Except.map_eq_ok h
    exact Reaches.of_pair he.symm (prepare c inbox sql fun h => hk (congrArg some h))
  | deallocate name =>
    have hdel : Reaches (CacheKept k) c inbox
        { c with preparedStatements := Function.update c.preparedStatements name none } inbox :=
      ⟨[], rfl, Function.update_noteq (fun h => hk (congrArg some h.symm)) _ _⟩
    exact Reaches.of_pair (Except.ok.inj h)
      ((cacheKept_laws k).reaches_trans hdel (exec lib _ inbox _ []))
  | listen channel => exact Reaches.of_pair (Except.ok.inj h) (exec lib c inbox _ [])
  | query sql args | queryRow sql args =>
    obtain ⟨_, -, he⟩ := Except.map_eq_ok h
    exact Reaches.of_pair he.symm (query lib c inbox sql args)
  | rowScan dests =>
    obtain ⟨⟨_, c₂, inbox₂⟩, h₂, he⟩ := Except.map_eq_ok h
    exact Reaches.of_pair he.symm ((cacheKept_laws k).calls.rowScan_rel h₂)
  | cursor op =>
    obtain ⟨⟨c₂, inbox₂⟩, h₂, he⟩ := Except.map_eq_ok h
    exact Reaches.of_pair he.symm ((cacheKept_laws k).calls.step_rel h₂)
  | waitForNotification => exact Reaches.of_pair (Except.ok.inj h) (waitForNotification c inbox)
  | close =>
    refine Reaches.of_pair (Except.ok.inj h) ?_
    unfold Conn.close
    split_ifs <;> exact reaches_of_eq inbox rfl

/-- A run of calls none of which names `k` keeps the cache at `k`. -/
theorem run (lib : Lib) (ops : List Op) (hk : ∀ op ∈ ops, op.statementName ≠ some k) (c : Conn)
    (inbox : List Inbound) :
    ∀ handed c' inbox', Op.run lib ops c inbox = .ok (handed, c', inbox') →
      Reaches (CacheKept k) c inbox c' inbox' := by
  induction ops generalizing c inbox with
  | nil =>
    intro handed c' inbox' h
    obtain ⟨rfl, rfl⟩ := Except.ok_conn h.symm
    exact reaches_of_eq inbox rfl
  | cons op ops ih =>
    intro handed c' inbox' h
    obtain ⟨⟨h₁, c₁, i₁⟩, hs, h⟩ := Except.bind_eq_ok h
    obtain ⟨⟨h₂, c₂, i₂⟩, hr, h⟩ := Except.bind_eq_ok h
    obtain ⟨rfl, rfl⟩ := Except.ok_conn h.symm
    exact (cacheKept_laws k).reaches_trans (step lib (hk op (List.mem_cons_self op ops)) hs)
      (ih (fun op' h' => hk op' (List.mem_cons_of_mem op h')) c₁ i₁ _ _ _ hr)

end CacheKept

/-- A run of `pre` then `post` is a run of `pre`, then one of `post` from where it stopped. -/
theorem Op.run_append_ok (lib : Lib) (pre post : List Op) (c : Conn) (inbox : List Inbound)
    {handed : List Notification} {c' : Conn} {inbox' : List Inbound}
    (h : Op.run lib (pre ++ post) c inbox = .ok (handed, c', inbox')) :
    ∃ h₁ c₁ i₁ h₂, Op.run lib pre c inbox = .ok (h₁, c₁, i₁) ∧
      Op.run lib post c₁ i₁ = .ok (h₂, c', inbox') := by
  induction pre generalizing c inbox handed with
  | nil => exact ⟨[], c, inbox, handed, rfl, h⟩
  | cons op pre ih =>
    obtain ⟨⟨h₁, c₁, i₁⟩, hs, h⟩ := Except.bind_eq_ok h
    obtain ⟨⟨h₂, c₂, i₂⟩, hr, h⟩ := Except.bind_eq_ok h
    obtain ⟨rfl, rfl⟩ := Except.ok_conn h.symm
    obtain ⟨h₃, c₃, i₃, h₄, hpre, hpost⟩ := ih c₁ i₁ hr
    exact ⟨h₁ ++ h₃, c₃, i₃, h₄, by simp [Op.run, hs, hpre, bind, Except.bind], hpost⟩

/-- `Deallocate(k)` leaves no statement under `k`, whatever the server answers its Exec. -/
theorem Op.deallocate_removes (lib : Lib) {k : Bytes} {c c' : Conn} {inbox inbox' : List Inbound}
    {handed : List Notification} (h : (Op.deallocate k).step lib c inbox = .ok (handed, c', inbox')) :
    c'.preparedStatements k = none := by
  exact (CacheKept.kept (Reaches.of_pair (Except.ok.inj h)
    (CacheKept.exec lib { c with preparedStatements := Function.update c.preparedStatements k none }
      inbox (ascii "deallocate " ++ lib.quoteIdentifier k) [] (k := k)))).trans
    (Function.update_same _ _ _)

/-- Over any run of calls, the cache ends as it began at a name no `Prepare` or `Deallocate` names,
and empty at one whose last such call is `Deallocate`, whatever the server answered. -/
theorem run_statement_cache (lib : Lib) (ops : List Op) (c : Conn) (inbox : List Inbound)
    (k : Bytes) :
    ∀ handed c' inbox', Op.run lib ops c inbox = .ok (handed, c', inbox') →
      ((∀ op ∈ ops, op.statementName ≠ some k) → c'.preparedStatements k = c.preparedStatements k) ∧
      ∀ pre post, ops = pre ++ .deallocate k :: post → (∀ op ∈ post, op.statementName ≠ some k) →
        c'.preparedStatements k = none := by
  intro handed c' inbox' h
  refine ⟨fun hk => CacheKept.kept (CacheKept.run lib ops hk c inbox _ _ _ h),
    fun pre post hops hk => ?_⟩
  subst hops
  obtain ⟨-, c₁, i₁, h₁, -, hpost⟩ := Op.run_append_ok lib pre _ c inbox h
  obtain ⟨⟨h₂, c₂, i₂⟩, hs, h⟩ := Except.bind_eq_ok hpost
  obtain ⟨⟨h₃, c₃, i₃⟩, hr, h⟩ := Except.bind_eq_ok h
  obtain ⟨rfl, rfl⟩ := Except.ok_conn h.symm
  exact (CacheKept.kept (CacheKept.run lib post hk c₂ i₂ _ _ _ hr)).trans (Op.deallocate_removes lib hs)

open Backend in
/-- `Prepare("s1", ..)`, an `Exec`, then `Deallocate("s1")` whose Exec the server rejects. -/
theorem deallocate_rejected_still_removes :
    let fd : FieldDescription := ⟨ascii "n", 0, 1, int4Oid, 4, -1, binaryFormatCode⟩
    let c : Conn := { conn := {}, config := {}, alive := true }
    let e : PgError := ⟨ascii "ERROR", ascii "26000", ascii "prepared statement does not exist"⟩
    let ops := [Op.prepare (ascii "s1") (ascii "select n from t"), .exec (ascii "s1") [],
      .deallocate (ascii "s1")]
    let inbox := [parseCompleteMsg, parameterDescriptionMsg [], rowDescriptionMsg [fd],
      readyForQueryMsg 73, bindCompleteMsg, dataRowMsg [some (be32 1)],
      commandCompleteMsg (ascii "SELECT 1"), readyForQueryMsg 73, errorResponseMsg e,
      readyForQueryMsg 73]
    (Op.run exampleLib ops c inbox).map (fun r => (r.2.1.preparedStatements (ascii "s1"), r.2.2)) =
      .ok (none, []) ∧
    ∀ handed c' inbox', Op.run exampleLib ops c inbox = .ok (handed, c', inbox') →
      ((∀ op ∈ ops, op.statementName ≠ some (ascii "s1")) →
        c'.preparedStatements (ascii "s1") = c.preparedStatements (ascii "s1")) ∧
      ∀ pre post, ops = pre ++ .deallocate (ascii "s1") :: post →
        (∀ op ∈ post, op.statementName ≠ some (ascii "s1")) → c'.preparedStatements (ascii "s1") = none :=
  ⟨rfl, run_statement_cache exampleLib _ _ _ _⟩

end Pgx

import Pgx.Protocol.Loop
import Pgx.Protocol.Backend
import Pgx.Conn.Cursor

namespace Pgx

open Backend

/-- The frames of a list of messages. -/
def frames (msgs : List (UInt8 × Bytes)) : List Inbound := msgs.map fun m => .frame m.1 m.2

namespace Conn

section Drain

variable {σ ρ : Type} (body : σ → Conn → UInt8 → Conn × Turn σ ρ) (fail : σ → Error → ρ)

/-- A refused read leaves the connection dead. -/
theorem refuse_dead {c c' : Conn} {e : Error} (h : c.refuse = some (e, c')) : c'.alive = false := by
  rcases refuse_some h with ⟨hd, rfl⟩ | ⟨-, rfl⟩
  · exact hd
  · rfl

/-- A loop that leaves on ReadyForQuery, and on other frames only with a `Bad` result, reads a
response exactly through its ReadyForQuery whenever it ends alive with a result that is not `Bad`. -/
theorem recv_through_ready (Bad : ρ → Prop)
    (hready : ∀ s c, ∃ c' r, body s c readyForQuery = (c', .exit r) ∧ c'.txStatus = c.mr.readByte.1)
    (hother : ∀ s c t c' r, t ≠ readyForQuery → body s c t = (c', .exit r) → Bad r)
    (msgs : List (UInt8 × Bytes)) (hmsgs : ∀ m ∈ msgs, m.1 ≠ readyForQuery) (status : UInt8)
    (rest : List Inbound) (s : σ) (c : Conn) :
    let r := recv body fail s c (frames msgs ++ readyForQueryMsg status :: rest)
    r.2.1.alive = true → ¬ Bad r.1 → r.2.2 = rest ∧ r.2.1.txStatus = status := by
  intro r halive hgood
  induction msgs generalizing s c with
  | nil =>
    rcases h : c.refuse with _ | ⟨e, c'⟩
    · obtain ⟨c', r', hb, ht⟩ := hready s { c with mr := ⟨[status], none⟩ }
      simp only [r, frames, List.map_nil, List.nil_append, readyForQueryMsg, recv_frame body fail h,
        hb] at halive hgood ⊢
      exact ⟨trivial, by simpa [MsgReader.readByte, MsgReader.next] using ht⟩
    · simp only [r, recv_refuse body fail h, refuse_dead h] at halive
      cases halive
  | cons m msgs ih =>
    have hm := hmsgs m (List.mem_cons_self m msgs)
    have hrest : ∀ m ∈ msgs, m.1 ≠ readyForQuery := fun m' h' => hmsgs m' (List.mem_cons_of_mem m h')
    rcases h : c.refuse with _ | ⟨e, c'⟩
    · rcases hb : body s { c with mr := ⟨m.2, none⟩ } m.1 with ⟨c₁, s₁ | r'⟩
      · simp only [r, frames, List.map_cons, List.cons_append, recv_frame body fail h, hb]
          at halive hgood ⊢
        exact ih hrest s₁ c₁ halive hgood
      · simp only [r, frames, List.map_cons, List.cons_append, recv_frame body fail h, hb] at hgood
        exact absurd (hother _ _ _ _ _ hm hb) hgood
    · simp only [r, recv_refuse body fail h, refuse_dead h] at halive
      cases halive

end Drain

theorem execTurn_exit {st : CommandTag × Option Error} {c c' : Conn} {t : UInt8} {r}
    (h : execTurn st c t = (c', .exit r)) : t = readyForQuery := by
  unfold execTurn at h
  split_ifs at h with h₁ <;> first | exact h₁ | cases h

/-- `Exec` reads the response to a request it sent exactly through its ReadyForQuery and records its
status, whenever the connection is still alive afterwards. -/
theorem exec_reads_through_ready (lib : Lib) (c : Conn) (sql : Bytes) (args : List Arg)
    (hsend : (sendQuery lib c sql args).1 = none) (msgs : List (UInt8 × Bytes))
    (hmsgs : ∀ m ∈ msgs, m.1 ≠ readyForQuery) (status : UInt8) (rest : List Inbound) :
    let r := exec lib c sql args (frames msgs ++ readyForQueryMsg status :: rest)
    r.2.1.alive = true → r.2.2 = rest ∧ r.2.1.txStatus = status := by
  intro r halive
  rcases hq : sendQuery lib c sql args with ⟨_ | e, c₁⟩
  · simp only [r, exec, hq] at halive ⊢
    exact recv_through_ready execTurn _ (fun _ => False)
      (fun st c => ⟨c.rxReadyForQuery, st, by simp [execTurn], rxReadyForQuery_txStatus c⟩)
      (fun _ _ _ _ _ ht h => ht (execTurn_exit h)) msgs hmsgs status rest _ c₁ halive id
  · rw [hq] at hsend
    cases hsend

theorem prepareTurn_exit {name : Bytes} {st} {c c' : Conn} {t : UInt8} {r}
    (h : prepareTurn name st c t = (c', .exit r)) : t = readyForQuery ∨ r.isOk = false := by
  by_cases h₁ : t = parseComplete
  · subst h₁; cases h
  by_cases h₂ : t = parameterDescription
  · subst h₂
    rw [prepareTurn_parameterDescription] at h
    split at h <;> cases h
    exact .inr rfl
  by_cases h₃ : t = rowDescription
  · subst h₃
    rw [prepareTurn_rowDescription] at h
    split at h <;> cases h
    exact .inr rfl
  by_cases h₄ : t = noData
  · subst h₄; cases h
  by_cases h₅ : t = readyForQuery
  · exact .inl h₅
  · rw [prepareTurn_context name st c ⟨h₁, h₂, h₃, h₄, h₅⟩] at h
    cases h

/-- `Prepare` reads its response exactly through the ReadyForQuery, whenever it returns alive. -/
theorem prepare_reads_through_ready (c : Conn) (name sql : Bytes)
    (hsend : (c.write (prepareBuf name sql)).1 = none) (msgs : List (UInt8 × Bytes))
    (hmsgs : ∀ m ∈ msgs, m.1 ≠ readyForQuery) (status : UInt8) (rest : List Inbound) :
    let r := prepare c name sql (frames msgs ++ readyForQueryMsg status :: rest)
    r.2.1.alive = true → r.1.isOk = true → r.2.2 = rest ∧ r.2.1.txStatus = status := by
  intro r halive hok
  rcases hw : c.write (prepareBuf name sql) with ⟨_ | e, c₁⟩
  · simp only [r, prepare, hw] at halive hok ⊢
    refine recv_through_ready (prepareTurn name) _ (fun r => r.isOk = false)
      (fun st c => ⟨{ c.rxReadyForQuery with
          preparedStatements := Function.update c.preparedStatements name (some st.1) },
        .ok (some st.1, st.2), by simp [prepareTurn, readyForQuery, parseComplete,
          parameterDescription, rowDescription, noData], rxReadyForQuery_txStatus c⟩)
      (fun _ _ _ _ _ ht h => (prepareTurn_exit h).resolve_left ht) msgs hmsgs status rest _ c₁
      halive (by simp [hok])
  · rw [hw] at hsend
    cases hsend

/-- The simple query `Query` sends when its socket takes every write. -/
theorem sendSimpleQuery_ok (lib : Lib) (c : Conn) (sql : Bytes) (hopen : c.conn.closed = false)
    (hfaults : c.conn.writeFaults = []) :
    sendSimpleQuery lib c sql [] = (none, { c with conn :=
      { c.conn with writes := c.conn.writes ++ [((WriteBuf.newWriteBuf 81).writeCString sql).closeMsg.buf] } }) := by
  simp [sendSimpleQuery, write_ok hopen hfaults]

/-- `Query`'s prefetch loop returns at an ErrorResponse before any RowDescription with the cursor
closed, and leaves the ReadyForQuery unread by `NextRow`, `Close` and `Row.Scan`. -/
theorem query_error_leaves_ready (lib : Lib) (c : Conn) (sql : Bytes) (e : PgError)
    (status : UInt8) (rest : List Inbound) (halive : c.alive = true) (hmr : c.mr.err = none)
    (hopen : c.conn.closed = false) (hfaults : c.conn.writeFaults = [])
    (hps : c.preparedStatements sql = none) (he : e.WellFormed)
    (hs : e.severity ≠ ascii "FATAL") :
    let r := query lib c sql [] (errorResponseMsg e :: readyForQueryMsg status :: rest)
    r.1 = .ok (some (.pg e)) ∧ r.2.2 = readyForQueryMsg status :: rest ∧ r.2.1.alive = true ∧
      QueryResult.nextRow r.2.1 r.2.2 = (false, r.2.1, r.2.2) ∧
      QueryResult.Close r.2.1 r.2.2 = (r.2.1, r.2.2) ∧
      ∀ dests, Row.scan lib dests r.2.1 r.2.2 = .ok (([], some (.pg e)), r.2.1, r.2.2) := by
  have hne : (errorResponse = rowDescription) = False := by simp [errorResponse, rowDescription]
  simp (disch := simp [refuse, halive, hmr, hopen, hfaults]) only [query, hps,
    sendSimpleQuery_ok lib, errorResponseMsg, recv_frame, queryTurn, hne, if_false,
    processContextFreeMsg_error he hs]
  simp [QueryResult.nextRow, QueryResult.Close, Row.scan, halive]

/-- A simple query with a syntax error, answered by its ErrorResponse and ReadyForQuery. -/
theorem query_syntax_error_unread :
    let c : Conn := { conn := {}, config := {}, alive := true }
    let e : PgError := ⟨ascii "ERROR", ascii "42601", ascii "syntax error"⟩
    let r := query exampleLib c (ascii "selct 1") [] [errorResponseMsg e, readyForQueryMsg 73]
    (c.alive = true ∧ c.mr.err = none ∧ c.conn.closed = false ∧ c.conn.writeFaults = [] ∧
      c.preparedStatements (ascii "selct 1") = none ∧ e.WellFormed ∧ e.severity ≠ ascii "FATAL") ∧
    r.1 = .ok (some (.pg e)) ∧ r.2.2 = [readyForQueryMsg 73] ∧ r.2.1.alive = true ∧
      QueryResult.nextRow r.2.1 r.2.2 = (false, r.2.1, r.2.2) ∧
      QueryResult.Close r.2.1 r.2.2 = (r.2.1, r.2.2) ∧
      ∀ dests, Row.scan exampleLib dests r.2.1 r.2.2 = .ok (([], some (.pg e)), r.2.1, r.2.2) :=
  ⟨⟨rfl, rfl, rfl, rfl, rfl, by decide, by decide⟩,
    query_error_leaves_ready exampleLib _ _ _ 73 [] rfl rfl rfl rfl rfl (by decide) (by decide)⟩

/-- `Query`'s prefetch loop takes a CommandComplete before any RowDescription for an unknown message,
returns an error, and leaves the ReadyForQuery unread. -/
theorem query_command_complete_error (lib : Lib) (c : Conn) (sql tag : Bytes) (status : UInt8)
    (rest : List Inbound) (halive : c.alive = true) (hmr : c.mr.err = none)
    (hopen : c.conn.closed = false) (hfaults : c.conn.writeFaults = [])
    (hps : c.preparedStatements sql = none) :
    let r := query lib c sql [] (commandCompleteMsg tag :: readyForQueryMsg status :: rest)
    r.1 = .ok (some (.new (ascii "Received unknown message type: C"))) ∧ r.2.1.alive = true ∧
      r.2.2 = readyForQueryMsg status :: rest ∧
      QueryResult.nextRow r.2.1 r.2.2 = (false, r.2.1, r.2.2) := by
  have hne : (commandComplete = rowDescription) = False := by decide
  have hpcf : ∀ c' : Conn, c'.processContextFreeMsg commandComplete =
      (c', some (.new (ascii "Received unknown message type: C"))) := fun c' => by
    have h : commandComplete ≠ 83 ∧ commandComplete ≠ errorResponse ∧
        commandComplete ≠ noticeResponse ∧ commandComplete ≠ notificationResponse := by decide
    have ht : ascii "Received unknown message type: " ++ utf8Char commandComplete =
        ascii "Received unknown message type: C" := by decide
    simp only [processContextFreeMsg, if_neg h.1, if_neg h.2.1, if_neg h.2.2.1, if_neg h.2.2.2, ht]
  simp (disch := simp [refuse, halive, hmr, hopen, hfaults]) only [query, hps,
    sendSimpleQuery_ok lib, commandCompleteMsg, recv_frame, queryTurn, hne, if_false, hpcf]
  simp [QueryResult.nextRow, halive]

/-- `Query("insert into t values (1)")` answered by its CommandComplete and ReadyForQuery. -/
theorem query_insert_error :
    let c : Conn := { conn := {}, config := {}, alive := true }
    let r := query exampleLib c (ascii "insert into t values (1)") []
      [commandCompleteMsg (ascii "INSERT 0 1"), readyForQueryMsg 73]
    (c.alive = true ∧ c.mr.err = none ∧ c.conn.closed = false ∧ c.conn.writeFaults = [] ∧
      c.preparedStatements (ascii "insert into t values (1)") = none) ∧
    r.1 = .ok (some (.new (ascii "Received unknown message type: C"))) ∧ r.2.1.alive = true ∧
      r.2.2 = [readyForQueryMsg 73] ∧ QueryResult.nextRow r.2.1 r.2.2 = (false, r.2.1, r.2.2) :=
  ⟨⟨rfl, rfl, rfl, rfl, rfl⟩, query_command_complete_error exampleLib _ _ _ 73 [] rfl rfl rfl rfl rfl⟩

end Conn

end Pgx

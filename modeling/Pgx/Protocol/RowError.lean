import Pgx.Protocol.RowStream

namespace Pgx

open Backend

namespace QueryResult

section Failure

variable {fields : List (UInt8 × Bytes)} (he : MsgReader.WellFormedFields fields)
  (hfatal : (PgError.ofFields fields).severity ≠ ascii "FATAL") (status : UInt8) (rest : List Inbound)
include he hfatal

/-- `Close` over rows and an ErrorResponse stops at the error, leaving the ReadyForQuery unread. -/
theorem Close_rows_error {c : Conn} (rows : List (List (Option Bytes))) (halive : c.alive = true)
    (hmr : c.mr.err = none) (hopen : c.qr.closed = false) :
    Close c (rows.map dataRowMsg ++ errorFieldsMsg fields :: readyForQueryMsg status :: rest) =
      (close (close { c with mr := ⟨[], none⟩ }), readyForQueryMsg status :: rest) := by
  have hskip : ∀ m ∈ rows.map (fun cols => (dataRow, be16 (BitVec.ofNat 16 cols.length) ++
      cols.flatMap columnBody)), ∀ c : Conn,
      drainTurn () { c with mr := ⟨m.2, none⟩ } m.1 = ({ c with mr := ⟨m.2, none⟩ }, .next ()) := by
    intro m hm c
    obtain ⟨_, _, rfl⟩ := List.mem_map.1 hm
    simp [drainTurn, dataRow, readyForQuery]
  have hframes : rows.map dataRowMsg ++ errorFieldsMsg fields :: readyForQueryMsg status :: rest =
      frames (rows.map fun cols => (dataRow, be16 (BitVec.ofNat 16 cols.length) ++
        cols.flatMap columnBody)) ++
        .frame errorResponse (fieldsBody fields) :: readyForQueryMsg status :: rest := by
    simp [frames, dataRowMsg, errorFieldsMsg]
  have hne : errorResponse ≠ readyForQuery := by decide
  have hskipped : ¬(errorResponse = rowDescription ∨ errorResponse = dataRow ∨
      errorResponse = commandComplete ∨ errorResponse = bindComplete) := by decide
  simp only [Close, hopen, Bool.false_eq_true, if_false, readUntilReadyForQuery, hframes,
    Conn.recv_skip drainTurn _ () _ hskip halive hmr,
    Conn.recv_frame _ _ (Conn.refuse_eq_none halive hmr), drainTurn, if_neg hne, if_neg hskipped,
    Conn.processContextFreeMsg_errorFields (c := { c with mr := ⟨fieldsBody fields, none⟩ }) he
      hfatal rfl]

/-- `NextRow` on an ErrorResponse records it with `Fatal`, whose `Close` reads the ReadyForQuery. -/
theorem nextRow_error {c : Conn} (halive : c.alive = true) (hmr : c.mr.err = none)
    (hopen : c.qr.closed = false) :
    nextRow c (errorFieldsMsg fields :: readyForQueryMsg status :: rest) =
      (false, close (close { c with
        qr := { c.qr with rowCount := c.qr.rowCount + 1, columnIdx := 0,
                          err := some (.pg (PgError.ofFields fields)) }
        txStatus := status, mr := ⟨[], none⟩ }), rest) := by
  have h₁ : errorResponse ≠ readyForQuery := by decide
  have h₂ : errorResponse ≠ dataRow := by decide
  have h₃ : ¬(errorResponse = commandComplete ∨ errorResponse = bindComplete) := by decide
  have hopen' : ¬c.qr.closed = true := by simp [hopen]
  simp (disch := simp [Conn.refuse, halive, hmr]) only [nextRow, if_neg hopen', errorFieldsMsg,
    Conn.recv_frame, nextRowTurn, if_neg h₁, if_neg h₂, if_neg h₃,
    Conn.processContextFreeMsg_errorFields (c := { c with
      qr := { c.qr with rowCount := c.qr.rowCount + 1, columnIdx := 0 }
      mr := ⟨fieldsBody fields, none⟩ }) he hfatal rfl]
  simp (disch := simp [Conn.refuse, halive]) only [fatal, Close, if_neg hopen',
    readUntilReadyForQuery, readyForQueryMsg, Conn.recv_frame, drainTurn, if_true]
  simp [Conn.rxReadyForQuery_status]

/-- Over rows and an ErrorResponse: the cursor reports the error and has read the whole response if
the loop reached it, and otherwise reports none with the ReadyForQuery left. -/
theorem readRows_error (rows : List (List (Option Bytes))) (n : Nat) {c : Conn}
    (halive : c.alive = true) (hmr : c.mr.err = none) (hopen : c.qr.closed = false)
    (herr : c.qr.err = none) (hrows : ∀ cols ∈ rows, c.qr.fields.length = cols.length)
    (hsmall : c.qr.fields.length < 2 ^ 15) :
    let r := readRows n c (rows.map dataRowMsg ++ errorFieldsMsg fields :: readyForQueryMsg status :: rest)
    let d := Close r.2.1 r.2.2
    r.1 = (rows.take n).map (fun cols => cols.flatMap columnBody) ∧ d.1.qr.closed = true ∧
      d.1.alive = true ∧
      (rows.length < n → d.1.qr.err = some (.pg (PgError.ofFields fields)) ∧ d.1.txStatus = status ∧
        d.2 = rest) ∧
      (n ≤ rows.length → d.1.qr.err = none ∧ d.2 = readyForQueryMsg status :: rest) := by
  intro r d
  induction rows generalizing c n with
  | nil =>
    cases n with
    | zero =>
      simp only [d, r, readRows, Close_rows_error he hfatal status rest [] halive hmr hopen]
      simp [close_eq, halive, herr]
    | succ n =>
      simp only [d, r, List.map_nil, List.nil_append, readRows,
        nextRow_error he hfatal status rest halive hmr hopen, Close_close]
      simp [close_eq, halive]
  | cons cols rows ih =>
    cases n with
    | zero =>
      simp only [d, r, readRows, Close_rows_error he hfatal status rest _ halive hmr hopen]
      simp [close_eq, halive, herr]
    | succ n =>
      have hlen := hrows cols (List.mem_cons_self cols rows)
      simp only [d, r, List.map_cons, List.cons_append, readRows,
        nextRow_dataRow_eq cols _ halive hmr hopen hlen (hlen ▸ hsmall)]
      obtain ⟨h₁, h₂⟩ := ih n (c := { c with
          qr := { c.qr with rowCount := c.qr.rowCount + 1, columnIdx := 0, mr := true }
          mr := ⟨cols.flatMap columnBody, none⟩ })
        halive rfl hopen herr (fun cols' h' => hrows cols' (List.mem_cons_of_mem cols h')) hsmall
      refine ⟨by rw [h₁]; rfl, ?_⟩
      simpa only [List.length_cons, Nat.add_lt_add_iff_right, Nat.add_le_add_iff_right] using h₂

end Failure

end QueryResult

/-- A simple query that fails after some rows: past the last row the cursor reports the server's
error; closed before it, no error, and the ReadyForQuery stays for the next request. -/
theorem query_rows_then_error (lib : Lib) (c : Conn) (sql : Bytes) (fds : List FieldDescription)
    (rows : List (List (Option Bytes))) (fields : List (UInt8 × Bytes)) (status : UInt8)
    (rest : List Inbound)
    (n : Nat) (halive : c.alive = true) (hmr : c.mr.err = none) (hopen : c.conn.closed = false)
    (hfaults : c.conn.writeFaults = []) (hps : c.preparedStatements sql = none)
    (hnames : ∀ fd ∈ fds, NulFree fd.name) (hfds : fds.length < 2 ^ 15)
    (hrows : ∀ cols ∈ rows, cols.length = fds.length) (he : MsgReader.WellFormedFields fields)
    (hfatal : (PgError.ofFields fields).severity ≠ ascii "FATAL") :
    let q := Conn.query lib c sql [] (rowDescriptionMsg fds ::
      (rows.map dataRowMsg ++ errorFieldsMsg fields :: readyForQueryMsg status :: rest))
    let r := QueryResult.readRows n q.2.1 q.2.2
    let d := QueryResult.Close r.2.1 r.2.2
    q.1 = .ok none ∧ r.1 = (rows.take n).map (fun cols => cols.flatMap columnBody) ∧
      d.1.qr.closed = true ∧ d.1.alive = true ∧
      (rows.length < n → d.1.qr.err = some (.pg (PgError.ofFields fields)) ∧ d.1.txStatus = status ∧
        d.2 = rest) ∧
      (n ≤ rows.length → d.1.qr.err = none ∧ d.2 = readyForQueryMsg status :: rest) := by
  intro q r d
  have hq := Conn.query_rowDescription lib sql fds
    (rows.map dataRowMsg ++ errorFieldsMsg fields :: readyForQueryMsg status :: rest) halive hmr hopen
    hfaults hps hnames hfds
  simp only [d, r, q, hq]
  exact ⟨trivial, QueryResult.readRows_error he hfatal status rest rows n
    (c := { c with conn := _, qr := { fields := fds }, mr := ⟨[], none⟩ }) halive rfl rfl rfl
    (fun cols h => (hrows cols h).symm) hfds⟩

/-- A division by zero after two rows, the caller closing the cursor after one. -/
theorem query_error_after_rows_closed_early :
    let fd : FieldDescription := ⟨ascii "n", 0, 1, int4Oid, 4, -1, binaryFormatCode⟩
    let c : Conn := { conn := {}, config := {}, alive := true }
    let sql := ascii "select 10 / n from t"
    let rows : List (List (Option Bytes)) := [[some (be32 10)], [some (be32 5)]]
    let fields : List (UInt8 × Bytes) := [(83, ascii "ERROR"), (86, ascii "ERROR"), (67, ascii "22012"),
      (77, ascii "division by zero"), (70, ascii "int.c"), (76, ascii "841"), (82, ascii "int4div")]
    (c.alive = true ∧ c.mr.err = none ∧ c.conn.closed = false ∧ c.conn.writeFaults = [] ∧
      c.preparedStatements sql = none ∧ (∀ f ∈ [fd], NulFree f.name) ∧ [fd].length < 2 ^ 15 ∧
      (∀ cols ∈ rows, cols.length = [fd].length) ∧ MsgReader.WellFormedFields fields ∧
      (PgError.ofFields fields).severity ≠ ascii "FATAL") ∧
    let q := Conn.query exampleLib c sql [] (rowDescriptionMsg [fd] ::
      (rows.map dataRowMsg ++ errorFieldsMsg fields :: readyForQueryMsg 73 :: []))
    let r := QueryResult.readRows 1 q.2.1 q.2.2
    let d := QueryResult.Close r.2.1 r.2.2
    q.1 = .ok none ∧ r.1 = (rows.take 1).map (fun cols => cols.flatMap columnBody) ∧
      d.1.qr.closed = true ∧ d.1.alive = true ∧
      (rows.length < 1 → d.1.qr.err = some (.pg (PgError.ofFields fields)) ∧ d.1.txStatus = 73 ∧
        d.2 = []) ∧
      (1 ≤ rows.length → d.1.qr.err = none ∧ d.2 = [readyForQueryMsg 73]) :=
  ⟨⟨rfl, rfl, rfl, rfl, rfl, by decide, by decide, by decide, by decide, by decide⟩,
    query_rows_then_error exampleLib _ _ _ _ _ 73 [] 1 rfl rfl rfl rfl rfl (by decide) (by decide)
      (by decide) (by decide) (by decide)⟩

end Pgx

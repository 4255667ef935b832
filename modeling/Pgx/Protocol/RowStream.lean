import Pgx.Protocol.Rows
import Mathlib.Data.List.Forall2

namespace Pgx

open Backend

namespace Conn

section Skip

variable {σ ρ : Type} (body : σ → Conn → UInt8 → Conn × Turn σ ρ) (fail : σ → Error → ρ) (s : σ)

/-- A receive loop that goes round again on each of `msgs`, changing nothing, passes over them. -/
theorem recv_skip (msgs : List (UInt8 × Bytes))
    (hskip : ∀ m ∈ msgs, ∀ c : Conn,
      body s { c with mr := ⟨m.2, none⟩ } m.1 = ({ c with mr := ⟨m.2, none⟩ }, .next s))
    {c : Conn} (halive : c.alive = true) (hmr : c.mr.err = none) (t : UInt8) (b : Bytes)
    (rest : List Inbound) :
    recv body fail s c (frames msgs ++ .frame t b :: rest) = recv body fail s c (.frame t b :: rest) := by
  induction msgs generalizing c with
  | nil => rfl
  | cons m ms ih =>
    simp only [frames] at ih ⊢
    rw [List.map_cons, List.cons_append, recv_frame _ _ (refuse_eq_none halive hmr),
      hskip m (List.mem_cons_self m ms)]
    dsimp only
    rw [ih (fun m' hm' => hskip m' (List.mem_cons_of_mem m hm')) (c := { c with mr := ⟨m.2, none⟩ })
        halive rfl,
      recv_frame _ _ (refuse_eq_none (c := { c with mr := ⟨m.2, none⟩ }) halive rfl),
      recv_frame _ _ (refuse_eq_none halive hmr)]

end Skip

end Conn

namespace QueryResult

theorem rows_frames (rows : List (List (Option Bytes))) (tag : Bytes) (status : UInt8)
    (rest : List Inbound) :
    rows.map dataRowMsg ++ commandCompleteMsg tag :: readyForQueryMsg status :: rest =
      frames (rows.map (fun cols => (dataRow, be16 (BitVec.ofNat 16 cols.length) ++
        cols.flatMap columnBody)) ++ [(commandComplete, cstring tag)]) ++
        .frame readyForQuery [status] :: rest := by
  simp [frames, dataRowMsg, commandCompleteMsg, readyForQueryMsg]

/-- `Close` on an open cursor reads the rest of a response of rows and nothing after it. -/
theorem Close_rows {c : Conn} (rows : List (List (Option Bytes))) (tag : Bytes) (status : UInt8)
    (rest : List Inbound) (halive : c.alive = true) (hmr : c.mr.err = none)
    (hopen : c.qr.closed = false) :
    Close c (rows.map dataRowMsg ++ commandCompleteMsg tag :: readyForQueryMsg status :: rest) =
      (close (close { c with txStatus := status, mr := ⟨[], none⟩ }), rest) := by
  have hskip : ∀ m ∈ rows.map (fun cols => (dataRow, be16 (BitVec.ofNat 16 cols.length) ++
      cols.flatMap columnBody)) ++ [(commandComplete, cstring tag)], ∀ c : Conn,
      drainTurn () { c with mr := ⟨m.2, none⟩ } m.1 = ({ c with mr := ⟨m.2, none⟩ }, .next ()) := by
    intro m hm c
    have ht : m.1 = dataRow ∨ m.1 = commandComplete := by
      simp only [List.mem_append, List.mem_map, List.mem_singleton] at hm
      rcases hm with ⟨_, _, rfl⟩ | rfl
      exacts [.inl rfl, .inr rfl]
    rcases ht with ht | ht <;> simp [drainTurn, ht, dataRow, commandComplete, readyForQuery]
  simp only [Close, hopen, Bool.false_eq_true, if_false, readUntilReadyForQuery, rows_frames,
    Conn.recv_skip drainTurn _ () _ hskip halive hmr,
    Conn.recv_frame _ _ (Conn.refuse_eq_none halive hmr)]
  simp [drainTurn, Conn.rxReadyForQuery_status]

theorem nextRow_commandComplete {c : Conn} (tag : Bytes) (status : UInt8) (rest : List Inbound)
    (halive : c.alive = true) (hmr : c.mr.err = none) (hopen : c.qr.closed = false) :
    nextRow c (commandCompleteMsg tag :: readyForQueryMsg status :: rest) =
      (false, close { c with qr := { c.qr with rowCount := c.qr.rowCount + 1, columnIdx := 0 },
                             txStatus := status, mr := ⟨[], none⟩ }, rest) := by
  have h₁ : commandComplete ≠ readyForQuery := by decide
  have h₂ : commandComplete ≠ dataRow := by decide
  simp (disch := simp [Conn.refuse, halive, hmr]) only [nextRow, hopen, Bool.false_eq_true, if_false,
    commandCompleteMsg, readyForQueryMsg, Conn.recv_frame, nextRowTurn, if_neg h₁, if_neg h₂, true_or,
    if_true]
  simp [nextRowTurn, Conn.rxReadyForQuery_status]

theorem Close_close (c : Conn) (inbox : List Inbound) : Close (close c) inbox = (close c, inbox) := by
  simp [Close, close_eq]

/-- The caller's loop `for qr.NextRow() { .. }` stopped after at most `n` calls: the row bodies read. -/
def readRows : Nat → Conn → List Inbound → List Bytes × Conn × List Inbound
  | 0, c, inbox => ([], c, inbox)
  | n + 1, c, inbox =>
    match nextRow c inbox with
    | (true, c, inbox) =>
      let r := readRows n c inbox
      (c.mr.body :: r.1, r.2)
    | (false, c, inbox) => ([], c, inbox)

/-- Over a response of rows, the loop stopped after any number of calls has read the first rows,
and `Close` then reads exactly the rest of the response. -/
theorem readRows_rows (rows : List (List (Option Bytes))) (tag : Bytes) (status : UInt8)
    (rest : List Inbound) (n : Nat) {c : Conn} (halive : c.alive = true) (hmr : c.mr.err = none)
    (hopen : c.qr.closed = false) (hrows : ∀ cols ∈ rows, c.qr.fields.length = cols.length)
    (hsmall : c.qr.fields.length < 2 ^ 15) :
    let r := readRows n c (rows.map dataRowMsg ++ commandCompleteMsg tag :: readyForQueryMsg status :: rest)
    r.1 = (rows.take n).map (fun cols => cols.flatMap columnBody) ∧
      ∃ c', Close r.2.1 r.2.2 = (c', rest) ∧ c'.qr.closed = true ∧ c'.txStatus = status ∧
        c'.alive = true ∧ c'.conn = c.conn ∧ c'.qr.err = c.qr.err ∧
        c'.released = c.released ++ c.qr.pool.toList := by
  intro r
  induction rows generalizing c n with
  | nil =>
    cases n with
    | zero =>
      simp only [r, readRows]
      exact ⟨rfl, _, Close_rows [] tag status rest halive hmr hopen, by simp [close_eq, halive]⟩
    | succ n =>
      simp only [r, List.map_nil, List.nil_append, readRows,
        nextRow_commandComplete tag status rest halive hmr hopen]
      exact ⟨rfl, _, Close_close _ rest, by simp [close_eq, halive]⟩
  | cons cols rows ih =>
    cases n with
    | zero =>
      simp only [r, readRows]
      exact ⟨rfl, _, Close_rows _ tag status rest halive hmr hopen, by simp [close_eq, halive]⟩
    | succ n =>
      have hlen := hrows cols (List.mem_cons_self cols rows)
      simp only [r, List.map_cons, List.cons_append, readRows,
        nextRow_dataRow_eq cols _ halive hmr hopen hlen (hlen ▸ hsmall)]
      obtain ⟨h₁, c', hc', h₂⟩ := ih n (c := { c with
          qr := { c.qr with rowCount := c.qr.rowCount + 1, columnIdx := 0, mr := true }
          mr := ⟨cols.flatMap columnBody, none⟩ })
        halive rfl hopen (fun cols' h' => hrows cols' (List.mem_cons_of_mem cols h')) hsmall
      exact ⟨by rw [h₁]; rfl, c', hc', h₂⟩

end QueryResult

/-- The decoder `Scan` calls for destination `d` on a column of descriptor `fd`, if it calls one. -/
def Dest.decoder (lib : Lib) (fd : FieldDescription) : Dest → Option Decoder
  | .bool => some (lib.decoder boolOid)
  | .bytes => some (lib.decoder byteaOid)
  | .int64 => some (lib.decoder int8Oid)
  | .int16 => some (lib.decoder int2Oid)
  | .int32 => some (lib.decoder int4Oid)
  | .string => some (lib.decoder textOid)
  | .float32 => some (lib.decoder float4Oid)
  | .float64 => some (lib.decoder float8Oid)
  | .time => some (lib.decoder (if fd.dataType = dateOid then dateOid else timestampTzOid))
  | .scanner _ | .other => none

namespace QueryResult

end QueryResult

namespace Conn

open WriteBuf

theorem simpleQueryBuf_eq (sql : Bytes) :
    ((newWriteBuf 81).writeCString sql).closeMsg.buf = frame 81 (cstring sql) := by
  rw [newWriteBuf_eq, writeCString, pending_writeBytes, pending_closeMsg]
  rfl

/-- `Query` of a simple query reads the RowDescription into a fresh cursor and stops there. -/
theorem query_rowDescription (lib : Lib) {c : Conn} (sql : Bytes) (fds : List FieldDescription)
    (rest : List Inbound) (halive : c.alive = true) (hmr : c.mr.err = none)
    (hopen : c.conn.closed = false) (hfaults : c.conn.writeFaults = [])
    (hps : c.preparedStatements sql = none) (hnames : ∀ fd ∈ fds, NulFree fd.name)
    (hfds : fds.length < 2 ^ 15) :
    query lib c sql [] (rowDescriptionMsg fds :: rest) =
      (.ok none, { c with
        conn := { c.conn with writes := c.conn.writes ++ [frame 81 (cstring sql)] }
        qr := { fields := fds }
        mr := ⟨[], none⟩ }, rest) := by
  simp (disch := simp [refuse, halive, hmr, hopen, hfaults]) only [query, hps, sendSimpleQuery_ok lib,
    simpleQueryBuf_eq, rowDescriptionMsg, recv_frame, queryTurn, if_true,
    rxRowDescription_msg fds hnames hfds]

end Conn

/-- A simple query answered by rows: the caller's `NextRow` loop reads the first rows in order, and
`Close` then reads exactly the rest of the response. -/
theorem query_rows_in_sync (lib : Lib) (c : Conn) (sql : Bytes) (fds : List FieldDescription)
    (rows : List (List (Option Bytes))) (tag : Bytes) (status : UInt8) (rest : List Inbound) (n : Nat)
    (halive : c.alive = true) (hmr : c.mr.err = none) (hopen : c.conn.closed = false)
    (hfaults : c.conn.writeFaults = []) (hps : c.preparedStatements sql = none)
    (hnames : ∀ fd ∈ fds, NulFree fd.name) (hfds : fds.length < 2 ^ 15)
    (hrows : ∀ cols ∈ rows, cols.length = fds.length) :
    let q := Conn.query lib c sql [] (rowDescriptionMsg fds ::
      (rows.map dataRowMsg ++ commandCompleteMsg tag :: readyForQueryMsg status :: rest))
    let r := QueryResult.readRows n q.2.1 q.2.2
    q.1 = .ok none ∧ q.2.1.qr.fields = fds ∧
      r.1 = (rows.take n).map (fun cols => cols.flatMap columnBody) ∧
      ∃ c', QueryResult.Close r.2.1 r.2.2 = (c', rest) ∧ c'.qr.closed = true ∧ c'.txStatus = status ∧
        c'.alive = true ∧ c'.conn.writes = c.conn.writes ++ [frame 81 (cstring sql)] ∧ c'.qr.err = none := by
  intro q r
  have hq := Conn.query_rowDescription lib sql fds
    (rows.map dataRowMsg ++ commandCompleteMsg tag :: readyForQueryMsg status :: rest) halive hmr hopen
    hfaults hps hnames hfds
  simp only [q, r, hq]
  obtain ⟨h₁, c', hc', hclosed, hstatus, halive', hconn, herr, -⟩ := QueryResult.readRows_rows rows tag
    status rest n (c := { c with conn := _, qr := { fields := fds }, mr := ⟨[], none⟩ }) halive rfl rfl
    (fun cols h => (hrows cols h).symm) hfds
  exact ⟨trivial, trivial, h₁, c', hc', hclosed, hstatus, halive', by rw [hconn], herr⟩

/-- `select n from t` on a table of two rows: the caller reads one row and closes the cursor. -/
theorem query_two_rows_read_one :
    let fd : FieldDescription := ⟨ascii "n", 0, 1, int4Oid, 4, -1, binaryFormatCode⟩
    let c : Conn := { conn := {}, config := {}, alive := true }
    let rows : List (List (Option Bytes)) := [[some (be32 1)], [some (be32 2)]]
    (c.alive = true ∧ c.mr.err = none ∧ c.conn.closed = false ∧ c.conn.writeFaults = [] ∧
      c.preparedStatements (ascii "select n from t") = none ∧ (∀ f ∈ [fd], NulFree f.name) ∧
      [fd].length < 2 ^ 15 ∧ ∀ cols ∈ rows, cols.length = [fd].length) ∧
    let q := Conn.query exampleLib c (ascii "select n from t") [] (rowDescriptionMsg [fd] ::
      (rows.map dataRowMsg ++ commandCompleteMsg (ascii "SELECT 2") :: readyForQueryMsg 73 :: []))
    let r := QueryResult.readRows 1 q.2.1 q.2.2
    q.1 = .ok none ∧ q.2.1.qr.fields = [fd] ∧
      r.1 = (rows.take 1).map (fun cols => cols.flatMap columnBody) ∧
      ∃ c', QueryResult.Close r.2.1 r.2.2 = (c', []) ∧ c'.qr.closed = true ∧ c'.txStatus = 73 ∧
        c'.alive = true ∧ c'.conn.writes = c.conn.writes ++ [frame 81 (cstring (ascii "select n from t"))] ∧
        c'.qr.err = none :=
  ⟨⟨rfl, rfl, rfl, rfl, rfl, by decide, by decide, by decide⟩,
    query_rows_in_sync exampleLib _ _ _ _ _ _ [] 1 rfl rfl rfl rfl rfl (by decide) (by decide) (by decide)⟩



end Pgx

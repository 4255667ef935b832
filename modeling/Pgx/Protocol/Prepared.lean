import Pgx.Protocol.RowStream
import Pgx.Protocol.Statements

namespace Pgx

open Backend

namespace Conn

theorem prepare_described_eq {c : Conn} (name sql : Bytes) (oids : List Oid)
    (fds : List FieldDescription) (status : UInt8) (rest : List Inbound) (halive : c.alive = true)
    (hmr : c.mr.err = none) (hopen : c.conn.closed = false) (hfaults : c.conn.writeFaults = [])
    (hnames : ∀ fd ∈ fds, NulFree fd.name) (hfds : fds.length < 2 ^ 15)
    (hoids : oids.length < 2 ^ 15) :
    prepare c name sql (parseCompleteMsg :: parameterDescriptionMsg oids ::
        rowDescriptionMsg fds :: readyForQueryMsg status :: rest) =
      (.ok (some ⟨name, fds.map describedFormat, oids⟩, none),
        { c with
          conn := { c.conn with writes := c.conn.writes ++ [prepareBuf name sql] }
          txStatus := status
          preparedStatements :=
            Function.update c.preparedStatements name (some ⟨name, fds.map describedFormat, oids⟩)
          mr := ⟨[], none⟩ }, rest) := by
  simp (disch := simp [refuse, halive, hmr]) only [prepare, write_ok hopen hfaults, parseCompleteMsg,
    parameterDescriptionMsg, rowDescriptionMsg, readyForQueryMsg, recv_frame, prepareTurn_parseComplete,
    prepareTurn_parameterDescription, prepareTurn_rowDescription, prepareTurn_readyForQuery,
    rxParameterDescription_msg oids hoids, rxRowDescription_msg fds hnames hfds]
  simp [rxReadyForQuery_status]

/-- `Query` on a cached statement's name writes Bind, Execute and Sync and reads nothing. -/
theorem query_prepared (lib : Lib) {c : Conn} {name : Bytes} {ps : PreparedStatement}
    {args : List Arg} {w : WriteBuf} (inbox : List Inbound) (hps : c.preparedStatements name = some ps)
    (hopen : c.conn.closed = false) (hfaults : c.conn.writeFaults = [])
    (hargs : ps.parameterOids.length = args.length) (hw : Conn.preparedQueryBuf lib ps args = .ok w) :
    query lib c name args inbox =
      (.ok none, { c with
        conn := { c.conn with writes := c.conn.writes ++ [w.buf] }
        qr := { fields := ps.fieldDescriptions } }, inbox) := by
  simp [query, hps, sendPreparedQuery, hargs, hw,
    write_ok (c := { c with qr := { fields := ps.fieldDescriptions } }) hopen hfaults]

end Conn

namespace QueryResult

section BindComplete

variable {c : Conn} (halive : c.alive = true) (hmr : c.mr.err = none) (hopen : c.qr.closed = false)
  (t : UInt8) (b : Bytes) (rest : List Inbound)
include halive hmr hopen

/-- `NextRow` passes over a BindComplete. -/
theorem nextRow_bindComplete :
    nextRow c (bindCompleteMsg :: .frame t b :: rest) = nextRow c (.frame t b :: rest) := by
  simp only [nextRow, if_neg (show ¬c.qr.closed = true by simp [hopen])]
  rw [show bindCompleteMsg :: .frame t b :: rest = frames [(bindComplete, [])] ++ .frame t b :: rest
      from rfl,
    Conn.recv_skip _ _ () _ (fun m hm c => by simp at hm; simp [hm, nextRowTurn, bindComplete,
        readyForQuery, dataRow, commandComplete])
      (c := { c with qr := { c.qr with rowCount := c.qr.rowCount + 1, columnIdx := 0 } }) halive hmr]

/-- `Close` passes over a BindComplete. -/
theorem Close_bindComplete :
    Close c (bindCompleteMsg :: .frame t b :: rest) = Close c (.frame t b :: rest) := by
  simp only [Close, hopen, Bool.false_eq_true, if_false, readUntilReadyForQuery]
  rw [show bindCompleteMsg :: .frame t b :: rest = frames [(bindComplete, [])] ++ .frame t b :: rest
      from rfl,
    Conn.recv_skip _ _ () _ (fun m hm c => by simp at hm; simp [hm, drainTurn, bindComplete,
      readyForQuery]) halive hmr]

/-- The caller's `NextRow` loop and its `Close` read past a leading BindComplete. -/
theorem readRows_bindComplete (n : Nat) :
    let r := readRows n c (bindCompleteMsg :: .frame t b :: rest)
    let r' := readRows n c (.frame t b :: rest)
    r.1 = r'.1 ∧ Close r.2.1 r.2.2 = Close r'.2.1 r'.2.2 := by
  cases n with
  | zero => exact ⟨rfl, Close_bindComplete halive hmr hopen t b rest⟩
  | succ n => simp only [readRows, nextRow_bindComplete halive hmr hopen, and_self]

end BindComplete

theorem rows_frame_head (rows : List (List (Option Bytes))) (tag : Bytes) (status : UInt8)
    (rest : List Inbound) :
    ∃ t b rest', rows.map dataRowMsg ++ commandCompleteMsg tag :: readyForQueryMsg status :: rest =
      .frame t b :: rest' := by
  cases rows <;> exact ⟨_, _, _, rfl⟩

end QueryResult

/-- A statement prepared and then run by `Query` stays in step with the server: `Prepare` reads its
response exactly, the rows are read in order, and `Close` reads exactly the rest. -/
theorem prepared_query_in_sync (lib : Lib) (c : Conn) (name sql : Bytes) (oids : List Oid)
    (fds : List FieldDescription) (s₁ : UInt8) (args : List Arg) (w : WriteBuf)
    (rows : List (List (Option Bytes))) (tag : Bytes) (s₂ : UInt8) (rest : List Inbound) (n : Nat)
    (halive : c.alive = true) (hmr : c.mr.err = none) (hopen : c.conn.closed = false)
    (hfaults : c.conn.writeFaults = []) (hnames : ∀ fd ∈ fds, NulFree fd.name)
    (hfds : fds.length < 2 ^ 15) (hoids : oids.length < 2 ^ 15) (hargs : oids.length = args.length)
    (hw : Conn.preparedQueryBuf lib ⟨name, fds.map describedFormat, oids⟩ args = .ok w)
    (hrows : ∀ cols ∈ rows, cols.length = fds.length) :
    let p := Conn.prepare c name sql (parseCompleteMsg :: parameterDescriptionMsg oids ::
      rowDescriptionMsg fds :: readyForQueryMsg s₁ :: bindCompleteMsg ::
      (rows.map dataRowMsg ++ commandCompleteMsg tag :: readyForQueryMsg s₂ :: rest))
    let q := Conn.query lib p.2.1 name args p.2.2
    let r := QueryResult.readRows n q.2.1 q.2.2
    p.1 = .ok (some ⟨name, fds.map describedFormat, oids⟩, none) ∧ q.1 = .ok none ∧
      r.1 = (rows.take n).map (fun cols => cols.flatMap columnBody) ∧
      ∃ c', QueryResult.Close r.2.1 r.2.2 = (c', rest) ∧ c'.qr.closed = true ∧ c'.txStatus = s₂ ∧
        c'.alive = true ∧ c'.qr.err = none ∧
        c'.conn.writes = c.conn.writes ++ [Conn.prepareBuf name sql, w.buf] := by
  intro p q r
  obtain ⟨t, b, rest', hhead⟩ := QueryResult.rows_frame_head rows tag s₂ rest
  simp only [p, q, r, Conn.prepare_described_eq name sql oids fds s₁ _ halive hmr hopen hfaults hnames
    hfds hoids]
  rw [Conn.query_prepared lib _ ?_ ?_ ?_ hargs hw]
  · obtain ⟨h₁, h₂⟩ := QueryResult.readRows_bindComplete (c := { c with
        conn := _, txStatus := s₁, preparedStatements := _, qr := { fields := fds.map describedFormat },
        mr := ⟨[], none⟩ }) halive rfl rfl t b rest' n
    rw [← hhead] at h₁ h₂
    obtain ⟨h₃, c', hc', hclosed, hstatus, halive', hconn, herr, -⟩ := QueryResult.readRows_rows rows
      tag s₂ rest n (c := { c with
        conn := _, txStatus := s₁, preparedStatements := _, qr := { fields := fds.map describedFormat },
        mr := ⟨[], none⟩ })
      halive rfl rfl (fun cols h => by simp [hrows cols h]) (by simpa using hfds)
    refine ⟨trivial, rfl, h₁.trans h₃, c', h₂.trans hc', hclosed, hstatus, halive', herr, ?_⟩
    rw [hconn]
    simp
  exacts [Function.update_same _ _ _, hopen, hfaults]

/-- `Prepare("s1", ..)` then `Query("s1", 0)` answered by two rows. -/
theorem prepared_select_two_rows :
    let fd : FieldDescription := ⟨ascii "n", 0, 1, int4Oid, 4, -1, textFormatCode⟩
    let c : Conn := { conn := {}, config := {}, alive := true }
    let name := ascii "s1"
    let sql := ascii "select n from t where n > $1"
    let args := [Arg.int32 0]
    let w := (Conn.preparedQueryBuf exampleLib ⟨name, [fd].map describedFormat, [int4Oid]⟩ args).toOption.getD
      (WriteBuf.newWriteBuf 66)
    let rows : List (List (Option Bytes)) := [[some (be32 1)], [some (be32 2)]]
    (c.alive = true ∧ c.mr.err = none ∧ c.conn.closed = false ∧ c.conn.writeFaults = [] ∧
      (∀ f ∈ [fd], NulFree f.name) ∧ [fd].length < 2 ^ 15 ∧ [int4Oid].length < 2 ^ 15 ∧
      [int4Oid].length = args.length ∧
      Conn.preparedQueryBuf exampleLib ⟨name, [fd].map describedFormat, [int4Oid]⟩ args = .ok w ∧
      ∀ cols ∈ rows, cols.length = [fd].length) ∧
    let p := Conn.prepare c name sql (parseCompleteMsg :: parameterDescriptionMsg [int4Oid] ::
      rowDescriptionMsg [fd] :: readyForQueryMsg 73 :: bindCompleteMsg ::
      (rows.map dataRowMsg ++ commandCompleteMsg (ascii "SELECT 2") :: readyForQueryMsg 73 :: []))
    let q := Conn.query exampleLib p.2.1 name args p.2.2
    let r := QueryResult.readRows 2 q.2.1 q.2.2
    p.1 = .ok (some ⟨name, [fd].map describedFormat, [int4Oid]⟩, none) ∧ q.1 = .ok none ∧
      r.1 = (rows.take 2).map (fun cols => cols.flatMap columnBody) ∧
      ∃ c', QueryResult.Close r.2.1 r.2.2 = (c', []) ∧ c'.qr.closed = true ∧ c'.txStatus = 73 ∧
        c'.alive = true ∧ c'.qr.err = none ∧
        c'.conn.writes = c.conn.writes ++ [Conn.prepareBuf name sql, w.buf] :=
  ⟨⟨rfl, rfl, rfl, rfl, by decide, by decide, by decide, rfl, rfl, by decide⟩,
    prepared_query_in_sync exampleLib _ _ _ _ _ 73 _ _ _ _ 73 [] 2 rfl rfl rfl rfl (by decide) (by decide)
      (by decide) rfl rfl (by decide)⟩

end Pgx

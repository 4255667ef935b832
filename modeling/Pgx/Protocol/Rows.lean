import Pgx.Protocol.Drain

namespace Pgx

open Backend

namespace QueryResult

/-- `NextRow` on a DataRow of the cursor's field count: a row, the reader on its columns. -/
theorem nextRow_dataRow_eq {c : Conn} (cols : List (Option Bytes)) (rest : List Inbound)
    (halive : c.alive = true) (hmr : c.mr.err = none) (hopen : c.qr.closed = false)
    (hlen : c.qr.fields.length = cols.length) (hsmall : cols.length < 2 ^ 15) :
    nextRow c (dataRowMsg cols :: rest) =
      (true, { c with qr := { c.qr with rowCount := c.qr.rowCount + 1, columnIdx := 0, mr := true },
                      mr := ⟨cols.flatMap columnBody, none⟩ }, rest) := by
  have hne : dataRow ≠ readyForQuery := by decide
  simp (disch := simp [Conn.refuse, halive, hmr]) only [nextRow, hopen, dataRowMsg, Conn.recv_frame,
    nextRowTurn, if_neg hne, if_true, MsgReader.readInt16_be16, toInt_ofNat_lt hsmall, hlen]
  simp

theorem nextRow_dataRow {c : Conn} (cols : List (Option Bytes)) (rest : List Inbound)
    (halive : c.alive = true) (hmr : c.mr.err = none) (hopen : c.qr.closed = false)
    (hlen : c.qr.fields.length = cols.length) (hsmall : cols.length < 2 ^ 15) :
    ∃ c', nextRow c (dataRowMsg cols :: rest) = (true, c', rest) ∧
      c'.qr = { c.qr with rowCount := c.qr.rowCount + 1, columnIdx := 0, mr := true } ∧
      c'.mr = ⟨cols.flatMap columnBody, none⟩ ∧ c'.alive = c.alive :=
  ⟨_, nextRow_dataRow_eq cols rest halive hmr hopen hlen hsmall, rfl, rfl, rfl⟩

/-- `Scan` into a first destination of no supported type returns "Unknown type", the cursor open. -/
theorem scan_other (lib : Lib) {c : Conn} (fd : FieldDescription) (fds : List FieldDescription)
    (ds : List Dest) (inbox : List Inbound) (hopen : c.qr.closed = false) (hrow : c.qr.mr = true)
    (hfields : c.qr.fields = fd :: fds) (hidx : c.qr.columnIdx = 0) (hds : ds.length = fds.length) :
    scan lib (.other :: ds) c inbox = .ok (([], some (.new (ascii "Unknown type"))),
      { c with qr := { c.qr with columnIdx := 1 }, mr := c.mr.readInt32.2 }, inbox) := by
  simp [scan, scanLoop, nextColumn, scanDest, hopen, hrow, hfields, hidx, hds, bind, Except.bind]

theorem Close_commandComplete {c : Conn} (tag : Bytes) (status : UInt8) (rest : List Inbound)
    (halive : c.alive = true) (hmr : c.mr.err = none) (hopen : c.qr.closed = false) :
    (Close c (commandCompleteMsg tag :: readyForQueryMsg status :: rest)).2 = rest ∧
      (Close c (commandCompleteMsg tag :: readyForQueryMsg status :: rest)).1.qr.err = c.qr.err := by
  have hne : commandComplete ≠ readyForQuery := by decide
  simp (disch := simp [Conn.refuse, halive, hmr]) only [Close, hopen, readUntilReadyForQuery,
    commandCompleteMsg, readyForQueryMsg, Conn.recv_frame, drainTurn, if_neg hne, or_true,
    true_or, if_true, Bool.false_eq_true, if_false]
  simp [close_eq]

end QueryResult

/-- `Row.Scan` drops the "Unknown type" error of its `Scan`, which does not fail the cursor, and
returns no error. -/
theorem row_scan_drops_unknown_type (lib : Lib) (c : Conn) (fd : FieldDescription) (fds : List FieldDescription)
    (col : Option Bytes) (cols : List (Option Bytes)) (ds : List Dest) (tag : Bytes)
    (status : UInt8) (rest : List Inbound) (halive : c.alive = true) (hmr : c.mr.err = none)
    (herr : c.qr.err = none) (hopen : c.qr.closed = false) (hfields : c.qr.fields = fd :: fds)
    (hcols : cols.length = fds.length) (hds : ds.length = fds.length)
    (hsmall : fds.length + 1 < 2 ^ 15) :
    let inbox := dataRowMsg (col :: cols) :: commandCompleteMsg tag :: readyForQueryMsg status :: rest
    let row := QueryResult.nextRow c inbox
    row.1 = true ∧
      (QueryResult.scan lib (.other :: ds) row.2.1 row.2.2).map (fun r => r.1) =
        .ok ([], some (.new (ascii "Unknown type"))) ∧
      ∃ c', Row.scan lib (.other :: ds) c inbox = .ok (([], none), c', rest) := by
  intro inbox row
  obtain ⟨c₁, hrow, hq₁, hmr₁, halive₁⟩ := QueryResult.nextRow_dataRow (col :: cols)
    (commandCompleteMsg tag :: readyForQueryMsg status :: rest) halive hmr hopen
    (by simp [hfields, hcols]) (by simp; omega)
  have hscan := QueryResult.scan_other lib (c := c₁) fd fds ds
    (commandCompleteMsg tag :: readyForQueryMsg status :: rest) (by simp [hq₁, hopen])
    (by simp [hq₁]) (by simp [hq₁, hfields]) (by simp [hq₁]) hds
  have hclose := QueryResult.Close_commandComplete
    (c := { c₁ with qr := { c₁.qr with columnIdx := 1 }, mr := c₁.mr.readInt32.2 }) tag status rest
    (by simp [halive₁, halive]) (by simp [hmr₁, List.flatMap_cons, MsgReader.readInt32_columnBody])
    (by simp [hq₁, hopen])
  have herr₁ : c₁.qr.err = none := by simp [hq₁, herr]
  refine ⟨by simp only [row, inbox, hrow], by simp only [row, inbox, hrow, hscan]; rfl, ?_⟩
  simp only [inbox, Row.scan, herr, hrow, hscan, bind, Except.bind]
  rw [hclose.1, hclose.2]
  simp only [herr₁]
  exact ⟨_, rfl⟩

/-- `QueryRow("select id from t")` whose row is scanned into a destination of another type. -/
theorem row_scan_into_struct :
    let fd : FieldDescription := ⟨ascii "id", 0, 1, int4Oid, 4, -1, binaryFormatCode⟩
    let c : Conn := { conn := {}, config := {}, alive := true, qr := { fields := [fd] } }
    let inbox := [dataRowMsg [some (be32 7)], commandCompleteMsg (ascii "SELECT 1"),
      readyForQueryMsg 73]
    let row := QueryResult.nextRow c inbox
    (c.alive = true ∧ c.mr.err = none ∧ c.qr.err = none ∧ c.qr.closed = false ∧
      c.qr.fields = [fd] ∧ ([] : List (Option Bytes)).length = ([] : List FieldDescription).length ∧
      ([] : List Dest).length = ([] : List FieldDescription).length ∧
      ([] : List FieldDescription).length + 1 < 2 ^ 15) ∧
    row.1 = true ∧
      (QueryResult.scan exampleLib [.other] row.2.1 row.2.2).map (fun r => r.1) =
        .ok ([], some (.new (ascii "Unknown type"))) ∧
      ∃ c', Row.scan exampleLib [.other] c inbox = .ok (([], none), c', []) :=
  ⟨⟨rfl, rfl, rfl, rfl, rfl, rfl, rfl, by decide⟩,
    row_scan_drops_unknown_type exampleLib _ _ [] _ [] [] _ 73 [] rfl rfl rfl rfl rfl rfl rfl
      (by decide)⟩

end Pgx

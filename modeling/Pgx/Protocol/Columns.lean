import Pgx.Protocol.Rows

namespace Pgx

open Backend

namespace QueryResult

/-- Every way through `Close` closes the cursor. -/
theorem Close_closes (c : Conn) (inbox : List Inbound) : (Close c inbox).1.qr.closed = true := by
  unfold Close
  split_ifs with h
  · exact h
  · simp [close_eq]

/-- `NextRow` returns false only on a closed cursor. -/
theorem nextRow_false_closed (c : Conn) (inbox : List Inbound) (h : (nextRow c inbox).1 = false) :
    (nextRow c inbox).2.1.qr.closed = true := by
  unfold nextRow at h ⊢
  split_ifs at h ⊢ with hc
  · exact hc
  · dsimp only at h ⊢
    generalize Conn.recv nextRowTurn _ () _ inbox = r at h ⊢
    rcases r with ⟨_ | _ | e, c', inbox'⟩
    · simp [close_eq]
    · cases h
    · exact Close_closes _ _

theorem nextColumn_closed {c : Conn} (h : c.qr.closed = true) (inbox : List Inbound) :
    nextColumn c inbox = .ok (none, c, inbox) := by
  simp [nextColumn, h]

theorem scanDest_none (lib : Lib) {d : Dest} (hd : d ≠ .other ∧ ∀ s, d ≠ .scanner s) (size : Int32) (c : Conn)
    (inbox : List Inbound) : scanDest lib d none size c inbox = .error .nilDereference := by
  cases d with
  | scanner s => exact absurd rfl (hd.2 s)
  | other => exact absurd rfl hd.1
  | _ => rfl

theorem scanLoop_absent (lib : Lib) {c c' : Conn} {inbox inbox' : List Inbound} {d : Dest} (ds : List Dest)
    (hd : d ≠ .other ∧ ∀ s, d ≠ .scanner s) (h : nextColumn c inbox = .ok (none, c', inbox')) :
    scanLoop lib (d :: ds) c inbox = .error .nilDereference := by
  simp [scanLoop, h, bind, Except.bind, scanDest_none lib hd]

theorem readValue_absent (lib : Lib) {c c' : Conn} {inbox inbox' : List Inbound}
    (h : nextColumn c inbox = .ok (none, c', inbox')) :
    readValue lib c inbox = match c'.qr.err with
      | some e => .ok ((none, some e), c', inbox')
      | none => .error .nilDereference := by
  simp only [readValue, h, bind, Except.bind]
  cases c'.qr.err <;> rfl

/-- After `NextRow` returned false with no error, `ReadValue` and a decoded destination of `Scan`
dereference the absent descriptor: neither checks `nextColumn`'s flag. -/
theorem column_after_close_dereferenced (lib : Lib) (c : Conn) (inbox inbox' : List Inbound) (d : Dest)
    (ds : List Dest) (hd : d ≠ .other ∧ ∀ s, d ≠ .scanner s) :
    let r := nextRow c inbox
    r.1 = false → r.2.1.qr.err = none →
      readValue lib r.2.1 inbox' = .error .nilDereference ∧
      (r.2.1.qr.fields.length = ds.length + 1 → scan lib (d :: ds) r.2.1 inbox' = .error .nilDereference) := by
  intro r hfalse herr
  have hcol := nextColumn_closed (nextRow_false_closed c inbox hfalse) inbox'
  refine ⟨by rw [readValue_absent lib hcol, herr], fun hlen => ?_⟩
  simp only [scan, List.length_cons, hlen, ne_eq, not_true_eq_false, if_false]
  exact scanLoop_absent lib ds hd hcol

/-- A statement that yields no row, then `ReadValue` and `Scan` into an `int32`. -/
theorem column_after_select_nothing :
    let fd : FieldDescription := ⟨ascii "id", 0, 1, int4Oid, 4, -1, binaryFormatCode⟩
    let c : Conn := { conn := {}, config := {}, alive := true, qr := { fields := [fd] } }
    let inbox := [commandCompleteMsg (ascii "SELECT 0"), readyForQueryMsg 73]
    let r := nextRow c inbox
    (r.1 = false ∧ r.2.1.qr.err = none) ∧
      readValue exampleLib r.2.1 [] = .error .nilDereference ∧
      (r.2.1.qr.fields.length = 0 + 1 → scan exampleLib [.int32] r.2.1 [] = .error .nilDereference) :=
  ⟨⟨rfl, rfl⟩, column_after_close_dereferenced exampleLib _ _ [] .int32 [] ⟨by simp, by simp⟩ rfl rfl⟩

/-- On a non-intrinsic column not in text, `ReadValue` returns "Unknown format code", and `Scan` into an
unsupported destination "Unknown type", with the payload unread and the cursor not failed. -/
theorem column_unknown_payload_unread (lib : Lib) {c : Conn} (fd : FieldDescription) (fds : List FieldDescription)
    (col : Option Bytes) (rest : Bytes) (inbox : List Inbound) (hopen : c.qr.closed = false)
    (hrow : c.qr.mr = true) (herr : c.qr.err = none) (hfields : c.qr.fields = fd :: fds)
    (hidx : c.qr.columnIdx = 0) (hoid : fd.dataType ∉ intrinsicOids)
    (hfmt : fd.formatCode ≠ textFormatCode) (hmr : c.mr = ⟨columnBody col ++ rest, none⟩) :
    let c' := { c with qr := { c.qr with columnIdx := 1 }, mr := ⟨col.getD [] ++ rest, none⟩ }
    readValue lib c inbox = .ok ((none, some (.new (ascii "Unknown format code"))), c', inbox) ∧
      c'.qr.err = none ∧
      ∀ ds : List Dest, ds.length = fds.length →
        scan lib (.other :: ds) c inbox = .ok (([], some (.new (ascii "Unknown type"))), c', inbox) := by
  intro c'
  have hread := MsgReader.readInt32_columnBody col rest
  rw [← hmr] at hread
  refine ⟨?_, herr, fun ds hds => by rw [scan_other lib fd fds ds inbox hopen hrow hfields hidx hds, hread]⟩
  simp only [intrinsicOids, binaryOids, textOids, List.mem_append, List.mem_cons, List.mem_singleton,
    not_or, List.not_mem_nil] at hoid
  simp [readValue, nextColumn, hopen, hrow, hfields, hidx, herr, hread, hoid, hfmt, bind,
    Except.bind, c']

/-- A binary numeric column, then an `int4` 7: the second `ReadValue` reads the first's payload. -/
theorem readValue_numeric_misaligns :
    let fd : FieldDescription := ⟨ascii "n", 0, 1, 1700, -1, -1, binaryFormatCode⟩
    let fd₂ : FieldDescription := ⟨ascii "id", 0, 2, int4Oid, 4, -1, binaryFormatCode⟩
    let col : Option Bytes := some [0, 0, 0, 4, 0, 0, 0, 9]
    let c : Conn :=
      { conn := {}, config := {}, alive := true, qr := { fields := [fd, fd₂], mr := true },
        mr := ⟨columnBody col ++ columnBody (some (be32 7)), none⟩ }
    let c' :=
      { c with qr := { c.qr with columnIdx := 1 }, mr := ⟨col.getD [] ++ columnBody (some (be32 7)), none⟩ }
    ((readValue exampleLib c []) = .ok ((none, some (.new (ascii "Unknown format code"))), c', []) ∧
      c'.qr.err = none ∧
      ∀ ds : List Dest, ds.length = [fd₂].length →
        scan exampleLib (.other :: ds) c [] = .ok (([], some (.new (ascii "Unknown type"))), c', [])) ∧
      (readValue exampleLib c' []).map (·.1.1) = .ok (some ⟨int4Oid, binaryFormatCode, some [0, 0, 0, 9]⟩) :=
  ⟨column_unknown_payload_unread exampleLib _ [_] _ _ [] rfl rfl rfl rfl rfl (by decide) (by decide) rfl,
    rfl⟩

end QueryResult

end Pgx

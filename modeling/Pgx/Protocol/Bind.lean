import Pgx.Protocol.Statements

namespace Pgx

open Backend WriteBuf

/-- The value of one parameter in a Bind message, by the encoder that writes it. Only a
`BinaryEncoder` writes its own length, so only there can a non-nil argument carry -1. -/
inductive BindValue (lib : Lib) : Oid → Arg → Bytes → Prop where
  /-- A nil argument: the length -1 and no payload. -/
  | null (oid : Oid) : BindValue lib oid .nil (be32 (-1))
  /-- An intrinsic OID: the payload's length, then the payload its encoder writes. -/
  | intrinsic {oid : Oid} {arg : Arg} {p : Bytes} (hoid : oid ∈ binaryOids ∨ oid ∈ textOids)
      (harg : arg ≠ .nil) (hp : encodePayload lib oid arg = .ok p) :
      BindValue lib oid arg (be32 (BitVec.ofNat 32 p.length) ++ p)
  /-- A `BinaryEncoder` for another OID: exactly what its `EncodeBinary` writes. -/
  | binaryEncoder {oid : Oid} {name v : Bytes} {text : Option (Except Error Bytes)}
      (hoid : oid ∉ binaryOids ∧ oid ∉ textOids) :
      BindValue lib oid (.other name (some (.ok v)) text) v
  /-- A `TextEncoder` that is no `BinaryEncoder`, for another OID: the text's length, then the
  text. -/
  | textEncoder {oid : Oid} {name s : Bytes} (hoid : oid ∉ binaryOids ∧ oid ∉ textOids) :
      BindValue lib oid (.other name none (some (.ok s))) (be32 (BitVec.ofNat 32 s.length) ++ s)

/-- A parameter's format code is binary exactly for the binary OIDs and for a non-intrinsic
`BinaryEncoder`. -/
theorem paramFormatCode_eq_binary (oid : Oid) (arg : Arg) :
    paramFormatCode oid arg = binaryFormatCode ↔
      oid ∈ binaryOids ∨ (oid ∉ textOids ∧ arg.isBinaryEncoder = true) := by
  unfold paramFormatCode
  split_ifs <;> simp_all [binaryFormatCode, textFormatCode]

/-- What one turn of the value loop appends to the open Bind message. -/
theorem writeArg_value (lib : Lib) (done body : Bytes) (t : UInt8) (oid : Oid) (arg : Arg)
    (w : WriteBuf) (h : writeArg lib (pending done t body) oid arg = .ok w) :
    ∃ v, BindValue lib oid arg v ∧ w = pending done t (body ++ v) := by
  unfold writeArg at h
  split at h
  · cases h
    exact ⟨_, .null oid, pending_writeInt32 ..⟩
  · rename_i harg
    split at h
    · obtain ⟨p, hp, rfl⟩ := Except.map_eq_ok h
      exact ⟨_, .intrinsic ‹_› harg hp, by simp⟩
    · have hoid := not_or.mp ‹¬(oid ∈ binaryOids ∨ oid ∈ textOids)›
      split at h
      · obtain ⟨p, rfl, rfl⟩ := Except.map_eq_ok h
        exact ⟨p, .binaryEncoder hoid, pending_writeBytes ..⟩
      · obtain ⟨p, rfl, rfl⟩ := Except.map_eq_ok h
        exact ⟨_, .textEncoder hoid, by simp⟩
      · cases h

/-- The value loop appends one value per parameter. -/
theorem writeArgs_values (lib : Lib) (done : Bytes) (t : UInt8) (params : List (Oid × Arg))
    (body : Bytes) (w : WriteBuf) (h : writeArgs lib (pending done t body) params = .ok w) :
    ∃ vals, List.Forall₂ (fun p v => BindValue lib p.1 p.2 v) params vals ∧
      w = pending done t (body ++ vals.flatten) := by
  induction params generalizing body with
  | nil => cases h; exact ⟨[], .nil, by simp⟩
  | cons p params ih =>
    unfold writeArgs at h
    split at h
    · cases h
    · rename_i w₁ h₁
      obtain ⟨v₁, hv₁, rfl⟩ := writeArg_value lib done body t _ _ _ h₁
      obtain ⟨vs, hvs, rfl⟩ := ih _ h
      exact ⟨v₁ :: vs, .cons hv₁ hvs, by simp⟩

/-- The Bind, Execute and Sync `sendPreparedQuery` builds, with the value of each parameter. -/
theorem preparedQueryBuf_values (lib : Lib) (ps : PreparedStatement) (args : List Arg)
    (w : WriteBuf) (hlen : ps.parameterOids.length = args.length)
    (h : Conn.preparedQueryBuf lib ps args = .ok w) :
    ∃ vals, List.Forall₂ (fun p v => BindValue lib p.1 p.2 v) (ps.parameterOids.zip args) vals ∧
      w.buf = bindMsg ps.name ((ps.parameterOids.zip args).map fun p => paramFormatCode p.1 p.2)
        args.length vals.flatten (ps.fieldDescriptions.map (·.formatCode)) ++
        frame 69 (0 :: be32 0) ++ frame 83 [] := by
  unfold Conn.preparedQueryBuf at h
  obtain ⟨w₁, hw, rfl⟩ := Except.map_eq_ok h
  simp only [newWriteBuf_eq, writeByte, writeCString, pending_writeBytes, pending_writeInt16,
    foldl_writeInt16] at hw
  obtain ⟨vals, hvals, rfl⟩ := writeArgs_values lib _ _ _ _ _ hw
  refine ⟨vals, hvals, ?_⟩
  simp only [pending_writeInt16, foldl_writeInt16, pending_startMsg, writeByte, pending_writeBytes,
    pending_writeInt32, pending_closeMsg, bindMsg]
  simp [hlen, List.flatMap_map]

namespace Conn

/-- `sendPreparedQuery` returns an argument it cannot encode with nothing written; otherwise it makes
one Write, of a Bind shaped as `bindMsg` with the values `BindValue` gives, an Execute and a Sync. -/
theorem sendPreparedQuery_bind_execute_sync (lib : Lib) (c : Conn) (ps : PreparedStatement)
    (args : List Arg) (hlen : ps.parameterOids.length = args.length) :
    (∀ oid arg, paramFormatCode oid arg = binaryFormatCode ↔
      oid ∈ binaryOids ∨ (oid ∉ textOids ∧ arg.isBinaryEncoder = true)) ∧
    (∀ e, preparedQueryBuf lib ps args = .error e → sendPreparedQuery lib c ps args = (some e, c)) ∧
    ∀ w, preparedQueryBuf lib ps args = .ok w →
      sendPreparedQuery lib c ps args = c.write w.buf ∧
      ∃ vals, List.Forall₂ (fun p v => BindValue lib p.1 p.2 v) (ps.parameterOids.zip args) vals ∧
        w.buf = bindMsg ps.name ((ps.parameterOids.zip args).map fun p => paramFormatCode p.1 p.2)
          args.length vals.flatten (ps.fieldDescriptions.map (·.formatCode)) ++
          frame 69 (0 :: be32 0) ++ frame 83 [] :=
  ⟨paramFormatCode_eq_binary, fun e he => by simp [sendPreparedQuery, hlen, he],
    fun w hw => ⟨by simp [sendPreparedQuery, hlen, hw], preparedQueryBuf_values lib ps args w hlen hw⟩⟩

/-- A statement with an `int4` parameter and a numeric one, run with 7 and a `BinaryEncoder`. -/
theorem sendPreparedQuery_int4_and_encoder :
    let ps : PreparedStatement := ⟨ascii "s", [], [int4Oid, 1700]⟩
    let args := [Arg.int32 7, .other (ascii "Numeric") (some (.ok (be32 2 ++ [0, 9]))) none]
    ps.parameterOids.length = args.length ∧
    (∀ oid arg, paramFormatCode oid arg = binaryFormatCode ↔
      oid ∈ binaryOids ∨ (oid ∉ textOids ∧ arg.isBinaryEncoder = true)) ∧
    (∀ e, preparedQueryBuf exampleLib ps args = .error e →
      sendPreparedQuery exampleLib { conn := {}, config := {} } ps args = (some e, { conn := {}, config := {} })) ∧
    ∀ w, preparedQueryBuf exampleLib ps args = .ok w →
      sendPreparedQuery exampleLib { conn := {}, config := {} } ps args =
        ({ conn := {}, config := {} } : Conn).write w.buf ∧
      ∃ vals, List.Forall₂ (fun p v => BindValue exampleLib p.1 p.2 v) (ps.parameterOids.zip args) vals ∧
        w.buf = bindMsg ps.name ((ps.parameterOids.zip args).map fun p => paramFormatCode p.1 p.2)
          args.length vals.flatten (ps.fieldDescriptions.map (·.formatCode)) ++
          frame 69 (0 :: be32 0) ++ frame 83 [] :=
  ⟨rfl, sendPreparedQuery_bind_execute_sync exampleLib _ _ _ rfl⟩

/-- A `BinaryEncoder` whose `EncodeBinary` writes a null sends -1 for an argument that is not nil,
and a failed Write returns its error after the whole Bind, Execute and Sync were handed to it. -/
theorem sendPreparedQuery_encoder_null_failed_write :
    let ps : PreparedStatement := ⟨ascii "s", [], [1700]⟩
    let arg := Arg.other (ascii "NullNumeric") (some (.ok (be32 (-1)))) none
    let msg := bindMsg (ascii "s") [binaryFormatCode] 1 (be32 (-1)) [] ++ frame 69 (0 :: be32 0) ++
      frame 83 []
    arg ≠ .nil ∧
      sendPreparedQuery exampleLib { conn := {}, config := {} } ps [arg] =
        (none, { conn := { writes := [msg] }, config := {} }) ∧
      sendPreparedQuery exampleLib { conn := { writeFaults := [some (.other 104)] }, config := {} } ps
        [arg] = (some (.io (.other 104)), { conn := { writes := [msg] }, config := {} }) :=
  ⟨nofun, rfl, rfl⟩

end Conn

end Pgx

import Pgx.Conn.Receive

namespace Pgx

/-- A query argument, a Go `interface{}`: `nil`, a value of an intrinsic host type, or one of another
type with what its `EncodeBinary` and `EncodeText` give, if it has them. -/
inductive Arg where
  | nil
  | bool (b : Bool)
  | bytes (b : Bytes)
  | int16 (n : Int16)
  | int32 (n : Int32)
  | int64 (n : Int64)
  | float32 (bits : BitVec 32)
  | float64 (bits : BitVec 64)
  | string (s : Bytes)
  | time (t : Int)
  | other (typeName : Bytes) (binary : Option (Except Error Bytes)) (text : Option (Except Error Bytes))

namespace Arg

/-- `%T`. -/
def typeName : Arg → Bytes
  | nil => ascii "<nil>"
  | bool _ => ascii "bool"
  | bytes _ => ascii "[]uint8"
  | int16 _ => ascii "int16"
  | int32 _ => ascii "int32"
  | int64 _ => ascii "int64"
  | float32 _ => ascii "float32"
  | float64 _ => ascii "float64"
  | string _ => ascii "string"
  | time _ => ascii "time.Time"
  | other n _ _ => n

/-- `_, ok := arg.(BinaryEncoder)`. -/
def isBinaryEncoder : Arg → Bool
  | other _ (some _) _ => true
  | _ => false

end Arg

/-- A column's value as the cursor hands it out: its type, its format code, and what was made of
its bytes (`none` for a NULL). -/
structure Value where
  oid : Oid
  format : Int16
  payload : Option Bytes
  deriving DecidableEq, Repr

/-- A decoder of values.go, `decodeInt4(qr, fd, size)` and the like: from the descriptor, the declared
length and the reader, the value, the bytes it reads, and the error it passes to `qr.Fatal`. -/
def Decoder := FieldDescription → Int32 → MsgReader → Value × Nat × Option Error

/-- What the source calls outside it: sanitize.go, the MD5 digest, the date and timestamp text forms
the encoders write, and the decoders of values.go, each under the OID it is named for. -/
structure Lib where
  sanitizeSql : Bytes → List Arg → Except Error Bytes
  quoteIdentifier : Bytes → Bytes
  md5 : Bytes → Bytes
  formatDate : Int → Bytes
  formatTimestampTz : Int → Bytes
  decoder : Oid → Decoder

/-- The OIDs prepared statements exchange in binary. -/
def binaryOids : List Oid := [boolOid, byteaOid, int2Oid, int4Oid, int8Oid, float4Oid, float8Oid]

/-- The intrinsic OIDs exchanged as text. -/
def textOids : List Oid := [textOid, varcharOid, dateOid, timestampTzOid]

/-- The format code `sendPreparedQuery` asks for a parameter of type `oid` with argument `arg`. -/
def paramFormatCode (oid : Oid) (arg : Arg) : Int16 :=
  if oid ∈ binaryOids then binaryFormatCode
  else if oid ∈ textOids then textFormatCode
  else if arg.isBinaryEncoder then binaryFormatCode
  else textFormatCode

/-- Modelled from the spec: the payload the intrinsic encoder for `oid` writes for a value of its
host type (values.go is not in the source). Any other value is refused. -/
def encodePayload (lib : Lib) (oid : Oid) (arg : Arg) : Except Error Bytes :=
  match arg with
  | .bool b => if oid = boolOid then .ok [if b then 1 else 0] else .error (.codec oid)
  | .bytes b => if oid = byteaOid then .ok b else .error (.codec oid)
  | .int16 n => if oid = int2Oid then .ok (be16 n) else .error (.codec oid)
  | .int32 n => if oid = int4Oid then .ok (be32 n) else .error (.codec oid)
  | .int64 n => if oid = int8Oid then .ok (be64 n) else .error (.codec oid)
  | .float32 b => if oid = float4Oid then .ok (be32 b) else .error (.codec oid)
  | .float64 b => if oid = float8Oid then .ok (be64 b) else .error (.codec oid)
  | .string s => if oid = textOid ∨ oid = varcharOid then .ok s else .error (.codec oid)
  | .time t =>
    if oid = dateOid then .ok (lib.formatDate t)
    else if oid = timestampTzOid then .ok (lib.formatTimestampTz t)
    else .error (.codec oid)
  | _ => .error (.codec oid)

/-- The value of one parameter in a Bind message: the second loop of `sendPreparedQuery`. -/
def writeArg (lib : Lib) (w : WriteBuf) (oid : Oid) (arg : Arg) : Except Error WriteBuf :=
  match arg with
  | .nil => .ok (w.writeInt32 (-1))
  | _ =>
    if oid ∈ binaryOids ∨ oid ∈ textOids then
      (encodePayload lib oid arg).map fun p =>
        (w.writeInt32 (BitVec.ofNat 32 p.length)).writeBytes p
    else
      match arg with
      | .other _ (some r) _ => r.map w.writeBytes
      | .other _ none (some r) => r.map fun s => (w.writeInt32 (BitVec.ofNat 32 s.length)).writeBytes s
      | _ => .error (.serialization (arg.typeName ++
          ascii " is not a core type and it does not implement TextEncoder or BinaryEncoder"))

def writeArgs (lib : Lib) : WriteBuf → List (Oid × Arg) → Except Error WriteBuf
  | w, [] => .ok w
  | w, (oid, arg) :: rest =>
    match writeArg lib w oid arg with
    | .error e => .error e
    | .ok w => writeArgs lib w rest

/-- Modelled from the spec (messages.go is not in the source): the untagged startup message, its
options as C strings in the order given. -/
def startupMessage (options : List (Bytes × Bytes)) : Bytes :=
  let body := be32 196608 ++ options.flatMap (fun o => cstring o.1 ++ cstring o.2) ++ [0]
  be32 (BitVec.ofNat 32 (body.length + 4)) ++ body

open WriteBuf in
/-- A parameter's value is appended to the open Bind message. -/
theorem writeArg_pending (lib : Lib) (done body : Bytes) (t : UInt8) (oid : Oid) (arg : Arg)
    (w : WriteBuf) (h : writeArg lib (pending done t body) oid arg = .ok w) :
    ∃ vals, w = pending done t (body ++ vals) := by
  unfold writeArg at h
  split at h
  · cases h
    exact ⟨_, pending_writeInt32 ..⟩
  · split at h
    · obtain ⟨p, -, rfl⟩ := Except.map_eq_ok h
      exact ⟨be32 (BitVec.ofNat 32 p.length) ++ p, by simp⟩
    · split at h
      · obtain ⟨p, -, rfl⟩ := Except.map_eq_ok h
        exact ⟨p, pending_writeBytes ..⟩
      · obtain ⟨p, -, rfl⟩ := Except.map_eq_ok h
        exact ⟨be32 (BitVec.ofNat 32 p.length) ++ p, by simp⟩
      · cases h

open WriteBuf in
theorem writeArgs_pending (lib : Lib) (done : Bytes) (t : UInt8) (params : List (Oid × Arg))
    (body : Bytes) (w : WriteBuf) (h : writeArgs lib (pending done t body) params = .ok w) :
    ∃ vals, w = pending done t (body ++ vals) := by
  induction params generalizing body with
  | nil => cases h; exact ⟨[], by simp⟩
  | cons p params ih =>
    unfold writeArgs at h
    split at h
    · cases h
    · rename_i w₁ h₁
      obtain ⟨v₁, rfl⟩ := writeArg_pending lib done body t _ _ _ h₁
      obtain ⟨vs, rfl⟩ := ih _ h
      exact ⟨v₁ ++ vs, by simp⟩

namespace Conn

open WriteBuf

section Send

variable (lib : Lib)

def sendSimpleQuery (c : Conn) (sql : Bytes) (args : List Arg) : Option Error × Conn :=
  match (if args.isEmpty then .ok sql else lib.sanitizeSql sql args) with
  | .error e => (some e, c)
  | .ok sql => c.write ((newWriteBuf 81).writeCString sql).closeMsg.buf  -- 'Q'

/-- The Bind, Execute and Sync messages `sendPreparedQuery` writes, or the error it returns first. -/
def preparedQueryBuf (ps : PreparedStatement) (args : List Arg) : Except Error WriteBuf :=
  let params := ps.parameterOids.zip args
  let w := ((newWriteBuf 66).writeByte 0).writeCString ps.name  -- 'B'
  let w := w.writeInt16 (BitVec.ofNat 16 ps.parameterOids.length)
  let w := params.foldl (fun w p => w.writeInt16 (paramFormatCode p.1 p.2)) w
  let w := w.writeInt16 (BitVec.ofNat 16 args.length)
  (writeArgs lib w params).map fun w =>
    let w := w.writeInt16 (BitVec.ofNat 16 ps.fieldDescriptions.length)
    let w := ps.fieldDescriptions.foldl (fun w fd => w.writeInt16 fd.formatCode) w
    let w := ((w.startMsg 69).writeByte 0).writeInt32 0  -- 'E'
    (w.startMsg 83).closeMsg  -- 'S'

def sendPreparedQuery (c : Conn) (ps : PreparedStatement) (args : List Arg) : Option Error × Conn :=
  if ps.parameterOids.length ≠ args.length then
    (some (.new (ascii "Prepared statement \"" ++ ps.name ++ ascii "\" requires " ++
      decimal ps.parameterOids.length ++ ascii " parameters, but " ++ decimal args.length ++
      ascii " were provided")), c)
  else
    match preparedQueryBuf lib ps args with
    | .error e => (some e, c)
    | .ok w => c.write w.buf

def sendQuery (c : Conn) (sql : Bytes) (args : List Arg) : Option Error × Conn :=
  match c.preparedStatements sql with
  | some ps => sendPreparedQuery lib c ps args
  | none => sendSimpleQuery lib c sql args

end Send

def txPasswordMessage (c : Conn) (password : Bytes) : Option Error × Conn :=
  c.write ((newWriteBuf 112).writeCString password).closeMsg.buf  -- 'p'

theorem sendPreparedQuery_writes (lib : Lib) (c : Conn) (ps : PreparedStatement) (args : List Arg)
    (w : WriteBuf) (hlen : ps.parameterOids.length = args.length)
    (h : preparedQueryBuf lib ps args = .ok w) :
    (sendPreparedQuery lib c ps args).2.conn.writes = c.conn.writes ++ [w.buf] := by
  simp [sendPreparedQuery, hlen, h, write_writes]

/-- A send leaves everything but the socket as it was. -/
theorem sendSimpleQuery_conn (lib : Lib) (c : Conn) (sql : Bytes) (args : List Arg) :
    ∃ t, (sendSimpleQuery lib c sql args).2 = { c with conn := t } := by
  unfold sendSimpleQuery
  split
  · exact ⟨c.conn, rfl⟩
  · exact ⟨_, rfl⟩

theorem sendPreparedQuery_conn (lib : Lib) (c : Conn) (ps : PreparedStatement) (args : List Arg) :
    ∃ t, (sendPreparedQuery lib c ps args).2 = { c with conn := t } := by
  unfold sendPreparedQuery
  split
  · exact ⟨c.conn, rfl⟩
  · split
    · exact ⟨c.conn, rfl⟩
    · exact ⟨_, rfl⟩

theorem sendQuery_conn (lib : Lib) (c : Conn) (sql : Bytes) (args : List Arg) :
    ∃ t, (sendQuery lib c sql args).2 = { c with conn := t } := by
  unfold sendQuery
  split
  · exact sendPreparedQuery_conn lib c _ args
  · exact sendSimpleQuery_conn lib c sql args

end Conn

end Pgx

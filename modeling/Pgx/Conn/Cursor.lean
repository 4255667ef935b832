import Pgx.Conn.Exec

namespace Pgx

/-- A `Scanner` destination: what its `Scan(qr, fd, size)` does with the column and the row's bytes
left: the bytes it reads, the error it passes to `qr.Fatal`, and the error it returns. -/
structure Scanner where
  scan : Option FieldDescription → Int32 → Bytes → Nat × Option Error × Option Error

/-- A destination of `Scan`: a pointer to one of the supported types, a `Scanner`, or a value of
any other type. -/
inductive Dest where
  | bool | bytes | int64 | int16 | int32 | string | float32 | float64 | time
  | scanner (s : Scanner)
  | other

/-- What a destination holds after `Scan`: a decoded column, or what a `Scanner` consumed. -/
inductive Stored where
  | value (v : Value)
  | scanned (bytes : Bytes)
  deriving DecidableEq, Repr

namespace QueryResult

/-- `qr.close()`: release the connection to the cursor's pool, if it has one, and close. -/
def close (c : Conn) : Conn :=
  match c.qr.pool with
  | some p => { c with released := c.released ++ [p], qr := { c.qr with pool := none, closed := true } }
  | none => { c with qr := { c.qr with closed := true } }

theorem close_eq (c : Conn) :
    close c = { c with released := c.released ++ c.qr.pool.toList,
                       qr := { c.qr with pool := none, closed := true } } := by
  rcases h : c.qr.pool with _ | p <;> simp [close, h]

/-- The switch of `readUntilReadyForQuery`'s loop; it leaves on ReadyForQuery and on an error. -/
def drainTurn (_ : Unit) (c : Conn) (t : UInt8) : Conn × Conn.Turn Unit Unit :=
  if t = readyForQuery then (c.rxReadyForQuery, .exit ())
  else if t = rowDescription ∨ t = dataRow ∨ t = commandComplete ∨ t = bindComplete then (c, .next ())
  else
    match c.processContextFreeMsg t with
    | (c, some _) => (c, .exit ())
    | (c, none) => (c, .next ())

/-- Every way out of `readUntilReadyForQuery` calls `qr.close()`. -/
def readUntilReadyForQuery (c : Conn) (inbox : List Inbound) : Conn × List Inbound :=
  let r := Conn.recv drainTurn (fun _ _ => ()) () c inbox
  (close r.2.1, r.2.2)

/-- `Close()`. -/
def Close (c : Conn) (inbox : List Inbound) : Conn × List Inbound :=
  if c.qr.closed then (c, inbox)
  else
    let r := readUntilReadyForQuery c inbox
    (close r.1, r.2)

def fatal (c : Conn) (e : Error) (inbox : List Inbound) : Conn × List Inbound :=
  Close { c with qr := { c.qr with err := some e } } inbox

/-- How `NextRow`'s loop ends. -/
inductive RowExit where
  | readyForQuery
  | row
  | fatal (e : Error)

def nextRowTurn (_ : Unit) (c : Conn) (t : UInt8) : Conn × Conn.Turn Unit RowExit :=
  if t = readyForQuery then (c.rxReadyForQuery, .exit .readyForQuery)
  else if t = dataRow then
    let fieldCount := c.mr.readInt16
    let c := { c with mr := fieldCount.2 }
    if fieldCount.1.toInt ≠ c.qr.fields.length then
      (c, .exit (.fatal (.protocol (ascii "Row description field count (" ++
        decimal c.qr.fields.length ++ ascii ") and data row field count (" ++
        decimal fieldCount.1.toInt ++ ascii ") do not match"))))
    else (c, .exit .row)
  else if t = commandComplete ∨ t = bindComplete then (c, .next ())
  else
    match c.processContextFreeMsg t with
    | (c, some e) => (c, .exit (.fatal e))
    | (c, none) => (c, .next ())

def nextRow (c : Conn) (inbox : List Inbound) : Bool × Conn × List Inbound :=
  if c.qr.closed then (false, c, inbox)
  else
    let c := { c with qr := { c.qr with rowCount := c.qr.rowCount + 1, columnIdx := 0 } }
    match Conn.recv nextRowTurn (fun _ e => .fatal e) () c inbox with
    | (.readyForQuery, c, inbox) => (false, close c, inbox)
    | (.row, c, inbox) => (true, { c with qr := { c.qr with mr := true } }, inbox)
    | (.fatal e, c, inbox) => (false, fatal c e inbox)

/-- `nextColumn()`: the next column's descriptor and declared length, if there is one. Reading the
length through an unset `qr.mr` dereferences nil. -/
def nextColumn (c : Conn) (inbox : List Inbound) :
    Except Panic (Option (FieldDescription × Int32) × Conn × List Inbound) :=
  if c.qr.closed then .ok (none, c, inbox)
  else
    match c.qr.fields[c.qr.columnIdx]? with
    | none =>
      let r := fatal c (.protocol (ascii "No next column available")) inbox
      .ok (none, r.1, r.2)
    | some fd =>
      if c.qr.mr then
        .ok (some (fd, c.mr.readInt32.1),
          { c with qr := { c.qr with columnIdx := c.qr.columnIdx + 1 }, mr := c.mr.readInt32.2 },
          inbox)
      else .error .nilDereference

/-- A decoder called on the cursor: it reads the descriptor, so a nil one panics, takes its bytes
from the reader, and fails the cursor with `qr.Fatal` if it reports an error. -/
def decode (dec : Decoder) (fd : Option FieldDescription) (size : Int32) (c : Conn)
    (inbox : List Inbound) : Except Panic (Value × Conn × List Inbound) :=
  match fd with
  | none => .error .nilDereference
  | some fd =>
    let (v, n, err) := dec fd size c.mr
    let c := { c with mr := (c.mr.next n).2 }
    match err with
    | some e =>
      let r := fatal c e inbox
      .ok (v, r.1, r.2)
    | none => .ok (v, c, inbox)

section Decoders

variable (lib : Lib)

def decodeBool := decode (lib.decoder boolOid)
def decodeBytea := decode (lib.decoder byteaOid)
def decodeInt8 := decode (lib.decoder int8Oid)
def decodeInt2 := decode (lib.decoder int2Oid)
def decodeInt4 := decode (lib.decoder int4Oid)
def decodeText := decode (lib.decoder textOid)
def decodeFloat4 := decode (lib.decoder float4Oid)
def decodeFloat8 := decode (lib.decoder float8Oid)
def decodeDate := decode (lib.decoder dateOid)
def decodeTimestampTz := decode (lib.decoder timestampTzOid)

/-- The type switch of `Scan` for one destination. -/
def scanDest (d : Dest) (fd : Option FieldDescription) (size : Int32) (c : Conn)
    (inbox : List Inbound) : Except Panic (Except Error Stored × Conn × List Inbound) :=
  let stored (r : Except Panic (Value × Conn × List Inbound)) :=
    r.map fun r => (.ok (.value r.1), r.2)
  match d with
  | .bool => stored (decodeBool lib fd size c inbox)
  | .bytes => stored (decodeBytea lib fd size c inbox)
  | .int64 => stored (decodeInt8 lib fd size c inbox)
  | .int16 => stored (decodeInt2 lib fd size c inbox)
  | .int32 => stored (decodeInt4 lib fd size c inbox)
  | .string => stored (decodeText lib fd size c inbox)
  | .float32 => stored (decodeFloat4 lib fd size c inbox)
  | .float64 => stored (decodeFloat8 lib fd size c inbox)
  | .time =>
    match fd with
    | none => .error .nilDereference
    | some f =>
      if f.dataType = dateOid then stored (decodeDate lib fd size c inbox)
      else stored (decodeTimestampTz lib fd size c inbox)
  | .scanner s =>
    let (n, fatalErr, err) := s.scan fd size c.mr.body
    let read := c.mr.next n
    let c := { c with mr := read.2 }
    let (c, inbox) := match fatalErr with
      | some e => fatal c e inbox
      | none => (c, inbox)
    match err with
    | some e => .ok (.error e, c, inbox)
    | none => .ok (.ok (.scanned (read.1.getD [])), c, inbox)
  | .other => .ok (.error (.new (ascii "Unknown type")), c, inbox)

/-- The loop of `Scan` over its destinations: what they hold, and the error it returns. -/
def scanLoop : List Dest → Conn → List Inbound →
    Except Panic ((List Stored × Option Error) × Conn × List Inbound)
  | [], c, inbox => .ok (([], none), c, inbox)
  | d :: ds, c, inbox => do
    let (col, c, inbox) ← nextColumn c inbox
    match ← scanDest lib d (col.map (·.1)) ((col.map (·.2)).getD 0) c inbox with
    | (.error e, c, inbox) => .ok (([], some e), c, inbox)
    | (.ok v, c, inbox) =>
      let ((vs, e), c, inbox) ← scanLoop ds c inbox
      .ok ((v :: vs, e), c, inbox)

def scan (dests : List Dest) (c : Conn) (inbox : List Inbound) :
    Except Panic ((List Stored × Option Error) × Conn × List Inbound) :=
  if c.qr.fields.length ≠ dests.length then
    let e := Error.new (ascii "Scan received wrong number of arguments")
    let r := fatal c e inbox
    .ok (([], some e), r.1, r.2)
  else scanLoop lib dests c inbox

/-- The intrinsic OIDs `ReadValue` decodes. -/
def intrinsicOids : List Oid := binaryOids ++ textOids

def readValue (c : Conn) (inbox : List Inbound) :
    Except Panic ((Option Value × Option Error) × Conn × List Inbound) := do
  let (col, c, inbox) ← nextColumn c inbox
  match c.qr.err, col with
  | some e, _ => .ok ((none, some e), c, inbox)
  | none, none => .error .nilDereference
  | none, some (fd, size) =>
    let decoded (dec : Option FieldDescription → Int32 → Conn → List Inbound →
        Except Panic (Value × Conn × List Inbound)) :=
      (dec (some fd) size c inbox).map fun r => ((some r.1, r.2.1.qr.err), r.2)
    if fd.dataType = boolOid then decoded (decodeBool lib)
    else if fd.dataType = byteaOid then decoded (decodeBytea lib)
    else if fd.dataType = int8Oid then decoded (decodeInt8 lib)
    else if fd.dataType = int2Oid then decoded (decodeInt2 lib)
    else if fd.dataType = int4Oid then decoded (decodeInt4 lib)
    else if fd.dataType = varcharOid ∨ fd.dataType = textOid then decoded (decodeText lib)
    else if fd.dataType = float4Oid then decoded (decodeFloat4 lib)
    else if fd.dataType = float8Oid then decoded (decodeFloat8 lib)
    else if fd.dataType = dateOid then decoded (decodeDate lib)
    else if fd.dataType = timestampTzOid then decoded (decodeTimestampTz lib)
    else if fd.formatCode = textFormatCode then
      .ok ((some ⟨fd.dataType, fd.formatCode, some (c.mr.readString size).1⟩, c.qr.err),
        { c with mr := (c.mr.readString size).2 }, inbox)
    else .ok ((none, some (.new (ascii "Unknown format code"))), c, inbox)

end Decoders

end QueryResult

namespace Conn

open QueryResult

/-- The switch of `Query`'s loop, which reads until the RowDescription; an error from a
context-free message ends it. -/
def queryTurn (_ : Unit) (c : Conn) (t : UInt8) : Conn × Turn Unit (Except Panic (Option Error)) :=
  if t = rowDescription then
    match c.rxRowDescription with
    | .error p => (c, .exit (.error p))
    | .ok (fds, c) => ({ c with qr := { c.qr with fields := fds } }, .exit (.ok none))
  else
    match c.processContextFreeMsg t with
    | (c, some e) => (c, .exit (.ok (some e)))
    | (c, none) => (c, .next ())

section Query

variable (lib : Lib)

/-- `Query`: the cursor is the connection's `qr`, reset; the result is the error returned. -/
def query (c : Conn) (sql : Bytes) (args : List Arg) (inbox : List Inbound) :
    Except Panic (Option Error) × Conn × List Inbound :=
  let c := { c with qr := {} }
  let failed (e : Error) (c : Conn) := { c with qr := { c.qr with err := some e, closed := true } }
  match c.preparedStatements sql with
  | some ps =>
    match sendPreparedQuery lib { c with qr := { c.qr with fields := ps.fieldDescriptions } } ps args with
    | (some e, c) => (.ok (some e), failed e c, inbox)
    | (none, c) => (.ok none, c, inbox)
  | none =>
    match sendSimpleQuery lib c sql args with
    | (some e, c) => (.ok (some e), failed e c, inbox)
    | (none, c) =>
      match recv queryTurn (fun _ e => .ok (some e)) () c inbox with
      | (.ok (some e), c, inbox) => (.ok (some e), failed e c, inbox)
      | r => r

/-- `QueryRow`: `Query` with its error dropped; the row is the connection's cursor. -/
def queryRow (c : Conn) (sql : Bytes) (args : List Arg) (inbox : List Inbound) :
    Except Panic Unit × Conn × List Inbound :=
  let r := query lib c sql args inbox
  (r.1.map fun _ => (), r.2)

end Query

end Conn

namespace Row

open QueryResult

/-- `Row.Scan`: what the destinations hold and the error returned. -/
def scan (lib : Lib) (dests : List Dest) (c : Conn) (inbox : List Inbound) :
    Except Panic ((List Stored × Option Error) × Conn × List Inbound) :=
  match c.qr.err with
  | some e => .ok (([], some e), c, inbox)
  | none =>
    match nextRow c inbox with
    | (false, c, inbox) => .ok (([], some (c.qr.err.getD (.new (ascii "No rows")))), c, inbox)
    | (true, c, inbox) => do
      let ((stored, _), c, inbox) ← QueryResult.scan lib dests c inbox
      let (c, inbox) := Close c inbox
      .ok ((stored, c.qr.err), c, inbox)

end Row

end Pgx

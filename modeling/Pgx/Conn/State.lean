import Pgx.Wire.MsgReader
import Pgx.Wire.WriteBuf
import Mathlib.Logic.Function.Basic
import Mathlib.Tactic.Simps.Basic

namespace Pgx

-- Modelled from the spec: the constants of messages.go and values.go, which are not in the source.

def backendKeyData : UInt8 := 75        -- 'K'
def authenticationX : UInt8 := 82       -- 'R'
def readyForQuery : UInt8 := 90         -- 'Z'
def rowDescription : UInt8 := 84        -- 'T'
def parameterDescription : UInt8 := 116 -- 't'
def noData : UInt8 := 110               -- 'n'
def dataRow : UInt8 := 68               -- 'D'
def commandComplete : UInt8 := 67       -- 'C'
def parseComplete : UInt8 := 49         -- '1'
def bindComplete : UInt8 := 50          -- '2'
def errorResponse : UInt8 := 69         -- 'E'
def noticeResponse : UInt8 := 78        -- 'N'
def notificationResponse : UInt8 := 65  -- 'A'

def boolOid : Oid := 16
def byteaOid : Oid := 17
def int8Oid : Oid := 20
def int2Oid : Oid := 21
def int4Oid : Oid := 23
def textOid : Oid := 25
def float4Oid : Oid := 700
def float8Oid : Oid := 701
def varcharOid : Oid := 1043
def dateOid : Oid := 1082
def timestampTzOid : Oid := 1184

def textFormatCode : Int16 := 0
def binaryFormatCode : Int16 := 1

/-- How a call ends when Go panics instead of returning. -/
inductive Panic where
  /-- A nil pointer is dereferenced. -/
  | nilDereference
  /-- `make` is given a negative length or capacity. -/
  | makeSlice
  deriving DecidableEq, Repr

structure FieldDescription where
  name : Bytes
  table : Oid
  attributeNumber : Int16
  dataType : Oid
  dataTypeSize : Int16
  modifier : Int32
  formatCode : Int16
  deriving DecidableEq, Repr

structure Notification where
  pid : Int32
  channel : Bytes
  payload : Bytes
  deriving DecidableEq, Repr

structure PreparedStatement where
  name : Bytes
  fieldDescriptions : List FieldDescription := []
  parameterOids : List Oid := []
  deriving DecidableEq, Repr

abbrev CommandTag := Bytes

/-- `ConnConfig`; `tlsConfig` says whether a TLS configuration is given, whose contents are the
TLS library's. The logger is an opaque sink and is left out. -/
structure ConnConfig where
  host : Bytes := []
  port : UInt16 := 0
  database : Bytes := []
  user : Bytes := []
  password : Bytes := []
  tlsConfig : Bool := false
  deriving DecidableEq, Repr

/-- The socket (`net.Conn`): whether it is closed or in TLS, every buffer handed to `Write`, and how
it answers the next writes and peeks (`none` succeeds, as does every call once a list runs out). -/
structure Transport where
  closed : Bool := false
  tls : Bool := false
  writes : List Bytes := []
  writeFaults : List (Option IOError) := []
  peekFaults : List (Option IOError) := []
  deriving DecidableEq, Repr

namespace Transport

@[simps] def close (t : Transport) : Transport := { t with closed := true }

/-- `Write(buf)`: the call is logged; a closed socket refuses it. -/
def write (t : Transport) (buf : Bytes) : Option IOError × Transport :=
  if t.closed then (some .closed, { t with writes := t.writes ++ [buf] })
  else match t.writeFaults with
    | [] => (none, { t with writes := t.writes ++ [buf] })
    | f :: fs => (f, { t with writes := t.writes ++ [buf], writeFaults := fs })

/-- `SetReadDeadline` fails only on a closed socket. -/
def setReadDeadline (t : Transport) : Option IOError :=
  if t.closed then some .closed else none

/-- `Peek(1)` under a read deadline: a byte arrives in time, or the peek fails. -/
def peek (t : Transport) : Option IOError × Transport :=
  if t.closed then (some .closed, t)
  else match t.peekFaults with
    | [] => (none, t)
    | f :: fs => (f, { t with peekFaults := fs })

@[simp] theorem write_writes (t : Transport) (buf : Bytes) :
    (t.write buf).2.writes = t.writes ++ [buf] := by
  unfold write; split
  · rfl
  · split <;> rfl

end Transport

/-- `QueryResult`, the cursor. `pool` is the pool it was borrowed from (the pool is not in the
source); `mr` says whether `qr.mr` is set, when it points at the connection's reader. -/
structure QueryResult where
  pool : Option Nat := none
  mr : Bool := false
  fields : List FieldDescription := []
  rowCount : Nat := 0
  columnIdx : Nat := 0
  err : Option Error := none
  closed : Bool := false
  deriving DecidableEq, Repr

/-- `Conn`, with its cursor `qr` and reader `mr`; `released` records the cursor's calls to
`ConnPool.Release`, oldest first. -/
structure Conn where
  conn : Transport
  pid : Int32 := 0
  secretKey : Int32 := 0
  runtimeParams : Bytes → Option Bytes := fun _ => none
  config : ConnConfig
  txStatus : UInt8 := 0
  preparedStatements : Bytes → Option PreparedStatement := fun _ => none
  notifications : List Notification := []
  alive : Bool := false
  causeOfDeath : Option Error := none
  qr : QueryResult := {}
  mr : MsgReader := ⟨[], none⟩
  released : List Nat := []

namespace Conn

@[simps] def die (c : Conn) (e : Error) : Conn :=
  { c with alive := false, causeOfDeath := some e, conn := c.conn.close }

/-- `c.conn.Write(buf)`. -/
def write (c : Conn) (buf : Bytes) : Option Error × Conn :=
  ((c.conn.write buf).1.map .io, { c with conn := (c.conn.write buf).2 })

theorem write_ok {c : Conn} (hopen : c.conn.closed = false) (hfaults : c.conn.writeFaults = [])
    (buf : Bytes) : c.write buf = (none, { c with conn := { c.conn with writes := c.conn.writes ++ [buf] } }) := by
  simp [write, Transport.write, hopen, hfaults]

@[simp] theorem write_alive (c : Conn) (buf : Bytes) : (c.write buf).2.alive = c.alive := rfl
@[simp] theorem write_causeOfDeath (c : Conn) (buf : Bytes) :
    (c.write buf).2.causeOfDeath = c.causeOfDeath := rfl
@[simp] theorem write_preparedStatements (c : Conn) (buf : Bytes) :
    (c.write buf).2.preparedStatements = c.preparedStatements := rfl
@[simp] theorem write_runtimeParams (c : Conn) (buf : Bytes) :
    (c.write buf).2.runtimeParams = c.runtimeParams := rfl
@[simp] theorem write_notifications (c : Conn) (buf : Bytes) :
    (c.write buf).2.notifications = c.notifications := rfl
@[simp] theorem write_qr (c : Conn) (buf : Bytes) : (c.write buf).2.qr = c.qr := rfl
@[simp] theorem write_mr (c : Conn) (buf : Bytes) : (c.write buf).2.mr = c.mr := rfl
@[simp] theorem write_txStatus (c : Conn) (buf : Bytes) : (c.write buf).2.txStatus = c.txStatus := rfl
@[simp] theorem write_released (c : Conn) (buf : Bytes) : (c.write buf).2.released = c.released := rfl
@[simp] theorem write_writes (c : Conn) (buf : Bytes) :
    (c.write buf).2.conn.writes = c.conn.writes ++ [buf] := Transport.write_writes ..

end Conn

end Pgx

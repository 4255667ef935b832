import Pgx.Conn.Cursor
import Pgx.Conn.Notify
import Pgx.Conn.Connect

namespace Pgx

/-- A call a client makes on a query's cursor. -/
inductive CursorOp where
  | nextRow
  | scan (dests : List Dest)
  | readValue
  | fatal (e : Error)
  | close

namespace CursorOp

open QueryResult

/-- One call; a panic ends the program. -/
def step (lib : Lib) : CursorOp → Conn → List Inbound → Except Panic (Conn × List Inbound)
  | nextRow, c, inbox => .ok (QueryResult.nextRow c inbox).2
  | scan dests, c, inbox => (QueryResult.scan lib dests c inbox).map (·.2)
  | readValue, c, inbox => (QueryResult.readValue lib c inbox).map (·.2)
  | fatal e, c, inbox => .ok (QueryResult.fatal c e inbox)
  | close, c, inbox => .ok (Close c inbox)

/-- Calls one after another, on the connection and stream each leaves. -/
def run (lib : Lib) : List CursorOp → Conn → List Inbound → Except Panic (Conn × List Inbound)
  | [], c, inbox => .ok (c, inbox)
  | op :: ops, c, inbox => op.step lib c inbox >>= fun r => run lib ops r.1 r.2

end CursorOp

/-- A call a client makes on a connection. `Transaction` is left out: it runs caller code between
an `Exec` of the begin and one of the commit or rollback, so a run of these calls covers it. -/
inductive Op where
  | exec (sql : Bytes) (args : List Arg)
  | prepare (name sql : Bytes)
  | deallocate (name : Bytes)
  | listen (channel : Bytes)
  | query (sql : Bytes) (args : List Arg)
  | queryRow (sql : Bytes) (args : List Arg)
  | rowScan (dests : List Dest)
  | cursor (op : CursorOp)
  | waitForNotification
  | close

namespace Op

/-- One call, with the notifications it hands to the caller; a panic ends the program. -/
def step (lib : Lib) : Op → Conn → List Inbound →
    Except Panic (List Notification × Conn × List Inbound)
  | exec sql args, c, inbox => .ok ([], (Conn.exec lib c sql args inbox).2)
  | prepare name sql, c, inbox =>
    let r := Conn.prepare c name sql inbox
    r.1.map fun _ => ([], r.2)
  | deallocate name, c, inbox => .ok ([], (Conn.deallocate lib c name inbox).2)
  | listen channel, c, inbox => .ok ([], (Conn.listen lib c channel inbox).2)
  | query sql args, c, inbox =>
    let r := Conn.query lib c sql args inbox
    r.1.map fun _ => ([], r.2)
  | queryRow sql args, c, inbox =>
    let r := Conn.queryRow lib c sql args inbox
    r.1.map fun _ => ([], r.2)
  | rowScan dests, c, inbox => (Row.scan lib dests c inbox).map fun r => ([], r.2)
  | cursor op, c, inbox => (op.step lib c inbox).map fun r => ([], r)
  | waitForNotification, c, inbox =>
    let r := c.waitForNotification inbox
    .ok (r.1.1.toList, r.2)
  | close, c, inbox => .ok ([], c.close.2, inbox)

/-- Calls one after another, with the notifications handed out, oldest first. -/
def run (lib : Lib) : List Op → Conn → List Inbound →
    Except Panic (List Notification × Conn × List Inbound)
  | [], c, inbox => .ok ([], c, inbox)
  | op :: ops, c, inbox => do
    let (n₁, c, inbox) ← op.step lib c inbox
    let (n₂, c, inbox) ← run lib ops c inbox
    .ok (n₁ ++ n₂, c, inbox)

end Op

/-- A client's session: `Connect`, then the calls on the connection it returns; `none` when it
returns none. -/
def session (lib : Lib) (env : Env) (config : ConnConfig) (ops : List Op) (inbox : List Inbound) :
    Except Panic (Option (List Notification × Conn × List Inbound)) :=
  match connect lib env config inbox with
  | (⟨some c, _, _⟩, inbox) => (Op.run lib ops c inbox).map some
  | (⟨none, _, _⟩, _) => .ok none

end Pgx

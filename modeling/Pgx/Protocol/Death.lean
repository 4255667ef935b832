import Pgx.Protocol.Backend
import Pgx.Conn.Exec

namespace Pgx

namespace Conn

open WriteBuf

/-- A failed write does not kill the connection: `Exec` returns the write's error, alive as before. -/
theorem exec_write_error_keeps_alive (lib : Lib) (c : Conn) (sql : Bytes) (err : IOError)
    (faults : List (Option IOError)) (inbox : List Inbound) (hopen : c.conn.closed = false)
    (hfaults : c.conn.writeFaults = some err :: faults) (hps : c.preparedStatements sql = none) :
    let r := exec lib c sql [] inbox
    r.1 = ([], some (.io err)) ∧ r.2.1.alive = c.alive ∧ r.2.1.causeOfDeath = c.causeOfDeath ∧
      r.2.2 = inbox := by
  simp [exec, sendQuery, hps, sendSimpleQuery, write, Transport.write, hopen, hfaults]

/-- `Exec("select 1")` on a live connection whose socket fails the write with a reset. -/
theorem exec_reset_keeps_alive :
    let c : Conn := { conn := { writeFaults := [some (.other 104)] }, config := {}, alive := true }
    let r := exec exampleLib c (ascii "select 1") [] []
    (c.conn.closed = false ∧ c.conn.writeFaults = [some (.other 104)] ∧
      c.preparedStatements (ascii "select 1") = none) ∧
    r.1 = ([], some (.io (.other 104))) ∧ r.2.1.alive = c.alive ∧
      r.2.1.causeOfDeath = c.causeOfDeath ∧ r.2.2 = [] :=
  ⟨⟨rfl, rfl, rfl⟩, exec_write_error_keeps_alive exampleLib _ _ _ [] [] rfl rfl rfl⟩

/-- On a dead connection `Exec` still writes its request and returns the socket's error rather than
`DeadConnError`. -/
theorem exec_after_death_writes (lib : Lib) (c : Conn) (e : Error) (sql : Bytes)
    (inbox : List Inbound) (hps : c.preparedStatements sql = none) :
    let r := exec lib (c.die e) sql [] inbox
    r.1 = ([], some (.io .closed)) ∧
      r.2.1.conn.writes = c.conn.writes ++ [((newWriteBuf 81).writeCString sql).closeMsg.buf] ∧
      r.2.2 = inbox ∧ r.2.1.alive = false ∧ r.2.1.causeOfDeath = some e := by
  simp [exec, sendQuery, hps, sendSimpleQuery, write, Transport.write]

/-- A connection that died of an end of stream, then `Exec("select 1")`. -/
theorem exec_after_eof_writes :
    let c : Conn := { conn := {}, config := {}, alive := true }
    let r := exec exampleLib (c.die (.io .eof)) (ascii "select 1") [] []
    c.preparedStatements (ascii "select 1") = none ∧
    r.1 = ([], some (.io .closed)) ∧
      r.2.1.conn.writes = c.conn.writes ++ [((newWriteBuf 81).writeCString (ascii "select 1")).closeMsg.buf] ∧
      r.2.2 = [] ∧ r.2.1.alive = false ∧ r.2.1.causeOfDeath = some (.io .eof) :=
  ⟨rfl, exec_after_death_writes exampleLib _ _ _ [] rfl⟩

end Conn

end Pgx

import Pgx.Protocol.Columns
import Pgx.Protocol.RowStream
import Pgx.Session.Dead

namespace Pgx

open Backend

namespace QueryResult

section Position

variable (tag : Bytes) (status : UInt8) (rest : List Inbound)

/-- Where a reader of a response of rows without an error stands between the cursor's calls: dead;
open with rows, CommandComplete and ReadyForQuery left; or closed at the end of the response. -/
def InRows (c : Conn) (inbox : List Inbound) : Prop :=
  c.alive = false ∨
    (c.qr.closed = false ∧ ∃ rows : List (List (Option Bytes)),
      inbox = rows.map dataRowMsg ++ commandCompleteMsg tag :: readyForQueryMsg status :: rest) ∨
    (c.qr.closed = true ∧ c.txStatus = status ∧ inbox = rest)

variable {tag status rest}

/-- The position depends only on whether the connection is alive, whether the cursor is closed,
and the transaction status. -/
theorem InRows.untouched {c c' : Conn} {inbox : List Inbound} (hu : Untouched c c')
    (htx : c'.txStatus = c.txStatus) (h : InRows tag status rest c inbox) :
    InRows tag status rest c' inbox := by
  unfold InRows
  rw [hu.1, hu.2.2.2.2.2.2.1, htx]
  exact h

variable (tag status rest)

end Position

end QueryResult

end Pgx

import Pgx.Wire.Bytes
import Pgx.Errors
import Pgx.Wire.MsgReader
import Pgx.Wire.WriteBuf
import Pgx.Conn.State
import Pgx.Conn.Receive
import Pgx.Conn.Send
import Pgx.Conn.Exec
import Pgx.Conn.Cursor
import Pgx.Conn.Notify
import Pgx.Conn.Connect
import Pgx.Conn.CommandTag
import Pgx.Conn.URI
import Pgx.Protocol.Loop
import Pgx.Protocol.Backend
import Pgx.Protocol.Drain
import Pgx.Protocol.Death
import Pgx.Protocol.Statements
import Pgx.Protocol.Bind
import Pgx.Protocol.Transaction
import Pgx.Protocol.Startup
import Pgx.Protocol.Rows
import Pgx.Protocol.Columns
import Pgx.Protocol.Replies
import Pgx.Protocol.RowStream
import Pgx.Protocol.Prepared
import Pgx.Protocol.RowError
import Pgx.Session.Ops
import Pgx.Session.Laws
import Pgx.Session.Release
import Pgx.Session.Async
import Pgx.Session.Handshake
import Pgx.Session.Cache
import Pgx.Session.Dead
import Pgx.Session.Sync
import Pgx.Session.Resync
import Pgx.Session.Writes

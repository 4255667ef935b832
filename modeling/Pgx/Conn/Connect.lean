import Pgx.Conn.Send
import Mathlib.Data.List.Infix

namespace Pgx

/-- Lower-case hexadecimal, as `hex.EncodeToString`. -/
def hexEncode (bs : Bytes) : Bytes :=
  let digit (n : Nat) : UInt8 := UInt8.ofNat (if n < 10 then 48 + n else 87 + n)
  bs.flatMap fun b => [digit (b.toNat / 16), digit (b.toNat % 16)]

def hexMD5 (lib : Lib) (s : Bytes) : Bytes := hexEncode (lib.md5 s)

/-- Where `Connect` dials: a local socket path, or a TCP `host:port`. -/
inductive Network where
  | unix (path : Bytes)
  | tcp (address : Bytes)
  deriving DecidableEq, Repr

/-- What `Connect` asks of its surroundings: the OS user, the file system, the dial, the server's
answer to an SSL request, and the order, unspecified in Go, of ranging over the options map. -/
structure Env where
  currentUser : Except Error Bytes
  pathExists : Bytes → Bool
  dial : Network → Except Error Transport
  joinPath : Bytes → Bytes → Bytes
  sslReply : Except IOError UInt8
  mapOrder : List (Bytes × Bytes) → List (Bytes × Bytes) := id
  mapOrder_perm : ∀ l, (mapOrder l).Perm l := by exact fun l => .refl l

/-- What `Connect` returns, and the socket it dialed as it is when `Connect` returns. -/
structure Connected where
  conn : Option Conn
  err : Option Error
  socket : Option Transport

namespace Conn

open WriteBuf

section Connect

variable (lib : Lib)

def rxAuthenticationX (c : Conn) : Conn × Option Error :=
  let (method, r) := c.mr.readInt32
  let c := { c with mr := r }
  if method = 0 then (c, none)
  else if method = 3 then
    let w := c.txPasswordMessage c.config.password
    (w.2, w.1)
  else if method = 5 then
    let (salt, r) := c.mr.readString 4
    let c := { c with mr := r }
    let w := c.txPasswordMessage (ascii "md5" ++
      hexMD5 lib (hexMD5 lib (c.config.password ++ c.config.user) ++ salt))
    (w.2, w.1)
  else (c, some (.new (ascii "Received unknown authentication message")))

/-- Authentication changes only the reader and the socket. -/
theorem rxAuthenticationX_conn (c : Conn) :
    ∃ t r, (rxAuthenticationX lib c).1 = { c with conn := t, mr := r } := by
  unfold rxAuthenticationX
  split
  dsimp only
  split_ifs <;> exact ⟨_, _, rfl⟩

/-- The switch of `Connect`'s startup loop; the loop leaves with the error `Connect` returns with
`nil`, or with none on ReadyForQuery. -/
def connectTurn (_ : Unit) (c : Conn) (t : UInt8) : Conn × Turn Unit (Option Error) :=
  if t = backendKeyData then (c.rxBackendKeyData, .next ())
  else if t = authenticationX then
    match rxAuthenticationX lib c with
    | (c, some e) => (c, .exit (some e))
    | (c, none) => (c, .next ())
  else if t = readyForQuery then (c.rxReadyForQuery, .exit none)
  else
    match c.processContextFreeMsg t with
    | (c, some e) => (c, .exit (some e))
    | (c, none) => (c, .next ())

/-- `startTLS`: the 8-byte SSL request, then the server's one-byte answer. -/
def startTLS (env : Env) (c : Conn) : Conn × Option Error :=
  match c.write (be32 8 ++ be32 80877103) with
  | (some e, c) => (c, some e)
  | (none, c) =>
    match env.sslReply with
    | .error e => (c, some (.io e))
    | .ok b =>
      if b ≠ 83 then (c, some (.new (ascii "Could not use TLS")))  -- 'S'
      else ({ c with conn := { c.conn with tls := true } }, none)

theorem startTLS_conn (env : Env) (c : Conn) : ∃ t, (startTLS env c).1 = { c with conn := t } := by
  unfold startTLS
  rcases hw : c.write (be32 8 ++ be32 80877103) with ⟨_ | e, c₁⟩
  all_goals obtain rfl : c₁ = { c with conn := _ } := (congrArg Prod.snd hw).symm
  · dsimp only
    split
    · exact ⟨_, rfl⟩
    · split_ifs <;> exact ⟨_, rfl⟩
  · exact ⟨_, rfl⟩

end Connect

end Conn

open Conn in
/-- `Connect`. A bare `return` runs the deferred cleanup, which closes the socket; `return nil, err`
sets `c = nil`, and the cleanup does nothing. -/
def connect (lib : Lib) (env : Env) (config : ConnConfig) (inbox : List Inbound) :
    Connected × List Inbound :=
  match (if config.user = [] then env.currentUser else .ok config.user) with
  | .error e => (⟨none, some e, none⟩, inbox)
  | .ok user =>
    let config := { config with user := user, port := if config.port = 0 then 5432 else config.port }
    let network :=
      if env.pathExists config.host then
        .unix (if ascii "/.s.PGSQL." <:+: config.host then config.host
          else env.joinPath config.host (ascii ".s.PGSQL.") ++ decimal config.port.toNat)
      else .tcp (config.host ++ ascii ":" ++ decimal config.port.toNat)
    match env.dial network with
    | .error e => (⟨none, some e, none⟩, inbox)
    | .ok t =>
      let c : Conn := { conn := t, config := config, alive := true }
      let cleanup (c : Conn) (e : Error) : Connected × List Inbound :=
        let c := { c with conn := c.conn.close, alive := false }
        (⟨some c, some e, some c.conn⟩, inbox)
      match (if config.tlsConfig then startTLS env c else (c, none)) with
      | (c, some e) => cleanup c e
      | (c, none) =>
        let options := [(ascii "user", config.user)] ++
          (if config.database = [] then [] else [(ascii "database", config.database)])
        match c.write (startupMessage (env.mapOrder options)) with
        | (some e, c) => cleanup c e
        | (none, c) =>
          match recv (connectTurn lib) (fun _ e => some e) () c inbox with
          | (some e, c, inbox) => (⟨none, some e, some c.conn⟩, inbox)
          | (none, c, inbox) => (⟨some c, none, some c.conn⟩, inbox)

namespace Conn

open WriteBuf

/-- `Close`: a Terminate message, best effort, then the connection dies of "Closed". -/
def close (c : Conn) : Option Error × Conn :=
  if c.alive then
    let w := c.write (newWriteBuf 88).closeMsg.buf  -- 'X'
    (w.1, w.2.die (.new (ascii "Closed")))
  else (none, c)

end Conn

end Pgx

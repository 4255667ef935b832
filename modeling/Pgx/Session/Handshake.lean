import Pgx.Session.Async
import Pgx.Protocol.Startup

namespace Pgx

open Backend

/-- How the server asks the client to authenticate. -/
inductive AuthRequest where
  | ok
  | cleartextPassword
  | md5Password (salt : Bytes)
  deriving DecidableEq, Repr

/-- A startup reply that admits the client. -/
structure StartupReply where
  auth : AuthRequest
  params : List (Bytes × Bytes)
  pid : Int32
  secretKey : Int32
  status : UInt8
  deriving DecidableEq, Repr

namespace Backend

def backendKeyDataMsg (pid secretKey : Int32) : Inbound := .frame backendKeyData (be32 pid ++ be32 secretKey)

end Backend

namespace AuthRequest

/-- The authentication messages of the exchange. -/
def msgs : AuthRequest → List Inbound
  | ok => [authenticationMsg 0 []]
  | cleartextPassword => [authenticationMsg 3 [], authenticationMsg 0 []]
  | md5Password salt => [authenticationMsg 5 salt, authenticationMsg 0 []]

/-- The PasswordMessage the client answers with: none after AuthenticationOk, the password in clear,
or "md5" and the hex MD5 of the hex MD5 of password and user name followed by the salt. -/
def response (lib : Lib) (config : ConnConfig) : AuthRequest → List Bytes
  | ok => []
  | cleartextPassword => [frame 112 (cstring config.password)]
  | md5Password salt =>
    [frame 112 (cstring (ascii "md5" ++ hexMD5 lib (hexMD5 lib (config.password ++ config.user) ++ salt)))]

end AuthRequest

namespace StartupReply

def msgs (s : StartupReply) : List Inbound :=
  s.auth.msgs ++ s.params.map (fun p => parameterStatusMsg p.1 p.2) ++
    [backendKeyDataMsg s.pid s.secretKey, readyForQueryMsg s.status]

/-- Parameter names and values are C strings, and an MD5 salt has four bytes. -/
def WellFormed (s : StartupReply) : Prop :=
  (∀ p ∈ s.params, NulFree p.1 ∧ NulFree p.2) ∧ ∀ salt, s.auth = .md5Password salt → salt.length = 4

end StartupReply

namespace Conn

open WriteBuf

section Turns

variable (lib : Lib) (c : Conn)

theorem txPasswordMessage_eq (password : Bytes) :
    c.txPasswordMessage password = c.write (frame 112 (cstring password)) := by
  rw [txPasswordMessage, newWriteBuf_eq, writeCString, pending_writeBytes, pending_closeMsg]
  rfl

theorem connectTurn_authOk (rest : Bytes) :
    connectTurn lib () { c with mr := ⟨be32 0 ++ rest, none⟩ } authenticationX =
      ({ c with mr := ⟨rest, none⟩ }, .next ()) := by
  simp [connectTurn, rxAuthenticationX, backendKeyData, authenticationX]

theorem connectTurn_parameterStatus {key value : Bytes} (hk : NulFree key) (hv : NulFree value) :
    connectTurn lib () { c with mr := ⟨cstring key ++ cstring value, none⟩ } 83 =
      ({ c with runtimeParams := Function.update c.runtimeParams key (some value), mr := ⟨[], none⟩ },
        .next ()) := by
  have h := MsgReader.readCString_cstring value [] hv
  rw [List.append_nil] at h
  simp [connectTurn, processContextFreeMsg, rxParameterStatus, backendKeyData, authenticationX,
    readyForQuery, MsgReader.readCString_cstring _ _ hk, h]

theorem connectTurn_backendKeyData (pid secretKey : Int32) :
    connectTurn lib () { c with mr := ⟨be32 pid ++ be32 secretKey, none⟩ } backendKeyData =
      ({ c with pid := pid, secretKey := secretKey, mr := ⟨[], none⟩ }, .next ()) := by
  have h := MsgReader.readInt32_be32 secretKey []
  rw [List.append_nil] at h
  simp [connectTurn, rxBackendKeyData, h]

theorem connectTurn_readyForQuery (status : UInt8) :
    connectTurn lib () { c with mr := ⟨[status], none⟩ } readyForQuery =
      ({ c with txStatus := status, mr := ⟨[], none⟩ }, .exit none) := by
  simp [connectTurn, rxReadyForQuery, backendKeyData, authenticationX, readyForQuery]

/-- An ErrorResponse ends the startup loop with the server's error; a FATAL one kills the
connection first. -/
theorem connectTurn_errorResponse {fields : List (UInt8 × Bytes)} (he : MsgReader.WellFormedFields fields) :
    connectTurn lib () { c with mr := ⟨fieldsBody fields, none⟩ } errorResponse =
      (if (PgError.ofFields fields).severity = ascii "FATAL" then
          { c with mr := ⟨[], none⟩ }.die (.pg (PgError.ofFields fields))
        else { c with mr := ⟨[], none⟩ }, .exit (some (.pg (PgError.ofFields fields)))) := by
  simp [connectTurn, processContextFreeMsg,
    rxErrorResponse_ofFields (c := { c with mr := ⟨fieldsBody fields, none⟩ }) he rfl, backendKeyData,
    authenticationX, readyForQuery, errorResponse]

variable {c} (hopen : c.conn.closed = false) (hfaults : c.conn.writeFaults = [])
include hopen hfaults

theorem connectTurn_cleartext (rest : Bytes) :
    connectTurn lib () { c with mr := ⟨be32 3 ++ rest, none⟩ } authenticationX =
      ({ c with
          conn := { c.conn with writes := c.conn.writes ++ [frame 112 (cstring c.config.password)] }
          mr := ⟨rest, none⟩ }, .next ()) := by
  simp [connectTurn, rxAuthenticationX, backendKeyData, authenticationX, txPasswordMessage_eq,
    write_ok (c := { c with mr := ⟨rest, none⟩ }) hopen hfaults]

theorem connectTurn_md5 {salt : Bytes} (hsalt : salt.length = 4) :
    connectTurn lib () { c with mr := ⟨be32 5 ++ salt, none⟩ } authenticationX =
      ({ c with
          conn := { c.conn with writes := c.conn.writes ++ [frame 112 (cstring (ascii "md5" ++
            hexMD5 lib (hexMD5 lib (c.config.password ++ c.config.user) ++ salt)))] }
          mr := ⟨[], none⟩ }, .next ()) := by
  have hread : (⟨salt, none⟩ : MsgReader).readString 4 = (salt, ⟨[], none⟩) := by
    simpa using MsgReader.readString_append []
      (show (4 : Int32).toInt.toNat = salt.length by rw [hsalt]; rfl)
  simp only [connectTurn, rxAuthenticationX, MsgReader.readInt32_be32, hread,
    (by decide : authenticationX ≠ backendKeyData), (by decide : (5 : Int32) ≠ 0),
    (by decide : (5 : Int32) ≠ 3), if_false, if_true, txPasswordMessage_eq,
    write_ok (c := { c with mr := ⟨[], none⟩ }) hopen hfaults]

end Turns

section Loop

variable (lib : Lib) {c : Conn} (halive : c.alive = true)
include halive

/-- The startup loop through the authentication messages. -/
theorem recv_connect_auth (a : AuthRequest) (ha : ∀ salt, a = .md5Password salt → salt.length = 4)
    (hmr : c.mr.err = none) (hopen : c.conn.closed = false) (hfaults : c.conn.writeFaults = [])
    (rest : List Inbound) :
    recv (connectTurn lib) (fun _ e => some e) () c (a.msgs ++ rest) =
      recv (connectTurn lib) (fun _ e => some e) ()
        { c with
          conn := { c.conn with writes := c.conn.writes ++ a.response lib c.config }
          mr := ⟨[], none⟩ } rest := by
  have hc := refuse_eq_none halive hmr
  cases a with
  | ok =>
    rw [show AuthRequest.ok.msgs ++ rest = .frame authenticationX (be32 0 ++ []) :: rest from rfl,
      recv_frame _ _ hc, connectTurn_authOk]
    simp [AuthRequest.response]
  | cleartextPassword =>
    rw [show AuthRequest.cleartextPassword.msgs ++ rest =
        .frame authenticationX (be32 3 ++ []) :: .frame authenticationX (be32 0 ++ []) :: rest from rfl,
      recv_frame _ _ hc, connectTurn_cleartext lib hopen hfaults]
    dsimp only
    rw [recv_frame _ _ (refuse_eq_none (c := { c with conn := _, mr := ⟨[], none⟩ }) halive rfl),
      connectTurn_authOk]
    rfl
  | md5Password salt =>
    rw [show (AuthRequest.md5Password salt).msgs ++ rest =
        .frame authenticationX (be32 5 ++ salt) :: .frame authenticationX (be32 0 ++ []) :: rest from rfl,
      recv_frame _ _ hc, connectTurn_md5 lib hopen hfaults (ha salt rfl)]
    dsimp only
    rw [recv_frame _ _ (refuse_eq_none (c := { c with conn := _, mr := ⟨[], none⟩ }) halive rfl),
      connectTurn_authOk]
    rfl

/-- The startup loop through ParameterStatus messages: each sets its parameter, in order. -/
theorem recv_connect_params (params : List (Bytes × Bytes))
    (hp : ∀ p ∈ params, NulFree p.1 ∧ NulFree p.2) (hmr : c.mr = ⟨[], none⟩) (rest : List Inbound) :
    recv (connectTurn lib) (fun _ e => some e) () c
        (params.map (fun p => parameterStatusMsg p.1 p.2) ++ rest) =
      recv (connectTurn lib) (fun _ e => some e) ()
        { c with runtimeParams := setParams c.runtimeParams params } rest := by
  induction params generalizing c with
  | nil => rfl
  | cons p ps ih =>
    obtain ⟨hk, hv⟩ := hp p (List.mem_cons_self p ps)
    rw [List.map_cons, List.cons_append, parameterStatusMsg,
      recv_frame _ _ (refuse_eq_none halive (by rw [hmr])), connectTurn_parameterStatus lib c hk hv]
    dsimp only
    rw [ih (c := { c with runtimeParams := _, mr := ⟨[], none⟩ }) halive
      (fun q hq => hp q (List.mem_cons_of_mem p hq)) rfl]
    cases c
    cases hmr
    rfl

/-- The startup loop through the authentication exchange and the ParameterStatus messages. -/
theorem recv_connect_opening (a : AuthRequest) (ha : ∀ salt, a = .md5Password salt → salt.length = 4)
    (params : List (Bytes × Bytes)) (hp : ∀ p ∈ params, NulFree p.1 ∧ NulFree p.2)
    (hmr : c.mr.err = none) (hopen : c.conn.closed = false) (hfaults : c.conn.writeFaults = [])
    (rest : List Inbound) :
    recv (connectTurn lib) (fun _ e => some e) () c
        (a.msgs ++ params.map (fun p => parameterStatusMsg p.1 p.2) ++ rest) =
      recv (connectTurn lib) (fun _ e => some e) ()
        { c with
          conn := { c.conn with writes := c.conn.writes ++ a.response lib c.config }
          runtimeParams := setParams c.runtimeParams params
          mr := ⟨[], none⟩ } rest := by
  rw [List.append_assoc, recv_connect_auth lib halive a ha hmr hopen hfaults,
    recv_connect_params lib (c := { c with conn := _, mr := ⟨[], none⟩ }) halive _ hp rfl]

/-- The startup loop through the authentication and parameters, then an ErrorResponse: it leaves with
the server's error exactly after it, the connection killed if the error is FATAL. -/
theorem recv_connect_rejected (a : AuthRequest) (ha : ∀ salt, a = .md5Password salt → salt.length = 4)
    (params : List (Bytes × Bytes)) (hp : ∀ p ∈ params, NulFree p.1 ∧ NulFree p.2)
    {fields : List (UInt8 × Bytes)} (he : MsgReader.WellFormedFields fields) (hmr : c.mr.err = none)
    (hopen : c.conn.closed = false) (hfaults : c.conn.writeFaults = []) (rest : List Inbound) :
    recv (connectTurn lib) (fun _ e => some e) () c
        (a.msgs ++ params.map (fun p => parameterStatusMsg p.1 p.2) ++ errorFieldsMsg fields :: rest) =
      (some (.pg (PgError.ofFields fields)),
        let c' : Conn :=
          { c with
            conn := { c.conn with writes := c.conn.writes ++ a.response lib c.config }
            runtimeParams := setParams c.runtimeParams params
            mr := ⟨[], none⟩ }
        if (PgError.ofFields fields).severity = ascii "FATAL" then c'.die (.pg (PgError.ofFields fields))
        else c', rest) := by
  rw [recv_connect_opening lib halive a ha params hp hmr hopen hfaults, errorFieldsMsg,
    recv_frame _ _ (refuse_eq_none (c := { c with conn := _, runtimeParams := _, mr := ⟨[], none⟩ })
      halive rfl),
    connectTurn_errorResponse lib _ he]

/-- The startup loop through a reply that admits the client: it answers the authentication request,
records the parameters, the key and the status, and leaves exactly after ReadyForQuery. -/
theorem recv_connect_reply (s : StartupReply) (hs : s.WellFormed) (hmr : c.mr.err = none)
    (hopen : c.conn.closed = false) (hfaults : c.conn.writeFaults = []) (rest : List Inbound) :
    recv (connectTurn lib) (fun _ e => some e) () c (s.msgs ++ rest) =
      (none,
        { c with
          conn := { c.conn with writes := c.conn.writes ++ s.auth.response lib c.config }
          pid := s.pid
          secretKey := s.secretKey
          runtimeParams := setParams c.runtimeParams s.params
          txStatus := s.status
          mr := ⟨[], none⟩ }, rest) := by
  rw [StartupReply.msgs, List.append_assoc, recv_connect_opening lib halive _ hs.2 _ hs.1 hmr hopen hfaults,
    show [backendKeyDataMsg s.pid s.secretKey, readyForQueryMsg s.status] ++ rest =
      .frame backendKeyData (be32 s.pid ++ be32 s.secretKey) :: .frame readyForQuery [s.status] :: rest
      from rfl,
    recv_frame _ _ (refuse_eq_none (c := { c with conn := _, runtimeParams := _, mr := ⟨[], none⟩ }) halive rfl),
    connectTurn_backendKeyData]
  dsimp only
  rw [recv_frame _ _ (refuse_eq_none
      (c := { c with conn := _, pid := _, secretKey := _, runtimeParams := _, mr := ⟨[], none⟩ }) halive rfl),
    connectTurn_readyForQuery]

end Loop

/-- The TLS handshake on a socket that takes every write, with a server that answers 'S'. -/
theorem startTLS_accepted (env : Env) {c : Conn} (hopen : c.conn.closed = false)
    (hfaults : c.conn.writeFaults = []) (hssl : env.sslReply = .ok 83) :
    startTLS env c = ({ c with conn :=
      { c.conn with writes := c.conn.writes ++ [be32 8 ++ be32 80877103], tls := true } }, none) := by
  simp [startTLS, write_ok hopen hfaults, hssl]

end Conn

/-- The configuration `Connect` works with: the user it settled on, and port 5432 for port 0. -/
def ConnConfig.resolve (config : ConnConfig) (user : Bytes) : ConnConfig :=
  { config with user := user, port := if config.port = 0 then 5432 else config.port }

/-- The `network` `Connect` dials for its configuration. -/
def dialNetwork (env : Env) (config : ConnConfig) : Network :=
  if env.pathExists config.host then
    .unix (if ascii "/.s.PGSQL." <:+: config.host then config.host
      else env.joinPath config.host (ascii ".s.PGSQL.") ++ decimal config.port.toNat)
  else .tcp (config.host ++ ascii ":" ++ decimal config.port.toNat)

/-- The options of the startup message: the user, and the database if one is given. -/
def startupOptions (config : ConnConfig) : List (Bytes × Bytes) :=
  [(ascii "user", config.user)] ++ (if config.database = [] then [] else [(ascii "database", config.database)])

/-- `Connect` against a server that admits the client returns a live connection with the server's key,
status and parameters, having written its requests and read exactly the reply. -/
theorem connect_admitted (lib : Lib) (env : Env) (config : ConnConfig) (user : Bytes) (t : Transport)
    (s : StartupReply) (rest : List Inbound)
    (huser : (if config.user = [] then env.currentUser else .ok config.user) = .ok user)
    (hdial : env.dial (dialNetwork env (config.resolve user)) = .ok t)
    (hopen : t.closed = false) (hfaults : t.writeFaults = [])
    (htls : config.tlsConfig = true → env.sslReply = .ok 83) (hs : s.WellFormed) :
    let c' : Conn :=
      { conn :=
          { t with
            tls := config.tlsConfig || t.tls
            writes := t.writes ++ (if config.tlsConfig then [be32 8 ++ be32 80877103] else []) ++
              startupMessage (env.mapOrder (startupOptions (config.resolve user))) ::
                s.auth.response lib (config.resolve user) }
        pid := s.pid
        secretKey := s.secretKey
        runtimeParams := setParams (fun _ => none) s.params
        config := config.resolve user
        txStatus := s.status
        alive := true }
    connect lib env config (s.msgs ++ rest) = (⟨some c', none, some c'.conn⟩, rest) := by
  intro c'
  simp only [dialNetwork, ConnConfig.resolve] at hdial
  cases htc : config.tlsConfig
  · simp only [connect, huser, hdial, htc, Bool.false_eq_true, if_false]
    rw [Conn.write_ok (c := { conn := t, config := _, alive := true }) hopen hfaults]
    dsimp only
    rw [Conn.recv_connect_reply lib ?_ s hs ?_ hopen hfaults]
    · simp [c', ConnConfig.resolve, startupOptions, htc]
    all_goals rfl
  · simp only [connect, huser, hdial, htc, if_true]
    rw [Conn.startTLS_accepted env ?_ ?_ (htls htc)]
    dsimp only
    rw [Conn.write_ok ?_ ?_]
    dsimp only
    rw [Conn.recv_connect_reply lib ?_ s hs ?_ ?_ ?_]
    · simp [c', ConnConfig.resolve, startupOptions, htc]
    all_goals first | rfl | assumption

/-- A server on `localhost` that asks for an MD5 password with the salt 1 2 3 4. -/
theorem connect_md5_admitted :
    let env : Env :=
      { currentUser := .ok (ascii "postgres"), pathExists := fun _ => false,
        dial := fun _ => .ok {}, joinPath := fun a b => a ++ b, sslReply := .ok 78 }
    let config : ConnConfig := { host := ascii "localhost", password := ascii "secret" }
    let s : StartupReply := ⟨.md5Password [1, 2, 3, 4], [(ascii "TimeZone", ascii "UTC")], 7, 9, 73⟩
    ((if config.user = [] then env.currentUser else .ok config.user) = .ok (ascii "postgres") ∧
      env.dial (dialNetwork env (config.resolve (ascii "postgres"))) = .ok {} ∧
      ({} : Transport).closed = false ∧ ({} : Transport).writeFaults = [] ∧
      (config.tlsConfig = true → env.sslReply = .ok 83) ∧ s.WellFormed) ∧
    let t' : Transport :=
      { ({} : Transport) with
        tls := config.tlsConfig || ({} : Transport).tls
        writes := ({} : Transport).writes ++ (if config.tlsConfig then [be32 8 ++ be32 80877103] else []) ++
          startupMessage (env.mapOrder (startupOptions (config.resolve (ascii "postgres")))) ::
            s.auth.response exampleLib (config.resolve (ascii "postgres")) }
    let c' : Conn :=
      { conn := t'
        pid := s.pid
        secretKey := s.secretKey
        runtimeParams := setParams (fun _ => none) s.params
        config := config.resolve (ascii "postgres")
        txStatus := s.status
        alive := true }
    connect exampleLib env config (s.msgs ++ []) = (⟨some c', none, some c'.conn⟩, []) :=
  ⟨⟨rfl, rfl, rfl, rfl, nofun, ⟨by decide, fun _ h => by cases h; rfl⟩⟩,
    connect_admitted exampleLib _ _ _ {} _ [] rfl rfl rfl rfl nofun ⟨by decide, fun _ h => by cases h; rfl⟩⟩

/-- `Connect` rejected by an ErrorResponse after the authentication returns the server's error and
no connection, reading exactly through it; the socket is closed exactly when the error is FATAL. -/
theorem connect_rejected (lib : Lib) (env : Env) (config : ConnConfig) (user : Bytes) (t : Transport)
    (a : AuthRequest) (params : List (Bytes × Bytes)) (fields : List (UInt8 × Bytes)) (rest : List Inbound)
    (huser : (if config.user = [] then env.currentUser else .ok config.user) = .ok user)
    (hdial : env.dial (dialNetwork env (config.resolve user)) = .ok t)
    (hopen : t.closed = false) (hfaults : t.writeFaults = [])
    (htls : config.tlsConfig = true → env.sslReply = .ok 83)
    (ha : ∀ salt, a = .md5Password salt → salt.length = 4)
    (hp : ∀ p ∈ params, NulFree p.1 ∧ NulFree p.2) (he : MsgReader.WellFormedFields fields) :
    let r := connect lib env config
      (a.msgs ++ params.map (fun p => parameterStatusMsg p.1 p.2) ++ errorFieldsMsg fields :: rest)
    r.1.conn = none ∧ r.1.err = some (.pg (PgError.ofFields fields)) ∧ r.2 = rest ∧
      ∃ s, r.1.socket = some s ∧ (s.closed = true ↔ (PgError.ofFields fields).severity = ascii "FATAL") := by
  intro r
  simp only [dialNetwork, ConnConfig.resolve] at hdial
  have hclosed (c : Conn) (hc : c.conn.closed = false) :
      (if (PgError.ofFields fields).severity = ascii "FATAL" then c.die (.pg (PgError.ofFields fields))
        else c).conn.closed = true ↔ (PgError.ofFields fields).severity = ascii "FATAL" := by
    split_ifs with hf <;> simp [hf, hc]
  cases htc : config.tlsConfig
  · simp only [r, connect, huser, hdial, htc, Bool.false_eq_true, if_false]
    rw [Conn.write_ok (c := { conn := t, config := _, alive := true }) hopen hfaults]
    dsimp only
    rw [Conn.recv_connect_rejected lib ?_ a ha params hp he ?_ hopen hfaults]
    · exact ⟨rfl, rfl, rfl, _, rfl, hclosed _ hopen⟩
    all_goals rfl
  · simp only [r, connect, huser, hdial, htc, if_true]
    rw [Conn.startTLS_accepted env ?_ ?_ (htls htc)]
    dsimp only
    rw [Conn.write_ok ?_ ?_]
    dsimp only
    rw [Conn.recv_connect_rejected lib ?_ a ha params hp he ?_ ?_ ?_]
    · exact ⟨rfl, rfl, rfl, _, rfl, hclosed _ hopen⟩
    all_goals first | rfl | assumption

open Backend in
/-- A cleartext password refused with a FATAL error carrying the fields a server sends. -/
theorem connect_password_refused :
    let env : Env :=
      { currentUser := .ok (ascii "postgres"), pathExists := fun _ => false,
        dial := fun _ => .ok {}, joinPath := fun a b => a ++ b, sslReply := .ok 78 }
    let config : ConnConfig := { host := ascii "localhost", password := ascii "wrong" }
    let fields : List (UInt8 × Bytes) := [(83, ascii "FATAL"), (86, ascii "FATAL"), (67, ascii "28P01"),
      (77, ascii "password authentication failed for user postgres"), (70, ascii "auth.c"),
      (76, ascii "335"), (82, ascii "auth_failed")]
    ((if config.user = [] then env.currentUser else .ok config.user) = .ok (ascii "postgres") ∧
      env.dial (dialNetwork env (config.resolve (ascii "postgres"))) = .ok {} ∧
      ({} : Transport).closed = false ∧ ({} : Transport).writeFaults = [] ∧
      (config.tlsConfig = true → env.sslReply = .ok 83) ∧
      (∀ salt, AuthRequest.cleartextPassword = .md5Password salt → salt.length = 4) ∧
      (∀ p ∈ ([] : List (Bytes × Bytes)), NulFree p.1 ∧ NulFree p.2) ∧ MsgReader.WellFormedFields fields) ∧
    let r := connect exampleLib env config
      (AuthRequest.cleartextPassword.msgs ++ ([] : List (Bytes × Bytes)).map
        (fun p => parameterStatusMsg p.1 p.2) ++ errorFieldsMsg fields :: [])
    r.1.conn = none ∧ r.1.err = some (.pg (PgError.ofFields fields)) ∧ r.2 = [] ∧
      ∃ s, r.1.socket = some s ∧ (s.closed = true ↔ (PgError.ofFields fields).severity = ascii "FATAL") :=
  ⟨⟨rfl, rfl, rfl, rfl, nofun, nofun, nofun, by decide⟩,
    connect_rejected exampleLib _ _ _ {} _ _ _ [] rfl rfl rfl rfl nofun nofun nofun (by decide)⟩

end Pgx

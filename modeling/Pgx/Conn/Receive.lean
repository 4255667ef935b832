import Pgx.Conn.State

namespace Pgx

namespace MsgReader

/-- `n` reads of `read` in a row, as the loops of `rxRowDescription` and
`rxParameterDescription` do. -/
def readN (read : MsgReader → α × MsgReader) : Nat → MsgReader → List α × MsgReader
  | 0, r => ([], r)
  | n+1, r => ((read r).1 :: (readN read n (read r).2).1, (readN read n (read r).2).2)

/-- One field of a RowDescription, in the order `rxRowDescription` reads it. -/
def readField (r : MsgReader) : FieldDescription × MsgReader :=
  let (name, r) := r.readCString
  let (table, r) := r.readOid
  let (attributeNumber, r) := r.readInt16
  let (dataType, r) := r.readOid
  let (dataTypeSize, r) := r.readInt16
  let (modifier, r) := r.readInt32
  let (formatCode, r) := r.readInt16
  (⟨name, table, attributeNumber, dataType, dataTypeSize, modifier, formatCode⟩, r)

/-- The loop of `rxErrorResponse` over an ErrorResponse's fields. A turn reads a byte or meets the
reader's error, so fuel one more than the body's length is never used up. -/
def errorFields : Nat → PgError → MsgReader → PgError × MsgReader
  | 0, e, r => (e, r)
  | fuel+1, e, r =>
    let (code, r) := r.readByte
    if code = 83 then errorFields fuel { e with severity := r.readCString.1 } r.readCString.2
    else if code = 67 then errorFields fuel { e with code := r.readCString.1 } r.readCString.2
    else if code = 77 then errorFields fuel { e with message := r.readCString.1 } r.readCString.2
    else if code = 0 then (e, r)
    else errorFields fuel e r.readCString.2

end MsgReader

namespace Conn

/-- When `c.rxMsg()` fails before it reads: on a dead connection, and when the reader has recorded
an error, which it returns and the connection dies of. -/
def refuse (c : Conn) : Option (Error × Conn) :=
  if c.alive then c.mr.err.map fun e => (e, c.die e) else some (DeadConnError, c)

theorem refuse_eq_none {c : Conn} (halive : c.alive = true) (hmr : c.mr.err = none) :
    c.refuse = none := by
  simp [refuse, halive, hmr]

/-- `c.rxMsg()`: the type of the next frame, whose body the reader `c.mr` then holds, or the
error, which kills a live connection. -/
def rxMsg (c : Conn) (inbox : List Inbound) : Except Error UInt8 × Conn × List Inbound :=
  match c.refuse with
  | some (e, c') => (.error e, c', inbox)
  | none =>
    match inbox with
    | [] => (.error (.io .eof), c.die (.io .eof), [])
    | .fail e :: rest => (.error (.io e), c.die (.io e), rest)
    | .frame t b :: rest => (.ok t, { c with mr := ⟨b, none⟩ }, rest)

/-- What one turn of a receive loop does after a frame: go round again, or leave the loop. -/
inductive Turn (σ ρ : Type) where
  | next (s : σ)
  | exit (r : ρ)

/-- A receive loop, `for { t, r, err := c.rxMsg(); ..; switch t {..} }`, with state `σ`: `body` is the
switch, `fail` what the loop returns when `rxMsg` fails. -/
def recv (body : σ → Conn → UInt8 → Conn × Turn σ ρ) (fail : σ → Error → ρ) :
    σ → Conn → List Inbound → ρ × Conn × List Inbound
  | s, c, inbox =>
    match c.refuse with
    | some (e, c') => (fail s e, c', inbox)
    | none =>
      match inbox with
      | [] => (fail s (.io .eof), c.die (.io .eof), [])
      | .fail e :: rest => (fail s (.io e), c.die (.io e), rest)
      | .frame t b :: rest =>
        match body s { c with mr := ⟨b, none⟩ } t with
        | (c', .exit r) => (r, c', rest)
        | (c', .next s') => recv body fail s' c' rest

section Recv

variable {σ ρ : Type} (body : σ → Conn → UInt8 → Conn × Turn σ ρ) (fail : σ → Error → ρ)

theorem recv_refuse {s : σ} {c c' : Conn} {e : Error} (h : c.refuse = some (e, c'))
    (inbox : List Inbound) : recv body fail s c inbox = (fail s e, c', inbox) := by
  rcases inbox with _ | ⟨_ | _, rest⟩ <;> rw [recv, h]

theorem recv_frame {s : σ} {c : Conn} (h : c.refuse = none) (t : UInt8) (b : Bytes)
    (rest : List Inbound) :
    recv body fail s c (.frame t b :: rest) =
      match body s { c with mr := ⟨b, none⟩ } t with
      | (c', .exit r) => (r, c', rest)
      | (c', .next s') => recv body fail s' c' rest := by
  rw [recv, h]

theorem recv_fail {s : σ} {c : Conn} (h : c.refuse = none) (e : IOError) (rest : List Inbound) :
    recv body fail s c (.fail e :: rest) = (fail s (.io e), c.die (.io e), rest) := by
  rw [recv, h]

theorem recv_nil {s : σ} {c : Conn} (h : c.refuse = none) :
    recv body fail s c [] = (fail s (.io .eof), c.die (.io .eof), []) := by
  rw [recv, h]

/-- A receive loop is `rxMsg` followed by the switch. -/
theorem recv_eq (s : σ) (c : Conn) (inbox : List Inbound) :
    recv body fail s c inbox =
      match c.rxMsg inbox with
      | (.error e, c', rest) => (fail s e, c', rest)
      | (.ok t, c', rest) =>
        match body s c' t with
        | (c'', .exit r) => (r, c'', rest)
        | (c'', .next s') => recv body fail s' c'' rest := by
  rcases h : c.refuse with _ | ⟨e, c'⟩
  · rcases inbox with _ | ⟨_ | _, rest⟩ <;> simp only [recv, rxMsg, h]
  · simp only [recv_refuse body fail h, rxMsg, h]

end Recv

@[simps] def rxReadyForQuery (c : Conn) : Conn :=
  { c with txStatus := c.mr.readByte.1, mr := c.mr.readByte.2 }

/-- A ReadyForQuery body is its status byte. -/
theorem rxReadyForQuery_status {c : Conn} {status : UInt8} (h : c.mr = ⟨[status], none⟩) :
    c.rxReadyForQuery = { c with txStatus := status, mr := ⟨[], none⟩ } := by
  simp [rxReadyForQuery, h, MsgReader.readByte, MsgReader.next]

@[simps] def rxBackendKeyData (c : Conn) : Conn :=
  { c with pid := c.mr.readInt32.1, secretKey := c.mr.readInt32.2.readInt32.1,
           mr := c.mr.readInt32.2.readInt32.2 }

@[simps] def rxParameterStatus (c : Conn) : Conn :=
  let key := c.mr.readCString
  let value := key.2.readCString
  { c with runtimeParams := Function.update c.runtimeParams key.1 (some value.1), mr := value.2 }

@[simps] def rxNotificationResponse (c : Conn) : Conn :=
  let pid := c.mr.readInt32
  let channel := pid.2.readCString
  let payload := channel.2.readCString
  { c with notifications := c.notifications ++ [⟨pid.1, channel.1, payload.1⟩], mr := payload.2 }

/-- `rxErrorResponse`: the error and the connection, which has died of it if it is FATAL. -/
def rxErrorResponse (c : Conn) : PgError × Conn :=
  let (e, r) := MsgReader.errorFields (c.mr.body.length + 1) {} c.mr
  (e, if e.severity = ascii "FATAL" then { c with mr := r }.die (.pg e) else { c with mr := r })

/-- `rxErrorResponse` touches only the reader, and the liveness and socket of a FATAL error. -/
theorem rxErrorResponse_frame (c : Conn) :
    c.rxErrorResponse.2.qr = c.qr ∧ c.rxErrorResponse.2.released = c.released ∧
      c.rxErrorResponse.2.runtimeParams = c.runtimeParams ∧
      c.rxErrorResponse.2.notifications = c.notifications ∧
      c.rxErrorResponse.2.preparedStatements = c.preparedStatements ∧
      c.rxErrorResponse.2.conn.writes = c.conn.writes := by
  unfold rxErrorResponse
  split
  split <;> exact ⟨rfl, rfl, rfl, rfl, rfl, rfl⟩

def rxRowDescription (c : Conn) : Except Panic (List FieldDescription × Conn) :=
  let (fieldCount, r) := c.mr.readInt16
  if fieldCount.toInt < 0 then .error .makeSlice
  else
    let (fields, r) := MsgReader.readN MsgReader.readField fieldCount.toNat r
    .ok (fields, { c with mr := r })

def rxParameterDescription (c : Conn) : Except Panic (List Oid × Conn) :=
  let (parameterCount, r) := c.mr.readInt16
  if parameterCount.toInt < 0 then .error .makeSlice
  else
    let (parameters, r) := MsgReader.readN MsgReader.readOid parameterCount.toNat r
    .ok (parameters, { c with mr := r })

theorem rxRowDescription_ok {c c' : Conn} {fds : List FieldDescription}
    (h : c.rxRowDescription = .ok (fds, c')) : ∃ r, c' = { c with mr := r } := by
  unfold rxRowDescription at h
  split at h
  split_ifs at h
  split at h
  cases h
  exact ⟨_, rfl⟩

theorem rxParameterDescription_ok {c c' : Conn} {oids : List Oid}
    (h : c.rxParameterDescription = .ok (oids, c')) : ∃ r, c' = { c with mr := r } := by
  unfold rxParameterDescription at h
  split at h
  split_ifs at h
  split at h
  cases h
  exact ⟨_, rfl⟩

/-- A negative count makes `make` panic. -/
theorem rxRowDescription_negative {c : Conn} (h : c.mr.readInt16.1.toInt < 0) :
    c.rxRowDescription = .error .makeSlice := by
  unfold rxRowDescription
  split
  rename_i heq
  rw [heq] at h
  simp [h]

theorem rxParameterDescription_negative {c : Conn} (h : c.mr.readInt16.1.toInt < 0) :
    c.rxParameterDescription = .error .makeSlice := by
  unfold rxParameterDescription
  split
  rename_i heq
  rw [heq] at h
  simp [h]

/-- `processContextFreeMsg`: the messages handled the same way in every receive loop. -/
def processContextFreeMsg (c : Conn) (t : UInt8) : Conn × Option Error :=
  if t = 83 then (c.rxParameterStatus, none)  -- 'S'
  else if t = errorResponse then (c.rxErrorResponse.2, some (.pg c.rxErrorResponse.1))
  else if t = noticeResponse then (c, none)
  else if t = notificationResponse then (c.rxNotificationResponse, none)
  else (c, some (.new (ascii "Received unknown message type: " ++ utf8Char t)))

/-- The context-free messages leave the cursor and its release record alone. -/
theorem processContextFreeMsg_cursor (c : Conn) (t : UInt8) :
    (c.processContextFreeMsg t).1.qr = c.qr ∧ (c.processContextFreeMsg t).1.released = c.released := by
  obtain ⟨hq, hr, -⟩ := c.rxErrorResponse_frame
  unfold processContextFreeMsg
  split_ifs
  · exact ⟨rfl, rfl⟩
  · exact ⟨hq, hr⟩
  all_goals exact ⟨rfl, rfl⟩

end Conn

end Pgx

import Pgx.Conn.Send

namespace Pgx

/-- The result columns `Prepare` asks for in binary: columns of the intrinsic binary types, and
dates and timestamps. Other columns keep the format code the server described. -/
def describedFormat (fd : FieldDescription) : FieldDescription :=
  if fd.dataType ∈ binaryOids ++ [dateOid, timestampTzOid] then
    { fd with formatCode := binaryFormatCode }
  else fd

namespace Conn

open WriteBuf

/-- The switch of `Exec`'s loop, whose state is the command tag and the first soft error. -/
def execTurn (st : CommandTag × Option Error) (c : Conn) (t : UInt8) :
    Conn × Turn (CommandTag × Option Error) (CommandTag × Option Error) :=
  if t = readyForQuery then (c.rxReadyForQuery, .exit st)
  else if t = rowDescription ∨ t = dataRow ∨ t = bindComplete then (c, .next st)
  else if t = commandComplete then
    ({ c with mr := c.mr.readCString.2 }, .next (c.mr.readCString.1, st.2))
  else ((c.processContextFreeMsg t).1, .next (st.1, firstErr st.2 (c.processContextFreeMsg t).2))

section Ops

variable (lib : Lib)

def exec (c : Conn) (sql : Bytes) (args : List Arg) (inbox : List Inbound) :
    (CommandTag × Option Error) × Conn × List Inbound :=
  match sendQuery lib c sql args with
  | (some e, c) => (([], some e), c, inbox)
  | (none, c) => recv execTurn (fun st e => (st.1, some e)) ([], none) c inbox

/-- The switch of `Prepare`'s loop, whose state is the statement built so far and the first soft
error. -/
def prepareTurn (name : Bytes) (st : PreparedStatement × Option Error) (c : Conn) (t : UInt8) :
    Conn × Turn (PreparedStatement × Option Error)
      (Except Panic (Option PreparedStatement × Option Error)) :=
  if t = parseComplete then (c, .next st)
  else if t = parameterDescription then
    match c.rxParameterDescription with
    | .error p => (c, .exit (.error p))
    | .ok (oids, c) => (c, .next ({ st.1 with parameterOids := oids }, st.2))
  else if t = rowDescription then
    match c.rxRowDescription with
    | .error p => (c, .exit (.error p))
    | .ok (fds, c) => (c, .next ({ st.1 with fieldDescriptions := fds.map describedFormat }, st.2))
  else if t = noData then (c, .next st)
  else if t = readyForQuery then
    ({ c.rxReadyForQuery with
        preparedStatements := Function.update c.preparedStatements name (some st.1) },
      .exit (.ok (some st.1, st.2)))
  else ((c.processContextFreeMsg t).1, .next (st.1, firstErr st.2 (c.processContextFreeMsg t).2))

section PrepareTurns

variable (name : Bytes) (st : PreparedStatement × Option Error) (c : Conn)

theorem prepareTurn_parseComplete : prepareTurn name st c parseComplete = (c, .next st) := rfl

theorem prepareTurn_noData : prepareTurn name st c noData = (c, .next st) := rfl

theorem prepareTurn_parameterDescription :
    prepareTurn name st c parameterDescription = match c.rxParameterDescription with
      | .error p => (c, .exit (.error p))
      | .ok (oids, c) => (c, .next ({ st.1 with parameterOids := oids }, st.2)) := rfl

theorem prepareTurn_rowDescription :
    prepareTurn name st c rowDescription = match c.rxRowDescription with
      | .error p => (c, .exit (.error p))
      | .ok (fds, c) => (c, .next ({ st.1 with fieldDescriptions := fds.map describedFormat }, st.2)) :=
  rfl

theorem prepareTurn_readyForQuery :
    prepareTurn name st c readyForQuery =
      ({ c.rxReadyForQuery with
          preparedStatements := Function.update c.preparedStatements name (some st.1) },
        .exit (.ok (some st.1, st.2))) := rfl

/-- Every other message goes to `processContextFreeMsg`, whose first error is kept. -/
theorem prepareTurn_context {t : UInt8}
    (ht : t ≠ parseComplete ∧ t ≠ parameterDescription ∧ t ≠ rowDescription ∧ t ≠ noData ∧
      t ≠ readyForQuery) :
    prepareTurn name st c t = ((c.processContextFreeMsg t).1,
      .next (st.1, firstErr st.2 (c.processContextFreeMsg t).2)) := by
  simp only [prepareTurn, ht, if_false]

end PrepareTurns

/-- The Parse, Describe and Sync messages `Prepare` writes. -/
def prepareBuf (name sql : Bytes) : Bytes :=
  let w := (((newWriteBuf 80).writeCString name).writeCString sql).writeInt16 0  -- 'P'
  let w := ((w.startMsg 68).writeByte 83).writeCString name  -- 'D', 'S'
  (w.startMsg 83).closeMsg.buf  -- 'S'

def prepare (c : Conn) (name sql : Bytes) (inbox : List Inbound) :
    Except Panic (Option PreparedStatement × Option Error) × Conn × List Inbound :=
  match c.write (prepareBuf name sql) with
  | (some e, c) => (.ok (none, some e), c, inbox)
  | (none, c) => recv (prepareTurn name) (fun _ e => .ok (none, some e)) ({ name := name }, none) c inbox

def deallocate (c : Conn) (name : Bytes) (inbox : List Inbound) : Option Error × Conn × List Inbound :=
  let r := exec lib { c with preparedStatements := Function.update c.preparedStatements name none }
    (ascii "deallocate " ++ lib.quoteIdentifier name) [] inbox
  (r.1.2, r.2)

def listen (c : Conn) (channel : Bytes) (inbox : List Inbound) : Option Error × Conn × List Inbound :=
  let r := exec lib c (ascii "listen " ++ channel) [] inbox
  (r.1.2, r.2)

/-- `transaction(isoLevel, f)`; the body `f` is caller code run on the connection. The result is
`committed` and the error. -/
def transaction (c : Conn) (isoLevel : Bytes)
    (f : Conn → List Inbound → Bool × Conn × List Inbound) (inbox : List Inbound) :
    (Bool × Option Error) × Conn × List Inbound :=
  let beginSql := if isoLevel = [] then ascii "begin" else ascii "begin isolation level " ++ isoLevel
  match exec lib c beginSql [] inbox with
  | ((_, some e), c, inbox) => ((false, some e), c, inbox)
  | ((_, none), c, inbox) =>
    let (committed, c, inbox) := f c inbox
    if committed ∧ c.txStatus = 84 then  -- 'T'
      let ((_, err), c, inbox) := exec lib c (ascii "commit") [] inbox
      ((err.isNone, err), c, inbox)
    else
      let ((_, err), c, inbox) := exec lib c (ascii "rollback") [] inbox
      ((false, err), c, inbox)

end Ops

end Conn

end Pgx

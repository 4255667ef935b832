import Pgx.Protocol.Drain

namespace Pgx

open Backend

namespace Conn

/-- `Prepare` caches the statement even when the server rejects its Parse: it returns the error, yet
the cache now maps `name` to a statement the server does not have. -/
theorem prepare_caches_rejected (c : Conn) (name sql : Bytes) (e : PgError) (status : UInt8)
    (rest : List Inbound) (halive : c.alive = true) (hmr : c.mr.err = none)
    (hopen : c.conn.closed = false) (hfaults : c.conn.writeFaults = []) (he : e.WellFormed)
    (hs : e.severity ≠ ascii "FATAL") :
    let r := prepare c name sql (errorResponseMsg e :: readyForQueryMsg status :: rest)
    r.1 = .ok (some { name := name }, some (.pg e)) ∧
      r.2.1.preparedStatements = Function.update c.preparedStatements name (some { name := name }) ∧
      r.2.2 = rest := by
  simp (disch := simp [refuse, halive, hmr]) only [prepare, write_ok hopen hfaults, errorResponseMsg,
    readyForQueryMsg, recv_frame, prepareTurn_context (t := errorResponse) _ _ _ (by decide),
    processContextFreeMsg_error he hs,
    prepareTurn_readyForQuery, firstErr_none]
  simp

/-- `Prepare("s1", "selct 1")` answered by a syntax error. -/
theorem prepare_syntax_error_cached :
    let c : Conn := { conn := {}, config := {}, alive := true }
    let e : PgError := ⟨ascii "ERROR", ascii "42601", ascii "syntax error"⟩
    let r := prepare c (ascii "s1") (ascii "selct 1") [errorResponseMsg e, readyForQueryMsg 73]
    (c.alive = true ∧ c.mr.err = none ∧ c.conn.closed = false ∧ c.conn.writeFaults = [] ∧
      e.WellFormed ∧ e.severity ≠ ascii "FATAL") ∧
    r.1 = .ok (some { name := ascii "s1" }, some (.pg e)) ∧
      r.2.1.preparedStatements =
        Function.update c.preparedStatements (ascii "s1") (some { name := ascii "s1" }) ∧
      r.2.2 = [] :=
  ⟨⟨rfl, rfl, rfl, rfl, by decide, by decide⟩,
    prepare_caches_rejected _ _ _ _ 73 [] rfl rfl rfl rfl (by decide) (by decide)⟩

/-- `Prepare` answered as a server answers Parse, Describe and Sync caches the described statement,
its columns in the formats `describedFormat` asks for. -/
theorem prepare_described (c : Conn) (name sql : Bytes) (oids : List Oid)
    (fds : List FieldDescription) (status : UInt8) (rest : List Inbound) (halive : c.alive = true)
    (hmr : c.mr.err = none) (hopen : c.conn.closed = false) (hfaults : c.conn.writeFaults = [])
    (hnames : ∀ fd ∈ fds, NulFree fd.name) (hfds : fds.length < 2 ^ 15)
    (hoids : oids.length < 2 ^ 15) :
    let r := prepare c name sql (parseCompleteMsg :: parameterDescriptionMsg oids ::
      rowDescriptionMsg fds :: readyForQueryMsg status :: rest)
    r.1 = .ok (some ⟨name, fds.map describedFormat, oids⟩, none) ∧
      r.2.1.preparedStatements =
        Function.update c.preparedStatements name (some ⟨name, fds.map describedFormat, oids⟩) ∧
      r.2.2 = rest := by
  simp (disch := simp [refuse, halive, hmr]) only [prepare, write_ok hopen hfaults, parseCompleteMsg,
    parameterDescriptionMsg, rowDescriptionMsg, readyForQueryMsg, recv_frame, prepareTurn_parseComplete,
    prepareTurn_parameterDescription, prepareTurn_rowDescription, prepareTurn_readyForQuery,
    rxParameterDescription_msg oids hoids, rxRowDescription_msg fds hnames hfds, and_self]

end Conn

theorem describedFormat_formatCode (fd : FieldDescription) :
    (describedFormat fd).formatCode =
      if fd.dataType ∈ binaryOids ++ [dateOid, timestampTzOid] then binaryFormatCode
      else fd.formatCode := by
  unfold describedFormat
  split <;> rfl

/-- The Bind message: unnamed portal, statement, parameter format codes, values, result format codes. -/
def bindMsg (name : Bytes) (paramCodes : List Int16) (argCount : Nat) (values : Bytes)
    (resultCodes : List Int16) : Bytes :=
  frame 66 (0 :: cstring name ++ be16 (BitVec.ofNat 16 paramCodes.length) ++
    paramCodes.flatMap be16 ++ be16 (BitVec.ofNat 16 argCount) ++ values ++
    be16 (BitVec.ofNat 16 resultCodes.length) ++ resultCodes.flatMap be16)

open WriteBuf in
/-- What `sendPreparedQuery` writes: a Bind with `paramFormatCode` per parameter and the columns' own
format codes, an Execute of the unnamed portal with no row limit, and a Sync. -/
theorem preparedQueryBuf_bind (lib : Lib) (ps : PreparedStatement) (args : List Arg) (w : WriteBuf)
    (hlen : ps.parameterOids.length = args.length) (h : Conn.preparedQueryBuf lib ps args = .ok w) :
    ∃ values, w.buf = bindMsg ps.name
      ((ps.parameterOids.zip args).map fun p => paramFormatCode p.1 p.2) args.length values
      (ps.fieldDescriptions.map (·.formatCode)) ++ frame 69 (0 :: be32 0) ++ frame 83 [] := by
  unfold Conn.preparedQueryBuf at h
  obtain ⟨w₁, hw, rfl⟩ := Except.map_eq_ok h
  simp only [newWriteBuf_eq, writeByte, writeCString, pending_writeBytes, pending_writeInt16,
    foldl_writeInt16] at hw
  obtain ⟨values, rfl⟩ := writeArgs_pending lib _ _ _ _ _ hw
  refine ⟨values, ?_⟩
  simp only [pending_writeInt16, foldl_writeInt16, pending_startMsg, writeByte, pending_writeBytes,
    pending_writeInt32, pending_closeMsg, bindMsg]
  simp [hlen, List.flatMap_map]

theorem paramFormatCode_binary {oid : Oid} (h : oid ∈ binaryOids) (arg : Arg) :
    paramFormatCode oid arg = binaryFormatCode := by
  simp [paramFormatCode, h]

theorem paramFormatCode_text {oid : Oid} (h : oid ∈ textOids) (arg : Arg) :
    paramFormatCode oid arg = textFormatCode := by
  have hb : oid ∉ binaryOids := by
    simp only [textOids, List.mem_cons, List.mem_singleton, List.not_mem_nil, or_false] at h
    rcases h with rfl | rfl | rfl | rfl <;> decide
  simp [paramFormatCode, hb, h]

/-- Every Bind of a statement `Prepare` built asks for parameters in binary exactly for the seven
binary OIDs, and for result columns in binary for those, date and timestamptz. -/
theorem prepared_bind_formats (lib : Lib) (c : Conn) (name sql : Bytes) (oids : List Oid)
    (fds : List FieldDescription) (status : UInt8) (rest : List Inbound) (halive : c.alive = true)
    (hmr : c.mr.err = none) (hopen : c.conn.closed = false) (hfaults : c.conn.writeFaults = [])
    (hnames : ∀ fd ∈ fds, NulFree fd.name) (hfds : fds.length < 2 ^ 15)
    (hoids : oids.length < 2 ^ 15) :
    (∀ oid ∈ binaryOids, ∀ arg, paramFormatCode oid arg = binaryFormatCode) ∧
    (∀ oid ∈ textOids, ∀ arg, paramFormatCode oid arg = textFormatCode) ∧
    let r := Conn.prepare c name sql (parseCompleteMsg :: parameterDescriptionMsg oids ::
      rowDescriptionMsg fds :: readyForQueryMsg status :: rest)
    ∃ ps, r.1 = .ok (some ps, none) ∧ r.2.1.preparedStatements name = some ps ∧
      ∀ (c' : Conn) (args : List Arg) (w : WriteBuf), args.length = oids.length →
        Conn.preparedQueryBuf lib ps args = .ok w →
        (Conn.sendPreparedQuery lib c' ps args).2.conn.writes = c'.conn.writes ++ [w.buf] ∧
        ∃ values, w.buf = bindMsg name ((oids.zip args).map fun p => paramFormatCode p.1 p.2)
          args.length values (fds.map fun fd =>
            if fd.dataType ∈ binaryOids ++ [dateOid, timestampTzOid] then binaryFormatCode
            else fd.formatCode) ++ frame 69 (0 :: be32 0) ++ frame 83 [] := by
  obtain ⟨hr, hcache, -⟩ := Conn.prepare_described c name sql oids fds status rest halive hmr hopen
    hfaults hnames hfds hoids
  refine ⟨fun _ h => paramFormatCode_binary h, fun _ h => paramFormatCode_text h, _, hr,
    by simp [hcache], fun c' args w hargs hw =>
      ⟨Conn.sendPreparedQuery_writes lib c' _ args w hargs.symm hw, ?_⟩⟩
  obtain ⟨values, hv⟩ := preparedQueryBuf_bind lib _ args w hargs.symm hw
  have hcodes : (fds.map describedFormat).map (·.formatCode) = fds.map fun fd =>
      if fd.dataType ∈ binaryOids ++ [dateOid, timestampTzOid] then binaryFormatCode
      else fd.formatCode := by
    rw [List.map_map]
    exact List.map_congr_left fun fd _ => describedFormat_formatCode fd
  exact ⟨values, by simp only [hv, hcodes]⟩

/-- `Prepare("s", "select $1::date")` answered with one date parameter and one date column. -/
theorem prepared_bind_date_column :
    let c : Conn := { conn := {}, config := {}, alive := true }
    let fd : FieldDescription := ⟨ascii "d", 0, 0, dateOid, 4, -1, textFormatCode⟩
    let r := Conn.prepare c (ascii "s") (ascii "select $1::date") [parseCompleteMsg,
      parameterDescriptionMsg [dateOid], rowDescriptionMsg [fd], readyForQueryMsg 73]
    (c.alive = true ∧ c.mr.err = none ∧ c.conn.closed = false ∧ c.conn.writeFaults = [] ∧
      (∀ f ∈ [fd], NulFree f.name) ∧ [fd].length < 2 ^ 15 ∧ [dateOid].length < 2 ^ 15) ∧
    (∀ oid ∈ binaryOids, ∀ arg, paramFormatCode oid arg = binaryFormatCode) ∧
    (∀ oid ∈ textOids, ∀ arg, paramFormatCode oid arg = textFormatCode) ∧
    ∃ ps, r.1 = .ok (some ps, none) ∧ r.2.1.preparedStatements (ascii "s") = some ps ∧
      ∀ (c' : Conn) (args : List Arg) (w : WriteBuf), args.length = [dateOid].length →
        Conn.preparedQueryBuf exampleLib ps args = .ok w →
        (Conn.sendPreparedQuery exampleLib c' ps args).2.conn.writes = c'.conn.writes ++ [w.buf] ∧
        ∃ values, w.buf = bindMsg (ascii "s")
          (([dateOid].zip args).map fun p => paramFormatCode p.1 p.2) args.length values
          ([fd].map fun fd =>
            if fd.dataType ∈ binaryOids ++ [dateOid, timestampTzOid] then binaryFormatCode
            else fd.formatCode) ++ frame 69 (0 :: be32 0) ++ frame 83 [] :=
  ⟨⟨rfl, rfl, rfl, rfl, by decide, by decide, by decide⟩,
    prepared_bind_formats exampleLib _ _ _ [dateOid] _ 73 [] rfl rfl rfl rfl (by decide) (by decide)
      (by decide)⟩

/-- A date parameter and a date column: the Bind asks for the parameter in text, the column in binary. -/
theorem prepare_date_column_binary :
    let fd : FieldDescription := ⟨ascii "d", 0, 0, dateOid, 4, -1, textFormatCode⟩
    let ps : PreparedStatement :=
      ⟨ascii "s", [{ fd with formatCode := binaryFormatCode }], [dateOid]⟩
    (Conn.prepare { conn := {}, config := {}, alive := true } (ascii "s") (ascii "select $1::date")
        [parseCompleteMsg, parameterDescriptionMsg [dateOid], rowDescriptionMsg [fd],
          readyForQueryMsg 73]).1 = .ok (some ps, none) ∧
      (Conn.preparedQueryBuf exampleLib ps [.time 0]).map (·.buf) =
        .ok (bindMsg (ascii "s") [textFormatCode] 1 (be32 0) [binaryFormatCode] ++
          frame 69 (0 :: be32 0) ++ frame 83 []) :=
  ⟨(Conn.prepare_described _ _ _ [dateOid] [_] 73 [] rfl rfl rfl rfl (by decide) (by decide)
    (by decide)).1, rfl⟩

end Pgx

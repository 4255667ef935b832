import Pgx.Conn.Send

namespace Pgx

namespace Backend

def readyForQueryMsg (status : UInt8) : Inbound := .frame readyForQuery [status]

/-- The body of an ErrorResponse or NoticeResponse: a code byte and a string per field, then zero. -/
def fieldsBody (fields : List (UInt8 × Bytes)) : Bytes :=
  fields.flatMap (fun f => f.1 :: cstring f.2) ++ [0]

def pgErrorFields (e : PgError) : List (UInt8 × Bytes) :=
  [(83, e.severity), (67, e.code), (77, e.message)]

def errorResponseMsg (e : PgError) : Inbound := .frame errorResponse (fieldsBody (pgErrorFields e))

/-- An ErrorResponse with any fields, in any order, as a server sends it. -/
def errorFieldsMsg (fields : List (UInt8 × Bytes)) : Inbound := .frame errorResponse (fieldsBody fields)

def commandCompleteMsg (tag : Bytes) : Inbound := .frame commandComplete (cstring tag)

def parameterStatusMsg (key value : Bytes) : Inbound := .frame 83 (cstring key ++ cstring value)

def notificationResponseMsg (n : Notification) : Inbound :=
  .frame notificationResponse (be32 n.pid ++ cstring n.channel ++ cstring n.payload)

def fieldBody (fd : FieldDescription) : Bytes :=
  cstring fd.name ++ beOid fd.table ++ be16 fd.attributeNumber ++ beOid fd.dataType ++
    be16 fd.dataTypeSize ++ be32 fd.modifier ++ be16 fd.formatCode

def rowDescriptionMsg (fds : List FieldDescription) : Inbound :=
  .frame rowDescription (be16 (BitVec.ofNat 16 fds.length) ++ fds.flatMap fieldBody)

def parameterDescriptionMsg (oids : List Oid) : Inbound :=
  .frame parameterDescription (be16 (BitVec.ofNat 16 oids.length) ++ oids.flatMap beOid)

/-- A column of a DataRow: its length and bytes, or length −1 for a NULL. -/
def columnBody : Option Bytes → Bytes
  | none => be32 (-1)
  | some b => be32 (BitVec.ofNat 32 b.length) ++ b

def dataRowMsg (cols : List (Option Bytes)) : Inbound :=
  .frame dataRow (be16 (BitVec.ofNat 16 cols.length) ++ cols.flatMap columnBody)

def parseCompleteMsg : Inbound := .frame parseComplete []
def bindCompleteMsg : Inbound := .frame bindComplete []

def authenticationMsg (method : Int32) (rest : Bytes) : Inbound :=
  .frame authenticationX (be32 method ++ rest)

end Backend

/-- A decoder for concrete runs: it fails a column of a type outside `accepts`, keeps a NULL as none,
and otherwise takes the column's declared length of bytes. -/
def exampleDecoder (accepts : List Oid) : Decoder := fun fd size r =>
  if fd.dataType ∉ accepts then (⟨fd.dataType, fd.formatCode, none⟩, 0, some (.codec fd.dataType))
  else if size.toInt < 0 then (⟨fd.dataType, fd.formatCode, none⟩, 0, none)
  else (⟨fd.dataType, fd.formatCode, some (r.readString size).1⟩, size.toInt.toNat, none)

/-- A `Lib` for concrete runs: SQL as written, identifiers unquoted, no digest or time forms. -/
def exampleLib : Lib where
  sanitizeSql := fun sql _ => .ok sql
  quoteIdentifier := id
  md5 := fun _ => []
  formatDate := fun _ => []
  formatTimestampTz := fun _ => []
  decoder := fun oid => exampleDecoder (if oid = textOid then [textOid, varcharOid] else [oid])

open Backend

namespace MsgReader

/-- What the loop of `rxErrorResponse` makes of the fields it reads. -/
def applyField (e : PgError) (f : UInt8 × Bytes) : PgError :=
  if f.1 = 83 then { e with severity := f.2 }
  else if f.1 = 67 then { e with code := f.2 }
  else if f.1 = 77 then { e with message := f.2 }
  else e

theorem applyField_severity (e : PgError) (f : UInt8 × Bytes) :
    (applyField e f).severity = if f.1 = 83 then f.2 else e.severity := by
  obtain ⟨k, v⟩ := f
  unfold applyField
  split_ifs <;> rfl

theorem applyField_code (e : PgError) (f : UInt8 × Bytes) :
    (applyField e f).code = if f.1 = 67 then f.2 else e.code := by
  obtain ⟨k, v⟩ := f
  unfold applyField
  split_ifs <;> subst_vars <;> first | rfl | simp at *

theorem applyField_message (e : PgError) (f : UInt8 × Bytes) :
    (applyField e f).message = if f.1 = 77 then f.2 else e.message := by
  obtain ⟨k, v⟩ := f
  unfold applyField
  split_ifs <;> subst_vars <;> first | rfl | simp at *

/-- The fields of a well-formed error body: non-zero codes and NUL-free strings. -/
def WellFormedFields (fields : List (UInt8 × Bytes)) : Prop := ∀ f ∈ fields, f.1 ≠ 0 ∧ NulFree f.2

instance (fields : List (UInt8 × Bytes)) : Decidable (WellFormedFields fields) :=
  inferInstanceAs (Decidable (∀ f ∈ fields, f.1 ≠ 0 ∧ NulFree f.2))

theorem errorFields_field {k : UInt8} (hk : k ≠ 0) {v : Bytes} (hv : NulFree v) (fuel : Nat)
    (e : PgError) (rest : Bytes) :
    errorFields (fuel + 1) e ⟨k :: (cstring v ++ rest), none⟩ =
      errorFields fuel (applyField e (k, v)) ⟨rest, none⟩ := by
  simp only [errorFields, readByte_cons, readCString_cstring _ _ hv, applyField]
  split_ifs <;> rfl

theorem errorFields_fieldsBody (fields : List (UInt8 × Bytes)) (h : WellFormedFields fields)
    (e : PgError) (rest : Bytes) (fuel : Nat) (hfuel : fields.length < fuel) :
    errorFields fuel e ⟨fieldsBody fields ++ rest, none⟩ =
      (fields.foldl applyField e, ⟨rest, none⟩) := by
  induction fields generalizing e fuel with
  | nil =>
    obtain ⟨fuel, rfl⟩ : ∃ k, fuel = k + 1 := ⟨fuel - 1, by simp at hfuel; omega⟩
    simp [errorFields, fieldsBody]
  | cons f fs ih =>
    obtain ⟨fuel, rfl⟩ : ∃ k, fuel = k + 1 := ⟨fuel - 1, by simp at hfuel; omega⟩
    obtain ⟨hc, hs⟩ := h f (List.mem_cons_self f fs)
    have hbody : fieldsBody (f :: fs) ++ rest = f.1 :: (cstring f.2 ++ (fieldsBody fs ++ rest)) := by
      simp [fieldsBody]
    rw [hbody, errorFields_field hc hs, List.foldl_cons]
    exact ih (fun g hg => h g (List.mem_cons_of_mem f hg)) _ fuel (by simp at hfuel; omega)

/-- The value of the last field with code `k`, empty when there is none. -/
def lastField (k : UInt8) (fields : List (UInt8 × Bytes)) : Bytes :=
  ((fields.filter (·.1 = k)).getLast?.map Prod.snd).getD []

/-- A field of `PgError` that `applyField` sets from the fields of code `k` alone. -/
theorem foldl_applyField (get : PgError → Bytes) (k : UInt8)
    (hget : ∀ e f, get (applyField e f) = if f.1 = k then f.2 else get e)
    (fields : List (UInt8 × Bytes)) (e : PgError) :
    get (fields.foldl applyField e) = ((fields.filter (·.1 = k)).getLast?.map Prod.snd).getD (get e) := by
  induction fields generalizing e with
  | nil => rfl
  | cons f fs ih =>
    rw [List.foldl_cons, ih, hget]
    by_cases hk : f.1 = k
    · cases hl : (fs.filter (·.1 = k)).getLast? <;> simp [List.filter_cons, hk, hl, List.getLast?_cons]
    · simp [List.filter_cons, hk]

theorem length_lt_fieldsBody (fields : List (UInt8 × Bytes)) :
    fields.length < (fieldsBody fields).length := by
  induction fields with
  | nil => simp [fieldsBody]
  | cons f fs ih => simp [fieldsBody, cstring] at ih ⊢; omega

theorem readField_fieldBody (fd : FieldDescription) (rest : Bytes) (h : NulFree fd.name) :
    readField ⟨fieldBody fd ++ rest, none⟩ = (fd, ⟨rest, none⟩) := by
  simp [readField, fieldBody, readCString_cstring _ _ h]

theorem readN_flatMap {α : Type} (read : MsgReader → α × MsgReader) (enc : α → Bytes) (xs : List α)
    (hread : ∀ x ∈ xs, ∀ rest, read ⟨enc x ++ rest, none⟩ = (x, ⟨rest, none⟩)) (rest : Bytes) :
    readN read xs.length ⟨xs.flatMap enc ++ rest, none⟩ = (xs, ⟨rest, none⟩) := by
  induction xs with
  | nil => rfl
  | cons x xs ih =>
    have hx := hread x (List.mem_cons_self x xs) (xs.flatMap enc ++ rest)
    have hxs := ih fun y hy => hread y (List.mem_cons_of_mem x hy)
    simp only [List.length_cons, readN, List.flatMap_cons, List.append_assoc, hx, hxs]

theorem readInt32_columnBody (col : Option Bytes) (rest : Bytes) :
    (readInt32 ⟨columnBody col ++ rest, none⟩).2 = ⟨col.getD [] ++ rest, none⟩ := by
  cases col <;> simp [columnBody]

end MsgReader

/-- A PgError the server can send: NUL-free fields. -/
def PgError.WellFormed (e : PgError) : Prop :=
  NulFree e.severity ∧ NulFree e.code ∧ NulFree e.message

instance (e : PgError) : Decidable e.WellFormed := inferInstanceAs (Decidable (_ ∧ _ ∧ _))

theorem pgErrorFields_wellFormed {e : PgError} (h : e.WellFormed) :
    MsgReader.WellFormedFields (pgErrorFields e) := by
  intro f hf
  simp only [pgErrorFields, List.mem_cons, List.mem_singleton, List.not_mem_nil, or_false] at hf
  rcases hf with rfl | rfl | rfl
  exacts [⟨by simp, h.1⟩, ⟨by simp, h.2.1⟩, ⟨by simp, h.2.2⟩]

theorem foldl_pgErrorFields (e : PgError) :
    (pgErrorFields e).foldl MsgReader.applyField {} = e := by
  simp [pgErrorFields, MsgReader.applyField]

/-- The error an ErrorResponse's fields describe: the last severity, code and message. -/
def PgError.ofFields (fields : List (UInt8 × Bytes)) : PgError :=
  ⟨MsgReader.lastField 83 fields, MsgReader.lastField 67 fields, MsgReader.lastField 77 fields⟩

theorem foldl_applyField_ofFields (fields : List (UInt8 × Bytes)) :
    fields.foldl MsgReader.applyField {} = PgError.ofFields fields := by
  have hget (get : PgError → Bytes) (k : UInt8)
      (hk : ∀ e f, get (MsgReader.applyField e f) = if f.1 = k then f.2 else get e) (he : get {} = []) :
      get (fields.foldl MsgReader.applyField {}) = MsgReader.lastField k fields := by
    rw [MsgReader.foldl_applyField get k hk, he]
    rfl
  rw [PgError.ofFields, ← hget _ 83 MsgReader.applyField_severity rfl,
    ← hget _ 67 MsgReader.applyField_code rfl, ← hget _ 77 MsgReader.applyField_message rfl]

namespace Conn

theorem rxErrorResponse_ofFields {c : Conn} {fields : List (UInt8 × Bytes)}
    (h : MsgReader.WellFormedFields fields) (hmr : c.mr = ⟨fieldsBody fields, none⟩) :
    c.rxErrorResponse = (PgError.ofFields fields,
      if (PgError.ofFields fields).severity = ascii "FATAL" then
        { c with mr := ⟨[], none⟩ }.die (.pg (PgError.ofFields fields))
      else { c with mr := ⟨[], none⟩ }) := by
  have hfields := MsgReader.errorFields_fieldsBody fields h {} [] (fieldsBody fields).length.succ
    (Nat.lt_succ_of_lt (MsgReader.length_lt_fieldsBody fields))
  rw [List.append_nil, foldl_applyField_ofFields] at hfields
  simp only [rxErrorResponse, hmr, hfields]

theorem ofFields_pgErrorFields (e : PgError) : PgError.ofFields (pgErrorFields e) = e := by
  rw [← foldl_applyField_ofFields, foldl_pgErrorFields]

theorem rxErrorResponse_msg {c : Conn} {e : PgError} (h : e.WellFormed)
    (hmr : c.mr = ⟨fieldsBody (pgErrorFields e), none⟩) :
    c.rxErrorResponse = (e, if e.severity = ascii "FATAL" then { c with mr := ⟨[], none⟩ }.die (.pg e)
      else { c with mr := ⟨[], none⟩ }) := by
  simpa only [ofFields_pgErrorFields] using rxErrorResponse_ofFields (pgErrorFields_wellFormed h) hmr

theorem processContextFreeMsg_errorFields {c : Conn} {fields : List (UInt8 × Bytes)}
    (h : MsgReader.WellFormedFields fields) (hs : (PgError.ofFields fields).severity ≠ ascii "FATAL")
    (hmr : c.mr = ⟨fieldsBody fields, none⟩) :
    c.processContextFreeMsg errorResponse =
      ({ c with mr := ⟨[], none⟩ }, some (.pg (PgError.ofFields fields))) := by
  simp [processContextFreeMsg, rxErrorResponse_ofFields h hmr, hs, errorResponse]

theorem rxRowDescription_msg (fds : List FieldDescription) (hnames : ∀ fd ∈ fds, NulFree fd.name)
    (hlen : fds.length < 2 ^ 15) {c : Conn}
    (hmr : c.mr = ⟨be16 (BitVec.ofNat 16 fds.length) ++ fds.flatMap fieldBody, none⟩) :
    c.rxRowDescription = .ok (fds, { c with mr := ⟨[], none⟩ }) := by
  have hread := MsgReader.readN_flatMap MsgReader.readField fieldBody fds
    (fun fd hfd rest => MsgReader.readField_fieldBody fd rest (hnames fd hfd)) []
  rw [List.append_nil] at hread
  have hnat : (BitVec.ofNat 16 fds.length).toNat = fds.length := by
    rw [BitVec.toNat_ofNat, Nat.mod_eq_of_lt (by omega)]
  have hpos : ¬ (fds.length : Int) < 0 := by omega
  simp [rxRowDescription, hmr, toInt_ofNat_lt hlen, hnat, hread, hpos]

theorem rxParameterDescription_msg (oids : List Oid) (hlen : oids.length < 2 ^ 15) {c : Conn}
    (hmr : c.mr = ⟨be16 (BitVec.ofNat 16 oids.length) ++ oids.flatMap beOid, none⟩) :
    c.rxParameterDescription = .ok (oids, { c with mr := ⟨[], none⟩ }) := by
  have hread := MsgReader.readN_flatMap MsgReader.readOid beOid oids
    (fun o _ rest => MsgReader.readOid_beOid o rest) []
  rw [List.append_nil] at hread
  have hnat : (BitVec.ofNat 16 oids.length).toNat = oids.length := by
    rw [BitVec.toNat_ofNat, Nat.mod_eq_of_lt (by omega)]
  have hpos : ¬ (oids.length : Int) < 0 := by omega
  simp [rxParameterDescription, hmr, toInt_ofNat_lt hlen, hnat, hread, hpos]

/-- `rxErrorResponse` reads a well-formed ErrorResponse body to its end, keeping the last 'S', 'C' and
'M' fields, and kills the connection exactly when the severity is FATAL. -/
theorem rxErrorResponse_fields {c : Conn} (fields : List (UInt8 × Bytes))
    (h : MsgReader.WellFormedFields fields) (hmr : c.mr = ⟨fieldsBody fields, none⟩) :
    let r := c.rxErrorResponse
    r.1.severity = MsgReader.lastField 83 fields ∧ r.1.code = MsgReader.lastField 67 fields ∧
      r.1.message = MsgReader.lastField 77 fields ∧
      r.2 = if r.1.severity = ascii "FATAL" then { c with mr := ⟨[], none⟩ }.die (.pg r.1)
        else { c with mr := ⟨[], none⟩ } := by
  rw [rxErrorResponse_ofFields h hmr]
  exact ⟨rfl, rfl, rfl, rfl⟩

/-- Two severities, a detail and a message: the later severity, FATAL, wins and kills the connection. -/
theorem rxErrorResponse_repeated_severity :
    let fields : List (UInt8 × Bytes) :=
      [(83, ascii "ERROR"), (68, ascii "detail"), (83, ascii "FATAL"), (77, ascii "m")]
    let c : Conn := { conn := {}, config := {}, alive := true, mr := ⟨fieldsBody fields, none⟩ }
    let r := c.rxErrorResponse
    r.1.severity = MsgReader.lastField 83 fields ∧ r.1.code = MsgReader.lastField 67 fields ∧
      r.1.message = MsgReader.lastField 77 fields ∧
      r.2 = if r.1.severity = ascii "FATAL" then { c with mr := ⟨[], none⟩ }.die (.pg r.1)
        else { c with mr := ⟨[], none⟩ } :=
  rxErrorResponse_fields _ (by unfold MsgReader.WellFormedFields NulFree; decide) rfl

/-- The counts of a RowDescription and a ParameterDescription are signed 16-bit: below 2^15 the lists
read back whole, and from 2^15 on `make` panics. -/
theorem description_count_signed (fds : List FieldDescription) (oids : List Oid)
    (hnames : ∀ fd ∈ fds, NulFree fd.name) (hfds : fds.length < 2 ^ 16)
    (hoids : oids.length < 2 ^ 16) {c c' : Conn}
    (hmr : c.mr = ⟨be16 (BitVec.ofNat 16 fds.length) ++ fds.flatMap fieldBody, none⟩)
    (hmr' : c'.mr = ⟨be16 (BitVec.ofNat 16 oids.length) ++ oids.flatMap beOid, none⟩) :
    c.rxRowDescription = (if fds.length < 2 ^ 15 then .ok (fds, { c with mr := ⟨[], none⟩ })
      else .error .makeSlice) ∧
    c'.rxParameterDescription = (if oids.length < 2 ^ 15 then .ok (oids, { c' with mr := ⟨[], none⟩ })
      else .error .makeSlice) := by
  constructor
  · split_ifs with h
    · exact rxRowDescription_msg fds hnames h hmr
    · exact rxRowDescription_negative (by simpa [hmr] using toInt_ofNat_neg (by omega) hfds)
  · split_ifs with h
    · exact rxParameterDescription_msg oids h hmr'
    · exact rxParameterDescription_negative (by simpa [hmr'] using toInt_ofNat_neg (by omega) hoids)

/-- A ParameterDescription of 32768 parameters makes `rxParameterDescription` panic. -/
theorem parameterDescription_32768_panics :
    let oids := List.replicate 32768 int4Oid
    let c' : Conn :=
      { conn := {}, config := {}, mr := ⟨be16 (BitVec.ofNat 16 oids.length) ++ oids.flatMap beOid, none⟩ }
    c'.rxParameterDescription = .error .makeSlice := by
  intro oids c'
  have hlen : oids.length = 32768 := List.length_replicate _ _
  have h : c'.rxParameterDescription = if oids.length < 2 ^ 15 then .ok (oids, { c' with mr := ⟨[], none⟩ })
      else .error .makeSlice :=
    (description_count_signed (c := { conn := {}, config := {}, mr := ⟨be16 0, none⟩ }) [] oids
      (by simp) (by decide) (by rw [hlen]; decide) rfl rfl).2
  rw [h, if_neg (by rw [hlen]; decide)]

theorem processContextFreeMsg_error {c : Conn} {e : PgError} (h : e.WellFormed)
    (hs : e.severity ≠ ascii "FATAL") (hmr : c.mr = ⟨fieldsBody (pgErrorFields e), none⟩) :
    c.processContextFreeMsg errorResponse = ({ c with mr := ⟨[], none⟩ }, some (.pg e)) := by
  simpa only [ofFields_pgErrorFields] using
    processContextFreeMsg_errorFields (pgErrorFields_wellFormed h) (by rwa [ofFields_pgErrorFields]) hmr

end Conn

end Pgx

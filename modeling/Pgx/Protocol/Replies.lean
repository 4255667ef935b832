import Pgx.Protocol.Drain

namespace Pgx

open Backend

/-- A message of a query's response before its ReadyForQuery; an ErrorResponse carries any fields. -/
inductive Reply where
  | rowDescription (fds : List FieldDescription)
  | dataRow (cols : List (Option Bytes))
  | bindComplete
  | commandComplete (tag : Bytes)
  | errorResponse (fields : List (UInt8 × Bytes))
  | parameterStatus (key value : Bytes)
  | notice (body : Bytes)
  | notification (n : Notification)
  | unexpected (t : UInt8) (body : Bytes)

namespace Reply

/-- The frame the server sends for a reply. -/
def msg : Reply → Inbound
  | .rowDescription fds => rowDescriptionMsg fds
  | .dataRow cols => dataRowMsg cols
  | .bindComplete => bindCompleteMsg
  | .commandComplete tag => commandCompleteMsg tag
  | .errorResponse fields => errorFieldsMsg fields
  | .parameterStatus key value => parameterStatusMsg key value
  | .notice body => .frame noticeResponse body
  | .notification n => notificationResponseMsg n
  | .unexpected t body => .frame t body

/-- The message types `Exec`'s loop and `processContextFreeMsg` have a case for. -/
def handledTypes : List UInt8 :=
  [Pgx.readyForQuery, Pgx.rowDescription, Pgx.dataRow, Pgx.bindComplete, Pgx.commandComplete, 83,
    Pgx.errorResponse, Pgx.noticeResponse, Pgx.notificationResponse]

/-- A reply whose strings read back whole, whose error is not FATAL, and which, if unexpected, is of
none of the handled types. -/
def WellFormed : Reply → Prop
  | .commandComplete tag => NulFree tag
  | .errorResponse fields =>
    MsgReader.WellFormedFields fields ∧ (PgError.ofFields fields).severity ≠ ascii "FATAL"
  | .parameterStatus key value => NulFree key ∧ NulFree value
  | .notification n => NulFree n.channel ∧ NulFree n.payload
  | .unexpected t _ => t ∉ handledTypes
  | _ => True

instance decWellFormed : (r : Reply) → Decidable r.WellFormed
  | .rowDescription _ | .dataRow _ | .bindComplete | .notice _ => instDecidableTrue
  | .commandComplete tag => inferInstanceAs (Decidable (NulFree tag))
  | .errorResponse fields => inferInstanceAs (Decidable (MsgReader.WellFormedFields fields ∧
      (PgError.ofFields fields).severity ≠ ascii "FATAL"))
  | .parameterStatus key value => inferInstanceAs (Decidable (NulFree key ∧ NulFree value))
  | .notification n => inferInstanceAs (Decidable (NulFree n.channel ∧ NulFree n.payload))
  | .unexpected t _ => inferInstanceAs (Decidable (t ∉ handledTypes))

/-- The command tag a reply carries. -/
def tag? : Reply → Option CommandTag
  | .commandComplete tag => some tag
  | _ => none

/-- The error a reply produces: its ErrorResponse's, or an unexpected message's. -/
def error? : Reply → Option Error
  | .errorResponse fields => some (.pg (PgError.ofFields fields))
  | .unexpected t _ => some (.new (ascii "Received unknown message type: " ++ utf8Char t))
  | _ => none

theorem msg_frame (r : Reply) : ∃ t b, r.msg = .frame t b := by
  cases r <;> exact ⟨_, _, rfl⟩

end Reply

namespace Conn

/-- One turn of `Exec`'s loop on a well-formed reply takes its tag and keeps the first error. -/
theorem execTurn_reply {r : Reply} (hr : r.WellFormed) {t : UInt8} {b : Bytes}
    (hmsg : r.msg = .frame t b) (st : CommandTag × Option Error) (c : Conn) (halive : c.alive = true) :
    let p := execTurn st { c with mr := ⟨b, none⟩ } t
    p.2 = .next ((r.tag?).getD st.1, firstErr st.2 r.error?) ∧ p.1.alive = true ∧ p.1.mr.err = none := by
  cases r with
  | rowDescription fds | dataRow cols | bindComplete =>
    obtain ⟨rfl, rfl⟩ := Inbound.frame.inj hmsg
    simp [execTurn, rowDescription, dataRow, bindComplete, readyForQuery, halive, Reply.tag?, Reply.error?]
  | commandComplete tag =>
    obtain ⟨rfl, rfl⟩ := Inbound.frame.inj hmsg
    have hread := MsgReader.readCString_cstring tag [] hr
    rw [List.append_nil] at hread
    simp [execTurn, commandComplete, readyForQuery, rowDescription, dataRow, bindComplete, halive,
      hread, Reply.tag?, Reply.error?]
  | errorResponse fields =>
    obtain ⟨rfl, rfl⟩ := Inbound.frame.inj hmsg
    have hp : ({ c with mr := ⟨fieldsBody fields, none⟩ } : Conn).processContextFreeMsg 69 =
        ({ c with mr := ⟨[], none⟩ }, some (.pg (PgError.ofFields fields))) :=
      processContextFreeMsg_errorFields hr.1 hr.2 rfl
    simpa [execTurn, hp, errorResponse, readyForQuery, rowDescription, dataRow, bindComplete,
      commandComplete, Reply.tag?, Reply.error?] using halive
  | parameterStatus key value =>
    obtain ⟨rfl, rfl⟩ := Inbound.frame.inj hmsg
    have hread := MsgReader.readCString_cstring value [] hr.2
    rw [List.append_nil] at hread
    simp [execTurn, processContextFreeMsg, readyForQuery, rowDescription, dataRow, bindComplete,
      commandComplete, halive, MsgReader.readCString_cstring key _ hr.1, hread, Reply.tag?,
      Reply.error?]
  | notice body =>
    obtain ⟨rfl, rfl⟩ := Inbound.frame.inj hmsg
    simp [execTurn, processContextFreeMsg, noticeResponse, readyForQuery, rowDescription, dataRow,
      bindComplete, commandComplete, errorResponse, halive, Reply.tag?, Reply.error?]
  | notification n =>
    obtain ⟨rfl, rfl⟩ := Inbound.frame.inj hmsg
    have hread := MsgReader.readCString_cstring n.payload [] hr.2
    rw [List.append_nil] at hread
    simp [execTurn, processContextFreeMsg, notificationResponse, readyForQuery, rowDescription,
      dataRow, bindComplete, commandComplete, errorResponse, noticeResponse, halive,
      MsgReader.readCString_cstring n.channel _ hr.1, hread, Reply.tag?, Reply.error?]
  | unexpected t' body =>
    obtain ⟨rfl, rfl⟩ := Inbound.frame.inj hmsg
    simp only [Reply.WellFormed, Reply.handledTypes, List.mem_cons, List.not_mem_nil, not_or] at hr
    obtain ⟨h₁, h₂, h₃, h₄, h₅, h₆, h₇, h₈, h₉, -⟩ := hr
    simp [execTurn, processContextFreeMsg, h₁, h₂, h₃, h₄, h₅, h₆, h₇, h₈, h₉, halive, Reply.tag?,
      Reply.error?]

theorem getLast?_filterMap_cons {α β : Type} (f : α → Option β) (a : α) (l : List α) (d : β) :
    ((a :: l).filterMap f).getLast?.getD d = (l.filterMap f).getLast?.getD ((f a).getD d) := by
  cases h : f a <;> simp [List.filterMap_cons, h, List.getLast?_cons]

theorem firstErr_filterMap_cons {α : Type} (g : α → Option Error) (a : α) (l : List α)
    (s : Option Error) :
    firstErr s ((a :: l).filterMap g).head? = firstErr (firstErr s (g a)) (l.filterMap g).head? := by
  cases h : g a <;> cases s <;> simp [List.filterMap_cons, h]

section Replies

variable (fail : CommandTag × Option Error → Error → CommandTag × Option Error)

/-- `Exec`'s loop over well-formed replies ends at the ReadyForQuery with the last tag and the first
error. -/
theorem recv_execTurn_replies (replies : List Reply) (hwf : ∀ r ∈ replies, r.WellFormed)
    (status : UInt8) (rest : List Inbound) (st : CommandTag × Option Error) (c : Conn)
    (halive : c.alive = true) (hmr : c.mr.err = none) :
    ∃ c', recv execTurn fail st c (replies.map Reply.msg ++ readyForQueryMsg status :: rest) =
      (((replies.filterMap Reply.tag?).getLast?.getD st.1,
        firstErr st.2 (replies.filterMap Reply.error?).head?), c', rest) ∧
      c'.txStatus = status ∧ c'.alive = true := by
  induction replies generalizing st c with
  | nil =>
    refine ⟨{ c with mr := ⟨[status], none⟩ }.rxReadyForQuery, ?_, by simp, halive⟩
    rw [List.map_nil, List.nil_append, readyForQueryMsg, recv_frame _ _ (refuse_eq_none halive hmr)]
    cases st
    simp [execTurn, Option.or_none]
  | cons r rs ih =>
    obtain ⟨t, b, hmsg⟩ := r.msg_frame
    obtain ⟨hturn, halive₁, hmr₁⟩ := execTurn_reply (hwf r (.head _)) hmsg st c halive
    obtain ⟨c', hrecv, hst, halive'⟩ := ih (fun r hr => hwf r (.tail _ hr))
      ((r.tag?).getD st.1, firstErr st.2 r.error?) _ halive₁ hmr₁
    refine ⟨c', ?_, hst, halive'⟩
    rw [List.map_cons, List.cons_append, hmsg, recv_frame _ _ (refuse_eq_none halive hmr),
      ← Prod.eta (execTurn _ _ _), hturn, getLast?_filterMap_cons, firstErr_filterMap_cons]
    exact hrecv

end Replies

/-- `Exec` answered by any well-formed replies, none a FATAL error, and a ReadyForQuery returns the
last tag and the first error, records the status, and reads exactly through the ReadyForQuery. -/
theorem exec_last_tag_first_error (lib : Lib) (c : Conn) (sql : Bytes) (args : List Arg)
    (replies : List Reply) (status : UInt8) (rest : List Inbound)
    (hsend : (sendQuery lib c sql args).1 = none) (halive : c.alive = true) (hmr : c.mr.err = none)
    (hwf : ∀ r ∈ replies, r.WellFormed) :
    let r := exec lib c sql args (replies.map Reply.msg ++ readyForQueryMsg status :: rest)
    r.1 = ((replies.filterMap Reply.tag?).getLastD [], (replies.filterMap Reply.error?).head?) ∧
      r.2.1.txStatus = status ∧ r.2.2 = rest ∧ r.2.1.alive = true := by
  obtain ⟨t, ht⟩ := sendQuery_conn lib c sql args
  obtain ⟨c', hrecv, hst, halive'⟩ := recv_execTurn_replies (fun st e => (st.1, some e)) replies hwf
    status rest ([], none) { c with conn := t } halive hmr
  have hq : sendQuery lib c sql args = (none, { c with conn := t }) := by
    rw [← ht, ← hsend]
  simp only [exec, hq, hrecv, List.getLastD_eq_getLast?, firstErr_none, hst, halive', and_self]

/-- Two inserts, a ParameterStatus, a notice, a unique violation with every field a server reports,
and an unknown message: the second tag and the violation are returned. -/
theorem exec_two_inserts_then_error :
    let c : Conn := { conn := {}, config := {}, alive := true }
    let e : PgError := ⟨ascii "ERROR", ascii "23505", ascii "duplicate key"⟩
    let fields : List (UInt8 × Bytes) := [(83, ascii "ERROR"), (86, ascii "ERROR"), (67, ascii "23505"),
      (77, ascii "duplicate key"), (68, ascii "Key (n)=(1) already exists."), (70, ascii "nbtinsert.c"),
      (76, ascii "666"), (82, ascii "_bt_check_unique")]
    let replies := [.parameterStatus (ascii "TimeZone") (ascii "UTC"),
      .commandComplete (ascii "INSERT 0 1"), .notice [], .commandComplete (ascii "INSERT 0 2"),
      .errorResponse fields, .unexpected 99 []]
    let r := exec exampleLib c (ascii "insert into t values (1); insert into t values (1)") []
      (replies.map Reply.msg ++ [readyForQueryMsg 73])
    r.1 = (ascii "INSERT 0 2", some (.pg e)) ∧ r.2.1.txStatus = 73 ∧ r.2.2 = [] ∧ r.2.1.alive = true :=
  exec_last_tag_first_error exampleLib _ _ [] _ 73 [] rfl rfl rfl (by decide)

end Conn

end Pgx

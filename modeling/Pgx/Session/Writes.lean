import Pgx.Protocol.RowStream
import Pgx.Protocol.Transaction
import Pgx.Session.Laws

namespace Pgx

open WriteBuf

/-- Messages one after another on the wire, each as `closeMsg` leaves it: the type byte, a length
counting itself and the body, and the body. -/
def wireBytes (msgs : List (UInt8 × Bytes)) : Bytes := msgs.flatMap fun m => frame m.1 m.2

/-- A buffer of one or more whole messages. -/
def Framed (buf : Bytes) : Prop := ∃ msgs : List (UInt8 × Bytes), msgs ≠ [] ∧ buf = wireBytes msgs

/-- How the server cuts what it reads into messages: a type byte, a length `n` counting itself, and
`n - 4` bytes of body; `fuel` bounds the number of messages. -/
def splitMessages : Nat → Bytes → Option (List (UInt8 × Bytes))
  | _, [] => some []
  | 0, _ :: _ => none
  | fuel + 1, t :: rest =>
    let n := beValue (rest.take 4)
    if 4 ≤ n ∧ n ≤ rest.length then
      (splitMessages fuel (rest.drop n)).map fun ms => (t, (rest.take n).drop 4) :: ms
    else none

/-- The server gets back the messages written, each body being shorter than `2^32 - 4` bytes. -/
theorem splitMessages_wireBytes (msgs : List (UInt8 × Bytes))
    (hsmall : ∀ m ∈ msgs, m.2.length + 4 < 2 ^ 32) (fuel : Nat) (hfuel : msgs.length ≤ fuel) :
    splitMessages fuel (wireBytes msgs) = some msgs := by
  induction msgs generalizing fuel with
  | nil => cases fuel <;> rfl
  | cons m ms ih =>
    obtain ⟨fuel, rfl⟩ : ∃ f, fuel = f + 1 := ⟨fuel - 1, by simp at hfuel; omega⟩
    have hm := hsmall m (.head _)
    have hlen : beValue (be32 (BitVec.ofNat 32 (m.2.length + 4))) = m.2.length + 4 := by
      rw [be32, beValue_beBytes, BitVec.toNat_ofNat, Nat.mod_eq_of_lt hm, Nat.mod_eq_of_lt (by omega)]
    simp only [wireBytes, List.flatMap_cons, frame, List.cons_append] at ih ⊢
    rw [splitMessages, List.append_assoc]
    simp only [List.take_append_of_le_length (by simp : 4 ≤ (be32 _).length), List.take_of_length_le
      (by simp : (be32 (BitVec.ofNat 32 (m.2.length + 4))).length ≤ 4), hlen, List.length_append,
      be32_length]
    rw [if_pos ⟨by omega, by omega⟩, ← List.append_assoc,
      List.drop_left' (by simp; omega), List.take_left' (by simp; omega), List.drop_left' (by simp),
      ih (fun m' h => hsmall m' (.tail _ h)) fuel (by simpa using hfuel)]
    rfl

/-- A run of whole messages is never shorter than its number of messages. -/
theorem length_le_wireBytes (msgs : List (UInt8 × Bytes)) : msgs.length ≤ (wireBytes msgs).length := by
  induction msgs with
  | nil => exact Nat.le_refl 0
  | cons m ms ih => simp [wireBytes, frame] at ih ⊢; omega

theorem simpleQuery_framed (sql : Bytes) : Framed ((newWriteBuf 81).writeCString sql).closeMsg.buf :=
  ⟨[(81, cstring sql)], by simp, by rw [Conn.simpleQueryBuf_eq]; simp [wireBytes]⟩

theorem prepareBuf_framed (name sql : Bytes) : Framed (Conn.prepareBuf name sql) :=
  ⟨[(80, cstring name ++ cstring sql ++ be16 0), (68, 83 :: cstring name), (83, [])], by simp, by
    simp only [Conn.prepareBuf, newWriteBuf_eq, writeCString, writeByte, pending_writeBytes,
      pending_writeInt16, pending_startMsg, pending_closeMsg]
    simp [wireBytes]⟩

theorem terminate_framed : Framed (newWriteBuf 88).closeMsg.buf :=
  ⟨[(88, [])], by simp, by rw [newWriteBuf_eq, pending_closeMsg]; rfl⟩

theorem preparedQueryBuf_framed (lib : Lib) {ps : PreparedStatement} {args : List Arg} {w : WriteBuf}
    (hlen : ps.parameterOids.length = args.length) (h : Conn.preparedQueryBuf lib ps args = .ok w) :
    Framed w.buf := by
  obtain ⟨vals, -, hbuf⟩ := preparedQueryBuf_values lib ps args w hlen h
  obtain ⟨b, hb⟩ : ∃ b, bindMsg ps.name ((ps.parameterOids.zip args).map fun p => paramFormatCode p.1 p.2)
      args.length vals.flatten (ps.fieldDescriptions.map (·.formatCode)) = frame 66 b := ⟨_, rfl⟩
  exact ⟨[(66, b), (69, 0 :: be32 0), (83, [])], by simp, by rw [hbuf, hb]; simp [wireBytes]⟩

/-- From `c` to `c'` the client wrote only whole messages. -/
def WritesFramed (c c' : Conn) : Prop :=
  ∃ ws, c'.conn.writes = c.conn.writes ++ ws ∧ ∀ w ∈ ws, Framed w

namespace WritesFramed

theorem of_eq {c c' : Conn} (h : c'.conn.writes = c.conn.writes) : WritesFramed c c' :=
  ⟨[], by rw [h, List.append_nil], fun _ h => absurd h (List.not_mem_nil _)⟩

theorem trans {c₁ c₂ c₃ : Conn} (h₁ : WritesFramed c₁ c₂) (h₂ : WritesFramed c₂ c₃) :
    WritesFramed c₁ c₃ := by
  obtain ⟨ws₁, e₁, f₁⟩ := h₁
  obtain ⟨ws₂, e₂, f₂⟩ := h₂
  refine ⟨ws₁ ++ ws₂, by rw [e₂, e₁, List.append_assoc], fun w hw => ?_⟩
  rcases List.mem_append.1 hw with hw | hw
  exacts [f₁ w hw, f₂ w hw]

theorem write {c : Conn} {buf : Bytes} (h : Framed buf) : WritesFramed c (c.write buf).2 :=
  ⟨[buf], Conn.write_writes c buf, fun _ hw => (List.mem_singleton.1 hw) ▸ h⟩

/-- A call that returned a value beside where it left the connection. -/
theorem of_pair {α : Type} {a a' : α} {c c' : Conn} {inbox' : List Inbound}
    {p : Conn × List Inbound} (e : (a, p) = (a', c', inbox')) (hp : WritesFramed c p.1) :
    WritesFramed c c' := by
  cases e
  exact hp

end WritesFramed

namespace Conn

theorem recv_writes {σ ρ : Type} (body : σ → Conn → UInt8 → Conn × Turn σ ρ) (fail : σ → Error → ρ)
    (hturn : ∀ s c t, (body s c t).1.conn.writes = c.conn.writes) (s : σ) (c : Conn)
    (inbox : List Inbound) : (recv body fail s c inbox).2.1.conn.writes = c.conn.writes := by
  obtain ⟨-, -, h⟩ := recv_rel body fail (fun c c' _ => c'.conn.writes = c.conn.writes)
    (fun h₁ h₂ => h₂.trans h₁) (fun h => by rcases refuse_some h with ⟨-, rfl⟩ | ⟨-, rfl⟩ <;> simp)
    (fun _ _ => by simp) (fun _ => by simp) (fun s t _ _ => hturn s _ t) s c inbox
  exact h

theorem queryTurn_writes (c : Conn) (t : UInt8) : (queryTurn () c t).1.conn.writes = c.conn.writes := by
  unfold queryTurn
  split_ifs
  · split
    · rfl
    · rename_i h
      obtain ⟨r, rfl⟩ := rxRowDescription_ok h
      rfl
  · split <;> rename_i h <;> simpa [h] using processContextFreeMsg_writes c t

theorem prepareTurn_writes (name : Bytes) (st : PreparedStatement × Option Error) (c : Conn)
    (t : UInt8) : (prepareTurn name st c t).1.conn.writes = c.conn.writes := by
  unfold prepareTurn
  split_ifs
  · rfl
  · split
    · rfl
    · rename_i h
      obtain ⟨r, rfl⟩ := rxParameterDescription_ok h
      rfl
  · split
    · rfl
    · rename_i h
      obtain ⟨r, rfl⟩ := rxRowDescription_ok h
      rfl
  · rfl
  · rfl
  · exact processContextFreeMsg_writes c t

theorem peek_writes (t : Transport) : t.peek.2.writes = t.writes := by
  unfold Transport.peek
  split
  · rfl
  · split <;> rfl

theorem waitPeek_writes (c : Conn) : (waitPeek c).1.conn.writes = c.conn.writes := by
  have hp := peek_writes c.conn
  unfold waitPeek
  split
  · rfl
  · split <;> rename_i heq <;> rw [heq] at hp <;> exact hp

theorem waitTurn_writes (c : Conn) (t : UInt8) : (waitTurn () c t).1.conn.writes = c.conn.writes := by
  unfold waitTurn
  rcases h : c.processContextFreeMsg t with ⟨c₁, _ | e⟩
  · have h₁ : c₁.conn.writes = c.conn.writes := by simpa [h] using processContextFreeMsg_writes c t
    dsimp only
    split
    · exact h₁
    · split <;> rename_i heq <;> rw [← h₁, ← waitPeek_writes c₁, heq]
  · simpa [h] using processContextFreeMsg_writes c t

end Conn

namespace QueryResult

theorem drainTurn_writes (c : Conn) (t : UInt8) : (drainTurn () c t).1.conn.writes = c.conn.writes := by
  unfold drainTurn
  split_ifs
  · rfl
  · rfl
  · split <;> rename_i h <;> simpa [h] using Conn.processContextFreeMsg_writes c t

theorem nextRowTurn_writes (c : Conn) (t : UInt8) :
    (nextRowTurn () c t).1.conn.writes = c.conn.writes := by
  unfold nextRowTurn
  dsimp only
  split_ifs
  · rfl
  · rfl
  · rfl
  · rfl
  · split <;> rename_i h <;> simpa [h] using Conn.processContextFreeMsg_writes c t

theorem Close_writes (c : Conn) (inbox : List Inbound) :
    (Close c inbox).1.conn.writes = c.conn.writes := by
  unfold Close readUntilReadyForQuery
  split
  · rfl
  · simpa [close_eq] using Conn.recv_writes drainTurn _ (fun _ => drainTurn_writes) () c inbox

theorem nextRow_writes (c : Conn) (inbox : List Inbound) :
    (nextRow c inbox).2.1.conn.writes = c.conn.writes := by
  unfold nextRow
  split
  · rfl
  · dsimp only
    have h := Conn.recv_writes nextRowTurn (fun _ e => RowExit.fatal e) (fun _ => nextRowTurn_writes) ()
      { c with qr := { c.qr with rowCount := c.qr.rowCount + 1, columnIdx := 0 } } inbox
    generalize Conn.recv nextRowTurn _ () _ inbox = r at h ⊢
    rcases r with ⟨_ | _ | e, c₂, inbox₂⟩
    · simpa [close_eq] using h
    · exact h
    · exact (Close_writes _ _).trans h

end QueryResult

/-- Keeping the writes obeys the laws of the cursor's calls. -/
theorem writesKept_laws : CallLaws (fun c _ c' _ => c'.conn.writes = c.conn.writes) where
  refl _ _ := rfl
  trans h₁ h₂ := h₂.trans h₁
  untouched _ _ _ hconn := congrArg Transport.writes hconn
  Close := QueryResult.Close_writes
  nextRow := QueryResult.nextRow_writes

namespace WritesFramed

section Calls

variable (lib : Lib) (c : Conn) (inbox : List Inbound)

theorem sendPreparedQuery (ps : PreparedStatement) (args : List Arg) :
    WritesFramed c (Conn.sendPreparedQuery lib c ps args).2 := by
  unfold Conn.sendPreparedQuery
  split_ifs with hlen
  · exact of_eq rfl
  · rcases hw : Conn.preparedQueryBuf lib ps args with e | w
    · exact of_eq rfl
    · exact write (preparedQueryBuf_framed lib (not_not.1 hlen) hw)

theorem sendSimpleQuery (sql : Bytes) (args : List Arg) :
    WritesFramed c (Conn.sendSimpleQuery lib c sql args).2 := by
  unfold Conn.sendSimpleQuery
  split
  · exact of_eq rfl
  · exact write (simpleQuery_framed _)

theorem sendQuery (sql : Bytes) (args : List Arg) : WritesFramed c (Conn.sendQuery lib c sql args).2 := by
  unfold Conn.sendQuery
  split
  · exact sendPreparedQuery lib c _ args
  · exact sendSimpleQuery lib c sql args

theorem exec (sql : Bytes) (args : List Arg) : WritesFramed c (Conn.exec lib c sql args inbox).2.1 := by
  obtain ⟨ws, e, f⟩ := sendQuery lib c sql args
  exact ⟨ws, (Conn.exec_writes lib c sql args inbox).trans e, f⟩

theorem prepare (name sql : Bytes) : WritesFramed c (Conn.prepare c name sql inbox).2.1 := by
  unfold Conn.prepare
  have hw := write (c := c) (prepareBuf_framed name sql)
  rcases h : c.write (Conn.prepareBuf name sql) with ⟨_ | e, c₁⟩ <;> rw [h] at hw
  · exact hw.trans (of_eq (Conn.recv_writes _ _ (Conn.prepareTurn_writes name) _ c₁ inbox))
  · exact hw

theorem query (sql : Bytes) (args : List Arg) : WritesFramed c (Conn.query lib c sql args inbox).2.1 := by
  unfold Conn.query
  dsimp only
  split
  · rename_i ps _
    have hsend := sendPreparedQuery lib { c with qr := { fields := ps.fieldDescriptions } } ps args
    split <;> rename_i heq <;> rw [heq] at hsend
    · exact hsend.trans (of_eq rfl)
    · exact hsend
  · have hsend := sendSimpleQuery lib { c with qr := {} } sql args
    split <;> rename_i heq <;> rw [heq] at hsend
    · exact hsend.trans (of_eq rfl)
    · have hr := hsend.trans (of_eq (Conn.recv_writes Conn.queryTurn (fun _ e => .ok (some e))
        (fun _ => Conn.queryTurn_writes) () _ inbox))
      split <;> rename_i heq'
      · rw [heq'] at hr
        exact hr.trans (of_eq rfl)
      · exact hr

theorem waitForNotification : WritesFramed c (c.waitForNotification inbox).2.1 := by
  unfold Conn.waitForNotification
  split
  · exact of_eq rfl
  · have hp := Conn.waitPeek_writes c
    split <;> rename_i heq <;> rw [heq] at hp
    · exact of_eq hp
    · exact of_eq ((Conn.recv_writes _ _ (fun _ => Conn.waitTurn_writes) () _ inbox).trans hp)

theorem close : WritesFramed c c.close.2 := by
  unfold Conn.close
  split_ifs
  · obtain ⟨ws, e, f⟩ := write (c := c) terminate_framed
    exact ⟨ws, by simpa using e, f⟩
  · exact of_eq rfl

end Calls

/-- Every call that does not panic writes only whole messages. -/
theorem step (lib : Lib) {op : Op} {c c' : Conn} {inbox inbox' : List Inbound}
    {handed : List Notification} (h : op.step lib c inbox = .ok (handed, c', inbox')) :
    WritesFramed c c' := by
  cases op with
  | exec sql args => exact of_pair (Except.ok.inj h) (exec lib c inbox sql args)
  | prepare name sql =>
    obtain ⟨_, -, he⟩ := Except.map_eq_ok h
    exact of_pair he.symm (prepare c inbox name sql)
  | deallocate name => exact of_pair (Except.ok.inj h) ((of_eq rfl).trans (exec lib _ inbox _ []))
  | listen channel => exact of_pair (Except.ok.inj h) (exec lib c inbox _ [])
  | query sql args | queryRow sql args =>
    obtain ⟨_, -, he⟩ := Except.map_eq_ok h
    exact of_pair he.symm (query lib c inbox sql args)
  | rowScan dests =>
    obtain ⟨⟨_, c₂, inbox₂⟩, h₂, he⟩ := Except.map_eq_ok h
    exact of_pair he.symm (of_eq (writesKept_laws.rowScan_rel h₂))
  | cursor op =>
    obtain ⟨⟨c₂, inbox₂⟩, h₂, he⟩ := Except.map_eq_ok h
    exact of_pair he.symm (of_eq (writesKept_laws.step_rel h₂))
  | waitForNotification => exact of_pair (Except.ok.inj h) (waitForNotification c inbox)
  | close => exact of_pair (Except.ok.inj h) (close c)

theorem run (lib : Lib) (ops : List Op) (c : Conn) (inbox : List Inbound) :
    ∀ handed c' inbox', Op.run lib ops c inbox = .ok (handed, c', inbox') → WritesFramed c c' := by
  induction ops generalizing c inbox with
  | nil =>
    intro handed c' inbox' h
    obtain ⟨rfl, -⟩ := Except.ok_conn h.symm
    exact of_eq rfl
  | cons op ops ih =>
    intro handed c' inbox' h
    obtain ⟨⟨h₁, c₁, i₁⟩, hs, h⟩ := Except.bind_eq_ok h
    obtain ⟨⟨h₂, c₂, i₂⟩, hr, h⟩ := Except.bind_eq_ok h
    obtain ⟨rfl, -⟩ := Except.ok_conn h.symm
    exact (step lib hs).trans (ih c₁ i₁ _ _ _ hr)

end WritesFramed

/-- Over any run of calls, every buffer the client writes is one or more whole messages, and the
server, cutting it at their lengths, gets back exactly those messages. -/
theorem run_writes_whole_messages (lib : Lib) (ops : List Op) (c : Conn) (inbox : List Inbound) :
    ∀ handed c' inbox', Op.run lib ops c inbox = .ok (handed, c', inbox') →
      ∃ ws, c'.conn.writes = c.conn.writes ++ ws ∧ ∀ w ∈ ws, ∃ msgs : List (UInt8 × Bytes),
        msgs ≠ [] ∧ w = wireBytes msgs ∧
        ((∀ m ∈ msgs, m.2.length + 4 < 2 ^ 32) → splitMessages w.length w = some msgs) := by
  intro handed c' inbox' h
  obtain ⟨ws, e, f⟩ := WritesFramed.run lib ops c inbox _ _ _ h
  refine ⟨ws, e, fun w hw => ?_⟩
  obtain ⟨msgs, hne, rfl⟩ := f w hw
  exact ⟨msgs, hne, rfl, fun hsmall =>
    splitMessages_wireBytes msgs hsmall _ (length_le_wireBytes msgs)⟩

open Backend in
/-- `Prepare("s1", ..)`, `Exec("s1")` and `Close`: three buffers, each cut back into its messages. -/
theorem prepare_exec_close_writes :
    let fd : FieldDescription := ⟨ascii "n", 0, 1, int4Oid, 4, -1, binaryFormatCode⟩
    let c : Conn := { conn := {}, config := {}, alive := true }
    let ops := [Op.prepare (ascii "s1") (ascii "select n from t"), .exec (ascii "s1") [], .close]
    let inbox := [parseCompleteMsg, parameterDescriptionMsg [], rowDescriptionMsg [fd],
      readyForQueryMsg 73, bindCompleteMsg, dataRowMsg [some (be32 1)],
      commandCompleteMsg (ascii "SELECT 1"), readyForQueryMsg 73]
    (Op.run exampleLib ops c inbox).map (fun r =>
        r.2.1.conn.writes.map fun w => (splitMessages w.length w).map (List.map Prod.fst)) =
      .ok [some [80, 68, 83], some [66, 69, 83], some [88]] ∧
    ∀ handed c' inbox', Op.run exampleLib ops c inbox = .ok (handed, c', inbox') →
      ∃ ws, c'.conn.writes = c.conn.writes ++ ws ∧ ∀ w ∈ ws, ∃ msgs : List (UInt8 × Bytes),
        msgs ≠ [] ∧ w = wireBytes msgs ∧
        ((∀ m ∈ msgs, m.2.length + 4 < 2 ^ 32) → splitMessages w.length w = some msgs) :=
  ⟨rfl, run_writes_whole_messages exampleLib _ _ _⟩

end Pgx

import Pgx.Session.Laws
import Pgx.Protocol.Backend

namespace Pgx

/-- The key and value `rxParameterStatus` reads from a ParameterStatus body. -/
def statusPair (body : Bytes) : Bytes × Bytes :=
  let key := (⟨body, none⟩ : MsgReader).readCString
  (key.1, key.2.readCString.1)

/-- The notification `rxNotificationResponse` reads from a NotificationResponse body. -/
def notificationOf (body : Bytes) : Notification :=
  let pid := (⟨body, none⟩ : MsgReader).readInt32
  let channel := pid.2.readCString
  ⟨pid.1, channel.1, channel.2.readCString.1⟩

def statusOf : Inbound → Option (Bytes × Bytes)
  | .frame t b => if t = 83 then some (statusPair b) else none
  | .fail _ => none

def notificationIn : Inbound → Option Notification
  | .frame t b => if t = notificationResponse then some (notificationOf b) else none
  | .fail _ => none

def statusPairs (l : List Inbound) : List (Bytes × Bytes) := l.filterMap statusOf

def notificationsIn (l : List Inbound) : List Notification := l.filterMap notificationIn

/-- The runtime parameters after setting each pair, left to right. -/
def setParams (params : Bytes → Option Bytes) (pairs : List (Bytes × Bytes)) :
    Bytes → Option Bytes :=
  pairs.foldl (fun p kv => Function.update p kv.1 (some kv.2)) params

/-- A ParameterStatus message is read as the setting it carries. -/
@[simp] theorem statusOf_parameterStatusMsg {key value : Bytes} (hk : NulFree key)
    (hv : NulFree value) : statusOf (Backend.parameterStatusMsg key value) = some (key, value) := by
  have h := MsgReader.readCString_cstring value [] hv
  rw [List.append_nil] at h
  simp [statusOf, Backend.parameterStatusMsg, statusPair, MsgReader.readCString_cstring _ _ hk, h]

/-- A NotificationResponse message is read as the notification it carries. -/
@[simp] theorem notificationIn_notificationResponseMsg {n : Notification} (hc : NulFree n.channel)
    (hp : NulFree n.payload) : notificationIn (Backend.notificationResponseMsg n) = some n := by
  have h := MsgReader.readCString_cstring n.payload [] hp
  rw [List.append_nil] at h
  simp [notificationIn, Backend.notificationResponseMsg, notificationOf, List.append_assoc,
    MsgReader.readCString_cstring _ _ hc, h]

/-- From `c` to `c'` over `consumed`, having handed `handed` out: each ParameterStatus consumed is set
once, in order, and each NotificationResponse is handed out or still queued, once, in order. -/
def Tracks (handed : List Notification) (c c' : Conn) (consumed : List Inbound) : Prop :=
  c'.runtimeParams = setParams c.runtimeParams (statusPairs consumed) ∧
    handed ++ c'.notifications = c.notifications ++ notificationsIn consumed

namespace Tracks

theorem of_eq {c c' : Conn} (hp : c'.runtimeParams = c.runtimeParams)
    (hn : c'.notifications = c.notifications) : Tracks [] c c' [] :=
  ⟨hp, by simp [hn, notificationsIn]⟩

theorem trans {h₁ h₂ : List Notification} {c₁ c₂ c₃ : Conn} {l₁ l₂ : List Inbound}
    (t₁ : Tracks h₁ c₁ c₂ l₁) (t₂ : Tracks h₂ c₂ c₃ l₂) : Tracks (h₁ ++ h₂) c₁ c₃ (l₁ ++ l₂) := by
  constructor
  · rw [t₂.1, t₁.1, statusPairs, statusPairs, statusPairs, List.filterMap_append, setParams,
      setParams, setParams, List.foldl_append]
  · calc h₁ ++ h₂ ++ c₃.notifications = h₁ ++ c₂.notifications ++ notificationsIn l₂ := by
          rw [List.append_assoc, t₂.2, List.append_assoc]
      _ = c₁.notifications ++ notificationsIn (l₁ ++ l₂) := by
          rw [t₁.2, notificationsIn, notificationsIn, notificationsIn, List.filterMap_append,
            List.append_assoc]

/-- The end point may be replaced by one that agrees with it on both. -/
theorem of_frame {h : List Notification} {c c₁ c' : Conn} {l : List Inbound} (t : Tracks h c c₁ l)
    (hp : c'.runtimeParams = c₁.runtimeParams) (hn : c'.notifications = c₁.notifications) :
    Tracks h c c' l :=
  ⟨hp.trans t.1, hn ▸ t.2⟩

/-- `WaitForNotification` handing out the head of the queue. -/
theorem pop {c : Conn} {n : Notification} {ns : List Notification} (h : c.notifications = n :: ns) :
    Tracks [n] c { c with notifications := ns } [] :=
  ⟨rfl, by simp [h, notificationsIn]⟩

/-- A frame that is neither ParameterStatus nor NotificationResponse, and leaves both alone. -/
theorem skip {c c' : Conn} {t : UInt8} (b : Bytes) (ht : t ≠ 83 ∧ t ≠ notificationResponse)
    (hp : c'.runtimeParams = c.runtimeParams) (hn : c'.notifications = c.notifications) :
    Tracks [] c c' [.frame t b] :=
  ⟨by simp [hp, statusPairs, statusOf, ht.1, setParams],
    by simp [hn, notificationsIn, notificationIn, ht.2]⟩

end Tracks

/-- The messages every receive loop hands to `processContextFreeMsg` are tracked. -/
theorem processContextFreeMsg_tracks (c : Conn) (t : UInt8) (b : Bytes) :
    Tracks [] c ({ c with mr := ⟨b, none⟩ }.processContextFreeMsg t).1 [.frame t b] := by
  obtain ⟨-, -, hp, hn, -⟩ := Conn.rxErrorResponse_frame { c with mr := ⟨b, none⟩ }
  unfold Conn.processContextFreeMsg
  split_ifs with h₁ h₂ h₃ h₄
  · subst h₁
    exact ⟨rfl, by simp [notificationsIn, notificationIn, notificationResponse]⟩
  · exact Tracks.skip b (by subst h₂; decide) hp hn
  · exact Tracks.skip b (by subst h₃; decide) rfl rfl
  · subst h₄
    exact ⟨rfl, by simp [notificationsIn, notificationIn, notificationOf]⟩
  · exact Tracks.skip b ⟨h₁, h₄⟩ rfl rfl

/-- Tracking with nothing handed out obeys the laws of the cursor's calls. -/
theorem tracks_laws : CursorLaws (Tracks []) where
  refl _ := Tracks.of_eq rfl rfl
  trans t₁ t₂ := t₁.trans t₂
  untouched h := Tracks.of_eq h.2.2.2.1 h.2.2.2.2.1
  close c := by
    rw [QueryResult.close_eq]
    exact Tracks.of_eq rfl rfl
  die _ _ _ := Tracks.of_eq rfl rfl
  fail _ _ _ := ⟨rfl, (List.append_nil _).symm⟩
  skip _ _ b _ h₁ h₂ := Tracks.skip b ⟨h₁, h₂⟩ rfl rfl
  context c t b _ := processContextFreeMsg_tracks c t b

namespace Reaches

theorem of_eq {c c' : Conn} (inbox : List Inbound) (hp : c'.runtimeParams = c.runtimeParams)
    (hn : c'.notifications = c.notifications) : Reaches (Tracks []) c inbox c' inbox :=
  ⟨[], rfl, Tracks.of_eq hp hn⟩

theorem tracks_trans {h₁ h₂ : List Notification} {c₁ c₂ c₃ : Conn} {i₁ i₂ i₃ : List Inbound}
    (r₁ : Reaches (Tracks h₁) c₁ i₁ c₂ i₂) (r₂ : Reaches (Tracks h₂) c₂ i₂ c₃ i₃) :
    Reaches (Tracks (h₁ ++ h₂)) c₁ i₁ c₃ i₃ := by
  obtain ⟨l₁, rfl, t₁⟩ := r₁
  obtain ⟨l₂, rfl, t₂⟩ := r₂
  exact ⟨l₁ ++ l₂, (List.append_assoc _ _ _).symm, t₁.trans t₂⟩

/-- A call that returned what it handed out and where it left the connection. -/
theorem of_handed {c c' : Conn} {inbox inbox' : List Inbound} {h h' : List Notification}
    {p : Conn × List Inbound} (e : (h, p) = (h', c', inbox'))
    (hp : Reaches (Tracks h) c inbox p.1 p.2) : Reaches (Tracks h') c inbox c' inbox' := by
  cases e
  exact hp

end Reaches

section Turns

variable (c : Conn) (t : UInt8) (b : Bytes)

theorem execTurn_tracks (st : CommandTag × Option Error) :
    Tracks [] c (Conn.execTurn st { c with mr := ⟨b, none⟩ } t).1 [.frame t b] := by
  unfold Conn.execTurn
  split_ifs with h₁ h₂ h₃
  · exact Tracks.skip b (by subst h₁; decide) rfl rfl
  · exact Tracks.skip b (by rcases h₂ with rfl | rfl | rfl <;> decide) rfl rfl
  · exact Tracks.skip b (by subst h₃; decide) rfl rfl
  · exact processContextFreeMsg_tracks c t b

theorem prepareTurn_tracks (name : Bytes) (st : PreparedStatement × Option Error) :
    Tracks [] c (Conn.prepareTurn name st { c with mr := ⟨b, none⟩ } t).1 [.frame t b] := by
  by_cases h₁ : t = parseComplete
  · subst h₁; exact Tracks.skip b (by decide) rfl rfl
  by_cases h₂ : t = parameterDescription
  · subst h₂
    rw [Conn.prepareTurn_parameterDescription]
    split <;> rename_i heq
    · exact Tracks.skip b (by decide) rfl rfl
    · obtain ⟨r, rfl⟩ := Conn.rxParameterDescription_ok heq
      exact Tracks.skip b (by decide) rfl rfl
  by_cases h₃ : t = rowDescription
  · subst h₃
    rw [Conn.prepareTurn_rowDescription]
    split <;> rename_i heq
    · exact Tracks.skip b (by decide) rfl rfl
    · obtain ⟨r, rfl⟩ := Conn.rxRowDescription_ok heq
      exact Tracks.skip b (by decide) rfl rfl
  by_cases h₄ : t = noData
  · subst h₄; exact Tracks.skip b (by decide) rfl rfl
  by_cases h₅ : t = readyForQuery
  · subst h₅; exact Tracks.skip b (by decide) rfl rfl
  · rw [Conn.prepareTurn_context _ _ _ ⟨h₁, h₂, h₃, h₄, h₅⟩]
    exact processContextFreeMsg_tracks c t b

theorem queryTurn_tracks :
    Tracks [] c (Conn.queryTurn () { c with mr := ⟨b, none⟩ } t).1 [.frame t b] := by
  unfold Conn.queryTurn
  split_ifs with h₁
  · split <;> rename_i heq
    · exact Tracks.skip b (by subst h₁; decide) rfl rfl
    · obtain ⟨r, rfl⟩ := Conn.rxRowDescription_ok heq
      exact Tracks.skip b (by subst h₁; decide) rfl rfl
  · split <;> rename_i heq <;> exact (congrArg Prod.fst heq) ▸ processContextFreeMsg_tracks c t b

theorem connectTurn_tracks (lib : Lib) :
    Tracks [] c (Conn.connectTurn lib () { c with mr := ⟨b, none⟩ } t).1 [.frame t b] := by
  unfold Conn.connectTurn
  split_ifs with h₁ h₂ h₃
  · exact Tracks.skip b (by subst h₁; decide) rfl rfl
  · have ha : Tracks [] c (Conn.rxAuthenticationX lib { c with mr := ⟨b, none⟩ }).1 [.frame t b] := by
      obtain ⟨tr, r, hc⟩ := Conn.rxAuthenticationX_conn lib { c with mr := ⟨b, none⟩ }
      rw [hc]
      exact Tracks.skip b (by subst h₂; decide) rfl rfl
    split <;> rename_i heq <;> exact (congrArg Prod.fst heq) ▸ ha
  · exact Tracks.skip b (by subst h₃; decide) rfl rfl
  · split <;> rename_i heq <;> exact (congrArg Prod.fst heq) ▸ processContextFreeMsg_tracks c t b

end Turns

section Wait

variable {c c' : Conn} {t : UInt8} {b : Bytes}

theorem waitTurn_next {s : Unit}
    (h : Conn.waitTurn () { c with mr := ⟨b, none⟩ } t = (c', .next s)) :
    Tracks [] c c' [.frame t b] := by
  rcases Conn.waitTurn_cases h with ⟨_, _, -, -, hx⟩ | ⟨⟨tr, rfl⟩, -⟩
  · cases hx
  · exact (processContextFreeMsg_tracks c t b).of_frame rfl rfl

theorem waitTurn_exit {r : Option Notification × Option Error}
    (h : Conn.waitTurn () { c with mr := ⟨b, none⟩ } t = (c', .exit r)) :
    Tracks r.1.toList c c' [.frame t b] := by
  rcases Conn.waitTurn_cases h with ⟨n, ns, hq, rfl, hx⟩ | ⟨⟨tr, rfl⟩, hr⟩
  · cases hx
    exact (processContextFreeMsg_tracks c t b).trans (Tracks.pop hq)
  · rw [hr r rfl]
    exact (processContextFreeMsg_tracks c t b).of_frame rfl rfl

end Wait

theorem waitForNotification_tracks (c : Conn) (inbox : List Inbound) :
    Reaches (Tracks (c.waitForNotification inbox).1.1.toList) c inbox
      (c.waitForNotification inbox).2.1 (c.waitForNotification inbox).2.2 := by
  unfold Conn.waitForNotification
  split <;> rename_i hq
  · exact ⟨[], rfl, Tracks.pop hq⟩
  · obtain ⟨tr, htr⟩ := Conn.waitPeek_conn c
    split <;> rename_i heq <;> rw [heq] at htr <;> dsimp only at htr <;> subst htr
    · exact Reaches.of_eq inbox rfl rfl
    · have hloop := Conn.recv_spec Conn.waitTurn (fun _ e => (none, some e)) (Tracks [])
        (fun c r c' l => Tracks r.1.toList c c' l) (fun t₁ t₂ => t₁.trans t₂)
        (fun h => by rcases Conn.refuse_some h with ⟨-, rfl⟩ | ⟨-, rfl⟩ <;> exact Tracks.of_eq rfl rfl)
        (fun e h => tracks_laws.fail _ e (Conn.refuse_none_alive h)) (fun _ => Tracks.of_eq rfl rfl)
        (fun _ hb => waitTurn_next hb) (fun _ hb => waitTurn_exit hb) () { c with conn := tr } inbox
      exact (Reaches.of_eq inbox rfl rfl).tracks_trans hloop

section Calls

variable (lib : Lib) (c : Conn) (inbox : List Inbound)

theorem exec_tracks (sql : Bytes) (args : List Arg) :
    Reaches (Tracks []) c inbox (Conn.exec lib c sql args inbox).2.1
      (Conn.exec lib c sql args inbox).2.2 := by
  obtain ⟨tr, ht⟩ := Conn.sendQuery_conn lib c sql args
  unfold Conn.exec
  rcases hs : Conn.sendQuery lib c sql args with ⟨_ | e, c₁⟩ <;> rw [hs] at ht <;>
    dsimp only at ht ⊢ <;> subst ht
  · exact tracks_laws.reaches_trans (Reaches.of_eq inbox rfl rfl)
      (tracks_laws.recv_rel _ _ (fun st c t b _ => execTurn_tracks c t b st) _ _ inbox)
  · exact Reaches.of_eq inbox rfl rfl

theorem prepare_tracks (name sql : Bytes) :
    Reaches (Tracks []) c inbox (Conn.prepare c name sql inbox).2.1
      (Conn.prepare c name sql inbox).2.2 := by
  unfold Conn.prepare
  rcases hw : c.write (Conn.prepareBuf name sql) with ⟨_ | e, c₁⟩
  all_goals obtain rfl : c₁ = { c with conn := _ } := (congrArg Prod.snd hw).symm
  · exact tracks_laws.reaches_trans (Reaches.of_eq inbox rfl rfl)
      (tracks_laws.recv_rel _ _ (fun st c t b _ => prepareTurn_tracks c t b name st) _ _ inbox)
  · exact Reaches.of_eq inbox rfl rfl

theorem query_tracks (sql : Bytes) (args : List Arg) :
    Reaches (Tracks []) c inbox (Conn.query lib c sql args inbox).2.1
      (Conn.query lib c sql args inbox).2.2 := by
  unfold Conn.query
  dsimp only
  split
  · rename_i ps _
    obtain ⟨tr, ht⟩ := Conn.sendPreparedQuery_conn lib
      { c with qr := { fields := ps.fieldDescriptions } } ps args
    split <;> rename_i heq <;> rw [heq] at ht <;> dsimp only at ht <;> subst ht <;>
      exact Reaches.of_eq inbox rfl rfl
  · obtain ⟨tr, ht⟩ := Conn.sendSimpleQuery_conn lib { c with qr := {} } sql args
    split <;> rename_i heq <;> rw [heq] at ht <;> dsimp only at ht <;> subst ht
    · exact Reaches.of_eq inbox rfl rfl
    · have hr := tracks_laws.recv_rel Conn.queryTurn (fun _ e => .ok (some e))
        (fun _ c t b _ => queryTurn_tracks c t b) () { c with qr := {}, conn := tr } inbox
      have h₀ := tracks_laws.reaches_trans (Reaches.of_eq inbox rfl rfl) hr
      split <;> rename_i heq'
      · rw [heq'] at h₀
        exact tracks_laws.reaches_trans h₀ (Reaches.of_eq _ rfl rfl)
      · exact h₀

theorem close_tracks : Reaches (Tracks []) c inbox c.close.2 inbox := by
  unfold Conn.close
  split_ifs <;> exact Reaches.of_eq inbox rfl rfl

end Calls

/-- Every call that does not panic tracks the frames it consumed, with what it handed out. -/
theorem Op.step_tracks (lib : Lib) {op : Op} {c c' : Conn} {inbox inbox' : List Inbound}
    {handed : List Notification} (h : op.step lib c inbox = .ok (handed, c', inbox')) :
    Reaches (Tracks handed) c inbox c' inbox' := by
  cases op with
  | exec sql args => exact Reaches.of_handed (Except.ok.inj h) (exec_tracks lib c inbox sql args)
  | prepare name sql =>
    obtain ⟨_, -, he⟩ := Except.map_eq_ok h
    exact Reaches.of_handed he.symm (prepare_tracks c inbox name sql)
  | deallocate name =>
    exact Reaches.of_handed (Except.ok.inj h)
      (tracks_laws.reaches_trans (Reaches.of_eq inbox rfl rfl) (exec_tracks lib _ inbox _ []))
  | listen channel => exact Reaches.of_handed (Except.ok.inj h) (exec_tracks lib c inbox _ [])
  | query sql args | queryRow sql args =>
    obtain ⟨_, -, he⟩ := Except.map_eq_ok h
    exact Reaches.of_handed he.symm (query_tracks lib c inbox sql args)
  | rowScan dests =>
    obtain ⟨⟨_, c₂, inbox₂⟩, h₂, he⟩ := Except.map_eq_ok h
    exact Reaches.of_handed he.symm (tracks_laws.calls.rowScan_rel h₂)
  | cursor op =>
    obtain ⟨⟨c₂, inbox₂⟩, h₂, he⟩ := Except.map_eq_ok h
    exact Reaches.of_handed he.symm (tracks_laws.calls.step_rel h₂)
  | waitForNotification =>
    exact Reaches.of_handed (Except.ok.inj h) (waitForNotification_tracks c inbox)
  | close => exact Reaches.of_handed (Except.ok.inj h) (close_tracks c inbox)

/-- Every run of calls that does not panic tracks the frames it consumed, with what it handed
out. -/
theorem Op.run_tracks (lib : Lib) (ops : List Op) (c : Conn) (inbox : List Inbound) :
    ∀ handed c' inbox', Op.run lib ops c inbox = .ok (handed, c', inbox') →
      Reaches (Tracks handed) c inbox c' inbox' := by
  induction ops generalizing c inbox with
  | nil =>
    intro handed c' inbox' h
    exact Reaches.of_handed (Except.ok.inj h) (Reaches.of_eq inbox rfl rfl)
  | cons op ops ih =>
    intro handed c' inbox' h
    obtain ⟨⟨h₁, c₁, i₁⟩, hs, h⟩ := Except.bind_eq_ok h
    obtain ⟨⟨h₂, c₂, i₂⟩, hr, h⟩ := Except.bind_eq_ok h
    cases h
    exact (Op.step_tracks lib hs).tracks_trans (ih c₁ i₁ _ _ _ hr)

/-- `Connect` returns a connection that has set exactly the parameters of the ParameterStatus
frames it read and queued exactly the notifications it read, starting from none. -/
theorem connect_tracks {lib : Lib} {env : Env} {config : ConnConfig} {inbox inbox' : List Inbound}
    {c : Conn} {e : Option Error} {s : Option Transport}
    (h : connect lib env config inbox = (⟨some c, e, s⟩, inbox')) :
    ∃ c₀ : Conn, c₀.runtimeParams = (fun _ => none) ∧ c₀.notifications = [] ∧
      Reaches (Tracks []) c₀ inbox c inbox' := by
  unfold connect at h
  rcases hu : (if config.user = [] then env.currentUser else .ok config.user) with e₀ | user <;>
    rw [hu] at h
  · cases h
  · dsimp only at h
    generalize env.dial _ = d at h
    rcases d with e₁ | t
    · cases h
    · dsimp only at h
      generalize hc₀ : Conn.mk t _ _ _ _ _ _ _ _ _ _ _ _ = c₀ at h
      refine ⟨c₀, by rw [← hc₀], by rw [← hc₀], ?_⟩
      generalize hr : (if config.tlsConfig = true then Conn.startTLS env c₀ else (c₀, none)) = r at h
      obtain ⟨tr₁, hr₁⟩ : ∃ tr, r.1 = { c₀ with conn := tr } := by
        rw [← hr]
        split_ifs
        · exact Conn.startTLS_conn env c₀
        · exact ⟨_, rfl⟩
      rcases r with ⟨c₁, _ | e₁⟩ <;> dsimp only at h hr₁ <;> subst hr₁
      · generalize hw : Conn.write _ _ = w at h
        obtain ⟨tr₂, hw₂⟩ : ∃ tr, w.2 = { c₀ with conn := tr } := ⟨_, by rw [← hw]; rfl⟩
        rcases w with ⟨_ | e₂, c₂⟩ <;> dsimp only at h hw₂ <;> subst hw₂
        · have hq := tracks_laws.recv_rel (Conn.connectTurn lib) (fun _ e => some e)
            (fun _ c t b _ => connectTurn_tracks c t b lib) () { c₀ with conn := tr₂ } inbox
          generalize Conn.recv _ _ () _ inbox = q at h hq
          rcases q with ⟨_ | e₃, c₃, i₃⟩ <;> dsimp only at h
          · cases h
            exact tracks_laws.reaches_trans (Reaches.of_eq inbox rfl rfl) hq
          · cases h
        · cases h
          exact Reaches.of_eq inbox rfl rfl
      · cases h
        exact Reaches.of_eq inbox rfl rfl

/-- Over any session and stream, the runtime parameters are the ParameterStatus settings applied in
order, and the notifications handed out then still queued are the NotificationResponse frames, in order. -/
theorem session_async_once (lib : Lib) (env : Env) (config : ConnConfig) (ops : List Op)
    (inbox : List Inbound) :
    ∀ handed c' rest, session lib env config ops inbox = .ok (some (handed, c', rest)) →
      ∃ consumed, inbox = consumed ++ rest ∧
        c'.runtimeParams = setParams (fun _ => none) (statusPairs consumed) ∧
        handed ++ c'.notifications = notificationsIn consumed := by
  intro handed c' rest h
  unfold session at h
  split at h
  · rename_i hc
    obtain ⟨_, hr, he⟩ := Except.map_eq_ok h
    cases he
    obtain ⟨c₀, hp, hn, r₀⟩ := connect_tracks hc
    obtain ⟨l, rfl, t⟩ := r₀.tracks_trans (Op.run_tracks lib ops _ _ _ _ _ hr)
    exact ⟨l, rfl, by rw [t.1, hp], by simpa [hn] using t.2⟩
  · cases h

open Backend in
/-- A session that listens on a channel, then closes a query's cursor while a notification on
the channel and a parameter change arrive among its rows, then waits for a notification. -/
theorem session_notification_in_drain :
    let env : Env :=
      { currentUser := .ok (ascii "postgres"), pathExists := fun _ => false,
        dial := fun _ => .ok {}, joinPath := fun a b => a ++ b, sslReply := .ok 78 }
    let config : ConnConfig := { host := ascii "localhost", user := ascii "postgres" }
    let fd : FieldDescription := ⟨ascii "n", 0, 1, int4Oid, 4, -1, binaryFormatCode⟩
    let n : Notification := ⟨7, ascii "jobs", ascii "42"⟩
    let inbox := [authenticationMsg 0 [], parameterStatusMsg (ascii "TimeZone") (ascii "GMT"),
      readyForQueryMsg 73, commandCompleteMsg (ascii "LISTEN"), readyForQueryMsg 73,
      rowDescriptionMsg [fd], dataRowMsg [some (be32 1)], notificationResponseMsg n,
      parameterStatusMsg (ascii "TimeZone") (ascii "UTC"), commandCompleteMsg (ascii "SELECT 1"),
      readyForQueryMsg 73]
    let ops := [Op.listen (ascii "jobs"), .query (ascii "select 1") [], .cursor .close,
      .waitForNotification]
    (session exampleLib env config ops inbox).map
        (·.map fun r => (r.1, r.2.1.notifications, r.2.1.runtimeParams (ascii "TimeZone"), r.2.2)) =
      .ok (some ([n], [], some (ascii "UTC"), [])) ∧
    ∀ handed c' rest, session exampleLib env config ops inbox = .ok (some (handed, c', rest)) →
      ∃ consumed, inbox = consumed ++ rest ∧
        c'.runtimeParams = setParams (fun _ => none) (statusPairs consumed) ∧
        handed ++ c'.notifications = notificationsIn consumed :=
  ⟨rfl, session_async_once exampleLib _ _ _ _⟩

end Pgx

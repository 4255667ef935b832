import Pgx.Protocol.Bind

namespace Pgx

open Backend

namespace Conn

theorem processContextFreeMsg_writes (c : Conn) (t : UInt8) :
    (c.processContextFreeMsg t).1.conn.writes = c.conn.writes := by
  obtain ⟨-, -, -, -, -, hw⟩ := c.rxErrorResponse_frame
  unfold processContextFreeMsg
  split_ifs <;> simp [hw]

theorem execTurn_writes (st : CommandTag × Option Error) (c : Conn) (t : UInt8) :
    (execTurn st c t).1.conn.writes = c.conn.writes := by
  unfold execTurn
  split_ifs <;> simp [processContextFreeMsg_writes]

/-- `Exec` writes its request and nothing else: its receive loop only reads. -/
theorem exec_writes (lib : Lib) (c : Conn) (sql : Bytes) (args : List Arg) (inbox : List Inbound) :
    (exec lib c sql args inbox).2.1.conn.writes = (sendQuery lib c sql args).2.conn.writes := by
  unfold exec
  split
  · rename_i heq
    rw [heq]
  · rename_i c₁ heq
    rw [heq]
    obtain ⟨-, -, h⟩ := recv_rel execTurn (fun st e => (st.1, some e))
      (fun c c' _ => c'.conn.writes = c.conn.writes) (fun h₁ h₂ => h₂.trans h₁)
      (fun h => by rcases refuse_some h with ⟨-, rfl⟩ | ⟨-, rfl⟩ <;> simp)
      (fun _ _ => by simp) (fun _ => by simp) (fun s t b _ => execTurn_writes s _ t) ([], none) c₁ inbox
    exact h

/-- `Exec("commit")` runs a cached statement named "commit" instead of sending COMMIT. -/
theorem exec_commit_prepared (lib : Lib) (c : Conn) (inbox : List Inbound) (ps : PreparedStatement)
    (hps : c.preparedStatements (ascii "commit") = some ps) (hno : ps.parameterOids = []) :
    (exec lib c (ascii "commit") [] inbox).2.1.conn.writes = c.conn.writes ++
      [bindMsg ps.name [] 0 [] (ps.fieldDescriptions.map (·.formatCode)) ++ frame 69 (0 :: be32 0) ++
        frame 83 []] := by
  cases hw : preparedQueryBuf lib ps [] with
  | error e => simp [preparedQueryBuf, hno, writeArgs, Except.map] at hw
  | ok w =>
    obtain ⟨vals, hvals, hbuf⟩ := preparedQueryBuf_values lib ps [] w (by simp [hno]) hw
    simp only [hno, List.zip_nil_left, List.map_nil, List.length_nil] at hvals hbuf
    cases hvals
    rw [exec_writes, sendQuery, hps, sendPreparedQuery_writes lib c ps [] w (by simp [hno]) hw, hbuf]
    rfl

/-- After a body that caches a statement named "commit", `transaction` writes that statement where
COMMIT should go, and reports committed exactly when its response has no error. -/
theorem transaction_commit_runs_prepared (lib : Lib) (c : Conn) (isoLevel : Bytes)
    (f : Conn → List Inbound → Bool × Conn × List Inbound) (inbox : List Inbound)
    (ps : PreparedStatement) :
    let b := exec lib c (if isoLevel = [] then ascii "begin" else ascii "begin isolation level " ++ isoLevel)
      [] inbox
    let body := f b.2.1 b.2.2
    b.1.2 = none → body.1 = true → body.2.1.txStatus = 84 →
    body.2.1.preparedStatements (ascii "commit") = some ps → ps.parameterOids = [] →
    let r := transaction lib c isoLevel f inbox
    r.1.1 = r.1.2.isNone ∧
      r.2.1.conn.writes = body.2.1.conn.writes ++
        [bindMsg ps.name [] 0 [] (ps.fieldDescriptions.map (·.formatCode)) ++ frame 69 (0 :: be32 0) ++
          frame 83 []] := by
  intro b body hb hf hT hps hno r
  have hr : r = (((exec lib body.2.1 (ascii "commit") [] body.2.2).1.2.isNone,
      (exec lib body.2.1 (ascii "commit") [] body.2.2).1.2), (exec lib body.2.1 (ascii "commit") [] body.2.2).2) := by
    simp only [r, transaction]
    rcases hB : exec lib c _ [] inbox with ⟨⟨tag, _ | e⟩, c₁, i₁⟩
    · simp only [b, body, hB] at hf hT ⊢
      rcases hF : f c₁ i₁ with ⟨committed, c₂, i₂⟩
      simp only [hF] at hf hT ⊢
      simp [hf, hT]
    · simp only [b, hB] at hb
      cases hb
  rw [hr]
  exact ⟨rfl, exec_commit_prepared lib _ _ ps hps hno⟩

end Conn

/-- A body that prepares "commit" as `select 1`: committed, no error, no COMMIT sent. -/
theorem transaction_commit_statement_hijacked :
    let c : Conn := { conn := {}, config := {}, alive := true }
    let f := fun c inbox => (true, (Conn.prepare c (ascii "commit") (ascii "select 1") inbox).2)
    let inbox := [commandCompleteMsg (ascii "BEGIN"), readyForQueryMsg 84, parseCompleteMsg,
      parameterDescriptionMsg [], .frame noData [], readyForQueryMsg 84, bindCompleteMsg,
      dataRowMsg [some (ascii "1")], commandCompleteMsg (ascii "SELECT 1"), readyForQueryMsg 84]
    let b := Conn.exec exampleLib c (ascii "begin") [] inbox
    let body := f b.2.1 b.2.2
    let ps : PreparedStatement := ⟨ascii "commit", [], []⟩
    let r := Conn.transaction exampleLib c [] f inbox
    ((b.1.2 = none ∧ body.1 = true ∧ body.2.1.txStatus = 84 ∧
        body.2.1.preparedStatements (ascii "commit") = some ps ∧ ps.parameterOids = []) ∧
      r.1.1 = r.1.2.isNone ∧
      r.2.1.conn.writes = body.2.1.conn.writes ++
        [bindMsg ps.name [] 0 [] (ps.fieldDescriptions.map (·.formatCode)) ++ frame 69 (0 :: be32 0) ++
          frame 83 []]) ∧
    r.1 = (true, none) ∧ r.2.1.txStatus = 84 :=
  ⟨⟨⟨rfl, rfl, rfl, rfl, rfl⟩,
    Conn.transaction_commit_runs_prepared exampleLib _ [] _ _ _ rfl rfl rfl rfl rfl⟩, rfl, rfl⟩

end Pgx

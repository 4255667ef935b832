import Pgx.Protocol.Backend
import Pgx.Conn.Connect

namespace Pgx

open Backend

namespace Conn

theorem rxAuthenticationX_unknown (lib : Lib) {c : Conn} {method : Int32} (rest : Bytes)
    (hm : method ≠ 0 ∧ method ≠ 3 ∧ method ≠ 5) (hmr : c.mr = ⟨be32 method ++ rest, none⟩) :
    rxAuthenticationX lib c =
      ({ c with mr := ⟨rest, none⟩ }, some (.new (ascii "Received unknown authentication message"))) := by
  simp only [rxAuthenticationX, hmr, MsgReader.readInt32_be32, if_neg hm.1, if_neg hm.2.1,
    if_neg hm.2.2]

/-- The startup loop leaves on an authentication request of a method it does not know. -/
theorem connectTurn_unknown_auth (lib : Lib) {c : Conn} {method : Int32} (rest : Bytes)
    (hm : method ≠ 0 ∧ method ≠ 3 ∧ method ≠ 5) (hmr : c.mr = ⟨be32 method ++ rest, none⟩) :
    connectTurn lib () c authenticationX =
      ({ c with mr := ⟨rest, none⟩ }, .exit (some (.new (ascii "Received unknown authentication message")))) := by
  simp only [connectTurn, (by decide : authenticationX ≠ backendKeyData), if_false, if_true,
    rxAuthenticationX_unknown lib rest hm hmr]

end Conn

/-- An authentication method the driver does not know makes `Connect` `return nil, err`, so the
deferred cleanup sees `c = nil` and the dialed socket is left open. -/
theorem connect_unknown_auth_leaks (lib : Lib) (env : Env) (config : ConnConfig) (t : Transport)
    (method : Int32) (salt : Bytes) (rest : List Inbound) (huser : config.user ≠ [])
    (htls : config.tlsConfig = false) (hdial : ∀ n, env.dial n = .ok t)
    (hopen : t.closed = false) (hfaults : t.writeFaults = [])
    (hm : method ≠ 0 ∧ method ≠ 3 ∧ method ≠ 5) :
    let r := connect lib env config (authenticationMsg method salt :: rest)
    r.1.conn = none ∧ r.1.err = some (.new (ascii "Received unknown authentication message")) ∧
      (∃ s, r.1.socket = some s ∧ s.closed = false) ∧ r.2 = rest := by
  simp (disch := simp [Conn.refuse, hopen, hfaults]) only [connect, huser, if_false, hdial, htls,
    Bool.false_eq_true, Conn.write_ok, authenticationMsg, Conn.recv_frame,
    Conn.connectTurn_unknown_auth lib salt hm]
  simp [hopen]

/-- A server answering the startup message with a SASL request (method 10). -/
theorem connect_sasl_leaks :
    let env : Env :=
      { currentUser := .ok (ascii "postgres"), pathExists := fun _ => false,
        dial := fun _ => .ok {}, joinPath := fun a b => a ++ b, sslReply := .ok 78 }
    let config : ConnConfig := { host := ascii "localhost", user := ascii "postgres" }
    let r := connect exampleLib env config [authenticationMsg 10 (ascii "SCRAM-SHA-256" ++ [0, 0])]
    (config.user ≠ [] ∧ config.tlsConfig = false ∧ (∀ n, env.dial n = .ok {}) ∧
      ({} : Transport).closed = false ∧ ({} : Transport).writeFaults = [] ∧
      ((10 : Int32) ≠ 0 ∧ (10 : Int32) ≠ 3 ∧ (10 : Int32) ≠ 5)) ∧
    r.1.conn = none ∧ r.1.err = some (.new (ascii "Received unknown authentication message")) ∧
      (∃ s, r.1.socket = some s ∧ s.closed = false) ∧ r.2 = [] :=
  ⟨⟨by decide, rfl, fun _ => rfl, rfl, rfl, by decide⟩,
    connect_unknown_auth_leaks exampleLib _ _ {} 10 _ [] (by decide) rfl (fun _ => rfl) rfl rfl
      (by decide)⟩

end Pgx

import Pgx.Session.Laws
import Pgx.Protocol.Columns

namespace Pgx

namespace QueryResult

/-- From `c` to `c'` the cursor has at most closed: it stays closed once closed, it holds its pool
until it closes and none after, and the pool has been released once if it has closed. -/
def Releases (c c' : Conn) : Prop :=
  (c.qr.closed = true → c'.qr.closed = true) ∧
    c'.qr.pool = (if c'.qr.closed then none else c.qr.pool) ∧
    c'.released = c.released ++ (if c'.qr.closed then c.qr.pool.toList else [])

/-- A closed cursor holds no pool. -/
def Settled (c : Conn) : Prop := c.qr.closed = true → c.qr.pool = none

section Ledger

variable {c c₁ c₂ : Conn}

theorem Releases.refl (h : Settled c) : Releases c c := by
  by_cases hc : c.qr.closed = true
  · simp [Releases, hc, h hc]
  · simp [Releases, hc]

theorem Releases.trans (h₁ : Releases c c₁) (h₂ : Releases c₁ c₂) : Releases c c₂ := by
  obtain ⟨hm₁, hp₁, hr₁⟩ := h₁
  obtain ⟨hm₂, hp₂, hr₂⟩ := h₂
  refine ⟨hm₂ ∘ hm₁, ?_, ?_⟩ <;> cases hc₁ : c₁.qr.closed <;> cases hc₂ : c₂.qr.closed <;>
    simp_all

theorem Releases.settled (h : Releases c c₁) : Settled c₁ := by
  intro hc
  rw [h.2.1, hc, if_pos rfl]

/-- The same cursor state: the release record cannot have moved. -/
theorem Releases.of_same (hs : Settled c) (hc : c₁.qr.closed = c.qr.closed)
    (hp : c₁.qr.pool = c.qr.pool) (hr : c₁.released = c.released) : Releases c c₁ := by
  unfold Releases
  rw [hc, hp, hr]
  exact Releases.refl hs

theorem releases_close (c : Conn) : Releases c (close c) := by
  simp [Releases, close_eq]

/-- Release accounting obeys the laws of cursor calls. -/
theorem releases_laws : CursorLaws fun c c' _ => Settled c → Releases c c' where
  refl _ hs := Releases.refl hs
  trans h₁ h₂ hs := (h₁ hs).trans (h₂ (h₁ hs).settled)
  untouched h hs := Releases.of_same hs h.1 h.2.1 h.2.2.1
  close c _ := releases_close c
  die _ _ _ hs := Releases.of_same hs rfl rfl rfl
  fail _ _ _ hs := Releases.of_same hs rfl rfl rfl
  skip _ _ _ _ _ _ hs := Releases.refl hs
  context c t b _ hs := Releases.of_same hs
    (by rw [(Conn.processContextFreeMsg_cursor _ t).1])
    (by rw [(Conn.processContextFreeMsg_cursor _ t).1])
    (Conn.processContextFreeMsg_cursor _ t).2

end Ledger

theorem nextRow_closed {c : Conn} (h : c.qr.closed = true) (inbox : List Inbound) :
    nextRow c inbox = (false, c, inbox) := by
  simp [nextRow, h]

theorem Close_closed {c : Conn} (h : c.qr.closed = true) (inbox : List Inbound) :
    Close c inbox = (c, inbox) := by
  simp [Close, h]

end QueryResult

open QueryResult in
/-- Over any cursor calls and stream, the pool is released once, when the cursor closes, and a closed
cursor stays closed; `NextRow` false, `Close` and `Fatal` then close it, and a closed cursor reads nothing. -/
theorem cursor_releases_once (lib : Lib) (ops : List CursorOp) (c : Conn) (inbox : List Inbound)
    (hs : c.qr.closed = true → c.qr.pool = none) :
    ∀ c' rest, CursorOp.run lib ops c inbox = .ok (c', rest) →
      (c.qr.closed = true → c'.qr.closed = true) ∧ (c'.qr.closed = true → c'.qr.pool = none) ∧
      c'.released = c.released ++ (if c'.qr.closed then c.qr.pool.toList else []) ∧
      (∀ inbox', ((nextRow c' inbox').1 = false → (nextRow c' inbox').2.1.qr.closed = true) ∧
        (Close c' inbox').1.qr.closed = true ∧ ∀ e, (fatal c' e inbox').1.qr.closed = true) ∧
      (c'.qr.closed = true → ∀ inbox', nextRow c' inbox' = (false, c', inbox') ∧
        Close c' inbox' = (c', inbox')) := by
  intro c' rest h
  obtain ⟨_, -, hr⟩ := releases_laws.run_rel lib ops c inbox c' rest h
  have hr := hr hs
  exact ⟨hr.1, hr.settled, hr.2.2,
    fun inbox' => ⟨nextRow_false_closed c' inbox', Close_closes c' inbox', fun _ => Close_closes _ inbox'⟩,
    fun hc inbox' => ⟨nextRow_closed hc inbox', Close_closed hc inbox'⟩⟩

/-- A pooled cursor that reads its one row, scans it, reads to the end and is closed again. -/
theorem cursor_pool_released_once :
    let fd : FieldDescription := ⟨ascii "id", 0, 1, int4Oid, 4, -1, binaryFormatCode⟩
    let c : Conn :=
      { conn := {}, config := {}, alive := true, qr := { pool := some 7, fields := [fd] } }
    let inbox := [Backend.dataRowMsg [some (be32 42)], Backend.commandCompleteMsg (ascii "SELECT 1"),
      Backend.readyForQueryMsg 73]
    let ops := [CursorOp.nextRow, .scan [.int32], .nextRow, .close]
    (CursorOp.run exampleLib ops c inbox).map (fun r => r.1.released) = .ok [7] ∧
    (c.qr.closed = true → c.qr.pool = none) ∧
    ∀ c' rest, CursorOp.run exampleLib ops c inbox = .ok (c', rest) →
      (c.qr.closed = true → c'.qr.closed = true) ∧ (c'.qr.closed = true → c'.qr.pool = none) ∧
      c'.released = c.released ++ (if c'.qr.closed then c.qr.pool.toList else []) ∧
      (∀ inbox', ((QueryResult.nextRow c' inbox').1 = false →
          (QueryResult.nextRow c' inbox').2.1.qr.closed = true) ∧
        (QueryResult.Close c' inbox').1.qr.closed = true ∧
        ∀ e, (QueryResult.fatal c' e inbox').1.qr.closed = true) ∧
      (c'.qr.closed = true → ∀ inbox', QueryResult.nextRow c' inbox' = (false, c', inbox') ∧
        QueryResult.Close c' inbox' = (c', inbox')) :=
  ⟨rfl, by decide, cursor_releases_once exampleLib _ _ _ (by decide)⟩

end Pgx

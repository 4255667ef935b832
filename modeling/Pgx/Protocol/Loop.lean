import Pgx.Conn.Receive

namespace Pgx.Conn

section Loop

variable {σ ρ : Type} (body : σ → Conn → UInt8 → Conn × Turn σ ρ) (fail : σ → Error → ρ)

/-- A refusal leaves a dead connection as it is, or kills a live one. -/
theorem refuse_some {c c' : Conn} {e : Error} (h : c.refuse = some (e, c')) :
    (c.alive = false ∧ c' = c) ∨ (c.alive = true ∧ c' = c.die e) := by
  unfold refuse at h
  split at h
  · obtain ⟨e', -, he⟩ := Option.map_eq_some'.mp h
    cases he
    exact .inr ⟨‹_›, rfl⟩
  · cases h
    simp_all

/-- Only a live connection reads. -/
theorem refuse_none_alive {c : Conn} (h : c.refuse = none) : c.alive = true := by
  unfold refuse at h
  split at h
  · assumption
  · cases h

/-- A receive loop meets `Q` over the frames it took, if turns that go round again meet `R`, `R` then
`Q` is `Q`, and a refusal, a failed read, the stream's end and every last turn meet `Q`. -/
theorem recv_spec (R : Conn → Conn → List Inbound → Prop) (Q : Conn → ρ → Conn → List Inbound → Prop)
    (trans : ∀ {c₁ c₂ c₃ l₁ l₂ r}, R c₁ c₂ l₁ → Q c₂ r c₃ l₂ → Q c₁ r c₃ (l₁ ++ l₂))
    (refuse : ∀ {s c e c'}, c.refuse = some (e, c') → Q c (fail s e) c' [])
    (fails : ∀ {s c} e, c.refuse = none → Q c (fail s (.io e)) (c.die (.io e)) [.fail e])
    (eof : ∀ {s c}, c.refuse = none → Q c (fail s (.io .eof)) (c.die (.io .eof)) [])
    (next : ∀ {s c t b c' s'}, c.refuse = none →
      body s { c with mr := ⟨b, none⟩ } t = (c', .next s') → R c c' [.frame t b])
    (exit : ∀ {s c t b c' r}, c.refuse = none →
      body s { c with mr := ⟨b, none⟩ } t = (c', .exit r) → Q c r c' [.frame t b])
    (s : σ) (c : Conn) (inbox : List Inbound) :
    ∃ consumed, inbox = consumed ++ (recv body fail s c inbox).2.2 ∧
      Q c (recv body fail s c inbox).1 (recv body fail s c inbox).2.1 consumed := by
  induction inbox generalizing s c with
  | nil =>
    rcases h : c.refuse with _ | ⟨e, c'⟩
    · rw [recv_nil body fail h]
      exact ⟨[], rfl, eof h⟩
    · rw [recv_refuse body fail h]
      exact ⟨[], rfl, refuse h⟩
  | cons i rest ih =>
    rcases h : c.refuse with _ | ⟨e, c'⟩
    · cases i with
      | fail e =>
        rw [recv_fail body fail h]
        exact ⟨[.fail e], rfl, fails e h⟩
      | frame t b =>
        rw [recv_frame body fail h]
        rcases hb : body s { c with mr := ⟨b, none⟩ } t with ⟨c₁, s₁ | r⟩
        · obtain ⟨l, hl, hQ⟩ := ih s₁ c₁
          exact ⟨.frame t b :: l, congrArg _ hl, trans (next h hb) hQ⟩
        · exact ⟨[.frame t b], rfl, exit h hb⟩
    · rw [recv_refuse body fail h]
      exact ⟨[], rfl, refuse h⟩

/-- A relation that composes and covers a refusal, a failed read, the stream's end and one turn
holds across a whole receive loop, over the frames it took. -/
theorem recv_rel (R : Conn → Conn → List Inbound → Prop)
    (trans : ∀ {c₁ c₂ c₃ l₁ l₂}, R c₁ c₂ l₁ → R c₂ c₃ l₂ → R c₁ c₃ (l₁ ++ l₂))
    (refuse : ∀ {c e c'}, c.refuse = some (e, c') → R c c' [])
    (fails : ∀ {c} e, c.refuse = none → R c (c.die (.io e)) [.fail e])
    (eof : ∀ {c}, c.refuse = none → R c (c.die (.io .eof)) [])
    (turn : ∀ {c} s t b, c.refuse = none → R c (body s { c with mr := ⟨b, none⟩ } t).1 [.frame t b])
    (s : σ) (c : Conn) (inbox : List Inbound) :
    ∃ consumed, inbox = consumed ++ (recv body fail s c inbox).2.2 ∧
      R c (recv body fail s c inbox).2.1 consumed :=
  recv_spec body fail R (fun c _ c' l => R c c' l) trans refuse (fun e h => fails e h)
    (fun h => eof h)
    (@fun s _ t b _ _ h hb => by simpa only [hb] using turn s t b h)
    (@fun s _ t b _ _ h hb => by simpa only [hb] using turn s t b h) s c inbox

/-- A connection that is dead stays dead through a receive loop. -/
theorem recv_dead (s : σ) (c : Conn) (inbox : List Inbound) (h : c.alive = false) :
    recv body fail s c inbox = (fail s DeadConnError, c, inbox) :=
  recv_refuse body fail (by simp [refuse, h]) inbox

end Loop

end Pgx.Conn

import Pgx.Conn.State

namespace Pgx

-- `strconv.ParseInt(s, 10, 64)` as `RowsAffected` calls it; the standard library is not in the source.

namespace Strconv

/-- The `Err` of a `*strconv.NumError`. -/
inductive NumError where
  /-- `ErrSyntax`. -/
  | invalid
  /-- `ErrRange`. -/
  | outOfRange
  deriving DecidableEq, Repr

/-- `maxVal` of `ParseUint` for the bit size 64. -/
def maxUint64 : Nat := 2 ^ 64 - 1

/-- `cutoff` of `ParseUint` in base 10: the least `n` for which `n*10` is past `maxUint64`. -/
def cutoff : Nat := maxUint64 / 10 + 1

/-- The loop of `ParseUint(s, 10, 64)`, `n` being the value read so far; a byte that is not a decimal
digit fails it, and the product and the sum are `uint64` operations. -/
def parseUintLoop : Bytes → Nat → Nat × Option NumError
  | [], n => (n, none)
  | c :: s, n =>
    if 48 ≤ c ∧ c ≤ 57 then
      if cutoff ≤ n then (maxUint64, some .outOfRange)
      else
        let n := n * 10 % 2 ^ 64
        let n1 := (n + (c - 48).toNat) % 2 ^ 64
        if n1 < n ∨ maxUint64 < n1 then (maxUint64, some .outOfRange)
        else parseUintLoop s n1
    else (0, some .invalid)

/-- `ParseUint(s, 10, 64)`. -/
def parseUint (s : Bytes) : Nat × Option NumError :=
  if s = [] then (0, some .invalid) else parseUintLoop s 0

/-- `ParseInt(s, 10, 64)`: a leading `+` or `-` is picked off, a failure of `ParseUint` other than
`ErrRange` gives 0, and a value outside `int64` is clamped to its bounds with `ErrRange`. -/
def parseInt (s : Bytes) : Int × Option NumError :=
  match s with
  | [] => (0, some .invalid)
  | c :: t =>
    let (neg, s) := if c = 43 then (false, t) else if c = 45 then (true, t) else (false, c :: t)
    let (un, err) := parseUint s
    if err.isSome ∧ err ≠ some .outOfRange then (0, err)
    else if neg = false ∧ 2 ^ 63 ≤ un then (2 ^ 63 - 1, some .outOfRange)
    else if neg = true ∧ 2 ^ 63 < un then (-2 ^ 63, some .outOfRange)
    else (if neg then -(un : Int) else un, none)

/-- The value of the decimal digits `D` written after digits of value `n`. -/
def digitsValue (n : Nat) (D : List Nat) : Nat := D.foldl (fun a d => a * 10 + d) n

@[simp] theorem digitsValue_nil (n : Nat) : digitsValue n [] = n := rfl

@[simp] theorem digitsValue_cons (n d : Nat) (D : List Nat) :
    digitsValue n (d :: D) = digitsValue (n * 10 + d) D := rfl

theorem digitsValue_append_singleton (n d : Nat) (D : List Nat) :
    digitsValue n (D ++ [d]) = digitsValue n D * 10 + d := by
  simp [digitsValue, List.foldl_append]

theorem le_digitsValue (n : Nat) (D : List Nat) : n ≤ digitsValue n D := by
  induction D generalizing n with
  | nil => exact Nat.le_refl n
  | cons d D ih => exact Nat.le_trans (by omega) (ih (n * 10 + d))

/-- The byte `Nat.repr` writes for a digit. -/
def digitByte (d : Nat) : UInt8 := (Nat.digitChar d).toUInt8

theorem digitByte_of_lt {d : Nat} (h : d < 10) :
    48 ≤ digitByte d ∧ digitByte d ≤ 57 ∧ (digitByte d - 48).toNat = d :=
  (by decide : ∀ d, d < 10 → 48 ≤ digitByte d ∧ digitByte d ≤ 57 ∧ (digitByte d - 48).toNat = d) d h

theorem digitByte_ne {d : Nat} (h : d < 10) {b : UInt8} (hb : b.toNat < 48) : digitByte d ≠ b := by
  have h48 := (by decide : ∀ d, d < 10 → 48 ≤ (digitByte d).toNat) d h
  rintro rfl
  omega

theorem toDigitsCore_succ (b fuel n : Nat) (ds : List Char) :
    Nat.toDigitsCore b (fuel + 1) n ds =
      if n / b = 0 then Nat.digitChar (n % b) :: ds
      else Nat.toDigitsCore b fuel (n / b) (Nat.digitChar (n % b) :: ds) := rfl

/-- `Nat.toDigits` writes the digits of `n` after the `ds` it is given, most significant first. -/
theorem toDigitsCore_digits (fuel n : Nat) (ds : List Char) (h : n < fuel) :
    ∃ D : List Nat, D ≠ [] ∧ (∀ d ∈ D, d < 10) ∧
      Nat.toDigitsCore 10 fuel n ds = D.map Nat.digitChar ++ ds ∧ digitsValue 0 D = n := by
  induction fuel generalizing n ds with
  | zero => exact absurd h (Nat.not_lt_zero n)
  | succ fuel ih =>
    rw [toDigitsCore_succ]
    split_ifs with h0
    · exact ⟨[n % 10], by simp, by simp; omega, rfl, by simp; omega⟩
    · obtain ⟨D, hne, hD, heq, hv⟩ := ih (n / 10) (Nat.digitChar (n % 10) :: ds) (by omega)
      refine ⟨D ++ [n % 10], by simp, ?_, by simp [heq], ?_⟩
      · simpa [or_imp, forall_and] using ⟨hD, Nat.mod_lt n (by omega)⟩
      · rw [digitsValue_append_singleton, hv]
        omega

/-- `%d` of a natural number: its decimal digits, none of them a space. -/
theorem decimal_digits (n : Nat) :
    ∃ D : List Nat, D ≠ [] ∧ (∀ d ∈ D, d < 10) ∧ decimal n = D.map digitByte ∧ digitsValue 0 D = n := by
  obtain ⟨D, hne, hD, heq, hv⟩ := toDigitsCore_digits (n + 1) n [] (Nat.lt_succ_self n)
  refine ⟨D, hne, hD, ?_, hv⟩
  change (Nat.toDigitsCore 10 (n + 1) n []).map Char.toUInt8 = _
  rw [heq, List.append_nil, List.map_map]
  rfl

/-- Digits whose value stays within `uint64` are read and added to the value. -/
theorem parseUintLoop_digits (D : List Nat) (hD : ∀ d ∈ D, d < 10) (rest : Bytes) (n : Nat)
    (hv : digitsValue n D ≤ maxUint64) :
    parseUintLoop (D.map digitByte ++ rest) n = parseUintLoop rest (digitsValue n D) := by
  induction D generalizing n with
  | nil => rfl
  | cons d D ih =>
    obtain ⟨h₁, h₂, h₃⟩ := digitByte_of_lt (hD d (.head _))
    rw [digitsValue_cons] at hv ⊢
    have hle := le_digitsValue (n * 10 + d) D
    have hn : ¬ cutoff ≤ n := by unfold cutoff maxUint64 at *; omega
    have hsum : (n * 10 % 2 ^ 64 + d) % 2 ^ 64 = n * 10 + d := by unfold maxUint64 at *; omega
    have hfit : ¬ (n * 10 + d < n * 10 % 2 ^ 64 ∨ maxUint64 < n * 10 + d) := by
      unfold maxUint64 at *; omega
    rw [List.map_cons, List.cons_append, parseUintLoop, if_pos ⟨h₁, h₂⟩, if_neg hn]
    simp only [h₃, hsum, if_neg hfit]
    exact ih (fun d hd => hD d (.tail _ hd)) _ hv

/-- Once the digits read pass `uint64`, the loop stops with `ErrRange`, whatever follows them. -/
theorem parseUintLoop_overflow (D : List Nat) (hD : ∀ d ∈ D, d < 10) (rest : Bytes) (n : Nat)
    (hn : n ≤ maxUint64) (hv : maxUint64 < digitsValue n D) :
    parseUintLoop (D.map digitByte ++ rest) n = (maxUint64, some .outOfRange) := by
  induction D generalizing n with
  | nil => exact absurd hv (not_lt.mpr hn)
  | cons d D ih =>
    have hd := hD d (.head _)
    obtain ⟨h₁, h₂, h₃⟩ := digitByte_of_lt hd
    rw [digitsValue_cons] at hv
    rw [List.map_cons, List.cons_append, parseUintLoop, if_pos ⟨h₁, h₂⟩]
    simp only [h₃]
    split_ifs with hc hov
    · rfl
    · rfl
    · have hsum : (n * 10 % 2 ^ 64 + d) % 2 ^ 64 = n * 10 + d := by
        unfold cutoff maxUint64 at *; omega
      rw [hsum] at hov ⊢
      exact ih (fun d hd => hD d (.tail _ hd)) _ (by omega) hv

/-- `ParseInt` reads back every `%d` of a number below 2^63. -/
theorem parseInt_decimal (n : Nat) (h : n < 2 ^ 63) : parseInt (decimal n) = ((n : Int), none) := by
  obtain ⟨D, hne, hD, hdec, hv⟩ := decimal_digits n
  obtain ⟨d, D', rfl⟩ := List.exists_cons_of_ne_nil hne
  have hd := hD d (.head _)
  have hloop := parseUintLoop_digits (d :: D') hD [] 0 (by unfold maxUint64; omega)
  rw [List.append_nil, hv] at hloop
  rw [hdec, List.map_cons, parseInt]
  simp [digitByte_ne hd (show (43 : UInt8).toNat < 48 by decide), digitByte_ne hd (show (45 : UInt8).toNat < 48 by decide),
    parseUint, ← List.map_cons, hloop, parseUintLoop]
  omega

/-- Digits past `uint64` make `ParseInt` return the largest `int64` with `ErrRange`, whatever bytes
follow them. -/
theorem parseInt_overflow (m : Nat) (junk : Bytes) (h : 2 ^ 64 ≤ m) :
    parseInt (decimal m ++ junk) = (2 ^ 63 - 1, some .outOfRange) := by
  obtain ⟨D, hne, hD, hdec, hv⟩ := decimal_digits m
  obtain ⟨d, D', rfl⟩ := List.exists_cons_of_ne_nil hne
  have hd := hD d (.head _)
  have hloop := parseUintLoop_overflow (d :: D') hD junk 0 (Nat.zero_le _)
    (by unfold maxUint64; omega)
  rw [hdec, List.map_cons, List.cons_append, parseInt]
  simp [digitByte_ne hd (show (43 : UInt8).toNat < 48 by decide), digitByte_ne hd (show (45 : UInt8).toNat < 48 by decide),
    parseUint, ← List.cons_append, ← List.map_cons, hloop, maxUint64]

end Strconv

/-- The last element of `strings.Split(w + " " + tok, " ")` is `tok` when `tok` holds no space. -/
theorem splitOn_last_word (w tok : Bytes) (h : (32 : UInt8) ∉ tok) :
    ((w ++ 32 :: tok).splitOn 32).getLastD [] = tok := by
  have key : ∃ hd L, (w ++ 32 :: tok).splitOnP (· == 32) = hd :: L ++ [tok] := by
    induction w with
    | nil =>
      refine ⟨[], [], ?_⟩
      rw [List.nil_append, List.splitOnP_cons, if_pos (beq_self_eq_true (32 : UInt8)),
        List.splitOnP_eq_single (· == (32 : UInt8)) tok fun x hx hb => h (beq_iff_eq.mp hb ▸ hx)]
      rfl
    | cons x w ih =>
      obtain ⟨hd, L, hL⟩ := ih
      rw [List.cons_append, List.splitOnP_cons, hL]
      split_ifs
      · exact ⟨[], hd :: L, rfl⟩
      · exact ⟨x :: hd, L, rfl⟩
  obtain ⟨hd, L, hL⟩ := key
  rw [List.getLastD_eq_getLast?, List.splitOn, hL, List.getLast?_concat]
  rfl

/-- `CommandTag.RowsAffected`: `ParseInt` of the tag's last space-separated word, its error dropped. -/
def CommandTag.rowsAffected (ct : CommandTag) : Int :=
  (Strconv.parseInt ((ct.splitOn 32).getLastD [])).1

/-- `RowsAffected` reads back every count below 2^63 after a space, and gives the largest `int64` to a
last word that starts with more digits than `uint64` holds, whatever follows them. -/
theorem rowsAffected_decimal_or_clamped (w : Bytes) :
    (∀ n : Nat, n < 2 ^ 63 → CommandTag.rowsAffected (w ++ 32 :: decimal n) = n) ∧
    ∀ (m : Nat) (junk : Bytes), 2 ^ 64 ≤ m → (32 : UInt8) ∉ junk →
      CommandTag.rowsAffected (w ++ 32 :: (decimal m ++ junk)) = 2 ^ 63 - 1 := by
  have hspace (n : Nat) : (32 : UInt8) ∉ decimal n := by
    obtain ⟨D, -, hD, hdec, -⟩ := Strconv.decimal_digits n
    simp only [hdec, List.mem_map, not_exists, not_and]
    exact fun d hd => Strconv.digitByte_ne (hD d hd) (by decide)
  refine ⟨fun n hn => ?_, fun m junk hm hjunk => ?_⟩
  · rw [CommandTag.rowsAffected, splitOn_last_word _ _ (hspace n), Strconv.parseInt_decimal n hn]
  · rw [CommandTag.rowsAffected, splitOn_last_word _ _ (by simp [hspace m, hjunk]),
      Strconv.parseInt_overflow m junk hm]

/-- "INSERT 0 3" has 3 rows; "SELECT 99999999999999999999x", whose last word is no number, gets
2^63 - 1. -/
theorem rowsAffected_insert_and_overflow :
    CommandTag.rowsAffected (ascii "INSERT 0 3") = 3 ∧
      CommandTag.rowsAffected (ascii "SELECT 99999999999999999999x") = 2 ^ 63 - 1 := by
  have h₁ : ascii "INSERT 0 3" = ascii "INSERT 0" ++ 32 :: decimal (3 : Nat) := by decide
  have h₂ : ascii "SELECT 99999999999999999999x" =
      ascii "SELECT" ++ 32 :: (decimal (99999999999999999999 : Nat) ++ ascii "x") := by decide
  rw [h₁, h₂]
  exact ⟨(rowsAffected_decimal_or_clamped _).1 3 (by decide),
    (rowsAffected_decimal_or_clamped _).2 _ _ (by decide) (by decide)⟩

end Pgx

import Mathlib.Data.List.Basic
import Mathlib.Data.Nat.Defs
import Mathlib.Algebra.Group.Int

namespace Pgx

/-- A Go `[]byte` or `string`: both are byte sequences. -/
abbrev Bytes := List UInt8

/-- Go's fixed-width signed words. -/
abbrev Int16 := BitVec 16
abbrev Int32 := BitVec 32
abbrev Int64 := BitVec 64

/-- `Oid` is `uint32`. -/
abbrev Oid := UInt32

/-- The bytes of a Go string literal of the source; every one of them is ASCII. -/
def ascii (s : String) : Bytes := s.toList.map Char.toUInt8

/-- `%d` of a number. -/
def decimal (n : Int) : Bytes := ascii (toString n)

/-- `%c` of a byte: the UTF-8 encoding of the character with that code. -/
def utf8Char (b : UInt8) : Bytes :=
  if b.toNat < 128 then [b]
  else [UInt8.ofNat (0xC0 + b.toNat / 64), UInt8.ofNat (0x80 + b.toNat % 64)]

@[simp] theorem toNat_ofNat (n : Nat) : (UInt8.ofNat n).toNat = n % 256 := rfl

/-- The `k` low bytes of `n`, most significant first. -/
def beBytes : Nat → Nat → Bytes
  | 0, _ => []
  | k+1, n => beBytes k (n / 256) ++ [UInt8.ofNat n]

/-- The number a big-endian byte string stands for. -/
def beValue (bs : Bytes) : Nat := bs.foldl (fun acc b => acc * 256 + b.toNat) 0

@[simp] theorem beBytes_length (k n : Nat) : (beBytes k n).length = k := by
  induction k generalizing n with
  | zero => rfl
  | succ k ih => simp [beBytes, ih]

theorem beValue_append_byte (bs : Bytes) (b : UInt8) :
    beValue (bs ++ [b]) = beValue bs * 256 + b.toNat := by
  simp [beValue, List.foldl_append]

theorem beValue_beBytes (k n : Nat) : beValue (beBytes k n) = n % 256 ^ k := by
  induction k generalizing n with
  | zero => simp [beBytes, beValue, Nat.mod_one]
  | succ k ih =>
    rw [beBytes, beValue_append_byte, ih, toNat_ofNat, Nat.pow_succ', Nat.mod_mul]
    omega

/-- `binary.BigEndian.PutUint16` and friends, on the word's bit pattern. -/
def be16 (v : Int16) : Bytes := beBytes 2 v.toNat
def be32 (v : Int32) : Bytes := beBytes 4 v.toNat
def be64 (v : Int64) : Bytes := beBytes 8 v.toNat

/-- `binary.BigEndian.Uint16` and friends, read as the signed word Go converts them to. -/
def ofBe16 (bs : Bytes) : Int16 := BitVec.ofNat 16 (beValue bs)
def ofBe32 (bs : Bytes) : Int32 := BitVec.ofNat 32 (beValue bs)

/-- An OID on the wire: four big-endian bytes. -/
def beOid (o : Oid) : Bytes := beBytes 4 o.toNat
def ofBeOid (bs : Bytes) : Oid := UInt32.ofNat (beValue bs)

@[simp] theorem be16_length (v : Int16) : (be16 v).length = 2 := beBytes_length _ _
@[simp] theorem be32_length (v : Int32) : (be32 v).length = 4 := beBytes_length _ _
@[simp] theorem be64_length (v : Int64) : (be64 v).length = 8 := beBytes_length _ _

@[simp] theorem ofBe16_be16 (v : Int16) : ofBe16 (be16 v) = v := by
  apply BitVec.eq_of_toNat_eq
  simp only [ofBe16, be16, beValue_beBytes, BitVec.toNat_ofNat]
  have := v.isLt
  omega

@[simp] theorem ofBe32_be32 (v : Int32) : ofBe32 (be32 v) = v := by
  apply BitVec.eq_of_toNat_eq
  simp only [ofBe32, be32, beValue_beBytes, BitVec.toNat_ofNat]
  have := v.isLt
  omega

/-- A count below 2^15 written as an `int16` reads back as itself. -/
theorem toInt_ofNat_lt {n : Nat} (h : n < 2 ^ 15) : (BitVec.ofNat 16 n).toInt = n := by
  rw [BitVec.toInt_eq_toNat_cond, BitVec.toNat_ofNat, Nat.mod_eq_of_lt (by omega)]
  simp only [show 2 * n < 2 ^ 16 by omega, if_true]

/-- A count from 2^15 up, written as an `int16`, reads back negative. -/
theorem toInt_ofNat_neg {n : Nat} (h₁ : 2 ^ 15 ≤ n) (h₂ : n < 2 ^ 16) :
    (BitVec.ofNat 16 n).toInt < 0 := by
  rw [BitVec.toInt_eq_toNat_cond, BitVec.toNat_ofNat, Nat.mod_eq_of_lt h₂]
  simp only [show ¬ 2 * n < 2 ^ 16 by omega, if_false]
  omega

@[simp] theorem beOid_length (o : Oid) : (beOid o).length = 4 := beBytes_length _ _

@[simp] theorem ofBeOid_beOid (o : Oid) : ofBeOid (beOid o) = o := by
  apply UInt32.toNat.inj
  have hv : (UInt32.ofNat (beValue (beOid o))).toNat = beValue (beOid o) % 4294967296 := rfl
  have hlt : o.toNat < 4294967296 := o.val.isLt
  rw [ofBeOid, hv, beOid, beValue_beBytes]
  omega

/-- A Go string written as a C string: its bytes and a terminating zero. -/
def cstring (s : Bytes) : Bytes := s ++ [0]

/-- A string that can be written as a C string and read back whole. -/
def NulFree (s : Bytes) : Prop := ∀ b ∈ s, b ≠ 0

instance (s : Bytes) : Decidable (NulFree s) := inferInstanceAs (Decidable (∀ b ∈ s, b ≠ 0))

/-- Splitting at the first zero byte finds the end of a NUL-free string. -/
theorem span_cstring (s rest : Bytes) (h : NulFree s) :
    (cstring s ++ rest).span (· != 0) = (s, 0 :: rest) := by
  induction s with
  | nil => rfl
  | cons b s ih =>
    have hb : b ≠ 0 := h b (List.mem_cons_self b s)
    have hs := ih (fun x hx => h x (List.mem_cons_of_mem b hx))
    simp only [cstring, List.span_eq_take_drop, Prod.mk.injEq, List.append_assoc,
      List.singleton_append] at hs ⊢
    simp [List.takeWhile_cons, List.dropWhile_cons, hb, hs]

end Pgx

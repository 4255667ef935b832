import Pgx.Errors

namespace Pgx

/-- Modelled from the spec (msg_reader.go is not in the source): the reader over one message
body. A read past its end records an error, after which every read yields a zero value. -/
structure MsgReader where
  body : Bytes
  err : Option Error := none
  deriving DecidableEq, Repr

namespace MsgReader

/-- The next `n` bytes of the body. -/
def next (r : MsgReader) (n : Nat) : Option Bytes × MsgReader :=
  match r.err with
  | some _ => (none, r)
  | none =>
    if n ≤ r.body.length then (some (r.body.take n), {r with body := r.body.drop n})
    else (none, {r with err := some .underflow})

def readByte (r : MsgReader) : UInt8 × MsgReader :=
  let (b, r) := r.next 1
  ((b.bind List.head?).getD 0, r)

def readInt16 (r : MsgReader) : Int16 × MsgReader :=
  let (b, r) := r.next 2
  ((b.map ofBe16).getD 0, r)

def readInt32 (r : MsgReader) : Int32 × MsgReader :=
  let (b, r) := r.next 4
  ((b.map ofBe32).getD 0, r)

def readOid (r : MsgReader) : Oid × MsgReader :=
  let (b, r) := r.next 4
  ((b.map ofBeOid).getD 0, r)

/-- The string up to the next zero byte, which is consumed too. -/
def readCString (r : MsgReader) : Bytes × MsgReader :=
  match r.err with
  | some _ => ([], r)
  | none =>
    match r.body.span (· != 0) with
    | (s, _ :: rest) => (s, {r with body := rest})
    | (_, []) => ([], {r with err := some .underflow})

/-- `ReadString(count)`: the next `count` bytes; a negative count reads nothing. -/
def readString (r : MsgReader) (count : Int32) : Bytes × MsgReader :=
  let (b, r) := r.next count.toInt.toNat
  (b.getD [], r)

theorem next_append {bs : Bytes} {n : Nat} (rest : Bytes) (h : bs.length = n) :
    (⟨bs ++ rest, none⟩ : MsgReader).next n = (some bs, ⟨rest, none⟩) := by
  subst h
  simp [next]

@[simp] theorem readByte_cons (b : UInt8) (rest : Bytes) :
    (⟨b :: rest, none⟩ : MsgReader).readByte = (b, ⟨rest, none⟩) := by
  simp [readByte, next]

@[simp] theorem readInt16_be16 (v : Int16) (rest : Bytes) :
    (⟨be16 v ++ rest, none⟩ : MsgReader).readInt16 = (v, ⟨rest, none⟩) := by
  simp [readInt16, next_append rest (be16_length v)]

@[simp] theorem readInt32_be32 (v : Int32) (rest : Bytes) :
    (⟨be32 v ++ rest, none⟩ : MsgReader).readInt32 = (v, ⟨rest, none⟩) := by
  simp [readInt32, next_append rest (be32_length v)]

@[simp] theorem readOid_beOid (o : Oid) (rest : Bytes) :
    (⟨beOid o ++ rest, none⟩ : MsgReader).readOid = (o, ⟨rest, none⟩) := by
  simp [readOid, next_append rest (beOid_length o)]

theorem readCString_cstring (s rest : Bytes) (h : NulFree s) :
    (⟨cstring s ++ rest, none⟩ : MsgReader).readCString = (s, ⟨rest, none⟩) := by
  simp only [readCString, span_cstring s rest h]

theorem readString_append {bs : Bytes} {count : Int32} (rest : Bytes)
    (h : count.toInt.toNat = bs.length) :
    (⟨bs ++ rest, none⟩ : MsgReader).readString count = (bs, ⟨rest, none⟩) := by
  simp [readString, h, next_append rest rfl]

theorem next_err {r : MsgReader} {e : Error} (h : r.err = some e) (n : Nat) :
    r.next n = (none, r) := by
  simp [next, h]

theorem readCString_err {r : MsgReader} {e : Error} (h : r.err = some e) :
    r.readCString = ([], r) := by
  simp [readCString, h]

end MsgReader

/-- One read of a frame from the socket: its type tag and body, or the error the read failed with.
Modelled from the spec (msg_reader.go is not in the source): a frame is read whole or not at all. -/
inductive Inbound where
  | frame (t : UInt8) (body : Bytes)
  | fail (e : IOError)
  deriving DecidableEq, Repr

end Pgx

import Pgx.Wire.Bytes

namespace Pgx

/-- A frame on the wire: the type tag, the length (which counts itself but not the tag), the body. -/
def frame (t : UInt8) (body : Bytes) : Bytes :=
  t :: be32 (BitVec.ofNat 32 (body.length + 4)) ++ body

/-- Modelled from the spec (messages.go is not in the source): the write buffer. A message opens
with its tag and a length placeholder at `sizeIdx`, filled in when the next message starts. -/
structure WriteBuf where
  buf : Bytes
  sizeIdx : Nat
  deriving DecidableEq, Repr

namespace WriteBuf

def newWriteBuf (t : UInt8) : WriteBuf := ⟨[t, 0, 0, 0, 0], 1⟩

def closeMsg (w : WriteBuf) : WriteBuf :=
  { w with buf := w.buf.take w.sizeIdx ++ be32 (BitVec.ofNat 32 (w.buf.length - w.sizeIdx)) ++
      w.buf.drop (w.sizeIdx + 4) }

def startMsg (w : WriteBuf) (t : UInt8) : WriteBuf :=
  ⟨w.closeMsg.buf ++ [t, 0, 0, 0, 0], w.closeMsg.buf.length + 1⟩

def writeBytes (w : WriteBuf) (bs : Bytes) : WriteBuf := { w with buf := w.buf ++ bs }
def writeByte (w : WriteBuf) (b : UInt8) : WriteBuf := w.writeBytes [b]
def writeInt16 (w : WriteBuf) (v : Int16) : WriteBuf := w.writeBytes (be16 v)
def writeInt32 (w : WriteBuf) (v : Int32) : WriteBuf := w.writeBytes (be32 v)
def writeCString (w : WriteBuf) (s : Bytes) : WriteBuf := w.writeBytes (cstring s)

/-- The closed frames `done`, then an open message of type `t` whose body so far is `body`. -/
def pending (done : Bytes) (t : UInt8) (body : Bytes) : WriteBuf :=
  ⟨done ++ [t, 0, 0, 0, 0] ++ body, done.length + 1⟩

theorem newWriteBuf_eq (t : UInt8) : newWriteBuf t = pending [] t [] := rfl

@[simp] theorem pending_writeBytes (done body bs : Bytes) (t : UInt8) :
    (pending done t body).writeBytes bs = pending done t (body ++ bs) := by
  simp [pending, writeBytes]

@[simp] theorem pending_writeInt16 (done body : Bytes) (t : UInt8) (v : Int16) :
    (pending done t body).writeInt16 v = pending done t (body ++ be16 v) := pending_writeBytes ..

@[simp] theorem pending_writeInt32 (done body : Bytes) (t : UInt8) (v : Int32) :
    (pending done t body).writeInt32 v = pending done t (body ++ be32 v) := pending_writeBytes ..

theorem foldl_writeInt16 {α : Type} (f : α → Int16) (xs : List α) (done body : Bytes) (t : UInt8) :
    xs.foldl (fun w x => w.writeInt16 (f x)) (pending done t body) =
      pending done t (body ++ xs.flatMap fun x => be16 (f x)) := by
  induction xs generalizing body with
  | nil => simp
  | cons x xs ih =>
    simp only [List.foldl_cons, pending_writeInt16, ih, List.flatMap_cons, List.append_assoc]

theorem pending_closeMsg (done body : Bytes) (t : UInt8) :
    (pending done t body).closeMsg.buf = done ++ frame t body := by
  have hb : (pending done t body).buf = (done ++ [t]) ++ ([0, 0, 0, 0] ++ body) := by
    simp [pending]
  have hi : (pending done t body).sizeIdx = (done ++ [t]).length := by simp [pending]
  have hlen : (done ++ [t] ++ ([0, 0, 0, 0] ++ body)).length - (done ++ [t]).length =
      body.length + 4 := by simp; omega
  simp only [closeMsg, hb, hi, List.take_left, hlen, List.drop_append]
  simp [frame]

theorem pending_startMsg (done body : Bytes) (t t' : UInt8) :
    (pending done t body).startMsg t' = pending (done ++ frame t body) t' [] := by
  rw [startMsg, pending_closeMsg]
  simp [pending]

end WriteBuf

end Pgx

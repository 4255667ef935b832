import Pgx.Wire.Bytes

namespace Pgx

/-- How a call on the socket (`net.Conn`) can fail. -/
inductive IOError where
  /-- `io.EOF`: the server has closed its end. -/
  | eof
  /-- The error of a call on a socket that `Close` has already closed. -/
  | closed
  /-- A `*net.OpError` whose `Timeout()` is true: a read deadline passed. -/
  | timeout
  | other (code : Nat)
  deriving DecidableEq, Repr

/-- `PgError`: the fields of an ErrorResponse the driver keeps. -/
structure PgError where
  severity : Bytes := []
  code : Bytes := []
  message : Bytes := []
  deriving DecidableEq, Repr

/-- The errors the driver returns; those of `errors.New` and `fmt.Errorf` keep their text. -/
inductive Error where
  | new (text : Bytes)
  | protocol (text : Bytes)
  | pg (e : PgError)
  | io (e : IOError)
  | serialization (text : Bytes)
  /-- Modelled from the spec: the error the message reader records on a read past the body's end. -/
  | underflow
  /-- Modelled from the spec: an encoder or decoder of values.go given a value of another type. -/
  | codec (oid : Oid)
  /-- An error of caller code: a `Scanner`, an encoder capability, the URI or the sanitizer. -/
  | user (code : Nat)
  deriving DecidableEq, Repr

/-- `DeadConnError`. -/
def DeadConnError : Error := .new (ascii "Connection is dead")

/-- `NotificationTimeoutError`. -/
def NotificationTimeoutError : Error := .new (ascii "Notification Timeout")

/-- The first error of two, as in `if e != nil && softErr == nil { softErr = e }`. -/
def firstErr (soft e : Option Error) : Option Error := soft.or e

@[simp] theorem firstErr_none (e : Option Error) : firstErr none e = e := rfl
@[simp] theorem firstErr_some (s : Error) (e : Option Error) : firstErr (some s) e = some s := rfl
@[simp] theorem firstErr_none_right (s : Option Error) : firstErr s none = s := Option.or_none

theorem Except.map_eq_ok {ε α β : Type} {f : α → β} {r : Except ε α} {b : β}
    (h : r.map f = .ok b) : ∃ a, r = .ok a ∧ b = f a := by
  cases r with
  | error e => cases h
  | ok a => cases h; exact ⟨a, rfl, rfl⟩

theorem Except.bind_eq_ok {ε α β : Type} {x : Except ε α} {f : α → Except ε β} {b : β}
    (h : (x >>= f) = .ok b) : ∃ a, x = .ok a ∧ f a = .ok b := by
  cases x with
  | error e => cases h
  | ok a => exact ⟨a, rfl, h⟩

theorem ite_eq_ok {α : Type} {p : Prop} [Decidable p] {a b x : α} (h : (if p then a else b) = x) :
    a = x ∨ b = x := by
  by_cases hp : p
  · exact .inl ((if_pos hp).symm.trans h)
  · exact .inr ((if_neg hp).symm.trans h)

end Pgx

/-!
# Floating-point words

Columns of floating-point type hold IEEE 754 words. Nothing here computes with them: they are
stored and handed on bit by bit. Only their comparison looks inside.

* `WideColumn.Ieee.Layout`: where the sign is, and where the words begin that are no numbers;
* `WideColumn.Ieee.Layout.sameNumber`: numeric equality, under which no NaN equals anything and the
  two zeros are equal;
* `WideColumn.Single`, `WideColumn.Double`: the words of 32 and 64 bits.
-/

namespace WideColumn

namespace Ieee

/-- What is to know of the words of one width, as numbers. -/
structure Layout where
  /-- The word of negative zero: only the sign bit is set. -/
  signBit : Nat
  /-- The word of infinity: the exponent is all ones and the fraction is zero. -/
  infinity : Nat
  deriving DecidableEq, Repr

namespace Layout

/-- Words of 32 bits. -/
def single : Layout := ⟨0x80000000, 0x7f800000⟩

/-- Words of 64 bits. -/
def double : Layout := ⟨0x8000000000000000, 0x7ff0000000000000⟩

variable (l : Layout)

/-- A word without its sign bit. -/
def magnitude (word : Nat) : Nat :=
  word % l.signBit

/-- A word is no number if its exponent is all ones and its fraction is not zero. -/
def isNaN (word : Nat) : Bool :=
  l.infinity < l.magnitude word

/-- Whether two words are numbers and denote the same one. -/
def sameNumber (v w : Nat) : Bool :=
  !l.isNaN v && !l.isNaN w && (v == w || (l.magnitude v == 0 && l.magnitude w == 0))

/-- A word equals itself exactly when it is a number. -/
@[simp] theorem sameNumber_self (v : Nat) : l.sameNumber v v = !l.isNaN v := by
  simp [sameNumber]

end Layout

end Ieee

/-- A floating-point word of 32 bits. -/
structure Single where
  /-- The bits, sign first. -/
  bits : UInt32
  deriving DecidableEq, Repr, Inhabited

/-- A floating-point word of 64 bits. -/
structure Double where
  /-- The bits, sign first. -/
  bits : UInt64
  deriving DecidableEq, Repr, Inhabited

/-- Numeric equality of words of 32 bits. -/
def Single.sameNumber (x y : Single) : Bool :=
  Ieee.Layout.single.sameNumber x.bits.toNat y.bits.toNat

/-- Numeric equality of words of 64 bits. -/
def Double.sameNumber (x y : Double) : Bool :=
  Ieee.Layout.double.sameNumber x.bits.toNat y.bits.toNat

end WideColumn

import WideColumn.Bytes.BigEndian

/-!
# Signed integers of any size

An integer is stored in two's complement, big-endian, in the fewest bytes whose first bit is its
sign; zero takes one byte. Reading accepts longer forms as well, and takes no bytes for zero.

* `WideColumn.Bytes.signedWidth`: how many bytes an integer takes;
* `WideColumn.Bytes.ofInt`: the bytes of an integer;
* `WideColumn.Bytes.toInt`: the integer that bytes stand for.
-/

namespace WideColumn

namespace Bytes

/-- How many bits a natural number takes, none for zero. -/
def bitLength (n : Nat) : Nat :=
  if n = 0 then 0 else n.log2 + 1

/-- The least number of bytes that hold an integer with its sign bit. -/
def signedWidth (n : Int) : Nat :=
  bitLength (if 0 ≤ n then n.toNat else (-n - 1).toNat) / 8 + 1

/-- The last `width` digits of an integer in base 256; a negative one goes on with digits that are
all ones in front of these. -/
def ofIntIn : (width : Nat) → (n : Int) → Bytes
  | 0, _ => []
  | width + 1, n => ofIntIn width (n / 256) ++ [UInt8.ofNat (n % 256).toNat]

/-- An integer in the fewest bytes that keep its sign. -/
def ofInt (n : Int) : Bytes :=
  ofIntIn (signedWidth n) n

/-- The integer that bytes stand for: the first byte has a sign, the others follow as digits. -/
def toInt : Bytes → Int
  | [] => 0
  | b :: bs => bs.foldl (fun n c => 256 * n + Int.ofNat c.toNat) b.toInt8.toInt

@[simp] theorem toInt_nil : toInt [] = 0 := rfl

@[simp] theorem length_ofIntIn (width : Nat) (n : Int) : (ofIntIn width n).length = width := by
  induction width generalizing n with
  | zero => rfl
  | succ width ih => simp [ofIntIn, ih]

@[simp] theorem length_ofInt (n : Int) : (ofInt n).length = signedWidth n :=
  length_ofIntIn _ _

/-- No integer is stored in no bytes. -/
theorem ofInt_ne_nil (n : Int) : ofInt n ≠ [] := by
  intro h
  have := congrArg List.length h
  simp [signedWidth] at this

end Bytes

end WideColumn

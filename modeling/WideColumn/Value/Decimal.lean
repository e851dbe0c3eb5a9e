import WideColumn.Text.Digits

/-!
# Decimals

A decimal is an integer together with the number of its digits that stand after the point; the
number may be negative, and then zeros are missing in front of the point. Two decimals may denote
one number and still differ: `1.0` has another scale than `1`.

The text of a decimal keeps the two apart. It is plain as long as it needs no zeros but a handful
after the point, and has an exponent otherwise.

* `WideColumn.Decimal`: the type;
* `WideColumn.Decimal.adjustedExponent`: the exponent of the leading digit;
* `WideColumn.Decimal.isPlain`: when the text has no exponent;
* `WideColumn.Decimal.pointed`, `WideColumn.Decimal.scientific`: the two ways to place the point;
* `WideColumn.Decimal.toText`: the text.
-/

namespace WideColumn

/-- The number `unscaled * 10 ^ (-scale)`. -/
structure Decimal where
  /-- All digits of the number, with its sign. -/
  unscaled : Int
  /-- How many of the digits stand after the point. -/
  scale : Int32
  deriving DecidableEq, Repr, Inhabited

namespace Decimal

/-- The number zero, with no digit after the point. -/
def zero : Decimal := ⟨0, 0⟩

/-- The digits of a decimal, without sign and point. -/
def digits (d : Decimal) : List Char :=
  Nat.toDigits 10 d.unscaled.natAbs

/-- The power of ten that the leading digit stands for. -/
def adjustedExponent (d : Decimal) : Int :=
  (d.digits.length : Int) - 1 - d.scale.toInt

/-- A decimal is written without an exponent when its scale is not negative and its leading digit
is not too far behind the point; with scale zero it is just an integer. -/
def isPlain (d : Decimal) : Bool :=
  d.scale.toInt == 0 || (0 < d.scale.toInt && -6 ≤ d.adjustedExponent)

/-- Digits with a point before the last `places` of them; there is always a digit before the
point. -/
def pointed (ds : List Char) (places : Nat) : List Char :=
  if places = 0 then ds
  else if places < ds.length then
    ds.take (ds.length - places) ++ '.' :: ds.drop (ds.length - places)
  else '0' :: '.' :: (List.replicate (places - ds.length) '0' ++ ds)

/-- A point after the first of several digits. -/
def scientific : List Char → List Char
  | [] => []
  | [d] => [d]
  | d :: ds => d :: '.' :: ds

/-- An exponent that is not zero carries its sign; a zero one has none. -/
def exponent (e : Int) : List Char :=
  'E' :: ((if 0 < e then ['+'] else []) ++ Text.intDigits e)

/-- The text of a decimal without its sign. -/
def magnitude (d : Decimal) : List Char :=
  if d.isPlain then pointed d.digits d.scale.toInt.toNat
  else scientific d.digits ++ exponent d.adjustedExponent

/-- The characters of a decimal's text. -/
def toChars (d : Decimal) : List Char :=
  if d.unscaled < 0 then '-' :: d.magnitude else d.magnitude

/-- The text of a decimal. -/
def toText (d : Decimal) : String :=
  String.ofList d.toChars

end Decimal

end WideColumn

/-!
# Digits

Numbers as text, where the text is not simply the decimal digits of a natural number.

* `WideColumn.Text.hexDigits`: a number in a given count of hexadecimal digits;
* `WideColumn.Text.intDigits`: an integer in decimal digits, after a minus sign if it is negative.
-/

namespace WideColumn

namespace Text

/-- The digits of a number in base 16, lower case, with zeros in front up to `width` digits. -/
def hexDigits (width n : Nat) : List Char :=
  let ds := Nat.toDigits 16 n
  List.replicate (width - ds.length) '0' ++ ds

/-- An integer in decimal digits. -/
def intDigits (n : Int) : List Char :=
  if n < 0 then '-' :: Nat.toDigits 10 n.natAbs else Nat.toDigits 10 n.natAbs

/-- The text of an integer. -/
def showInt (n : Int) : String :=
  String.ofList (intDigits n)

end Text

end WideColumn

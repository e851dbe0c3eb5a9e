import WideColumn.Bytes.BigEndian
import WideColumn.Text.Digits

/-!
# Bytes as hexadecimal digits

The form in which bytes are shown: two digits a byte, the higher half first.

* `WideColumn.Bytes.toHex`: the digits of bytes, in lower case;
* `WideColumn.Bytes.ofHex?`: the bytes of digits in either case.
-/

namespace WideColumn

namespace Bytes

/-- The number that a hexadecimal digit stands for. -/
def hexValue? (c : Char) : Option Nat :=
  if '0' ≤ c ∧ c ≤ '9' then some (c.toNat - '0'.toNat)
  else if 'a' ≤ c ∧ c ≤ 'f' then some (c.toNat - 'a'.toNat + 10)
  else if 'A' ≤ c ∧ c ≤ 'F' then some (c.toNat - 'A'.toNat + 10)
  else none

/-- The digits of bytes. -/
def toHex (bs : Bytes) : List Char :=
  bs.flatMap fun b => Text.hexDigits 2 b.toNat

/-- The bytes of digits, if there are two for each. -/
def ofHex? : List Char → Option Bytes
  | [] => some []
  | [_] => none
  | c :: d :: cs => do
    let x ← hexValue? c
    let y ← hexValue? d
    let bs ← ofHex? cs
    return UInt8.ofNat (16 * x + y) :: bs

end Bytes

end WideColumn

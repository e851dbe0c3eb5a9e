import WideColumn.Bytes.Hex

/-!
# Universally unique identifiers

* `WideColumn.Uuid`: an identifier of 128 bits;
* `WideColumn.Uuid.version`: the number that says how it was made;
* `WideColumn.Uuid.toText`: its digits in five groups;
* `WideColumn.Uuid.ofText?`: the identifier of digits, however they are grouped.
-/

namespace WideColumn

/-- An identifier, as the number its sixteen bytes stand for. -/
structure Uuid where
  /-- The 128 bits. -/
  word : BitVec 128
  deriving DecidableEq, Repr, Inhabited

namespace Uuid

/-- The identifier whose bits are all zero. -/
def nil : Uuid := ⟨0⟩

/-- The version number: the upper half of the seventh byte. -/
def version (u : Uuid) : Nat :=
  (u.word.extractLsb' 76 4).toNat

/-- An identifier of version 1 was made from the time. -/
def isTimeBased (u : Uuid) : Bool :=
  u.version == 1

/-- Thirty-two hexadecimal digits in groups of 8, 4, 4, 4 and 12. -/
def toText (u : Uuid) : String :=
  let ds := Text.hexDigits 32 u.word.toNat
  let group (start length : Nat) := (ds.drop start).take length
  String.ofList (group 0 8 ++ '-' :: group 8 4 ++ '-' :: group 12 4 ++ '-' :: group 16 4
    ++ '-' :: group 20 12)

/-- The identifier of thirty-two hexadecimal digits, hyphens aside. -/
def ofText? (s : String) : Option Uuid := do
  let bs ← Bytes.ofHex? (s.toList.filter (· != '-'))
  if bs.length = 16 then return ⟨BitVec.ofNat 128 (Bytes.toNat bs)⟩ else none

end Uuid

end WideColumn

/-!
# The ASCII part of Unicode

Keywords, type names and the contents of `ascii` columns are compared and checked within the first
128 code points only; every other character stands for itself.

* `WideColumn.Text.isAscii`: membership of a character;
* `WideColumn.Text.lowerAscii`: the lower-case form of a character, other characters unchanged;
* `WideColumn.Text.sameIgnoringCase`: equality up to the case of ASCII letters;
* `WideColumn.Text.isWordChar`: the characters of a type name.
-/

namespace WideColumn

namespace Text

/-- Whether a character is one of the first 128. -/
def isAscii (c : Char) : Bool :=
  c.toNat < 128

/-- The lower-case form of an ASCII capital; any other character is left alone. -/
def lowerAscii (c : Char) : Char :=
  if 'A' ≤ c ∧ c ≤ 'Z' then Char.ofNat (c.toNat + 32) else c

/-- Equality up to the case of ASCII letters. -/
def sameIgnoringCase (s t : List Char) : Bool :=
  s.map lowerAscii == t.map lowerAscii

/-- ASCII letters, ASCII digits and the underscore. -/
def isWordChar (c : Char) : Bool :=
  ('a' ≤ c && c ≤ 'z') || ('A' ≤ c && c ≤ 'Z') || ('0' ≤ c && c ≤ '9') || c == '_'

end Text

end WideColumn

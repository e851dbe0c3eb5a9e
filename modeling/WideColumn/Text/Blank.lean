/-!
# Blank characters

The characters that separate words in a type notation without being part of any: the Unicode
property `White_Space`.

* `WideColumn.Text.inRanges`: membership in a set of characters that is given by ranges;
* `WideColumn.Text.isBlank`: membership in the property;
* `WideColumn.Text.skipBlank`: a text without its leading blanks;
* `WideColumn.Text.trim`: a text without its leading and trailing blanks.
-/

namespace WideColumn

namespace Text

/-- Whether a code point lies in one of the ranges. -/
def inRanges (rs : List (Nat × Nat)) (n : Nat) : Bool :=
  rs.any fun r => r.1 ≤ n && n ≤ r.2

/-- The ranges of code points with the property `White_Space`, first and last included. -/
def blankRanges : List (Nat × Nat) :=
  [(0x09, 0x0D), (0x20, 0x20), (0x85, 0x85), (0xA0, 0xA0), (0x1680, 0x1680), (0x2000, 0x200A),
    (0x2028, 0x2029), (0x202F, 0x202F), (0x205F, 0x205F), (0x3000, 0x3000)]

/-- Whether a character separates words. -/
def isBlank (c : Char) : Bool :=
  inRanges blankRanges c.toNat

/-- What is left of a text after its leading blanks. -/
def skipBlank (cs : List Char) : List Char :=
  cs.dropWhile isBlank

/-- A text without the blanks at its two ends. -/
def trim (cs : List Char) : List Char :=
  (skipBlank (skipBlank cs).reverse).reverse

@[simp] theorem skipBlank_nil : skipBlank [] = [] := rfl

theorem skipBlank_cons_of_blank {c : Char} (h : isBlank c = true) (cs : List Char) :
    skipBlank (c :: cs) = skipBlank cs := by
  simp [skipBlank, h]

theorem skipBlank_cons_of_not_blank {c : Char} (h : isBlank c = false) (cs : List Char) :
    skipBlank (c :: cs) = c :: cs := by
  simp [skipBlank, h]

/-- Skipping blanks never lengthens a text. -/
theorem length_skipBlank_le (cs : List Char) : (skipBlank cs).length ≤ cs.length := by
  induction cs with
  | nil => simp
  | cons c cs ih =>
    cases h : isBlank c with
    | true => rw [skipBlank_cons_of_blank h]; simp only [List.length_cons]; omega
    | false => simp [skipBlank_cons_of_not_blank h]

end Text

end WideColumn

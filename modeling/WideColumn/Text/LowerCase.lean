import WideColumn.Text.Blank
import WideColumn.Text.CaseTable

/-!
# Lower-casing

The lower-case form of a text under the full Unicode mapping, which differs from mapping each
character on its own in two places: a capital I with a dot above becomes two characters, and a
capital sigma becomes a final sigma when it ends a word.

* `WideColumn.Text.lowerChar`: the mapping of one character, its neighbours aside;
* `WideColumn.Text.endsWord`: whether the characters around a capital sigma make it a final one;
* `WideColumn.Text.lowerCase`: the lower-case form of a text.
-/

namespace WideColumn

namespace Text

/-- Whether a code point is one of the run. -/
def CaseRun.holds (r : CaseRun) (n : Nat) : Bool :=
  r.first ≤ n && n ≤ r.last && (n - r.first) % r.step == 0

/-- The lower-case form of one character, for all characters but the two that need more. -/
def lowerSimple (c : Char) : Char :=
  match lowerRuns.find? (·.holds c.toNat) with
  | some r => Char.ofNat (c.toNat + r.shift).toNat
  | none => c

/-- The lower-case form of one character by itself: a capital I with a dot above keeps its dot as a
combining mark. -/
def lowerChar (c : Char) : List Char :=
  if c = '\u0130' then ['i', '\u0307'] else [lowerSimple c]

/-- Whether the first character that is not case-ignorable has a letter case. -/
def meetsCased (cs : List Char) : Bool :=
  match cs.dropWhile (fun c => inRanges caseIgnorableRanges c.toNat) with
  | c :: _ => inRanges casedRanges c.toNat
  | [] => false

/-- A capital sigma ends a word when a letter with a case comes before it and none follows.
The characters before it are given nearest first. -/
def endsWord (before after : List Char) : Bool :=
  meetsCased before && !meetsCased after

/-- The lower-case form of a text, with the characters that come before it, nearest first. -/
def lowerAfter (before : List Char) : List Char → List Char
  | [] => []
  | c :: cs =>
    let lowered :=
      if c = '\u03A3' then [if endsWord before cs then '\u03C2' else '\u03C3'] else lowerChar c
    lowered ++ lowerAfter (c :: before) cs

/-- The lower-case form of a text. -/
def lowerCase (s : String) : String :=
  String.ofList (lowerAfter [] s.toList)

end Text

end WideColumn

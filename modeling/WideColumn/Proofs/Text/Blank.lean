import Mathlib
import WideColumn.Text.Blank

/-!
# Blanks at the ends of a text

Class names are trimmed when they are read, so what they stand for does not depend on the blanks
around them. These are the two laws by which proofs about texts see trimming: when it leaves
nothing, and that blanks at either end make no difference.

* `WideColumn.Text.IsBlankText`: texts without anything but blanks;
* `WideColumn.Text.trim_eq_nil_iff`, `WideColumn.Text.trim_append_append`: the two laws.
-/

namespace WideColumn

namespace Text

/-- **A text of blanks only.** -/
def IsBlankText (cs : List Char) : Prop :=
  ∀ c ∈ cs, isBlank c = true

variable {bs cs name : List Char}

theorem isBlankText_nil : IsBlankText [] := fun _ h => absurd h List.not_mem_nil

theorem isBlankText_append : IsBlankText (bs ++ cs) ↔ IsBlankText bs ∧ IsBlankText cs :=
  List.forall_mem_append

theorem isBlankText_reverse : IsBlankText cs.reverse ↔ IsBlankText cs := by
  simp only [IsBlankText, List.mem_reverse]

theorem skipBlank_eq_nil_iff : skipBlank cs = [] ↔ IsBlankText cs :=
  List.dropWhile_eq_nil_iff

theorem skipBlank_append_of_isBlankText (hbs : IsBlankText bs) (cs : List Char) :
    skipBlank (bs ++ cs) = skipBlank cs :=
  List.dropWhile_append_of_pos hbs

/-- Where a text is not blank, blanks behind it are left. -/
theorem skipBlank_append_of_not_isBlankText (hname : ¬IsBlankText name) (cs : List Char) :
    skipBlank (name ++ cs) = skipBlank name ++ cs := by
  have hne : ¬(name.dropWhile isBlank).isEmpty = true := by
    rw [List.isEmpty_iff]
    exact fun h => hname (skipBlank_eq_nil_iff.mp h)
  rw [skipBlank, List.dropWhile_append, if_neg hne, skipBlank]

/-- **Trimming leaves nothing of blanks**, and of blanks only. -/
theorem trim_eq_nil_iff : trim cs = [] ↔ IsBlankText cs := by
  have hskip : skipBlank (skipBlank cs) = skipBlank cs := List.dropWhile_idempotent ..
  rw [trim, List.reverse_eq_nil_iff, skipBlank_eq_nil_iff, isBlankText_reverse,
    ← skipBlank_eq_nil_iff, hskip, skipBlank_eq_nil_iff]

/-- **Blanks at the two ends do not count.** -/
theorem trim_append_append (hbs : IsBlankText bs) (hcs : IsBlankText cs) (name : List Char) :
    trim (bs ++ (name ++ cs)) = trim name := by
  by_cases hname : IsBlankText name
  · have hall : IsBlankText (bs ++ (name ++ cs)) :=
      isBlankText_append.mpr ⟨hbs, isBlankText_append.mpr ⟨hname, hcs⟩⟩
    rw [trim_eq_nil_iff.mpr hname, trim_eq_nil_iff.mpr hall]
  · rw [trim, skipBlank_append_of_isBlankText hbs, skipBlank_append_of_not_isBlankText hname,
      List.reverse_append, skipBlank_append_of_isBlankText (isBlankText_reverse.mpr hcs), trim]

end Text

end WideColumn

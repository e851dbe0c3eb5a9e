import Mathlib
import WideColumn.Value.Decimal

/-!
# The text of decimals

A decimal is an integer with a scale, and `1.0` is another one than `1`. Its text has to tell the two
apart, and it comes in four forms: digits alone, digits with a point between them, digits after a
point and zeros, and a point after the first digit with an exponent.

What such a text says is said here without regard to where it comes from. A numeral
(`WideColumn.Numeral`) has a sign, digits before and after a point, and an exponent; any text is read
as one or refused (`WideColumn.Numeral.read?`). Its digits without the point are an integer, the
number of those behind the point less the exponent is a scale, and these two say which number it is
(`WideColumn.Numeral.value_eq`). The text of a decimal is read as a numeral whose integer and scale
are its own, so that nothing about the decimal is lost.

* `WideColumn.Numeral`, `WideColumn.Numeral.read?`: numerals and **their reader**;
* `WideColumn.Numeral.value`: **the number** of a numeral;
* `WideColumn.Decimal.numeral`: the numeral of a decimal;
* `WideColumn.Decimal.checkedMagnitude`: the text put together with words of 64 bits;
* `WideColumn.Decimal.read?_toText`: **the text of a decimal is exact and canonical**.
-/

namespace WideColumn

/-- A decimal number as it is written. -/
structure Numeral where
  /-- Whether there is a minus sign. -/
  negative : Bool
  /-- The digits before the point. -/
  whole : List Char
  /-- The digits behind the point, if there is one. -/
  fraction : List Char
  /-- The exponent, if there is one. -/
  exponent : Option Int
  deriving DecidableEq, Repr

namespace Numeral

variable {n : Numeral} {ds rest : List Char}

/-! ### The reader -/

/-- The digits at the start of a text, one at least, and what follows. -/
def readDigits (cs : List Char) : Option (List Char × List Char) :=
  let ds := cs.takeWhile Char.isDigit
  if ds = [] then none else some (ds, cs.dropWhile Char.isDigit)

/-- The natural number that a whole text stands for. -/
def readNat (cs : List Char) : Option Nat := do
  let p ← readDigits cs
  if p.2 = [] then some (Nat.ofDigitChars 10 p.1 0) else none

/-- A sign that need not be there, and what follows. -/
def readSign : List Char → Bool × List Char
  | '-' :: cs => (true, cs)
  | cs => (false, cs)

/-- The digits behind a point that need not be there, and what follows. -/
def readFraction : List Char → Option (List Char × List Char)
  | '.' :: cs => readDigits cs
  | cs => some ([], cs)

/-- The exponent that the rest of a text may be. -/
def readExponent : List Char → Option (Option Int)
  | [] => some none
  | 'E' :: '+' :: cs => (readNat cs).map fun e => some (e : Int)
  | 'E' :: '-' :: cs => (readNat cs).map fun e => some (-e : Int)
  | 'E' :: cs => (readNat cs).map fun e => some (e : Int)
  | _ => none

/-- **The numeral that a text is**: a minus sign that need not be there, digits, a point and more
digits that need not be there, and an exponent that need not be there. -/
def read? (cs : List Char) : Option Numeral := do
  let sign := readSign cs
  let whole ← readDigits sign.2
  let fraction ← readFraction whole.2
  let exponent ← readExponent fraction.2
  return ⟨sign.1, whole.1, fraction.1, exponent⟩

/-! ### What a numeral says -/

/-- All digits of a numeral, without the point. -/
def digits (n : Numeral) : List Char :=
  n.whole ++ n.fraction

/-- The integer that the digits are without the point, with the sign. -/
def unscaled (n : Numeral) : Int :=
  if n.negative then -(Nat.ofDigitChars 10 n.digits 0 : Int) else Nat.ofDigitChars 10 n.digits 0

/-- How many digits stand behind the point, once the exponent has moved it. -/
def scale (n : Numeral) : Int :=
  n.fraction.length - n.exponent.getD 0

/-- **The number that a numeral stands for**: what is before the point, with what is behind it in
tenths, hundredths and so on, times a power of ten. -/
def value (n : Numeral) : ℚ :=
  (if n.negative then -1 else 1) *
    (Nat.ofDigitChars 10 n.whole 0 + Nat.ofDigitChars 10 n.fraction 0 / 10 ^ n.fraction.length) *
    10 ^ n.exponent.getD 0

/-- **The integer and the scale say which number it is.** -/
theorem value_eq (n : Numeral) : n.value = n.unscaled * (10 : ℚ) ^ (-n.scale) := by
  have hdigits : (Nat.ofDigitChars 10 n.digits 0 : ℚ) =
      10 ^ n.fraction.length * Nat.ofDigitChars 10 n.whole 0 +
        Nat.ofDigitChars 10 n.fraction 0 := by
    rw [digits, Nat.ofDigitChars_append, Nat.ofDigitChars_eq_ofDigitChars_zero]
    push_cast
    rfl
  have hunscaled : (n.unscaled : ℚ) =
      (if n.negative then -1 else 1) * (Nat.ofDigitChars 10 n.digits 0 : ℚ) := by
    rw [unscaled]
    split_ifs <;> simp
  have hscale : (10 : ℚ) ^ (-n.scale) =
      10 ^ n.exponent.getD 0 / 10 ^ n.fraction.length := by
    rw [scale, neg_sub, zpow_sub₀ (by norm_num), zpow_natCast]
  rw [value, hunscaled, hdigits, hscale]
  field_simp

/-! ### Writing -/

/-- **A numeral can be written**: there are digits before the point, and all of them are digits. -/
structure IsWritable (n : Numeral) : Prop where
  whole_ne_nil : n.whole ≠ []
  isDigit : ∀ c ∈ n.digits, c.isDigit

/-- A point and the digits behind it. -/
def fractionChars : List Char → List Char
  | [] => []
  | ds => '.' :: ds

/-- An exponent, with its sign. -/
def exponentChars : Option Int → List Char
  | none => []
  | some e => Decimal.exponent e

/-- The characters of a numeral. -/
def toChars (n : Numeral) : List Char :=
  (if n.negative then ['-'] else []) ++ (n.whole ++ (fractionChars n.fraction ++
    exponentChars n.exponent))

/-- A text does not go on with digits. -/
def EndsDigits (rest : List Char) : Prop :=
  ∀ c ∈ rest.head?, c.isDigit = false

theorem endsDigits_nil : EndsDigits [] :=
  fun _ h => absurd h (Option.not_mem_none _)

theorem endsDigits_cons {c : Char} (hc : c.isDigit = false) : EndsDigits (c :: rest) := by
  intro d hd
  rwa [← Option.mem_some_iff.mp hd]

theorem readDigits_append (hne : ds ≠ []) (hds : ∀ c ∈ ds, c.isDigit) (hrest : EndsDigits rest) :
    readDigits (ds ++ rest) = some (ds, rest) := by
  have hstart : ¬∃ c cs, rest = c :: cs ∧ c.isDigit := by
    rintro ⟨c, cs, rfl, hc⟩
    exact absurd hc (by simp [hrest c rfl])
  have htake : (ds ++ rest).takeWhile Char.isDigit = ds := by
    rw [List.takeWhile_append_of_pos hds]
    cases rest with
    | nil => exact List.append_nil ds
    | cons c cs => rw [List.takeWhile_cons_of_neg (fun hc => hstart ⟨c, cs, rfl, hc⟩),
        List.append_nil]
  have hdrop : (ds ++ rest).dropWhile Char.isDigit = rest := by
    rw [List.dropWhile_append_of_pos hds]
    cases rest with
    | nil => rfl
    | cons c cs => rw [List.dropWhile_cons_of_neg fun hc => hstart ⟨c, cs, rfl, hc⟩]
  rw [readDigits, htake, hdrop, if_neg hne]

theorem isDigit_of_mem_toDigits {k : Nat} : ∀ c ∈ Nat.toDigits 10 k, c.isDigit :=
  fun _ => Nat.isDigit_of_mem_toDigits (by decide) (by decide)

/-- **A natural number is read as it is written.** -/
theorem readNat_toDigits (k : Nat) : readNat (Nat.toDigits 10 k) = some k := by
  have hread := readDigits_append Nat.toDigits_ne_nil (isDigit_of_mem_toDigits (k := k))
    endsDigits_nil
  rw [List.append_nil] at hread
  rw [readNat, hread, Option.bind_eq_bind, Option.bind_some, if_pos rfl,
    Nat.ofDigitChars_ten_toDigits]

/-- **An exponent is read as it is written**, be it positive, zero or negative. -/
theorem readExponent_exponentChars (e : Option Int) : readExponent (exponentChars e) = some e := by
  cases e with
  | none => rfl
  | some e =>
    rw [exponentChars, Decimal.exponent, Text.intDigits]
    rcases lt_trichotomy e 0 with hneg | rfl | hpos
    · rw [if_neg (by omega), if_pos hneg, List.nil_append, readExponent, readNat_toDigits]
      exact congrArg (some <| some ·) (by omega)
    · decide
    · rw [if_pos hpos, if_neg (by omega), List.singleton_append, readExponent, readNat_toDigits]
      exact congrArg (some <| some ·) (by omega)

theorem endsDigits_exponentChars (e : Option Int) : EndsDigits (exponentChars e) := by
  cases e with
  | none => exact endsDigits_nil
  | some e => exact endsDigits_cons rfl

/-- **Digits behind a point are read as they are written**, also where there are none. -/
theorem readFraction_fractionChars (hds : ∀ c ∈ ds, c.isDigit) (e : Option Int) :
    readFraction (fractionChars ds ++ exponentChars e) = some (ds, exponentChars e) := by
  cases ds with
  | nil => cases e <;> rfl
  | cons d ds => exact readDigits_append (List.cons_ne_nil d ds) hds (endsDigits_exponentChars e)

theorem endsDigits_fractionChars (ds : List Char) (e : Option Int) :
    EndsDigits (fractionChars ds ++ exponentChars e) := by
  cases ds with
  | nil => exact endsDigits_exponentChars e
  | cons d ds => exact endsDigits_cons rfl

/-- A sign is told from a digit. -/
theorem readSign_append (negative : Bool) {c : Char} {cs : List Char} (hc : c.isDigit) :
    readSign ((if negative then ['-'] else []) ++ c :: cs) = (negative, c :: cs) := by
  cases negative with
  | true => rfl
  | false =>
    have hne : c ≠ '-' := by
      rintro rfl
      cases hc
    simp [readSign, hne]

/-- **What is written is read as it was.** -/
theorem read?_toChars (h : n.IsWritable) : read? n.toChars = some n := by
  have hwhole : ∀ c ∈ n.whole, c.isDigit := fun c hc => h.isDigit c (List.mem_append_left _ hc)
  have hfraction : ∀ c ∈ n.fraction, c.isDigit :=
    fun c hc => h.isDigit c (List.mem_append_right _ hc)
  obtain ⟨c, cs, hcs⟩ := List.exists_cons_of_ne_nil h.whole_ne_nil
  have hsign : readSign n.toChars = (n.negative, n.whole ++ (fractionChars n.fraction ++
      exponentChars n.exponent)) := by
    rw [toChars, hcs, List.cons_append]
    exact readSign_append n.negative (hwhole c (by rw [hcs]; exact List.mem_cons_self))
  have hdigits := readDigits_append h.whole_ne_nil hwhole
    (endsDigits_fractionChars n.fraction n.exponent)
  rw [read?, hsign]
  simp only [hdigits, readFraction_fractionChars hfraction, readExponent_exponentChars,
    Option.bind_eq_bind, Option.bind_some, Option.pure_def]

end Numeral

namespace Decimal

variable {d e : Decimal}

/-! ### The numeral of a decimal -/

/-- **The numeral that a decimal is written as.** With an exponent one digit stands before the point;
without one as many stand behind it as the scale says, with zeros in front if there are too few. -/
def numeral (d : Decimal) : Numeral :=
  let places := d.scale.toInt.toNat
  if d.isPlain then
    if places < d.digits.length then
      ⟨d.unscaled < 0, d.digits.take (d.digits.length - places),
        d.digits.drop (d.digits.length - places), none⟩
    else ⟨d.unscaled < 0, ['0'], List.replicate (places - d.digits.length) '0' ++ d.digits, none⟩
  else ⟨d.unscaled < 0, d.digits.take 1, d.digits.drop 1, some d.adjustedExponent⟩

theorem digits_ne_nil (d : Decimal) : d.digits ≠ [] :=
  Nat.toDigits_ne_nil

theorem length_digits_pos (d : Decimal) : 0 < d.digits.length :=
  Nat.length_toDigits_pos

/-- A scale is none, or it counts digits behind the point, or digits that are missing in front of
it; the latter asks for an exponent, and the other one does if too many zeros would be needed. -/
theorem isPlain_iff (d : Decimal) :
    d.isPlain ↔ d.scale.toInt = 0 ∨ 0 < d.scale.toInt ∧ -6 ≤ d.adjustedExponent := by
  simp [isPlain]

/-- The digits of a plain decimal, with a point between them or in front of them. -/
theorem pointed_eq (ds : List Char) (places : Nat) :
    pointed ds places =
      if places < ds.length then
        ds.take (ds.length - places) ++ Numeral.fractionChars (ds.drop (ds.length - places))
      else if places = 0 then ds
      else '0' :: '.' :: (List.replicate (places - ds.length) '0' ++ ds) := by
  rw [pointed]
  by_cases hzero : places = 0
  · subst hzero
    simp [Numeral.fractionChars]
  · rw [if_neg hzero]
    split_ifs with hlt
    · -- a digit is behind the point, as the scale is not zero
      obtain ⟨c, cs, hcs⟩ := List.exists_cons_of_ne_nil
        (List.ne_nil_of_length_pos (l := ds.drop (ds.length - places))
          (by rw [List.length_drop]; omega))
      rw [hcs, Numeral.fractionChars]
      exact List.cons_ne_nil c cs
    · rfl

theorem scientific_eq (ds : List Char) :
    scientific ds = ds.take 1 ++ Numeral.fractionChars (ds.drop 1) := by
  rcases ds with _ | ⟨c, _ | ⟨c', cs⟩⟩ <;> rfl

theorem negative_numeral (d : Decimal) : d.numeral.negative = decide (d.unscaled < 0) := by
  rw [numeral]
  split_ifs <;> rfl

/-- **The text of a decimal is that of its numeral.** -/
theorem toChars_eq (d : Decimal) : d.toChars = d.numeral.toChars := by
  have hpos := d.length_digits_pos
  have hmagnitude : d.magnitude = d.numeral.whole ++
      (Numeral.fractionChars d.numeral.fraction ++ Numeral.exponentChars d.numeral.exponent) := by
    rw [magnitude, numeral]
    split_ifs with hplain hlt
    · rw [pointed_eq, if_pos hlt]
      simp [Numeral.exponentChars]
    · obtain ⟨c, cs, hcs⟩ := List.exists_cons_of_ne_nil (List.append_ne_nil_of_right_ne_nil
        (List.replicate (d.scale.toInt.toNat - d.digits.length) '0') d.digits_ne_nil)
      rw [pointed_eq, if_neg hlt, if_neg (by omega), hcs]
      simp [Numeral.fractionChars, Numeral.exponentChars]
    · rw [scientific_eq, List.append_assoc]
      rfl
  rw [toChars, Numeral.toChars, ← hmagnitude, negative_numeral]
  by_cases hneg : d.unscaled < 0 <;> simp [hneg]

theorem digits_numeral (d : Decimal) : ∃ k, d.numeral.digits = List.replicate k '0' ++ d.digits := by
  rw [numeral, Numeral.digits]
  split_ifs
  · exact ⟨0, List.take_append_drop _ _⟩
  · exact ⟨_ + 1, by rw [List.replicate_succ]; rfl⟩
  · exact ⟨0, List.take_append_drop _ _⟩

theorem isWritable_numeral (d : Decimal) : d.numeral.IsWritable where
  whole_ne_nil := by
    have hpos := d.length_digits_pos
    rw [numeral]
    split_ifs with hplain hlt
    · refine List.ne_nil_of_length_pos ?_
      rw [List.length_take]
      omega
    · exact List.cons_ne_nil _ _
    · refine List.ne_nil_of_length_pos ?_
      rw [List.length_take]
      omega
  isDigit c hc := by
    obtain ⟨k, hk⟩ := d.digits_numeral
    rw [hk] at hc
    rcases List.mem_append.mp hc with hc | hc
    · rw [List.eq_of_mem_replicate hc]
      rfl
    · exact Numeral.isDigit_of_mem_toDigits c hc

/-! ### What the numeral says -/

/-- **The digits without the point are the integer.** -/
theorem unscaled_numeral (d : Decimal) : d.numeral.unscaled = d.unscaled := by
  have habs : Nat.ofDigitChars 10 d.numeral.digits 0 = d.unscaled.natAbs := by
    obtain ⟨k, hk⟩ := d.digits_numeral
    rw [hk, Nat.ofDigitChars_append, Nat.ofDigitChars_replicate_zero, Nat.mul_zero, digits,
      Nat.ofDigitChars_ten_toDigits]
  rw [Numeral.unscaled, negative_numeral, habs]
  split_ifs with hneg <;> simp at hneg <;> omega

/-- **The digits behind the point, less the exponent, are the scale.** -/
theorem scale_numeral (d : Decimal) : d.numeral.scale = d.scale.toInt := by
  have hpos := d.length_digits_pos
  rw [numeral, Numeral.scale]
  split_ifs with hplain hlt
  · -- a plain decimal has no negative scale
    have hscale := d.isPlain_iff.mp hplain
    simp only [List.length_drop, Option.getD_none]
    omega
  · simp only [List.length_append, List.length_replicate, Option.getD_none]
    omega
  · simp only [List.length_drop, Option.getD_some, adjustedExponent]
    omega

/-- **There is an exponent** exactly if the scale is negative, or so large that too many zeros would
stand behind the point. -/
theorem isSome_exponent_numeral (d : Decimal) : d.numeral.exponent.isSome ↔
    d.scale.toInt < 0 ∨ 0 < d.scale.toInt ∧ d.adjustedExponent < -6 := by
  have hsome : d.numeral.exponent.isSome ↔ ¬d.isPlain := by
    rw [numeral]
    split_ifs with hplain <;> simp [hplain]
  rw [hsome, isPlain_iff]
  omega

/-- An exponent is never zero. -/
theorem exponent_numeral_ne_zero (d : Decimal) : d.numeral.exponent ≠ some 0 := by
  intro hzero
  have hpos := d.length_digits_pos
  have hsome := d.isSome_exponent_numeral.mp (Option.isSome_of_eq_some hzero)
  have hscale := d.scale_numeral
  have hexponent : d.numeral.exponent = none ∨ d.numeral.exponent = some d.adjustedExponent := by
    rw [numeral]
    split_ifs <;> simp
  rcases hexponent with h | h
  · rw [h] at hzero
    cases hzero
  · have : d.adjustedExponent = 0 := Option.some.inj (h.symm.trans hzero)
    rw [adjustedExponent] at this hsome
    omega

/-! ### Words of 64 bits -/

/-- An integer as a word, **if it has room in one**. -/
def fitting (n : Int) : Option Int :=
  if -2 ^ 63 ≤ n ∧ n < 2 ^ 63 then some n else none

/-- The difference of two lengths, **if it is not negative**. -/
def difference (a b : Nat) : Option Nat :=
  if b ≤ a then some (a - b) else none

/-- The two parts of a text that is cut, **if the cut is inside**. -/
def cut (cs : List Char) (place : Nat) : Option (List Char × List Char) :=
  if place ≤ cs.length then some (cs.take place, cs.drop place) else none

/-- **The text of a decimal without its sign, put together with words.** There is none if some
intermediate result has no room, or a text is cut behind its end. -/
def checkedMagnitude (d : Decimal) : Option (List Char) := do
  let count ← fitting d.digits.length
  let last ← fitting (count - 1)
  let adjusted ← fitting (last - d.scale.toInt)
  if d.scale.toInt = 0 then return d.digits
  else if 0 < d.scale.toInt ∧ -6 ≤ adjusted then
    let places := d.scale.toInt.toNat
    if places < d.digits.length then
      let place ← difference d.digits.length places
      let parts ← cut d.digits place
      return parts.1 ++ '.' :: parts.2
    else
      let zeros ← difference places d.digits.length
      return '0' :: '.' :: (List.replicate zeros '0' ++ d.digits)
  else
    let parts ← cut d.digits 1
    return parts.1 ++ (Numeral.fractionChars parts.2 ++ exponent adjusted)

theorem fitting_eq_some {n : Int} (hlow : -2 ^ 63 ≤ n) (hhigh : n < 2 ^ 63) : fitting n = some n :=
  if_pos ⟨hlow, hhigh⟩

/-- The scale, as any word of 32 bits, is far from the bounds. -/
theorem scale_bounds (d : Decimal) : -2 ^ 31 ≤ d.scale.toInt ∧ d.scale.toInt < 2 ^ 31 :=
  ⟨d.scale.le_toInt, d.scale.toInt_lt⟩

/-- **No intermediate result is out of bounds**, whatever the scale, if the digits are not so many
that no memory holds them. -/
theorem checkedMagnitude_eq_some (h : d.digits.length ≤ 2 ^ 63 - 2 ^ 31) :
    d.checkedMagnitude = some d.magnitude := by
  have hpos := d.length_digits_pos
  obtain ⟨hlow, hhigh⟩ := d.scale_bounds
  have hcount : fitting d.digits.length = some (d.digits.length : Int) :=
    fitting_eq_some (by omega) (by omega)
  have hlast : fitting ((d.digits.length : Int) - 1) = some ((d.digits.length : Int) - 1) :=
    fitting_eq_some (by omega) (by omega)
  have hadjusted : fitting ((d.digits.length : Int) - 1 - d.scale.toInt) =
      some d.adjustedExponent :=
    fitting_eq_some (by omega) (by omega)
  rw [checkedMagnitude, magnitude]
  simp only [hcount, hlast, hadjusted, Option.bind_eq_bind, Option.bind_some, Option.pure_def]
  by_cases hzero : d.scale.toInt = 0
  · have hplain : d.isPlain := d.isPlain_iff.mpr (.inl hzero)
    rw [if_pos hzero, if_pos hplain, hzero]
    rfl
  rw [if_neg hzero]
  by_cases hpoint : 0 < d.scale.toInt ∧ -6 ≤ d.adjustedExponent
  · have hplain : d.isPlain := d.isPlain_iff.mpr (.inr hpoint)
    have hplaces : d.scale.toInt.toNat ≠ 0 := by omega
    rw [if_pos hpoint, if_pos hplain, pointed, if_neg hplaces]
    split_ifs with hlt
    · rw [difference, if_pos hlt.le, Option.bind_some, cut, if_pos (Nat.sub_le _ _),
        Option.bind_some]
    · rw [difference, if_pos (not_lt.mp hlt), Option.bind_some]
  · have hplain : ¬d.isPlain := fun hplain => (d.isPlain_iff.mp hplain).elim hzero hpoint
    have hfirst : 1 ≤ d.digits.length := hpos
    rw [if_neg hpoint, if_neg hplain, cut, if_pos hfirst, Option.bind_some, scientific_eq,
      List.append_assoc]

/-! ### The text -/

/-- The text of a decimal is read as its numeral. -/
theorem read?_toText_eq (d : Decimal) : Numeral.read? d.toText.toList = some d.numeral := by
  rw [toText, String.toList_ofList, toChars_eq]
  exact Numeral.read?_toChars d.isWritable_numeral

/-- **Two decimals are written alike only if they are the same**, integer and scale. -/
theorem toText_inj : d.toText = e.toText ↔ d = e := by
  refine ⟨fun h => ?_, congrArg toText⟩
  have hnumeral : d.numeral = e.numeral := by
    have hd := d.read?_toText_eq
    rw [h, e.read?_toText_eq] at hd
    exact (Option.some.inj hd).symm
  have hunscaled : d.unscaled = e.unscaled := by
    rw [← d.unscaled_numeral, ← e.unscaled_numeral, hnumeral]
  have hscale : d.scale = e.scale := by
    refine Int32.toInt_inj.mp ?_
    rw [← d.scale_numeral, ← e.scale_numeral, hnumeral]
  cases d
  cases e
  exact congrArg₂ Decimal.mk hunscaled hscale

/-- **The text of a decimal is exact and canonical.** It is a numeral that stands for the number of
the decimal, and shows its integer and its scale, so that two decimals are written alike exactly if
they are the same. It has an exponent exactly if the scale is negative, or is positive and the leading
digit more than six places behind the point, and this is never zero. And it can be put together with
words of 64 bits: nothing that is computed on the way has no room, as long as the digits themselves
have room in memory. -/
theorem read?_toText (d : Decimal) :
    (∃ n, Numeral.read? d.toText.toList = some n ∧
      n.value = d.unscaled * (10 : ℚ) ^ (-d.scale.toInt) ∧
      n.unscaled = d.unscaled ∧ n.scale = d.scale.toInt ∧
      (n.exponent.isSome ↔ d.scale.toInt < 0 ∨ 0 < d.scale.toInt ∧ d.adjustedExponent < -6) ∧
      n.exponent ≠ some 0) ∧
    (∀ e : Decimal, d.toText = e.toText ↔ d = e) ∧
    (d.digits.length ≤ 2 ^ 63 - 2 ^ 31 → d.checkedMagnitude = some d.magnitude) := by
  refine ⟨⟨d.numeral, d.read?_toText_eq, ?_, d.unscaled_numeral, d.scale_numeral,
    d.isSome_exponent_numeral, d.exponent_numeral_ne_zero⟩, fun e => toText_inj,
    checkedMagnitude_eq_some⟩
  rw [Numeral.value_eq, unscaled_numeral, scale_numeral]

/-- A decimal of the least scale there is. -/
theorem read?_toText_least : (⟨123, Int32.minValue⟩ : Decimal).digits.length ≤ 2 ^ 63 - 2 ^ 31 ∧
    (⟨123, Int32.minValue⟩ : Decimal).checkedMagnitude = some "1.23E+2147483650".toList := by
  have hlength : (⟨123, Int32.minValue⟩ : Decimal).digits.length ≤ 2 ^ 63 - 2 ^ 31 := by
    decide
  refine ⟨hlength, ((read?_toText _).2.2 hlength).trans ?_⟩
  decide

end Decimal

end WideColumn

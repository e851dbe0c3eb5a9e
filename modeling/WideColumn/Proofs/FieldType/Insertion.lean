import Mathlib
import WideColumn.Proofs.FieldType.Conversion

/-!
# What stays of what counts as one

Sets and maps are put together element by element, and an element takes the place of one that counts
as the same. What stays in the end are the last ones (`WideColumn.Insertion.IsLast`), be they in order
or not (`WideColumn.Insertion.mem_sorted_iff`, `WideColumn.Insertion.mem_distinct_iff`).

For sets it does not matter which one stays, since only what is the same counts as the same
(`WideColumn.FieldType.lawfulEqCmp_compare`), and so nothing is lost. Entries of maps count as the
same if their keys are; of each key one entry stays, the last one.

* `WideColumn.Insertion.IsLast`: **the last one** of those that count as one;
* `WideColumn.Insertion.mem_sorted_iff`, `WideColumn.Insertion.mem_distinct_iff`: the last ones stay,
  and nothing else;
* `WideColumn.FieldType.lawfulEqCmp_compare`: **nothing counts as one but what is the same**;
* `WideColumn.Insertion.IsBinding`: the entry that counts for its key.
-/

namespace WideColumn

namespace Insertion

variable {α β : Type} {cmp : α → α → Ordering} {x y : α} {xs : List α}

/-! ### The last ones -/

/-- **The last one of those that count as one**: it is in the list, and nothing behind it counts as
the same. -/
def IsLast (cmp : α → α → Ordering) (xs : List α) (y : α) : Prop :=
  ∃ before after, xs = before ++ y :: after ∧ ∀ z ∈ after, cmp z y ≠ .eq

theorem IsLast.mem (h : IsLast cmp xs y) : y ∈ xs := by
  obtain ⟨before, after, rfl, -⟩ := h
  exact List.mem_append_right before List.mem_cons_self

theorem not_isLast_nil : ¬IsLast cmp [] y :=
  fun h => absurd h.mem List.not_mem_nil

/-- One more element is a last one, and all those were before that do not count as the same. -/
theorem isLast_concat_iff : IsLast cmp (xs ++ [x]) y ↔ y = x ∨ IsLast cmp xs y ∧ cmp x y ≠ .eq := by
  constructor
  · rintro ⟨before, after, hsplit, hafter⟩
    rcases List.eq_nil_or_concat after with rfl | ⟨after, z, rfl⟩
    · obtain ⟨-, hxy⟩ := List.append_inj' hsplit rfl
      exact Or.inl (List.singleton_inj.mp hxy).symm
    · rw [List.concat_eq_append] at hsplit hafter
      rw [← List.cons_append, ← List.append_assoc] at hsplit
      obtain ⟨hxs, hz⟩ := List.append_inj' hsplit rfl
      obtain rfl := List.singleton_inj.mp hz
      refine Or.inr ⟨⟨before, after, hxs, fun z hz => hafter z (List.mem_append_left _ hz)⟩, ?_⟩
      exact hafter x (List.mem_append_right _ (List.mem_singleton_self x))
  · rintro (rfl | ⟨⟨before, after, rfl, hafter⟩, hxy⟩)
    · exact ⟨xs, [], rfl, fun z hz => absurd hz List.not_mem_nil⟩
    · refine ⟨before, after ++ [x], by simp, fun z hz => ?_⟩
      rcases List.mem_append.mp hz with hz | hz
      · exact hafter z hz
      · rwa [List.mem_singleton.mp hz]

section Order

variable [Std.TransCmp cmp]

variable (cmp) in
/-- **Everything counts as some last one.** -/
theorem exists_isLast_of_mem (hx : x ∈ xs) : ∃ y, IsLast cmp xs y ∧ cmp y x = .eq := by
  induction xs using List.reverseRecOn with
  | nil => exact absurd hx List.not_mem_nil
  | append_singleton xs z ih =>
    rcases List.mem_append.mp hx with hx | hx
    · obtain ⟨y, hy, hyx⟩ := ih hx
      by_cases hzy : cmp z y = .eq
      · -- the new element takes the place of the last one
        exact ⟨z, isLast_concat_iff.mpr (Or.inl rfl), by rw [Std.TransCmp.congr_left hzy, hyx]⟩
      · exact ⟨y, isLast_concat_iff.mpr (Or.inr ⟨hy, hzy⟩), hyx⟩
    · obtain rfl := List.mem_singleton.mp hx
      exact ⟨x, isLast_concat_iff.mpr (Or.inl rfl), Std.ReflCmp.compare_self⟩

/-- An element takes the place of what counts as the same in an increasing list. -/
theorem mem_insertSorted_iff (h : xs.Pairwise fun x y => cmp x y = .lt) :
    y ∈ insertSorted cmp x xs ↔ y = x ∨ y ∈ xs ∧ cmp x y ≠ .eq := by
  induction xs with
  | nil => simp [insertSorted]
  | cons z zs ih =>
    obtain ⟨hfirst, hrest⟩ := List.pairwise_cons.mp h
    rw [insertSorted]
    cases hxz : cmp x z with
    | lt =>
      -- everything is greater than what is less than the first
      have hne : ∀ w ∈ z :: zs, cmp x w ≠ .eq := by
        refine List.forall_mem_cons.mpr ⟨by simp [hxz], fun w hw => ?_⟩
        simp [Std.TransCmp.lt_trans hxz (hfirst w hw)]
      exact List.mem_cons.trans (or_congr_right (and_iff_left_of_imp (hne y)).symm)
    | eq =>
      have hne : ∀ w ∈ zs, cmp x w ≠ .eq := by
        intro w hw
        rw [Std.TransCmp.congr_left hxz, hfirst w hw]
        decide
      rw [List.mem_cons, List.mem_cons, or_and_right]
      refine or_congr_right ((and_iff_left_of_imp (hne y)).symm.trans (or_iff_right ?_).symm)
      rintro ⟨rfl, hxy⟩
      exact hxy hxz
    | gt =>
      rw [List.mem_cons, List.mem_cons, ih hrest, or_and_right, or_left_comm]
      refine or_congr_right (or_congr_left (and_iff_left_of_imp ?_).symm)
      rintro rfl
      simp [hxz]

/-- An element takes the place of what counts as the same in a list without repetitions. -/
theorem mem_insertDistinct_iff (h : xs.Pairwise fun x y => cmp x y ≠ .eq) :
    y ∈ insertDistinct cmp x xs ↔ y = x ∨ y ∈ xs ∧ cmp x y ≠ .eq := by
  induction xs with
  | nil => simp [insertDistinct]
  | cons z zs ih =>
    obtain ⟨hfirst, hrest⟩ := List.pairwise_cons.mp h
    rw [insertDistinct]
    split_ifs with hxz
    · have hne : ∀ w ∈ zs, cmp x w ≠ .eq := by
        intro w hw
        rw [Std.TransCmp.congr_left (eq_of_beq hxz)]
        exact hfirst w hw
      rw [List.mem_cons, List.mem_cons, or_and_right]
      refine or_congr_right ((and_iff_left_of_imp (hne y)).symm.trans (or_iff_right ?_).symm)
      rintro ⟨rfl, hxy⟩
      exact hxy (eq_of_beq hxz)
    · rw [List.mem_cons, List.mem_cons, ih hrest, or_and_right, or_left_comm]
      refine or_congr_right (or_congr_left (and_iff_left_of_imp ?_).symm)
      rintro rfl
      simpa using hxz

/-- **What is put in order are the last ones.** -/
theorem mem_sorted_iff : y ∈ sorted cmp xs ↔ IsLast cmp xs y := by
  induction xs using List.reverseRecOn with
  | nil => exact iff_of_false List.not_mem_nil not_isLast_nil
  | append_singleton xs x ih =>
    rw [sorted, List.foldl_concat, ← sorted, mem_insertSorted_iff (pairwise_sorted xs), ih,
      isLast_concat_iff]

/-- **What is put together are the last ones.** -/
theorem mem_distinct_iff : y ∈ distinct cmp xs ↔ IsLast cmp xs y := by
  induction xs using List.reverseRecOn with
  | nil => exact iff_of_false List.not_mem_nil not_isLast_nil
  | append_singleton xs x ih =>
    rw [distinct, List.foldl_concat, ← distinct, mem_insertDistinct_iff (pairwise_distinct xs), ih,
      isLast_concat_iff]

/-- **Nothing is lost** where nothing counts as one but what is the same. -/
theorem isLast_iff_mem [Std.LawfulEqCmp cmp] : IsLast cmp xs y ↔ y ∈ xs := by
  refine ⟨IsLast.mem, fun hy => ?_⟩
  obtain ⟨z, hz, hzy⟩ := exists_isLast_of_mem cmp hy
  rwa [← Std.LawfulEqCmp.eq_of_compare hzy]

end Order

/-! ### Entries -/

/-- **The entry that counts for its key**: none behind it has the same one. -/
def IsBinding (es : List (α × β)) (e : α × β) : Prop :=
  ∃ before after, es = before ++ e :: after ∧ ∀ d ∈ after, d.1 ≠ e.1

theorem IsBinding.mem {es : List (α × β)} {e : α × β} (h : IsBinding es e) : e ∈ es := by
  obtain ⟨before, after, rfl, -⟩ := h
  exact List.mem_append_right before List.mem_cons_self

variable (cmp) in
/-- An entry counts for its key if it is the last one of those that are compared by it. -/
theorem isLast_iff_isBinding [Std.LawfulEqCmp cmp] {es : List (α × β)} {e : α × β} :
    IsLast (fun a b => cmp a.1 b.1) es e ↔ IsBinding es e := by
  simp only [IsLast, IsBinding, ne_eq, Std.LawfulEqCmp.compare_eq_iff_eq]

variable (cmp) in
/-- **Each key has an entry that counts.** -/
theorem exists_isBinding_iff [Std.TransCmp cmp] [Std.LawfulEqCmp cmp] {es : List (α × β)} {a : α} :
    (∃ e, IsBinding es e ∧ e.1 = a) ↔ ∃ e ∈ es, e.1 = a := by
  constructor
  · rintro ⟨e, he, rfl⟩
    exact ⟨e, he.mem, rfl⟩
  · rintro ⟨e, he, rfl⟩
    obtain ⟨d, hd, hde⟩ := exists_isLast_of_mem (fun d e : α × β => cmp d.1 e.1) he
    exact ⟨d, (isLast_iff_isBinding cmp).mp hd, Std.LawfulEqCmp.eq_of_compare hde⟩

end Insertion

/-! ### What counts as one -/

/-- Comparing something of elements tells them apart if it tells this apart, and this tells the
elements apart. -/
theorem lawfulEqCmp_on {α β : Type} (cmp : β → β → Ordering) [Std.LawfulEqCmp cmp] {f : α → β}
    (hf : Function.Injective f) : Std.LawfulEqCmp fun a b => cmp (f a) (f b) where
  compare_self := Std.ReflCmp.compare_self
  eq_of_compare h := hf (Std.LawfulEqCmp.eq_of_compare h)

/-- What is compared by a number that it has alone counts as one only if it is the same. -/
theorem lawfulEqCmp_of_toNat {α : Type} {f : α → Nat} (hf : Function.Injective f) :
    Std.LawfulEqCmp fun a b => Ord.compare (f a) (f b) :=
  lawfulEqCmp_on Ord.compare hf

theorem Address.lawfulEqCmp_compare : Std.LawfulEqCmp Address.compare where
  compare_self {a} := by
    cases a <;> exact Std.ReflCmp.compare_self
  eq_of_compare {a b} h := by
    cases a with
    | v4 a =>
      cases b with
      | v4 b =>
        have hword : Ord.compare a.toNat b.toNat = .eq := h
        exact congrArg v4 (BitVec.eq_of_toNat_eq (Std.LawfulEqCmp.eq_of_compare hword))
      | v6 b => cases h
    | v6 a =>
      cases b with
      | v4 b => cases h
      | v6 b =>
        have hword : Ord.compare a.toNat b.toNat = .eq := h
        exact congrArg v6 (BitVec.eq_of_toNat_eq (Std.LawfulEqCmp.eq_of_compare hword))

/-- **Primitive values count as one only if they are the same.** -/
instance Primitive.lawfulEqCmp_compare (p : Primitive) : Std.LawfulEqCmp p.compare := by
  cases p with
  | string =>
    have := lawfulEqCmp_of_toNat fun (_ _ : Char) => Char.toNat_inj.mp
    exact lawfulEqCmp_on (List.compareLex fun c d : Char => Ord.compare c.toNat d.toNat)
      fun _ _ => String.toList_inj.mp
  | bytes =>
    have := lawfulEqCmp_of_toNat fun (_ _ : UInt8) => UInt8.toNat_inj.mp
    exact inferInstanceAs (Std.LawfulEqCmp
      (List.compareLex fun c d : UInt8 => Ord.compare c.toNat d.toNat))
  | address => exact Address.lawfulEqCmp_compare
  | decimal =>
    exact {
      compare_self := by simp [Primitive.compare]
      eq_of_compare := fun {a b} h => by
        obtain ⟨hunscaled, hscale⟩ := Ordering.then_eq_eq.mp h
        cases a
        cases b
        exact congrArg₂ Decimal.mk (Std.LawfulEqCmp.eq_of_compare hunscaled)
          (Int32.toInt_inj.mp (Std.LawfulEqCmp.eq_of_compare hscale)) }
  | instant =>
    exact {
      compare_self := by simp [Primitive.compare]
      eq_of_compare := fun {a b} h => by
        obtain ⟨hseconds, hnanos⟩ := Ordering.then_eq_eq.mp h
        have hseconds := Std.LawfulEqCmp.eq_of_compare hseconds
        have hnanos := Std.LawfulEqCmp.eq_of_compare hnanos
        cases a
        cases b
        cases hseconds
        cases hnanos
        rfl }
  | bool =>
    exact lawfulEqCmp_of_toNat fun (a b : Bool) h => by cases a <;> cases b <;> trivial
  | int32 =>
    exact lawfulEqCmp_on (Ord.compare (α := Int)) fun (_ _ : Int32) => Int32.toInt_inj.mp
  | int64 =>
    exact lawfulEqCmp_on (Ord.compare (α := Int)) fun (_ _ : Int64) => Int64.toInt_inj.mp
  | float32 =>
    exact lawfulEqCmp_of_toNat fun (_ _ : Single) h => congrArg Single.mk (UInt32.toNat_inj.mp h)
  | float64 =>
    exact lawfulEqCmp_of_toNat fun (_ _ : Double) h => congrArg Double.mk (UInt64.toNat_inj.mp h)
  | varint => exact inferInstanceAs (Std.LawfulEqCmp fun a b : Int => Ord.compare a b)
  | uuid =>
    exact lawfulEqCmp_of_toNat fun (_ _ : Uuid) h => congrArg Uuid.mk (BitVec.eq_of_toNat_eq h)

namespace FieldType

/-- **What fields of a type hold counts as one only if it is the same.** -/
instance lawfulEqCmp_compare (t : FieldType) : Std.LawfulEqCmp t.compare := by
  induction t with
  | single p => exact p.lawfulEqCmp_compare
  | option t ih =>
    exact {
      compare_self := fun {a} => by
        cases a with
        | none => rfl
        | some a => exact ih.compare_self
      eq_of_compare := fun {a b} h => by
        cases a <;> cases b <;> first
          | rfl
          | cases h
          | exact congrArg some (ih.eq_of_compare h) }
  | list t ih | sortedSet t ih | hashSet t ih =>
    exact inferInstanceAs (Std.LawfulEqCmp (List.compareLex t.compare))
  | sortedMap k u ihk ihu | hashMap k u ihk ihu =>
    have hentries : Std.LawfulEqCmp (compareEntries k.compare u.compare) := {
      compare_self := fun {a} => by
        rw [compareEntries, ihk.compare_self, ihu.compare_self]
        rfl
      eq_of_compare := fun {a b} h => by
        obtain ⟨hkey, hvalue⟩ := Ordering.then_eq_eq.mp h
        exact Prod.ext (ihk.eq_of_compare hkey) (ihu.eq_of_compare hvalue) }
    exact inferInstanceAs (Std.LawfulEqCmp (List.compareLex (compareEntries k.compare u.compare)))

end FieldType

end WideColumn

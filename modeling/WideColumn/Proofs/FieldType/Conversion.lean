import Mathlib
import WideColumn.Proofs.Codec.RoundTrip
import WideColumn.Proofs.FieldType.Column

/-!
# What a field holds comes back

A field is turned into a value, stored, and turned into what a field holds again. Two things stand
against its being the same: sets and maps are put together anew, element by element, and a missing
value cannot be told from a missing part of it.

The first one does no harm to sets that are what a set can be, each element once and in order where
it has one (`WideColumn.FieldType.IsProper`): putting such a set together gives the same one, since
every element is added at the end. Nothing else is ever put into a field
(`WideColumn.FieldType.isProper_of_ofValue`). The second one is a matter of the type, which must not
be an option of an option (`WideColumn.FieldType.IsFlat`).

* `WideColumn.Insertion.sorted_eq_self`, `WideColumn.Insertion.distinct_eq_self`: **what is in order
  stays as it is**;
* `WideColumn.FieldType.IsProper`: what a field can hold;
* `WideColumn.FieldType.isProper_of_ofValue`: **what is put into a field is what it can hold**;
* `WideColumn.FieldType.IsUnambiguous`: what is missing can be told from what is there;
* `WideColumn.FieldType.ofValue_toValue`: **what a field holds comes back**;
* `WideColumn.FieldType.stored_toValue`: a column does not change it.
-/

namespace WideColumn

namespace Insertion

variable {α : Type} {cmp : α → α → Ordering} {x z : α} {xs : List α}

/-! ### Collections that are in order already -/

/-- An element that is greater than all others is added at the end. -/
theorem insertSorted_of_forall (h : ∀ y ∈ xs, cmp x y = .gt) :
    insertSorted cmp x xs = xs ++ [x] := by
  induction xs with
  | nil => rfl
  | cons y ys ih =>
    obtain ⟨hfirst, hrest⟩ := List.forall_mem_cons.mp h
    rw [insertSorted, hfirst, List.cons_append]
    exact congrArg _ (ih hrest)

/-- **An increasing list stays as it is.** -/
theorem sorted_eq_self [Std.OrientedCmp cmp] (h : xs.Pairwise fun x y => cmp x y = .lt) :
    sorted cmp xs = xs := by
  induction xs using List.reverseRecOn with
  | nil => rfl
  | append_singleton xs x ih =>
    obtain ⟨hxs, -, hlast⟩ := List.pairwise_append.mp h
    rw [sorted, List.foldl_concat, ← sorted, ih hxs]
    refine insertSorted_of_forall fun y hy => ?_
    exact Std.OrientedCmp.gt_of_lt (hlast y hy x (List.mem_singleton_self x))

/-- An element that counts as none of the others is added at the end. -/
theorem insertDistinct_of_forall (h : ∀ y ∈ xs, cmp x y ≠ .eq) :
    insertDistinct cmp x xs = xs ++ [x] := by
  induction xs with
  | nil => rfl
  | cons y ys ih =>
    obtain ⟨hfirst, hrest⟩ := List.forall_mem_cons.mp h
    rw [insertDistinct, if_neg (by simpa using hfirst), ih hrest, List.cons_append]

/-- **A list without repetitions stays as it is.** -/
theorem distinct_eq_self [Std.OrientedCmp cmp] (h : xs.Pairwise fun x y => cmp x y ≠ .eq) :
    distinct cmp xs = xs := by
  induction xs using List.reverseRecOn with
  | nil => rfl
  | append_singleton xs x ih =>
    obtain ⟨hxs, -, hlast⟩ := List.pairwise_append.mp h
    rw [distinct, List.foldl_concat, ← distinct, ih hxs]
    refine insertDistinct_of_forall fun y hy hxy => ?_
    exact hlast y hy x (List.mem_singleton_self x) (Std.OrientedCmp.eq_symm hxy)

/-! ### Collections that are put in order -/

theorem mem_insertSorted (h : z ∈ insertSorted cmp x xs) : z = x ∨ z ∈ xs := by
  induction xs with
  | nil => exact Or.inl (List.mem_singleton.mp h)
  | cons y ys ih =>
    rw [insertSorted] at h
    cases hxy : cmp x y with
    | lt =>
      rw [hxy] at h
      exact List.mem_cons.mp h
    | eq =>
      rw [hxy] at h
      exact (List.mem_cons.mp h).imp_right (List.mem_cons_of_mem y)
    | gt =>
      rw [hxy] at h
      rcases List.mem_cons.mp h with rfl | hz
      · exact Or.inr List.mem_cons_self
      · exact (ih hz).imp_right (List.mem_cons_of_mem y)

theorem mem_insertDistinct (h : z ∈ insertDistinct cmp x xs) : z = x ∨ z ∈ xs := by
  induction xs with
  | nil => exact Or.inl (List.mem_singleton.mp h)
  | cons y ys ih =>
    rw [insertDistinct] at h
    split_ifs at h
    · exact (List.mem_cons.mp h).imp_right (List.mem_cons_of_mem y)
    · rcases List.mem_cons.mp h with rfl | hz
      · exact Or.inr List.mem_cons_self
      · exact (ih hz).imp_right (List.mem_cons_of_mem y)

/-- Nothing is added to what is put in order. -/
theorem mem_of_mem_sorted (h : z ∈ sorted cmp xs) : z ∈ xs := by
  induction xs using List.reverseRecOn with
  | nil => exact h
  | append_singleton xs x ih =>
    rw [sorted, List.foldl_concat, ← sorted] at h
    rcases mem_insertSorted h with rfl | hz
    · exact List.mem_append_right _ (List.mem_singleton_self z)
    · exact List.mem_append_left _ (ih hz)

theorem mem_of_mem_distinct (h : z ∈ distinct cmp xs) : z ∈ xs := by
  induction xs using List.reverseRecOn with
  | nil => exact h
  | append_singleton xs x ih =>
    rw [distinct, List.foldl_concat, ← distinct] at h
    rcases mem_insertDistinct h with rfl | hz
    · exact List.mem_append_right _ (List.mem_singleton_self z)
    · exact List.mem_append_left _ (ih hz)

variable [Std.TransCmp cmp]

/-- One more element leaves an increasing list increasing. -/
theorem pairwise_insertSorted (h : xs.Pairwise fun x y => cmp x y = .lt) :
    (insertSorted cmp x xs).Pairwise fun x y => cmp x y = .lt := by
  induction xs with
  | nil => exact List.pairwise_singleton ..
  | cons y ys ih =>
    obtain ⟨hfirst, hrest⟩ := List.pairwise_cons.mp h
    rw [insertSorted]
    cases hxy : cmp x y with
    | lt =>
      refine List.pairwise_cons.mpr ⟨fun z hz => ?_, h⟩
      rcases List.mem_cons.mp hz with rfl | hz
      · exact hxy
      · exact Std.TransCmp.lt_trans hxy (hfirst z hz)
    | eq =>
      refine List.pairwise_cons.mpr ⟨fun z hz => ?_, hrest⟩
      rw [Std.TransCmp.congr_left hxy, hfirst z hz]
    | gt =>
      refine List.pairwise_cons.mpr ⟨fun z hz => ?_, ih hrest⟩
      rcases mem_insertSorted hz with rfl | hz
      · exact Std.OrientedCmp.gt_iff_lt.mp hxy
      · exact hfirst z hz

/-- **What is put in order is increasing.** -/
theorem pairwise_sorted (xs : List α) : (sorted cmp xs).Pairwise fun x y => cmp x y = .lt := by
  induction xs using List.reverseRecOn with
  | nil => exact List.Pairwise.nil
  | append_singleton xs x ih =>
    rw [sorted, List.foldl_concat, ← sorted]
    exact pairwise_insertSorted ih

/-- One more element makes no repetition. -/
theorem pairwise_insertDistinct (h : xs.Pairwise fun x y => cmp x y ≠ .eq) :
    (insertDistinct cmp x xs).Pairwise fun x y => cmp x y ≠ .eq := by
  induction xs with
  | nil => exact List.pairwise_singleton ..
  | cons y ys ih =>
    obtain ⟨hfirst, hrest⟩ := List.pairwise_cons.mp h
    rw [insertDistinct]
    split_ifs with hxy
    · refine List.pairwise_cons.mpr ⟨fun z hz => ?_, hrest⟩
      rw [Std.TransCmp.congr_left (eq_of_beq hxy)]
      exact hfirst z hz
    · refine List.pairwise_cons.mpr ⟨fun z hz => ?_, ih hrest⟩
      rcases mem_insertDistinct hz with rfl | hz
      · exact fun hyz => hxy (beq_iff_eq.mpr (Std.OrientedCmp.eq_symm hyz))
      · exact hfirst z hz

/-- **What is put together has no repetitions.** -/
theorem pairwise_distinct (xs : List α) :
    (distinct cmp xs).Pairwise fun x y => cmp x y ≠ .eq := by
  induction xs using List.reverseRecOn with
  | nil => exact List.Pairwise.nil
  | append_singleton xs x ih =>
    rw [distinct, List.foldl_concat, ← distinct]
    exact pairwise_insertDistinct ih

end Insertion

/-! ### Comparisons -/

/-- Comparing something of elements is an order if comparing this is one. -/
instance transCmp_on {α β : Type} (cmp : β → β → Ordering) [Std.TransCmp cmp] (f : α → β) :
    Std.TransCmp fun a b => cmp (f a) (f b) where
  eq_swap := Std.OrientedCmp.eq_swap
  isLE_trans := Std.TransCmp.isLE_trans

instance Address.transCmp_compare : Std.TransCmp Address.compare := by
  have hword : ∀ w, Std.TransCmp (compareOn (BitVec.toNat : BitVec w → Nat)) :=
    fun w => inferInstance
  exact {
    eq_swap := fun {a b} => by
      cases a <;> cases b <;> first | rfl | exact (hword _).eq_swap
    isLE_trans := fun {a b c} hab hbc => by
      cases a <;> cases b <;> cases c <;>
        first | rfl | contradiction | exact (hword _).isLE_trans hab hbc }

/-- **Primitive values are in order.** -/
instance Primitive.transCmp_compare (p : Primitive) : Std.TransCmp p.compare := by
  cases p with
  | string =>
    exact inferInstanceAs (Std.TransCmp fun a b : String =>
      List.compareLex (compareOn Char.toNat) a.toList b.toList)
  | bytes => exact inferInstanceAs (Std.TransCmp (List.compareLex (compareOn UInt8.toNat)))
  | address => exact Address.transCmp_compare
  | decimal =>
    exact inferInstanceAs (Std.TransCmp (compareLex (compareOn Decimal.unscaled)
      (compareOn fun d : Decimal => d.scale.toInt)))
  | instant =>
    exact inferInstanceAs (Std.TransCmp (compareLex (compareOn Instant.seconds)
      (compareOn Instant.nanos)))
  | bool => exact inferInstanceAs (Std.TransCmp (compareOn Bool.toNat))
  | int32 => exact inferInstanceAs (Std.TransCmp (compareOn Int32.toInt))
  | int64 => exact inferInstanceAs (Std.TransCmp (compareOn Int64.toInt))
  | float32 => exact inferInstanceAs (Std.TransCmp (compareOn fun a : Single => a.bits.toNat))
  | float64 => exact inferInstanceAs (Std.TransCmp (compareOn fun a : Double => a.bits.toNat))
  | varint => exact inferInstanceAs (Std.TransCmp fun a b : Int => Ord.compare a b)
  | uuid => exact inferInstanceAs (Std.TransCmp (compareOn fun a : Uuid => a.word.toNat))

namespace FieldType

/-- **What fields of a type hold is in order.** -/
instance transCmp_compare (t : FieldType) : Std.TransCmp t.compare := by
  induction t with
  | single p => exact p.transCmp_compare
  | option t ih =>
    exact {
      eq_swap := fun {a b} => by
        cases a <;> cases b <;> first | rfl | exact ih.eq_swap
      isLE_trans := fun {a b c} hab hbc => by
        cases a <;> cases b <;> cases c <;>
          first | rfl | contradiction | exact ih.isLE_trans hab hbc }
  | list t ih | sortedSet t ih | hashSet t ih =>
    exact inferInstanceAs (Std.TransCmp (List.compareLex t.compare))
  | sortedMap k u ihk ihu | hashMap k u ihk ihu =>
    exact inferInstanceAs (Std.TransCmp (List.compareLex
      (compareLex (fun a b : k.Carrier × u.Carrier => k.compare a.1 b.1)
        fun a b => u.compare a.2 b.2)))

/-! ### What a field can hold -/

/-- **What a field can hold**, with sets and maps as they can be: each element and each key once, and
in increasing order where they are sorted. -/
def IsProper : (t : FieldType) → t.Carrier → Prop
  | single _, _ => True
  | option _, none => True
  | option t, some x => IsProper t x
  | list t, xs => ∀ x ∈ xs, IsProper t x
  | sortedSet t, xs => (xs.Pairwise fun x y => t.compare x y = .lt) ∧ ∀ x ∈ xs, IsProper t x
  | hashSet t, xs => (xs.Pairwise fun x y => t.compare x y ≠ .eq) ∧ ∀ x ∈ xs, IsProper t x
  | sortedMap k u, es =>
    (es.Pairwise fun d e => k.compare d.1 e.1 = .lt) ∧ ∀ e ∈ es, IsProper k e.1 ∧ IsProper u e.2
  | hashMap k u, es =>
    (es.Pairwise fun d e => k.compare d.1 e.1 ≠ .eq) ∧ ∀ e ∈ es, IsProper k e.1 ∧ IsProper u e.2

/-- The entries that are converted one by one. -/
theorem convertEntries_eq_ok_iff {α β : Type} {key : Value → Except ConversionError α}
    {value : Value → Except ConversionError β} {es : List (Value × Value)} {xs : List (α × β)} :
    convertEntries key value es = .ok xs ↔
      List.Forall₂ (fun e x => key e.1 = .ok x.1 ∧ value e.2 = .ok x.2) es xs := by
  rw [convertEntries, List.mapM_eq_ok_iff]
  refine iff_of_eq (congrArg (List.Forall₂ · es xs) ?_)
  funext e x
  simp only [Except.bind_eq_ok_iff, Except.pure_eq_ok, Except.ok.injEq, eq_iff_iff]
  constructor
  · rintro ⟨k, hk, u, hu, rfl⟩
    exact ⟨hk, hu⟩
  · rintro ⟨hk, hu⟩
    exact ⟨x.1, hk, x.2, hu, rfl⟩

/-- **What is put into a field is something that the field can hold.** -/
theorem isProper_of_ofValue {t : FieldType} {v : Value} {x : t.Carrier} (h : t.ofValue v = .ok x) :
    t.IsProper x := by
  induction t generalizing v with
  | single p => trivial
  | option t ih =>
    rw [ofValue] at h
    split_ifs at h
    · obtain rfl := Except.ok.inj h
      trivial
    · obtain ⟨y, hy, hx⟩ := Except.bind_eq_ok_iff.mp h
      obtain rfl := Except.ok.inj hx
      exact ih hy
  | list t ih =>
    obtain ⟨vs, -, hxs⟩ := Except.bind_eq_ok_iff.mp h
    exact (List.mapM_eq_ok_iff.mp hxs).forall_mem_right fun _ _ => ih
  | sortedSet t ih =>
    obtain ⟨vs, -, h⟩ := Except.bind_eq_ok_iff.mp h
    obtain ⟨xs, hxs, h⟩ := Except.bind_eq_ok_iff.mp h
    obtain rfl := Except.ok.inj h
    have hproper := (List.mapM_eq_ok_iff.mp hxs).forall_mem_right fun _ _ => ih
    exact ⟨Insertion.pairwise_sorted xs, fun y hy => hproper y (Insertion.mem_of_mem_sorted hy)⟩
  | hashSet t ih =>
    obtain ⟨vs, -, h⟩ := Except.bind_eq_ok_iff.mp h
    obtain ⟨xs, hxs, h⟩ := Except.bind_eq_ok_iff.mp h
    obtain rfl := Except.ok.inj h
    have hproper := (List.mapM_eq_ok_iff.mp hxs).forall_mem_right fun _ _ => ih
    exact ⟨Insertion.pairwise_distinct xs, fun y hy => hproper y (Insertion.mem_of_mem_distinct hy)⟩
  | sortedMap k u ihk ihu =>
    obtain ⟨vs, -, h⟩ := Except.bind_eq_ok_iff.mp h
    obtain ⟨es, hes, h⟩ := Except.bind_eq_ok_iff.mp h
    obtain rfl := Except.ok.inj h
    have hproper := (convertEntries_eq_ok_iff.mp hes).forall_mem_right
      (P := fun e => k.IsProper e.1 ∧ u.IsProper e.2) fun _ _ he => ⟨ihk he.1, ihu he.2⟩
    exact ⟨Insertion.pairwise_sorted es, fun e he => hproper e (Insertion.mem_of_mem_sorted he)⟩
  | hashMap k u ihk ihu =>
    obtain ⟨vs, -, h⟩ := Except.bind_eq_ok_iff.mp h
    obtain ⟨es, hes, h⟩ := Except.bind_eq_ok_iff.mp h
    obtain rfl := Except.ok.inj h
    have hproper := (convertEntries_eq_ok_iff.mp hes).forall_mem_right
      (P := fun e => k.IsProper e.1 ∧ u.IsProper e.2) fun _ _ he => ⟨ihk he.1, ihu he.2⟩
    exact ⟨Insertion.pairwise_distinct es, fun e he => hproper e (Insertion.mem_of_mem_distinct he)⟩

/-! ### What comes back -/

/-- Elements come back if each of them does. -/
theorem mapM_ofValue_map {t : FieldType} {xs : List t.Carrier}
    (h : ∀ x ∈ xs, t.ofValue (t.toValue x) = .ok x) :
    (xs.map t.toValue).mapM t.ofValue = .ok xs :=
  List.mapM_eq_ok_iff.mpr (List.forall₂_map_left_iff.mpr (List.forall₂_same.mpr h))

/-- Entries come back if each key and each value does. -/
theorem convertEntries_map {k u : FieldType} {es : List (k.Carrier × u.Carrier)}
    (h : ∀ e ∈ es, k.ofValue (k.toValue e.1) = .ok e.1 ∧ u.ofValue (u.toValue e.2) = .ok e.2) :
    convertEntries k.ofValue u.ofValue (es.map fun e => (k.toValue e.1, u.toValue e.2)) = .ok es :=
  convertEntries_eq_ok_iff.mpr (List.forall₂_map_left_iff.mpr (List.forall₂_same.mpr h))

/-- **No option holds something whose value is a null**, so that what is missing can be told from
what is there. -/
def IsUnambiguous : (t : FieldType) → t.Carrier → Prop
  | single _, _ => True
  | option _, none => True
  | option t, some x => t.toValue x ≠ .null ∧ IsUnambiguous t x
  | list t, xs => ∀ x ∈ xs, IsUnambiguous t x
  | sortedSet t, xs => ∀ x ∈ xs, IsUnambiguous t x
  | hashSet t, xs => ∀ x ∈ xs, IsUnambiguous t x
  | sortedMap k u, es => ∀ e ∈ es, IsUnambiguous k e.1 ∧ IsUnambiguous u e.2
  | hashMap k u, es => ∀ e ∈ es, IsUnambiguous k e.1 ∧ IsUnambiguous u e.2

theorem isUnambiguous_of_not_hasNone {t : FieldType} {x : t.Carrier} (h : ¬t.HasNone x) :
    t.IsUnambiguous x := by
  induction t with
  | single p => trivial
  | option t ih =>
    cases x with
    | none => trivial
    | some x => exact ⟨toValue_ne_null h, ih h⟩
  | list t ih | sortedSet t ih | hashSet t ih =>
    exact fun x hx => ih fun hnone => h ⟨x, hx, hnone⟩
  | sortedMap k u ihk ihu | hashMap k u ihk ihu =>
    exact fun e he => ⟨ihk fun hnone => h ⟨e, he, Or.inl hnone⟩,
      ihu fun hnone => h ⟨e, he, Or.inr hnone⟩⟩

/-- **What a field holds comes back**, if what is missing can be told from what is there. -/
theorem ofValue_toValue_of_isUnambiguous {t : FieldType} {x : t.Carrier} (hproper : t.IsProper x)
    (htold : t.IsUnambiguous x) : t.ofValue (t.toValue x) = .ok x := by
  induction t with
  | single p => exact p.ofValue_toValue x
  | option t ih =>
    cases x with
    | none => rfl
    | some x =>
      rw [toValue, ofValue, if_neg (mt Value.isNull_iff.mp htold.1), ih hproper htold.2]
      rfl
  | list t ih => exact mapM_ofValue_map fun x hx => ih (hproper x hx) (htold x hx)
  | sortedSet t ih =>
    have helements := mapM_ofValue_map fun x hx => ih (hproper.2 x hx) (htold x hx)
    refine Except.bind_eq_ok_iff.mpr ⟨_, rfl, Except.bind_eq_ok_iff.mpr ⟨_, helements, ?_⟩⟩
    rw [Insertion.sorted_eq_self hproper.1]
    rfl
  | hashSet t ih =>
    have helements := mapM_ofValue_map fun x hx => ih (hproper.2 x hx) (htold x hx)
    refine Except.bind_eq_ok_iff.mpr ⟨_, rfl, Except.bind_eq_ok_iff.mpr ⟨_, helements, ?_⟩⟩
    rw [Insertion.distinct_eq_self hproper.1]
    rfl
  | sortedMap k u ihk ihu =>
    have hentries := convertEntries_map fun e he =>
      ⟨ihk (hproper.2 e he).1 (htold e he).1, ihu (hproper.2 e he).2 (htold e he).2⟩
    refine Except.bind_eq_ok_iff.mpr ⟨_, rfl, Except.bind_eq_ok_iff.mpr ⟨_, hentries, ?_⟩⟩
    rw [Insertion.sorted_eq_self hproper.1]
    rfl
  | hashMap k u ihk ihu =>
    have hentries := convertEntries_map fun e he =>
      ⟨ihk (hproper.2 e he).1 (htold e he).1, ihu (hproper.2 e he).2 (htold e he).2⟩
    refine Except.bind_eq_ok_iff.mpr ⟨_, rfl, Except.bind_eq_ok_iff.mpr ⟨_, hentries, ?_⟩⟩
    rw [Insertion.distinct_eq_self hproper.1]
    rfl

/-- **What a field holds comes back**, if nothing is missing. -/
theorem ofValue_toValue_of_not_hasNone {t : FieldType} {x : t.Carrier} (hproper : t.IsProper x)
    (hnone : ¬t.HasNone x) : t.ofValue (t.toValue x) = .ok x :=
  ofValue_toValue_of_isUnambiguous hproper (isUnambiguous_of_not_hasNone hnone)

/-- **A type that is not an option of an option**, where a missing value can be told from a missing
part. -/
def IsFlat : FieldType → Prop
  | option (option _) => False
  | _ => True

/-- In such a type a null is the missing value. -/
theorem eq_none_of_toValue_eq_null {t : FieldType} {x : t.Carrier} (hflat : t.IsFlat)
    (h : t.toValue x = .null) : t.ofValue .null = .ok x := by
  have hpart : ∀ {t : FieldType} {x : t.Carrier}, (∀ u, t ≠ option u) → t.toValue x ≠ .null := by
    intro t x ht
    cases t with
    | single p => exact Primitive.toValue_ne_null p x
    | option u => exact absurd rfl (ht u)
    | _ => simp [toValue]
  cases t with
  | option t =>
    cases x with
    | none => rfl
    | some x =>
      refine absurd h (hpart (t := t) (x := x) fun u hu => ?_)
      subst hu
      exact hflat
  | _ => exact absurd h (hpart (by simp))

/-- A part of a value that is no null has nothing missing, if no null is inside. -/
theorem not_hasNone_of_not_inside {t : FieldType} {x : t.Carrier}
    (hinside : ¬Value.Inside .null (t.toValue x)) (hne : t.toValue x ≠ .null) :
    ¬t.HasNone x := by
  intro hnone
  rcases Value.occurs_iff.mp (occurs_null_of_hasNone hnone) with h | h
  · exact hne h.symm
  · exact hinside h

/-- **What a field holds comes back**, if no part of a collection is missing. -/
theorem ofValue_toValue {t : FieldType} {x : t.Carrier} (hflat : t.IsFlat)
    (hproper : t.IsProper x) (hinside : ¬Value.Inside .null (t.toValue x)) :
    t.ofValue (t.toValue x) = .ok x := by
  by_cases hnull : t.toValue x = .null
  · rw [hnull]
    exact eq_none_of_toValue_eq_null hflat hnull
  · exact ofValue_toValue_of_not_hasNone hproper (not_hasNone_of_not_inside hinside hnull)

/-- A column does not change a collection if it changes none of its elements. -/
theorem map_stored_toValue {t : FieldType} {xs : List t.Carrier}
    (h : ∀ x ∈ xs, t.columnType.stored (t.toValue x) = t.toValue x) :
    (xs.map t.toValue).map t.columnType.stored = xs.map t.toValue := by
  rw [List.map_map]
  exact List.map_congr_left h

/-- **A column does not change what a field holds**, if all instants are of whole milliseconds. -/
theorem stored_toValue {t : FieldType} {x : t.Carrier}
    (h : ∀ i, Value.Occurs (.timestamp i) (t.toValue x) → i.IsWhole) :
    t.columnType.stored (t.toValue x) = t.toValue x := by
  induction t with
  | single p =>
    cases p with
    | instant =>
      have hwhole : Instant.IsWhole x := h x (Value.Occurs.refl _)
      exact congrArg Value.timestamp hwhole.stored_eq
    | _ => rfl
  | option t ih =>
    cases x with
    | none => cases hcolumn : (option t).columnType <;> rfl
    | some x => exact ih h
  | list t ih =>
    refine congrArg Value.list (map_stored_toValue fun x hx => ih fun i hi => h i ?_)
    exact hi.of_mem_parts (List.mem_map_of_mem hx)
  | sortedSet t ih | hashSet t ih =>
    refine congrArg Value.set (map_stored_toValue fun x hx => ih fun i hi => h i ?_)
    exact hi.of_mem_parts (List.mem_map_of_mem hx)
  | sortedMap k u ihk ihu | hashMap k u ihk ihu =>
    refine congrArg Value.map ?_
    rw [List.map_map]
    refine List.map_congr_left fun e he => ?_
    have hentry : (k.toValue e.1, u.toValue e.2) ∈
        List.map (fun e => (k.toValue e.1, u.toValue e.2)) x := List.mem_map_of_mem he
    have hkey := ihk fun i hi => h i (hi.of_mem_parts (Value.fst_mem_parts hentry))
    have hvalue := ihu fun i hi => h i (hi.of_mem_parts (Value.snd_mem_parts hentry))
    exact Prod.ext hkey hvalue

end FieldType

end WideColumn

import Mathlib
import WideColumn.Proofs.FieldType.Insertion

/-!
# Conversion puts values into a normal form

Many values are converted to the same: a null and a zero, a list and a set, sets that repeat elements
or have them in another order, and maps that bind a key many times. What a field holds for a value has
a value of its own, and this one is in normal form: it is converted to the same again
(`WideColumn.FieldType.normalizes_of_ofValue`).

Two things are said of the normal form beside this. One is what it looks like
(`WideColumn.FieldType.IsShaped`): at every depth the sort of value that the application type of the
field prescribes, and nulls in the places of optional fields only. The other one is what it has to do
with the value that was given (`WideColumn.FieldType.Converts`), part by part: that nothing is lost
and nothing added, that sets and maps are in order, and which of the entries of a map counts.

* `WideColumn.FieldType.IsShaped`: **the shape of a value** in normal form;
* `WideColumn.FieldType.IsSetOf`, `WideColumn.FieldType.IsMapOf`: sets and maps of what was given;
* `WideColumn.FieldType.Converts`: **what a field holds for a value**, at every depth;
* `WideColumn.FieldType.normalizes_of_ofValue`: **conversion puts values into a normal form**.
-/

namespace WideColumn

/-! ### Shapes -/

/-- **The sort of value that an application type prescribes**, if it is one of single values, lists,
sets or maps. -/
def AppType.valueKind? : AppType → Option ValueKind
  | primitive p => some p.valueKind
  | list _ => some .list
  | set _ => some .set
  | map _ _ => some .map
  | _ => none

namespace FieldType

open Value

variable {t k u : FieldType} {v : Value}

/-- **A value has the shape that the application type of a field prescribes**, at every depth; a null
may stand in the place of an optional field, and nowhere else. -/
def IsShaped : FieldType → Value → Prop
  | option t, v => v = .null ∨ IsShaped t v
  | single p, v => (single p).appType.valueKind? = some v.kind
  | list t, v => (list t).appType.valueKind? = some v.kind ∧ ∀ w ∈ v.parts, IsShaped t w
  | sortedSet t, v => (sortedSet t).appType.valueKind? = some v.kind ∧ ∀ w ∈ v.parts, IsShaped t w
  | hashSet t, v => (hashSet t).appType.valueKind? = some v.kind ∧ ∀ w ∈ v.parts, IsShaped t w
  | sortedMap k u, v => (sortedMap k u).appType.valueKind? = some v.kind ∧
    ∀ e ∈ v.entries?.getD [], IsShaped k e.1 ∧ IsShaped u e.2
  | hashMap k u, v => (hashMap k u).appType.valueKind? = some v.kind ∧
    ∀ e ∈ v.entries?.getD [], IsShaped k e.1 ∧ IsShaped u e.2

/-- **A null has the shape of optional fields alone.** -/
theorem isShaped_null_iff : t.IsShaped .null ↔ ∃ u, t = option u := by
  have hnone (a : AppType) : a.valueKind? ≠ some .null := by
    cases a with
    | primitive p => cases p <;> simp [AppType.valueKind?, Primitive.valueKind]
    | _ => simp [AppType.valueKind?]
  cases t with
  | option t => exact iff_of_true (Or.inl rfl) ⟨t, rfl⟩
  | single p => exact iff_of_false (hnone _) (by simp)
  | list t | sortedSet t | hashSet t => exact iff_of_false (fun h => hnone _ h.1) (by simp)
  | sortedMap k u | hashMap k u => exact iff_of_false (fun h => hnone _ h.1) (by simp)

/-- **The value of what a field holds has the shape of its type.** -/
theorem isShaped_toValue (t : FieldType) (x : t.Carrier) : t.IsShaped (t.toValue x) := by
  have hparts {t : FieldType} (ih : ∀ x, t.IsShaped (t.toValue x)) (xs : List t.Carrier) :
      ∀ w ∈ xs.map t.toValue, t.IsShaped w := by
    intro w hw
    obtain ⟨x, -, rfl⟩ := List.mem_map.mp hw
    exact ih x
  induction t with
  | single p => cases p <;> rfl
  | option t ih =>
    cases x with
    | none => exact Or.inl rfl
    | some x => exact Or.inr (ih x)
  | list t ih | sortedSet t ih | hashSet t ih => exact ⟨rfl, hparts ih x⟩
  | sortedMap k u ihk ihu | hashMap k u ihk ihu =>
    refine ⟨rfl, fun e he => ?_⟩
    obtain ⟨d, -, rfl⟩ := List.mem_map.mp he
    exact ⟨ihk d.1, ihu d.2⟩

/-! ### What is converted to what -/

/-- The elements that a value has for a field: those of a list or a set, and none of a null. -/
def HasElements (v : Value) (vs : List Value) : Prop :=
  v = .list vs ∨ v = .set vs ∨ v = .null ∧ vs = []

/-- The entries that a value has for a field: those of a map, and none of a null. -/
def HasEntries (v : Value) (es : List (Value × Value)) : Prop :=
  v = .map es ∨ v = .null ∧ es = []

/-- **A list is a set of what is in another one**: `R` holds between its elements from the first to
the last, and they are those of the other list. -/
structure IsSetOf {α : Type} (R : α → α → Prop) (ys xs : List α) : Prop where
  pairwise : xs.Pairwise R
  mem_iff : ∀ x, x ∈ xs ↔ x ∈ ys

/-- **A list is a map of the entries of another one**: `R` holds between its keys from the first to
the last, they are those of the other list, and each comes with the entry that is the last one of its
key there. -/
structure IsMapOf {α β : Type} (R : α → α → Prop) (ds es : List (α × β)) : Prop where
  pairwise : es.Pairwise fun d e => R d.1 e.1
  key_iff : ∀ a, (∃ e ∈ es, e.1 = a) ↔ ∃ d ∈ ds, d.1 = a
  isBinding : ∀ e ∈ es, Insertion.IsBinding ds e

/-- **What a field holds for a value.** A single value is itself, and a null the zero value; an
optional field is empty for a null and nothing else. A list has what its elements are converted to,
in their places. A set has all this once, and if it is sorted then in increasing order. A map has for
each key that one of the entries has, once it is converted, what the last one of these entries has. -/
def Converts : (t : FieldType) → Value → t.Carrier → Prop
  | single p, v, x => v = p.toValue x ∨ v = .null ∧ x = p.zero
  | option _, v, none => v = .null
  | option t, v, some x => v ≠ .null ∧ Converts t v x
  | list t, v, xs => ∃ vs, HasElements v vs ∧ List.Forall₂ (Converts t) vs xs
  | sortedSet t, v, xs => ∃ vs ys, HasElements v vs ∧ List.Forall₂ (Converts t) vs ys ∧
    IsSetOf (fun x y => t.compare x y = .lt) ys xs
  | hashSet t, v, xs => ∃ vs ys, HasElements v vs ∧ List.Forall₂ (Converts t) vs ys ∧
    IsSetOf (fun x y => x ≠ y) ys xs
  | sortedMap k u, v, es => ∃ vs ds, HasEntries v vs ∧
    List.Forall₂ (fun w d => Converts k w.1 d.1 ∧ Converts u w.2 d.2) vs ds ∧
    IsMapOf (fun a b => k.compare a b = .lt) ds es
  | hashMap k u, v, es => ∃ vs ds, HasEntries v vs ∧
    List.Forall₂ (fun w d => Converts k w.1 d.1 ∧ Converts u w.2 d.2) vs ds ∧
    IsMapOf (fun a b => a ≠ b) ds es

theorem hasElements_of_elements {a : AppType} {vs : List Value} (h : elements a v = .ok vs) :
    HasElements v vs := by
  cases v with
  | list ws => exact Or.inl (congrArg Value.list (Except.ok.inj h))
  | set ws => exact Or.inr (Or.inl (congrArg Value.set (Except.ok.inj h)))
  | null => exact Or.inr (Or.inr ⟨rfl, (Except.ok.inj h).symm⟩)
  | _ => cases h

theorem hasEntries_of_entries {a : AppType} {es : List (Value × Value)}
    (h : entries a v = .ok es) : HasEntries v es := by
  cases v with
  | map ds => exact Or.inl (congrArg Value.map (Except.ok.inj h))
  | null => exact Or.inr ⟨rfl, (Except.ok.inj h).symm⟩
  | _ => cases h

section Collections

variable {α β : Type} {cmp : α → α → Ordering} [Std.TransCmp cmp] [Std.LawfulEqCmp cmp]

/-- What is put in order is a set. -/
theorem isSetOf_sorted (ys : List α) :
    IsSetOf (fun x y => cmp x y = .lt) ys (Insertion.sorted cmp ys) where
  pairwise := Insertion.pairwise_sorted ys
  mem_iff _ := Insertion.mem_sorted_iff.trans Insertion.isLast_iff_mem

/-- What is put together is a set. -/
theorem isSetOf_distinct (ys : List α) :
    IsSetOf (fun x y => x ≠ y) ys (Insertion.distinct cmp ys) where
  pairwise := by
    have hne : (Insertion.distinct cmp ys).Pairwise fun x y => cmp x y ≠ .eq :=
      Insertion.pairwise_distinct ys
    exact hne.imp fun h heq => h (Std.LawfulEqCmp.compare_eq_iff_eq.mpr heq)
  mem_iff _ := Insertion.mem_distinct_iff.trans Insertion.isLast_iff_mem

/-- Entries of which the last ones stay are a map. -/
theorem isMapOf_of_mem_iff {R : α → α → Prop} {ds es : List (α × β)}
    (hpairwise : es.Pairwise fun d e => R d.1 e.1)
    (hmem : ∀ e, e ∈ es ↔ Insertion.IsLast (fun d e => cmp d.1 e.1) ds e) : IsMapOf R ds es where
  pairwise := hpairwise
  key_iff a := by
    refine (exists_congr fun e => and_congr_left' ?_).trans (Insertion.exists_isBinding_iff cmp)
    exact (hmem e).trans (Insertion.isLast_iff_isBinding cmp)
  isBinding e he := (Insertion.isLast_iff_isBinding cmp).mp ((hmem e).mp he)

/-- Entries that are put in order are a map. -/
theorem isMapOf_sorted (ds : List (α × β)) :
    IsMapOf (fun a b => cmp a b = .lt) ds (Insertion.sorted (fun d e => cmp d.1 e.1) ds) :=
  isMapOf_of_mem_iff (Insertion.pairwise_sorted ds) fun _ => Insertion.mem_sorted_iff

/-- Entries that are put together are a map. -/
theorem isMapOf_distinct (ds : List (α × β)) :
    IsMapOf (fun a b => a ≠ b) ds (Insertion.distinct (fun d e => cmp d.1 e.1) ds) := by
  refine isMapOf_of_mem_iff ?_ fun _ => Insertion.mem_distinct_iff
  exact (Insertion.pairwise_distinct ds).imp fun h heq =>
    h (Std.LawfulEqCmp.compare_eq_iff_eq.mpr heq)

end Collections

/-- A single value is converted to itself, and a null to zero. -/
theorem Primitive.eq_or_of_ofValue {p : Primitive} {x : p.Carrier} (h : p.ofValue v = .ok x) :
    v = p.toValue x ∨ v = .null ∧ x = p.zero := by
  by_cases hnull : v = .null
  · subst hnull
    refine Or.inr ⟨rfl, ?_⟩
    cases p <;> exact (Except.ok.inj h).symm
  · refine Or.inl ?_
    cases p <;> cases v <;> cases h <;> first
      | rfl
      | exact absurd rfl hnull

/-- **What is put into a field is what the value is converted to**, part by part. -/
theorem converts_of_ofValue {x : t.Carrier} (h : t.ofValue v = .ok x) : t.Converts v x := by
  induction t generalizing v with
  | single p => exact Primitive.eq_or_of_ofValue h
  | option t ih =>
    rw [ofValue] at h
    split_ifs at h with hnull
    · obtain rfl := Except.ok.inj h
      exact Value.isNull_iff.mp hnull
    · obtain ⟨y, hy, hx⟩ := Except.bind_eq_ok_iff.mp h
      obtain rfl := Except.ok.inj hx
      exact ⟨mt Value.isNull_iff.mpr hnull, ih hy⟩
  | list t ih =>
    obtain ⟨vs, hvs, hxs⟩ := Except.bind_eq_ok_iff.mp h
    exact ⟨vs, hasElements_of_elements hvs, (List.mapM_eq_ok_iff.mp hxs).imp fun _ _ => ih⟩
  | sortedSet t ih =>
    obtain ⟨vs, hvs, h⟩ := Except.bind_eq_ok_iff.mp h
    obtain ⟨ys, hys, h⟩ := Except.bind_eq_ok_iff.mp h
    obtain rfl := Except.ok.inj h
    exact ⟨vs, ys, hasElements_of_elements hvs, (List.mapM_eq_ok_iff.mp hys).imp fun _ _ => ih,
      isSetOf_sorted ys⟩
  | hashSet t ih =>
    obtain ⟨vs, hvs, h⟩ := Except.bind_eq_ok_iff.mp h
    obtain ⟨ys, hys, h⟩ := Except.bind_eq_ok_iff.mp h
    obtain rfl := Except.ok.inj h
    exact ⟨vs, ys, hasElements_of_elements hvs, (List.mapM_eq_ok_iff.mp hys).imp fun _ _ => ih,
      isSetOf_distinct ys⟩
  | sortedMap k u ihk ihu =>
    obtain ⟨vs, hvs, h⟩ := Except.bind_eq_ok_iff.mp h
    obtain ⟨ds, hds, h⟩ := Except.bind_eq_ok_iff.mp h
    obtain rfl := Except.ok.inj h
    exact ⟨vs, ds, hasEntries_of_entries hvs,
      (convertEntries_eq_ok_iff.mp hds).imp fun _ _ he => ⟨ihk he.1, ihu he.2⟩, isMapOf_sorted ds⟩
  | hashMap k u ihk ihu =>
    obtain ⟨vs, hvs, h⟩ := Except.bind_eq_ok_iff.mp h
    obtain ⟨ds, hds, h⟩ := Except.bind_eq_ok_iff.mp h
    obtain rfl := Except.ok.inj h
    exact ⟨vs, ds, hasEntries_of_entries hvs,
      (convertEntries_eq_ok_iff.mp hds).imp fun _ _ he => ⟨ihk he.1, ihu he.2⟩, isMapOf_distinct ds⟩

/-! ### The normal form -/

/-- Only a null is converted to something whose value is a null. -/
theorem Converts.toValue_ne_null {x : t.Carrier} (h : t.Converts v x) (hv : v ≠ .null) :
    t.toValue x ≠ .null := by
  induction t with
  | single p => exact Primitive.toValue_ne_null p x
  | option t ih =>
    cases x with
    | none => exact absurd h hv
    | some x => exact ih h.2
  | _ => exact fun hnull => by cases hnull

/-- **In what a value is converted to, what is missing can be told from what is there.** -/
theorem Converts.isUnambiguous {x : t.Carrier} (h : t.Converts v x) : t.IsUnambiguous x := by
  induction t generalizing v with
  | single p => trivial
  | option t ih =>
    cases x with
    | none => trivial
    | some x => exact ⟨h.2.toValue_ne_null h.1, ih h.2⟩
  | list t ih =>
    obtain ⟨vs, -, hxs⟩ := h
    exact hxs.forall_mem_right fun _ _ => ih
  | sortedSet t ih | hashSet t ih =>
    obtain ⟨vs, ys, -, hys, hset⟩ := h
    exact fun x hx => hys.forall_mem_right (fun _ _ => ih) x ((hset.mem_iff x).mp hx)
  | sortedMap k u ihk ihu | hashMap k u ihk ihu =>
    obtain ⟨vs, ds, -, hds, hmap⟩ := h
    exact fun e he => hds.forall_mem_right (P := fun d => k.IsUnambiguous d.1 ∧ u.IsUnambiguous d.2)
      (fun _ _ hd => ⟨ihk hd.1, ihu hd.2⟩) e (hmap.isBinding e he).mem

/-- **Conversion puts values into a normal form.** What a field holds for a value has a value that is
converted to the same again. This one has, at every depth, the shape that the application type of
the field prescribes, with nulls in the places of optional fields only. And what the field holds has
everything that the given value has, and nothing else: a set in increasing order, and a map in
increasing order of its keys, each with what the last of its entries has. -/
theorem normalizes_of_ofValue {x : t.Carrier} (h : t.ofValue v = .ok x) :
    t.ofValue (t.toValue x) = .ok x ∧
    t.IsShaped (t.toValue x) ∧ (∀ u : FieldType, u.IsShaped .null ↔ ∃ w, u = option w) ∧
    t.Converts v x := by
  have hconverts := converts_of_ofValue h
  exact ⟨ofValue_toValue_of_isUnambiguous (isProper_of_ofValue h) hconverts.isUnambiguous,
    isShaped_toValue t x, fun _ => isShaped_null_iff, hconverts⟩

/-- A map with two entries whose keys are converted to the same set: the last one counts, and its
value is null. -/
theorem normalizes_of_ofValue_last :
    (sortedMap (sortedSet (option (single .int32))) (list (single .string))).ofValue
      (.map [(.list [.int 1, .null, .int 1], .set [.text "a"]), (.set [.null, .int 1], .null)]) =
        .ok [([none, some 1], [])] ∧
    (sortedMap (sortedSet (option (single .int32))) (list (single .string))).Converts
      (.map [(.list [.int 1, .null, .int 1], .set [.text "a"]), (.set [.null, .int 1], .null)])
      [([none, some 1], [])] := by
  have h : (sortedMap (sortedSet (option (single .int32))) (list (single .string))).ofValue
      (.map [(.list [.int 1, .null, .int 1], .set [.text "a"]), (.set [.null, .int 1], .null)]) =
        .ok [([none, some 1], [])] := by
    rfl
  exact ⟨h, (normalizes_of_ofValue h).2.2.2⟩

end FieldType

end WideColumn

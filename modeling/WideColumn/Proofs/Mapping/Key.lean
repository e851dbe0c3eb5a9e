import Mathlib
import WideColumn.Mapping.Descriptor
import WideColumn.Proofs.Outcome

/-!
# Keys and their order

The properties of a key are sorted by their positions, and then the positions are compared with the
numbers from `0` on, one by one. That they agree says nothing about the order in which the
properties are declared: the positions only have to *be* these numbers, in any order
(`WideColumn.Descriptor.exists_orderedKey_iff`), since a sorted list of them is unique.

The key is kept as a list of places, and what such a list has to be for the properties to be found
by it is read off the sorted list that it comes from.

* `WideColumn.IsNumbering`: the numbers from `0` on, in any order;
* `WideColumn.Descriptor.checkPositions_eq_ok_iff`: which positions are accepted;
* `WideColumn.Descriptor.exists_orderedKey_iff`: **which properties have a key**;
* `WideColumn.Descriptor.IsKey`: what the list of places of a key is like;
* `WideColumn.Descriptor.isKey_of_orderedKey`: **a key that is accepted is like this**.
-/

namespace WideColumn

/-- **Numbers that are `0`, `1`, and so on, in any order.** -/
def IsNumbering (ns : List Int) : Prop :=
  ns.Perm ((List.range ns.length).map (↑))

theorem IsNumbering.perm {ms ns : List Int} (h : IsNumbering ms) (hperm : ms.Perm ns) :
    IsNumbering ns := by
  rw [IsNumbering, ← hperm.length_eq]
  exact hperm.symm.trans h

/-- Sorted numbers are `0`, `1`, and so on, only in this order. -/
theorem isNumbering_iff_of_sorted {ns : List Int} (hsorted : ns.Pairwise (· ≤ ·)) :
    IsNumbering ns ↔ ns = (List.range ns.length).map (↑) := by
  refine ⟨fun h => ?_, fun h => List.Perm.of_eq h⟩
  have hrange : ((List.range ns.length).map ((↑) : ℕ → ℤ)).Pairwise (· ≤ ·) :=
    List.pairwise_map.mpr (List.pairwise_le_range.imp Int.ofNat_le.mpr)
  exact h.eq_of_pairwise (fun _ _ _ _ => le_antisymm) hsorted hrange

namespace Descriptor

variable {marker : MarkerKind} {isKey : Property → Bool} {ps : List Property}

/-! ### Positions -/

/-- **Positions are accepted** exactly if they count up from the number that is expected first. -/
theorem checkPositions_eq_ok_iff {expected : Nat} :
    checkPositions marker expected ps = .ok () ↔
      ps.map (·.position.toInt) = (List.range' expected ps.length).map (↑) := by
  induction ps generalizing expected with
  | nil => simp [checkPositions]
  | cons p ps ih =>
    rw [checkPositions, List.map_cons, List.length_cons, List.range'_succ, List.map_cons,
      List.cons.injEq]
    split_ifs with hp
    · rw [ih, and_iff_right hp]
    · exact iff_of_false nofun fun h => hp h.1

theorem perm_sortedKey (isKey : Property → Bool) (ps : List Property) :
    (sortedKey isKey ps).Perm (ps.zipIdx.filter fun pi => isKey pi.1) :=
  List.mergeSort_perm ..

/-- The properties of a key, in some order. -/
theorem map_fst_sortedKey_perm (isKey : Property → Bool) (ps : List Property) :
    ((sortedKey isKey ps).map (·.1)).Perm (ps.filter isKey) := by
  have hfilter : (ps.zipIdx.filter fun pi => isKey pi.1).map (·.1) = ps.filter isKey := by
    conv_rhs => rw [← List.zipIdx_map_fst 0 ps, List.filter_map]
    rfl
  exact hfilter ▸ (perm_sortedKey isKey ps).map (·.1)

/-- The positions of a key, sorted. -/
theorem map_position_sortedKey_perm (isKey : Property → Bool) (ps : List Property) :
    ((sortedKey isKey ps).map (·.1.position.toInt)).Perm
      ((ps.filter isKey).map (·.position.toInt)) := by
  have h := (map_fst_sortedKey_perm isKey ps).map (·.position.toInt)
  rwa [List.map_map] at h

theorem sorted_sortedKey (isKey : Property → Bool) (ps : List Property) :
    ((sortedKey isKey ps).map (·.1.position.toInt)).Pairwise (· ≤ ·) := by
  refine List.pairwise_map.mpr ?_
  have hsorted := @List.pairwise_mergeSort _
    (fun pi qj : Property × Nat => decide (pi.1.position.toInt ≤ qj.1.position.toInt))
    (fun a b c => by simpa using le_trans) (fun a b => by simpa using le_total ..)
    (ps.zipIdx.filter fun pi => isKey pi.1)
  exact hsorted.imp of_decide_eq_true

/-- **A key is accepted** exactly if its positions, once sorted, are `0`, `1`, and so on. -/
theorem orderedKey_eq_ok_iff {places : List Nat} :
    orderedKey marker isKey ps = .ok places ↔
      (sortedKey isKey ps).map (·.1.position.toInt) =
          (List.range (sortedKey isKey ps).length).map (↑) ∧
        (sortedKey isKey ps).map (·.2) = places := by
  rw [orderedKey]
  refine Except.bind_eq_ok_iff.trans ?_
  rw [Unique.exists_iff, checkPositions_eq_ok_iff, List.map_map, List.length_map,
    ← List.range_eq_range', Except.pure_eq_ok, Except.ok.injEq]
  rfl

/-- **Which properties have a key**: those whose positions in it are `0`, `1`, and so on, in any
order. -/
theorem exists_orderedKey_iff :
    (∃ places, orderedKey marker isKey ps = .ok places) ↔
      IsNumbering ((ps.filter isKey).map (·.position.toInt)) := by
  have hperm := map_position_sortedKey_perm isKey ps
  have hsorted := isNumbering_iff_of_sorted (sorted_sortedKey isKey ps)
  rw [List.length_map] at hsorted
  simp only [orderedKey_eq_ok_iff, exists_and_left, exists_eq', and_true]
  rw [← hsorted]
  exact ⟨fun h => h.perm hperm, fun h => h.perm hperm.symm⟩

/-! ### Places -/

/-- **The list of places of a key**: of all properties that belong to it, each once, and each in the
place that its position tells. -/
structure IsKey (isKey : Property → Bool) (ps : List Property) (places : List Nat) : Prop where
  lt_length : ∀ i ∈ places, i < ps.length
  nodup : places.Nodup
  mem_iff : ∀ i : Nat, i ∈ places ↔ ∃ p, ps[i]? = some p ∧ isKey p
  position : ∀ n i : Nat, places[n]? = some i → ∃ p, ps[i]? = some p ∧ p.position.toInt = n

/-- No place is one of two keys that have no property in common. -/
theorem IsKey.disjoint {isKey' : Property → Bool} {places places' : List Nat}
    (h : IsKey isKey ps places) (h' : IsKey isKey' ps places')
    (hne : ∀ p ∈ ps, isKey p → ¬isKey' p) : places.Disjoint places' := by
  intro i hi hi'
  obtain ⟨p, hp, hkey⟩ := (h.mem_iff i).mp hi
  obtain ⟨p', hp', hkey'⟩ := (h'.mem_iff i).mp hi'
  rw [hp] at hp'
  obtain rfl := Option.some.inj hp'
  exact hne p (List.mem_of_getElem? hp) hkey hkey'

/-- A key of which no property is part has no places. -/
theorem IsKey.eq_nil {places : List Nat} (h : IsKey isKey ps places) (hno : ∀ p ∈ ps, ¬isKey p) :
    places = [] := by
  refine List.eq_nil_iff_forall_not_mem.mpr fun i hi => ?_
  obtain ⟨p, hp, hkey⟩ := (h.mem_iff i).mp hi
  exact hno p (List.mem_of_getElem? hp) hkey

/-- There is a property at each of the places. -/
theorem IsKey.length_filterMap {places : List Nat} (h : IsKey isKey ps places) :
    (places.filterMap fun i => ps[i]?).length = places.length := by
  refine List.filterMap_length_eq_length.mpr fun i hi => ?_
  rw [List.getElem?_eq_getElem (h.lt_length i hi), Option.isSome_some]

theorem mem_sortedKey_iff {pi : Property × Nat} :
    pi ∈ sortedKey isKey ps ↔ ps[pi.2]? = some pi.1 ∧ isKey pi.1 := by
  rw [(perm_sortedKey isKey ps).mem_iff, List.mem_filter, List.mem_zipIdx_iff_getElem?]

/-- **A key that is accepted** has every place in its place. -/
theorem isKey_of_orderedKey {places : List Nat} (h : orderedKey marker isKey ps = .ok places) :
    IsKey isKey ps places := by
  obtain ⟨hpositions, rfl⟩ := orderedKey_eq_ok_iff.mp h
  have hmem : ∀ i : Nat, i ∈ (sortedKey isKey ps).map (·.2) ↔ ∃ p, ps[i]? = some p ∧ isKey p := by
    intro i
    simp only [List.mem_map, mem_sortedKey_iff]
    constructor
    · rintro ⟨pi, ⟨hp, hkey⟩, rfl⟩
      exact ⟨pi.1, hp, hkey⟩
    · rintro ⟨p, hp, hkey⟩
      exact ⟨(p, i), ⟨hp, hkey⟩, rfl⟩
  refine ⟨fun i hi => ?_, ?_, hmem, fun n i hi => ?_⟩
  · obtain ⟨p, hp, -⟩ := (hmem i).mp hi
    exact (List.getElem?_eq_some_iff.mp hp).1
  · -- the places of a list are all different, and a key has some of them
    have hplaces : (ps.zipIdx.map (·.2)).Nodup := by
      rw [List.zipIdx_map_snd]
      exact List.nodup_range'
    refine ((perm_sortedKey isKey ps).map (·.2)).nodup_iff.mpr (hplaces.sublist ?_)
    exact List.filter_sublist.map _
  · rw [List.getElem?_map, Option.map_eq_some_iff] at hi
    obtain ⟨pi, hpi, rfl⟩ := hi
    refine ⟨pi.1, (mem_sortedKey_iff.mp (List.mem_of_getElem? hpi)).1, ?_⟩
    have hn := congrArg (·[n]?) hpositions
    obtain ⟨hlt, hget⟩ := List.getElem?_eq_some_iff.mp hpi
    simpa [hlt, hget] using hn

/-- The properties at the places of a key, in order. -/
theorem filterMap_of_orderedKey {places : List Nat}
    (h : orderedKey marker isKey ps = .ok places) :
    places.filterMap (fun i => ps[i]?) = (sortedKey isKey ps).map (·.1) := by
  obtain ⟨-, rfl⟩ := orderedKey_eq_ok_iff.mp h
  rw [List.filterMap_map, ← List.filterMap_eq_map]
  refine List.filterMap_congr fun pi hpi => ?_
  exact (mem_sortedKey_iff.mp hpi).1

/-- The properties at the places of a key are the properties of the key. -/
theorem filterMap_perm_of_orderedKey {places : List Nat}
    (h : orderedKey marker isKey ps = .ok places) :
    (places.filterMap fun i => ps[i]?).Perm (ps.filter isKey) := by
  rw [filterMap_of_orderedKey h]
  exact map_fst_sortedKey_perm isKey ps

/-- **The positions at the places of a key** are `0`, `1`, and so on, in this order. -/
theorem positions_of_orderedKey {places : List Nat}
    (h : orderedKey marker isKey ps = .ok places) :
    (places.filterMap fun i => ps[i]?).map (·.position.toInt) =
      (List.range (places.filterMap fun i => ps[i]?).length).map (↑) := by
  rw [filterMap_of_orderedKey h, List.map_map, List.length_map]
  exact (orderedKey_eq_ok_iff.mp h).1

end Descriptor

end WideColumn

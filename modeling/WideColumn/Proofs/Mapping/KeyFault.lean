import Mathlib
import WideColumn.Proofs.Mapping.Key
import WideColumn.Samples.Accounts

/-!
# What is wrong with a key

A key that is refused is refused at the first of its sorted positions that is not the number which is
expected there. Negative numbers, repetitions and gaps shift what comes after them, and there may be
several of them, so it has to be shown that this one place tells of a real fault. It does, since the
positions before it are all those below the expected number. What stands there in its place is not
smaller than the last of these, so it can only be negative, if nothing has been expected before, or a
repetition of the last one, or a number behind a gap (`WideColumn.Descriptor.IsFault.of_sorted`).

* `WideColumn.Descriptor.IsFault`: the three faults;
* `WideColumn.Descriptor.exists_of_checkPositions`: where positions are refused;
* `WideColumn.Descriptor.orderedKey_diagnosis`: **what is told about a key**, refused or accepted.
-/

namespace WideColumn

namespace Descriptor

variable {marker : MarkerKind} {isKey : Property → Bool} {ps : List Property}

/-- **What may be wrong with the positions of a key**, where one of them is found in the place of the
number that is expected. -/
inductive IsFault (positions : List Int) (found : Int) (expected : Nat) : Prop where
  /-- There is a position below all that are allowed. -/
  | negative (hexpected : expected = 0) (hfound : found < 0)
  /-- The position before is there twice. -/
  | repeated (hfound : found = expected - 1) (hcount : 2 ≤ positions.count found)
  /-- The expected position is not there. -/
  | missing (hfound : expected < found) (hmissing : (expected : Int) ∉ positions)

/-- A fault is one in whatever order the positions are. -/
theorem IsFault.perm {ms ns : List Int} {found : Int} {expected : Nat}
    (h : IsFault ms found expected) (hperm : ms.Perm ns) : IsFault ns found expected := by
  cases h with
  | negative hexpected hfound => exact .negative hexpected hfound
  | repeated hfound hcount => exact .repeated hfound (hperm.count_eq found ▸ hcount)
  | missing hfound hmissing => exact .missing hfound (hperm.mem_iff.not.mp hmissing)

/-- **The first number of a sorted list that is not in its place is a fault.** -/
theorem IsFault.of_sorted {before after : List Int} {found : Int}
    (hsorted : (before ++ found :: after).Pairwise (· ≤ ·))
    (hbefore : before = (List.range before.length).map (↑)) (hfound : found ≠ before.length) :
    IsFault (before ++ found :: after) found before.length := by
  obtain ⟨-, hafter, hle⟩ := List.pairwise_append.mp hsorted
  have hmem : ∀ n : Int, n ∈ before ↔ ∃ i < before.length, (i : Int) = n := by
    intro n
    rw [hbefore, List.mem_map, ← hbefore]
    simp only [List.mem_range]
  rcases lt_or_gt_of_ne hfound with hlt | hgt
  · rcases Nat.eq_zero_or_pos before.length with hzero | hpos
    · exact .negative hzero (by omega)
    · -- the last number before is not greater, and all numbers before are smaller than expected
      have hlast : (before.length : Int) - 1 ∈ before := (hmem _).mpr ⟨before.length - 1, by omega⟩
      have hge := hle _ hlast found List.mem_cons_self
      have hrepeats : found = before.length - 1 := by omega
      refine .repeated hrepeats ?_
      have hcount : 0 < before.count found := List.count_pos_iff.mpr (hrepeats ▸ hlast)
      rw [List.count_append, List.count_cons_self]
      omega
  · refine .missing hgt fun h => ?_
    rcases List.mem_append.mp h with h | h
    · obtain ⟨i, hi, heq⟩ := (hmem _).mp h
      omega
    · rcases List.mem_cons.mp h with h | h
      · exact hfound h.symm
      · have hge := List.rel_of_pairwise_cons hafter h
        omega

/-- **Positions are refused** at the first one that is not the number expected there. -/
theorem exists_of_checkPositions {expected : Nat} {e : MappingError}
    (h : checkPositions marker expected ps = .error e) :
    ∃ before p after, ps = before ++ p :: after ∧
      before.map (·.position.toInt) = (List.range' expected before.length).map (↑) ∧
      p.position.toInt ≠ ((expected + before.length : Nat) : Int) ∧
      e = .invalidKeyOrdering marker p.name p.position (expected + before.length) := by
  induction ps generalizing expected with
  | nil => cases h
  | cons q ps ih =>
    rw [checkPositions] at h
    split_ifs at h with hq
    · obtain ⟨before, p, after, rfl, hbefore, hp, rfl⟩ := ih h
      have hlength : expected + 1 + before.length = expected + (q :: before).length := by
        rw [List.length_cons]
        omega
      rw [hlength] at hp ⊢
      refine ⟨q :: before, p, after, rfl, ?_, hp, rfl⟩
      rw [List.map_cons, hq, hbefore, List.length_cons, List.range'_succ, List.map_cons]
    · obtain rfl := Except.error.inj h
      exact ⟨[], q, ps, rfl, rfl, hq, rfl⟩

/-- **A key that is refused has a fault**, and the error tells which property has it. -/
theorem exists_isFault_of_orderedKey {e : MappingError} (h : orderedKey marker isKey ps = .error e) :
    ∃ p ∈ ps, isKey p ∧ ∃ expected : Nat,
      e = .invalidKeyOrdering marker p.name p.position expected ∧
      (∀ i < expected, (i : Int) ∈ (ps.filter isKey).map (·.position.toInt)) ∧
      IsFault ((ps.filter isKey).map (·.position.toInt)) p.position.toInt expected := by
  have hperm := map_position_sortedKey_perm isKey ps
  have hsorted := sorted_sortedKey isKey ps
  have hcheck : checkPositions marker 0 ((sortedKey isKey ps).map (·.1)) = .error e := by
    rw [orderedKey] at h
    rcases Except.bind_eq_error_iff.mp h with h | ⟨-, -, h⟩
    · exact h
    · cases h
  obtain ⟨before, p, after, hsplit, hbefore, hp, rfl⟩ := exists_of_checkPositions hcheck
  have hmap : (sortedKey isKey ps).map (·.1.position.toInt) =
      before.map (·.position.toInt) ++ p.position.toInt :: after.map (·.position.toInt) := by
    have hpositions := congrArg (List.map (·.position.toInt)) hsplit
    rwa [List.map_map, List.map_append, List.map_cons] at hpositions
  rw [hmap] at hperm hsorted
  rw [← List.range_eq_range'] at hbefore
  rw [Nat.zero_add] at hp ⊢
  have hlength : (before.map (·.position.toInt)).length = before.length := List.length_map _
  have hkey : p ∈ ps.filter isKey := by
    rw [← (map_fst_sortedKey_perm isKey ps).mem_iff, hsplit]
    exact List.mem_append_right _ List.mem_cons_self
  have hfault := IsFault.of_sorted hsorted (by rwa [hlength]) (by rwa [hlength])
  rw [hlength] at hfault
  refine ⟨p, (List.mem_filter.mp hkey).1, (List.mem_filter.mp hkey).2, before.length, rfl, ?_,
    hfault.perm hperm⟩
  intro i hi
  rw [← hperm.mem_iff, hbefore]
  exact List.mem_append_left _ (List.mem_map_of_mem (List.mem_range.mpr hi))

/-- **What is told about a key.** It is accepted exactly if its positions are `0`, `1`, and so on, in
any order, and then the places of all properties of the key are given, each once and in the order of
the positions. Otherwise the error names a property of the key with its position and the number that
is expected in its place: all smaller numbers are there, and the position is a fault. -/
theorem orderedKey_diagnosis (marker : MarkerKind) (isKey : Property → Bool) (ps : List Property) :
    match orderedKey marker isKey ps with
    | .ok places => IsNumbering ((ps.filter isKey).map (·.position.toInt)) ∧ IsKey isKey ps places
    | .error e => ¬IsNumbering ((ps.filter isKey).map (·.position.toInt)) ∧
        ∃ p ∈ ps, isKey p ∧ ∃ expected : Nat,
          e = .invalidKeyOrdering marker p.name p.position expected ∧
          (∀ i < expected, (i : Int) ∈ (ps.filter isKey).map (·.position.toInt)) ∧
          IsFault ((ps.filter isKey).map (·.position.toInt)) p.position.toInt expected := by
  cases h : orderedKey marker isKey ps with
  | ok places => exact ⟨exists_orderedKey_iff.mp ⟨places, h⟩, isKey_of_orderedKey h⟩
  | error e =>
    refine ⟨fun hnumbering => ?_, exists_isFault_of_orderedKey h⟩
    have haccepted : ∃ places, orderedKey marker isKey ps = .ok places :=
      exists_orderedKey_iff.mpr hnumbering
    obtain ⟨places, hplaces⟩ := haccepted
    rw [h] at hplaces
    cases hplaces

open Samples in
/-- Of a repetition and a gap the one that comes first is told about. -/
example : orderedKey .clusteringColumn (·.isClusteringColumn)
    [accountProperty "seen" "seen" int64 (.clusteringColumn 3),
      accountProperty "id" "id" int32 (.clusteringColumn 0),
      accountProperty "tenant" "tenant" string (.partitionKey 1),
      accountProperty "email" "email" string (.clusteringColumn 0)] =
    .error (.invalidKeyOrdering .clusteringColumn "email" 0 1) := by
  cbv

end Descriptor

end WideColumn

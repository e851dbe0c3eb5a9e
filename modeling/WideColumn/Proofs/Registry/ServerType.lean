import Mathlib
import WideColumn.Proofs.Outcome
import WideColumn.Proofs.ServerType.Text
import WideColumn.Registry

/-!
# From server types back to column types

A registry takes the classes of the server for the kinds it has a codec for. Which kinds these are
is up to the program, so the way back from a server type depends on the registry, in one point: the
two names of the text kind share a class, and `varchar` stands for it only where `text` is missing.

What a registry makes of a server type without wrappers is the relation
`WideColumn.Registry.Denotes`, with one rule for each collection and one for the classes of kinds;
the function of the registry decides it (`WideColumn.Registry.columnTypeUnwrapped_eq_ok_iff`). The
two directions of the main result are inductions, one on the column type that a server type is made
from, one on a derivation of the relation.

* `WideColumn.ColumnType.leaves`: the kinds in a column type;
* `WideColumn.Registry.kindOfClass?_eq_classTable`: the search for the kind of a class is a look
  into the table that is filled kind by kind;
* `WideColumn.Registry.exists_denotes_serverType`: **the server type of a column type maps back**;
* `WideColumn.Registry.Denotes.isRegistered`: **what a server type maps to can be used**;
* `WideColumn.Registry.serverType_maps_back`: both, for every registry that can be set up.
-/

namespace WideColumn

/-! ### The kinds in a column type -/

namespace ColumnType

/-- **The kinds of the scalars in a type.** -/
def leaves : ColumnType → List ScalarKind
  | scalar k => [k]
  | list e => e.leaves
  | set e => e.leaves
  | map k v => k.leaves ++ v.leaves

/-- There are no wrappers in the server type of a column type. -/
theorem unwrapped_serverType (t : ColumnType) : t.serverType.unwrapped = t.serverType := by
  induction t with
  | scalar k => rfl
  | list e ih | set e ih => rw [serverType, ServerType.unwrapped, if_neg (by decide), ih]
  | map k v ihk ihv => simp [serverType, ServerType.unwrapped, ServerType.unwrappedAll, ihk, ihv]

end ColumnType

namespace Registry

variable {r : Registry}

/-! ### Usable types -/

/-- **A column type can be used** exactly if each of its kinds has a codec. -/
theorem exists_result_resolve_iff {t : ColumnType} :
    (∃ c, (r.resolve t).result = .ok c) ↔ ∀ k ∈ t.leaves, r.isRegistered k := by
  induction t with
  | scalar k =>
    rw [ColumnType.leaves, List.forall_mem_singleton, isRegistered, resolve]
    cases r.codec? k <;> simp
  | list e ih | set e ih =>
    rw [ColumnType.leaves, ← ih, resolve]
    simp only [Traced.result_bind, result_found]
    cases (r.resolve e).result <;> simp [Except.bind]
  | map k v ihk ihv =>
    rw [ColumnType.leaves, List.forall_mem_append, ← ihk, ← ihv, resolve]
    simp only [Traced.result_bind, result_found]
    cases (r.resolve k).result <;> cases (r.resolve v).result <;> simp [Except.bind]

/-! ### The kind of a class -/

theorem serverClass_ne_legacyTimestampClass (k : ScalarKind) :
    k.serverClass ≠ legacyTimestampClass := by
  cases k <;> decide

theorem serverClass_ne_collection (k : ScalarKind) (kind : CollectionKind) :
    k.serverClass ≠ kind.serverClass := by
  cases k <;> cases kind <;> decide

theorem kindOfClass?_standard (k : ScalarKind) :
    standard.kindOfClass? k.serverClass = some k.canonical := by
  cases k <;> rfl

/-- Two kinds share a class only if they are names of one. -/
theorem canonical_eq_of_serverClass_eq {j k : ScalarKind} (h : j.serverClass = k.serverClass) :
    j.canonical = k.canonical := by
  have hj := kindOfClass?_standard j
  rw [h, kindOfClass?_standard] at hj
  exact (Option.some.inj hj).symm

/-- The kinds are tried in the order of their numbers. -/
theorem protocolId_le_of_find? {p : ScalarKind → Bool} {k j : ScalarKind}
    (hk : ScalarKind.all.find? p = some k) (hj : p j = true) : k.protocolId ≤ j.protocolId := by
  have hsorted : ScalarKind.all.Pairwise (·.protocolId ≤ ·.protocolId) := by decide
  obtain ⟨-, before, after, hall, hbefore⟩ := List.find?_eq_some_iff_append.mp hk
  have hmem := j.mem_all
  rw [hall] at hsorted hmem
  -- a kind with the property does not stand before the one that is found
  rcases List.mem_append.mp hmem with hmem | hmem
  · have hnot := hbefore j hmem
    rw [hj] at hnot
    exact absurd hnot (by decide)
  · rcases List.mem_cons.mp hmem with rfl | hmem
    · exact le_refl _
    · exact (List.pairwise_cons.mp (List.pairwise_append.mp hsorted).2.1).1 j hmem

/-- The kinds that classes stand for have codecs. -/
theorem isRegistered_of_kindOfClass? {c : String} {k : ScalarKind}
    (h : r.kindOfClass? c = some k) : r.isRegistered k := by
  rw [kindOfClass?] at h
  split_ifs at h with _ ht
  · rwa [← Option.some.inj h]
  · have hk := List.find?_some h
    exact (Bool.and_eq_true_iff.mp hk).1

/-- **The class of a kind that has a codec stands for this kind**, up to its two names; and for its
main name, if `text` has a codec. -/
theorem exists_kindOfClass?_serverClass {k : ScalarKind} (h : r.isRegistered k) :
    ∃ j, r.kindOfClass? k.serverClass = some j ∧ j.canonical = k.canonical ∧
      (r.isRegistered .text → j = k.canonical) := by
  rw [kindOfClass?, if_neg (serverClass_ne_legacyTimestampClass k)]
  have hsome : (ScalarKind.all.find? fun j =>
      r.isRegistered j && j.serverClass == k.serverClass).isSome :=
    List.find?_isSome.mpr ⟨k, k.mem_all, by rw [h, beq_self_eq_true, Bool.and_self]⟩
  obtain ⟨j, hj⟩ := Option.isSome_iff_exists.mp hsome
  have hfound := List.find?_some hj
  have hclass : j.serverClass = k.serverClass := eq_of_beq (Bool.and_eq_true_iff.mp hfound).2
  have hcanonical := canonical_eq_of_serverClass_eq hclass
  refine ⟨j, hj, hcanonical, fun htext => ?_⟩
  -- `text` comes first, so what has been found is not `varchar`
  have hne : j ≠ .varchar := by
    rintro rfl
    have hmatch :
        (r.isRegistered .text && ScalarKind.text.serverClass == k.serverClass) = true := by
      rw [htext, ← hclass]
      rfl
    exact absurd (protocolId_le_of_find? hj hmatch) (by decide)
  rw [← hcanonical]
  cases j with
  | varchar => exact absurd rfl hne
  | _ => rfl

/-! ### The table of classes -/

/-- A table of classes with an entry for a kind, unless there is one for its class already. -/
def enter (table : String → Option ScalarKind) (k : ScalarKind) : String → Option ScalarKind :=
  fun c => if c = k.serverClass then (table c).or (some k) else table c

/-- **The table of classes**, filled kind by kind, with the older class of timestamps added last. -/
def classTable (r : Registry) : String → Option ScalarKind :=
  let table := (ScalarKind.all.filter r.isRegistered).foldl enter fun _ => none
  if r.isRegistered .timestamp then Function.update table legacyTimestampClass (some .timestamp)
  else table

/-- What a table holds after some kinds have been entered: what it held before, or else the first of
the kinds that have the class. -/
theorem foldl_enter (ks : List ScalarKind) (table : String → Option ScalarKind) (c : String) :
    ks.foldl enter table c = (table c).or (ks.find? fun k => k.serverClass == c) := by
  induction ks generalizing table with
  | nil => exact (Option.or_none ..).symm
  | cons k ks ih =>
    rw [List.foldl_cons, ih, enter]
    split_ifs with hc
    · rw [List.find?_cons, beq_iff_eq.mpr hc.symm, Option.or_assoc, Option.some_or]
    · rw [List.find?_cons, beq_false_of_ne (Ne.symm hc)]

/-- **The search for the kind of a class is a look into the table.** -/
theorem kindOfClass?_eq_classTable (r : Registry) : r.kindOfClass? = r.classTable := by
  funext c
  have htable : (ScalarKind.all.filter r.isRegistered).foldl enter (fun _ => none) c =
      ScalarKind.all.find? fun k => r.isRegistered k && k.serverClass == c := by
    rw [foldl_enter, List.find?_filter, Option.none_or]
    simp only [Bool.decide_and, Bool.decide_eq_true]
  have hlegacy : (ScalarKind.all.find? fun k =>
      r.isRegistered k && k.serverClass == legacyTimestampClass) = none :=
    List.find?_eq_none.mpr fun k _ => by simp [serverClass_ne_legacyTimestampClass k]
  -- the older class is no kind's own, so its entry hides nothing
  rw [kindOfClass?, classTable]
  split_ifs with hc ht ht
  · rw [hc, Function.update_self]
  · rw [htable, hc, hlegacy]
  · rw [Function.update_of_ne hc, htable]
  · rw [htable]

/-! ### What server types stand for -/

/-- **A server type without wrappers stands for a column type.** The parameters of the class of a
kind do not matter. -/
inductive Denotes (r : Registry) : ServerType → ColumnType → Prop where
  | kind {c : String} {k : ScalarKind} (ps : List ServerType)
    (class_ne : ∀ kind : CollectionKind, c ≠ kind.serverClass)
    (class_eq : r.kindOfClass? c = some k) : Denotes r (.node c ps) (.scalar k)
  | list {m : ServerType} {t : ColumnType} (element : Denotes r m t) :
    Denotes r (.node CollectionKind.list.serverClass [m]) (.list t)
  | set {m : ServerType} {t : ColumnType} (element : Denotes r m t) :
    Denotes r (.node CollectionKind.set.serverClass [m]) (.set t)
  | map {m n : ServerType} {t u : ColumnType} (key : Denotes r m t) (value : Denotes r n u) :
    Denotes r (.node CollectionKind.map.serverClass [m, n]) (.map t u)

variable {m : ServerType} {t : ColumnType}

theorem denotes_of_columnTypeUnwrapped (h : r.columnTypeUnwrapped m = .ok t) : r.Denotes m t := by
  fun_induction columnTypeUnwrapped r m generalizing t with
  | case1 e ih =>
    obtain ⟨u, hu, hresult⟩ := Except.bind_eq_ok_iff.mp h
    rw [← Except.ok.inj hresult]
    exact .list (ih hu)
  | case3 e _ ih =>
    obtain ⟨u, hu, hresult⟩ := Except.bind_eq_ok_iff.mp h
    rw [← Except.ok.inj hresult]
    exact .set (ih hu)
  | case5 k v _ _ ihk ihv =>
    obtain ⟨tk, hk, hrest⟩ := Except.bind_eq_ok_iff.mp h
    obtain ⟨tv, hv, hresult⟩ := Except.bind_eq_ok_iff.mp hrest
    rw [← Except.ok.inj hresult]
    exact .map (ihk hk) (ihv hv)
  | case7 c ps hlist hset hmap k hk =>
    rw [← Except.ok.inj h]
    refine .kind ps (fun kind => ?_) hk
    cases kind <;> assumption
  | case2 | case4 | case6 | case8 => cases h

theorem Denotes.columnTypeUnwrapped (h : r.Denotes m t) : r.columnTypeUnwrapped m = .ok t := by
  have hset : CollectionKind.set.serverClass ≠ CollectionKind.list.serverClass := by decide
  have hmap : CollectionKind.map.serverClass ≠ CollectionKind.list.serverClass := by decide
  have hmap' : CollectionKind.map.serverClass ≠ CollectionKind.set.serverClass := by decide
  induction h with
  | kind ps hne hk =>
    unfold Registry.columnTypeUnwrapped
    rw [if_neg (hne _), if_neg (hne _), if_neg (hne _), hk]
  | list _ ih =>
    rw [Registry.columnTypeUnwrapped, if_pos rfl, ih]
    rfl
  | set _ ih =>
    rw [Registry.columnTypeUnwrapped, if_neg hset, if_pos rfl, ih]
    rfl
  | map _ _ ihk ihv =>
    rw [Registry.columnTypeUnwrapped, if_neg hmap, if_neg hmap', if_pos rfl, ihk, ihv]
    rfl

/-- **A registry finds exactly the column types that server types stand for.** -/
theorem columnTypeUnwrapped_eq_ok_iff : r.columnTypeUnwrapped m = .ok t ↔ r.Denotes m t :=
  ⟨denotes_of_columnTypeUnwrapped, Denotes.columnTypeUnwrapped⟩

/-- **What a server type stands for can be used**: each of its kinds has a codec. -/
theorem Denotes.isRegistered (h : r.Denotes m t) : ∀ k ∈ t.leaves, r.isRegistered k := by
  induction h with
  | kind ps _ hk => exact List.forall_mem_singleton.mpr (isRegistered_of_kindOfClass? hk)
  | list _ ih | set _ ih => exact ih
  | map _ _ ihk ihv => exact List.forall_mem_append.mpr ⟨ihk, ihv⟩

/-- **The server type of a column type stands for this type**, up to the two names of the text kind;
and for the type with main names, if `text` has a codec. -/
theorem exists_denotes_serverType (h : ∀ k ∈ t.leaves, r.isRegistered k) :
    ∃ u, r.Denotes t.serverType u ∧ u.normalized = t.normalized ∧
      (r.isRegistered .text → u = t.normalized) := by
  induction t with
  | scalar k =>
    have hk : r.isRegistered k := h k (List.mem_singleton_self k)
    obtain ⟨j, hj, hcanonical, hmain⟩ := exists_kindOfClass?_serverClass hk
    exact ⟨.scalar j, .kind [] (serverClass_ne_collection k) hj,
      congrArg ColumnType.scalar hcanonical, fun htext => congrArg _ (hmain htext)⟩
  | list e ih =>
    obtain ⟨u, hu, hequiv, hmain⟩ := ih h
    exact ⟨.list u, .list hu, congrArg ColumnType.list hequiv,
      fun htext => congrArg _ (hmain htext)⟩
  | set e ih =>
    obtain ⟨u, hu, hequiv, hmain⟩ := ih h
    exact ⟨.set u, .set hu, congrArg ColumnType.set hequiv,
      fun htext => congrArg _ (hmain htext)⟩
  | map k v ihk ihv =>
    obtain ⟨hleft, hright⟩ := List.forall_mem_append.mp h
    obtain ⟨a, ha, haequiv, hamain⟩ := ihk hleft
    obtain ⟨b, hb, hbequiv, hbmain⟩ := ihv hright
    exact ⟨.map a b, .map ha hb, congrArg₂ ColumnType.map haequiv hbequiv,
      fun htext => congrArg₂ _ (hamain htext) (hbmain htext)⟩

/-! ### Every registry -/

/-- In the standard registry a column type maps back to the one with main names. -/
theorem columnType_serverType_standard (t : ColumnType) :
    standard.columnType t.serverType = .ok t.normalized := by
  obtain ⟨u, hu, -, hmain⟩ := exists_denotes_serverType (r := standard) (t := t) fun _ _ => rfl
  rw [columnType, t.unwrapped_serverType, hu.columnTypeUnwrapped, hmain rfl]

example : (standard.apply (.without .text)).columnType (ColumnType.scalar .text).serverType =
    .ok (.scalar .varchar) := rfl

/-- **Server types map back, and only to types that can be used**, whatever the steps by which a
registry has been set up. If all kinds of a column type have codecs, its server type maps back to
it, up to the two names of the text kind, and so does the text of the server type, unless the type
is nested too deep. Whatever a server type maps to has a codec. -/
theorem serverType_maps_back (base : Registry) (steps : List Step) :
    ∃ r, (ofSteps base steps : Traced TypeError Registry).result = .ok r ∧
      (∀ t : ColumnType, (∀ k ∈ t.leaves, r.isRegistered k) →
        ∃ u, r.columnType t.serverType = .ok u ∧ u.isEquivalent t ∧
          (r.isRegistered .text → u = t.normalized) ∧
          (t.depth ≤ TypeText.maxDepth → r.columnTypeOfText t.serverType.toText = .ok u)) ∧
      ∀ m t, r.columnType m = .ok t → ∃ c, (r.resolve t).result = .ok c := by
  refine ⟨steps.foldl apply base, rfl, fun t ht => ?_, fun m t h => ?_⟩
  · obtain ⟨u, hu, hequiv, hmain⟩ := exists_denotes_serverType ht
    have hcolumn : (steps.foldl apply base).columnType t.serverType = .ok u := by
      rw [columnType, t.unwrapped_serverType]
      exact hu.columnTypeUnwrapped
    refine ⟨u, hcolumn, ColumnType.isEquivalent_iff.mpr hequiv, hmain, fun hdepth => ?_⟩
    rw [columnTypeOfText, ColumnType.ofText_toText_serverType hdepth]
    exact hcolumn
  · exact exists_result_resolve_iff.mpr (columnTypeUnwrapped_eq_ok_iff.mp h).isRegistered

end Registry

end WideColumn

import Mathlib
import WideColumn.Proofs.Mapping.Merge

/-!
# The order of properties

The drafts of a hierarchy come in the order in which their properties are met, sorted by the place of
the farthest class that declares a property, the farthest first. As sorting keeps the order of what
it does not tell apart, two drafts are in the order of these places and, if they are equal, in the
order in which their properties are met first (`WideColumn.Draft.pairwise_ofLevels`). No two
properties are met first at one place, so that this fixes the order altogether.

* `WideColumn.Draft.scanned`, `WideColumn.Draft.place`: the properties as they are met, and the place
  where one is met first;
* `WideColumn.Draft.IsDeepest`: the farthest class that declares a property;
* `WideColumn.Draft.ComesBefore`: the order;
* `WideColumn.Draft.pairwise_ofLevels`: **drafts are in this order**.
-/

namespace List

/-- **Sorting keeps the order of what it does not tell apart.** -/
theorem pairwise_mergeSort_of_pairwise {α : Type} {le : α → α → Bool} {R : α → α → Prop}
    {l : List α} (trans : ∀ a b c, le a b → le b c → le a c) (total : ∀ a b, le a b || le b a)
    (hl : l.Pairwise R) : (l.mergeSort le).Pairwise fun a b => le a b ∧ (le b a → R a b) := by
  have hsorted := pairwise_mergeSort (zipIdxLE_trans trans) (zipIdxLE_total total) l.zipIdx
  have hplaces : (l.zipIdx.mergeSort (zipIdxLE le)).Pairwise fun ai bj => ai.2 ≠ bj.2 := by
    have hperm := (mergeSort_perm l.zipIdx (zipIdxLE le)).map (·.2)
    rw [zipIdx_map_snd] at hperm
    exact pairwise_map.mp (hperm.nodup_iff.mpr nodup_range')
  rw [← mergeSort_zipIdx, pairwise_map]
  refine (hsorted.and hplaces).imp_of_mem ?_
  rintro ⟨a, i⟩ ⟨b, j⟩ ha hb ⟨hle, hne⟩
  rw [mem_mergeSort, mem_zipIdx_iff_getElem?] at ha hb
  dsimp only [zipIdxLE] at ha hb hle hne ⊢
  split_ifs at hle with hab hba
  · refine ⟨hab, fun _ => ?_⟩
    obtain ⟨hi, rfl⟩ := getElem?_eq_some_iff.mp ha
    obtain ⟨hj, rfl⟩ := getElem?_eq_some_iff.mp hb
    exact pairwise_iff_getElem.mp hl i j hi hj (lt_of_le_of_ne (of_decide_eq_true hle) hne)
  · exact ⟨hab, fun h => absurd h hba⟩

end List

namespace WideColumn

namespace Draft

variable {levels : List Level} {name : String}

/-! ### Where a property is met first -/

/-- The properties of a hierarchy as they are met, with repetitions. -/
def scanned (levels : List Level) : List String :=
  (scan levels).map (·.2.property)

/-- **The place where a property is met first.** -/
def place (levels : List Level) (name : String) : Nat :=
  (scanned levels).idxOf name

/-- What is begun later is met later. -/
theorem pairwise_gatherAll (lms : List (Level × Member)) :
    ((gatherAll lms).map (·.property)).Pairwise fun a b =>
      (lms.map (·.2.property)).idxOf a < (lms.map (·.2.property)).idxOf b := by
  have hmet : ∀ lms : List (Level × Member), ∀ a ∈ (gatherAll lms).map (·.property),
      a ∈ lms.map (·.2.property) := by
    intro lms a ha
    obtain ⟨lm, hlm, rfl⟩ := mem_map_property_gatherAll_iff.mp ha
    exact List.mem_map_of_mem hlm
  induction lms using List.reverseRecOn with
  | nil => exact List.Pairwise.nil
  | append_singleton lms lm ih =>
    -- one more member at the end does not change where the others are met first
    have hbefore : ((gatherAll lms).map (·.property)).Pairwise fun a b =>
        ((lms ++ [lm]).map (·.2.property)).idxOf a < ((lms ++ [lm]).map (·.2.property)).idxOf b := by
      refine ih.imp_of_mem fun ha hb hlt => ?_
      rwa [List.map_append, List.idxOf_append_of_mem (hmet lms _ ha),
        List.idxOf_append_of_mem (hmet lms _ hb)]
    rw [gatherAll_concat, map_property_absorbInto]
    split_ifs with hmem
    · exact hbefore
    · refine List.pairwise_append.mpr ⟨hbefore, List.pairwise_singleton .., ?_⟩
      intro a ha b hb
      obtain rfl := List.mem_singleton.mp hb
      have hnew : lm.2.property ∉ lms.map (·.2.property) := by
        intro h
        obtain ⟨lm', hlm', heq⟩ := List.mem_map.mp h
        exact hmem (mem_map_property_gatherAll_iff.mpr ⟨lm', hlm', heq⟩)
      rw [List.map_append, List.idxOf_append_of_mem (hmet lms a ha),
        List.idxOf_append_of_notMem hnew]
      exact Nat.lt_add_right _ (List.idxOf_lt_length_iff.mpr (hmet lms a ha))

/-! ### The farthest class that declares a property -/

/-- The places of the classes that declare a property; interfaces are not counted. -/
def declaringPlaces (levels : List Level) (name : String) : Set Nat :=
  {i | ∃ l, levels[i]? = some l ∧ l.decl.shape ≠ .interface ∧ l.decl.declares name}

/-- **The place of the farthest class that declares a property**, which is `0` if only interfaces
declare it. -/
def IsDeepest (levels : List Level) (name : String) (n : Nat) : Prop :=
  IsGreatest (declaringPlaces levels name) n ∨ declaringPlaces levels name = ∅ ∧ n = 0

theorem isDeepest_depth (levels : List Level) (name : String) :
    IsDeepest levels name (depth levels name) := by
  let declaring := levels.zipIdx.filter fun li =>
    li.1.decl.shape != .interface && li.1.decl.declares name
  have hmem : ∀ i, i ∈ declaringPlaces levels name ↔ i ∈ declaring.map (·.2) := by
    intro i
    simp only [declaringPlaces, declaring, Set.mem_ofPred_eq, List.mem_map, List.mem_filter,
      List.mem_zipIdx_iff_getElem?, Bool.and_eq_true, bne_iff_ne]
    constructor
    · rintro ⟨l, hl, hdeclares⟩
      exact ⟨(l, i), ⟨hl, hdeclares⟩, rfl⟩
    · rintro ⟨li, ⟨hl, hdeclares⟩, rfl⟩
      exact ⟨li.1, hl, hdeclares⟩
  have hdepth : depth levels name = (declaring.map (·.2)).foldl max 0 := List.foldl_map.symm
  rw [hdepth, List.foldl_max]
  cases hmax : (declaring.map (·.2)).max? with
  | none =>
    refine Or.inr ⟨Set.eq_empty_iff_forall_notMem.mpr fun i hi => ?_, rfl⟩
    rw [hmem, List.max?_eq_none_iff.mp hmax] at hi
    cases hi
  | some n =>
    obtain ⟨hn, hgreatest⟩ := List.max?_eq_some_iff.mp hmax
    rw [Option.getD_some, Nat.zero_max]
    exact Or.inl ⟨(hmem n).mpr hn, fun i hi => hgreatest i ((hmem i).mp hi)⟩

theorem depth_eq_of_isGreatest {n : Nat} (h : IsGreatest (declaringPlaces levels name) n) :
    depth levels name = n := by
  rcases isDeepest_depth levels name with hdepth | ⟨hempty, -⟩
  · exact hdepth.unique h
  · exact absurd (hempty ▸ h.1) (Set.notMem_empty n)

/-! ### The order -/

/-- **The order of properties**: those that farther classes declare come first, and otherwise those
that are met first. -/
def ComesBefore (levels : List Level) (a b : String) : Prop :=
  depth levels b < depth levels a ∨
    depth levels b = depth levels a ∧ place levels a < place levels b

theorem ComesBefore.asymm {a b : String} (h : ComesBefore levels a b) : ¬ComesBefore levels b a := by
  unfold ComesBefore at h ⊢
  omega

/-- **Drafts are in the order of their properties.** -/
theorem pairwise_ofLevels (levels : List Level) :
    ((ofLevels levels).map (·.property)).Pairwise (ComesBefore levels) := by
  have hplaces : ((gather levels).map (·.property)).Pairwise fun a b =>
      place levels a < place levels b := pairwise_gatherAll (scan levels)
  refine List.pairwise_map.mpr
    ((List.pairwise_mergeSort_of_pairwise ?_ ?_ (List.pairwise_map.mp hplaces)).imp ?_)
  · intro a b c hab hbc
    simp only [decide_eq_true_eq] at hab hbc ⊢
    exact hbc.trans hab
  · intro a b
    simp only [Bool.or_eq_true, decide_eq_true_eq]
    exact le_total _ _
  · rintro a b ⟨hle, htie⟩
    rw [decide_eq_true_eq] at hle htie
    rcases hle.lt_or_eq with hlt | heq
    · exact Or.inl hlt
    · exact Or.inr ⟨heq, htie heq.ge⟩

end Draft

end WideColumn

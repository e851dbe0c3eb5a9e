import Mathlib
import WideColumn.Proofs.Mapping.Hierarchy
import WideColumn.Proofs.Mapping.Merge
import WideColumn.Samples.Interfaces

/-!
# Which declaration has the say

An interface that extends another one may declare a getter again, to give it another marker. Its
marker counts where it comes first. A class always comes before what it extends and implements
(`WideColumn.ClassDecl.precedes_of_mem_ancestry`), and an interface comes before what is only
reached through it (`WideColumn.ClassDecl.precedes_of_forall_isPath`). Otherwise it comes after what
it extends if the class at the bottom reaches the latter on a closer path: declarations are taken
breadth first, and that one of them extends another one has no influence on this
(`WideColumn.ClassDecl.not_forall_precedes_of_reaches`).

* `WideColumn.ClassDecl.Reaches`: a declaration extends or implements another one, perhaps through
  others;
* `WideColumn.ClassDecl.marker?`: the marker that counts;
* `WideColumn.ClassDecl.precedes_iff_of_reaches`: **when what is declared again has the say**.
-/

namespace WideColumn

namespace ClassDecl

variable {d x y : ClassDecl}

/-! ### What a declaration builds on -/

/-- A declaration of a hierarchy builds on another one at once: it has it as an interface or, as a
class, as its superclass. -/
def BuildsOn (d x y : ClassDecl) : Prop :=
  y ∈ x.interfaces ∨ x ∈ d.ancestry ∧ x.superclass = some y

/-- **A declaration of a hierarchy extends or implements another one**, perhaps through others. -/
def Reaches (d : ClassDecl) : ClassDecl → ClassDecl → Prop :=
  Relation.TransGen d.BuildsOn

theorem BuildsOn.sizeOf_lt (h : d.BuildsOn x y) : sizeOf y < sizeOf x := by
  rcases h with hy | ⟨-, hy⟩
  · exact (List.sizeOf_lt_of_mem hy).trans (sizeOf_interfaces_lt x)
  · exact sizeOf_superclass_lt hy

/-- What is reached is smaller, so that nothing reaches itself. -/
theorem Reaches.sizeOf_lt (h : d.Reaches x y) : sizeOf y < sizeOf x := by
  induction h with
  | single h => exact h.sizeOf_lt
  | tail _ h ih => exact h.sizeOf_lt.trans ih

theorem BuildsOn.exists_isPath (h : d.BuildsOn x y) (hx : ∃ p, d.IsPath p x) :
    ∃ p, d.IsPath p y := by
  rcases h with hy | ⟨hmem, hy⟩
  · exact exists_isPath_of_mem_interfaces hx hy
  · exact exists_isPath_of_mem_ancestry (superclass_mem_ancestry hmem hy)

theorem Reaches.mem_declarations (hd : d.IsCoherent) (h : d.Reaches x y)
    (hx : x ∈ d.declarations) : y ∈ d.declarations := by
  rw [mem_declarations_iff hd] at hx ⊢
  induction h with
  | single h => exact h.exists_isPath hx
  | tail _ h ih => exact h.exists_isPath ih

/-- **A class comes before what it extends and implements.** -/
theorem precedes_of_mem_ancestry (hd : d.IsCoherent) (hx : x ∈ d.ancestry) (h : d.Reaches x y) :
    d.Precedes x y := by
  obtain ⟨i, hi⟩ := List.mem_iff_getElem?.mp hx
  have hx : x ∈ d.declarations :=
    (mem_declarations_iff hd).mpr (exists_isPath_of_mem_ancestry hx)
  refine precedes_of_isCloser hd (isPath_singleton_iff.mpr hi) (h.mem_declarations hd hx) ?_
  intro q hq
  obtain ⟨r, j, rfl⟩ := (List.eq_nil_or_concat' q).resolve_left hq.ne_nil
  rcases eq_or_ne r [] with rfl | hne
  · -- a superclass, which is smaller and so comes later
    obtain ⟨hilt, rfl⟩ := List.getElem?_eq_some_iff.mp hi
    obtain ⟨hjlt, rfl⟩ := List.getElem?_eq_some_iff.mp (isPath_singleton_iff.mp hq)
    refine (List.shortlex_singleton_iff ..).mpr (lt_of_not_ge fun hji => ?_)
    rcases hji.eq_or_lt with rfl | hlt
    · exact lt_irrefl _ h.sizeOf_lt
    · exact lt_asymm h.sizeOf_lt
        (List.pairwise_iff_getElem.mp (pairwise_ancestry d) j i hjlt hilt hlt)
  · have hpos := List.length_pos_iff.mpr hne
    refine .of_length_lt ?_
    rw [List.length_append, List.length_singleton, List.length_singleton]
    exact Nat.lt_add_of_pos_left hpos

/-- **A declaration comes before what is only reached through it.** -/
theorem precedes_of_forall_isPath (hd : d.IsCoherent) (hx : x ∈ d.declarations)
    (hy : y ∈ d.declarations) (hne : x ≠ y)
    (hthrough : ∀ q, d.IsPath q y → ∃ p, p <+: q ∧ d.IsPath p x) : d.Precedes x y := by
  refine (precedes_or_precedes hx hy hne).resolve_right fun hyx => ?_
  obtain ⟨q, hq, hcloser⟩ := (precedes_iff hd hy hx hne.symm).mp hyx
  obtain ⟨p, hpq, hp⟩ := hthrough q hq
  have hlt : p.length < q.length := by
    refine hpq.length_le.lt_of_ne fun hlength => hne ?_
    obtain rfl := hpq.eq_of_length hlength
    exact hp.unique hq
  exact Std.Asymm.asymm _ _ (hcloser p hp) (.of_length_lt hlt)

/-! ### The marker that counts -/

/-- The markers of the getters of a property. -/
def getterMarkers (c : ClassDecl) (name : String) : List PropertyMarker :=
  (c.members.filter fun m => m.origin == .getter && m.property == name).flatMap (·.markers)

/-- The marker of a kind that the getters of a property have. -/
def getterMarker? (c : ClassDecl) (name : String) (kind : MarkerKind) : Option PropertyMarker :=
  (c.getterMarkers name).find? fun m => m.kind == kind

/-- **The marker of a kind that counts for a property.** -/
def marker? (d : ClassDecl) (name : String) (kind : MarkerKind) : Option PropertyMarker :=
  (Draft.draft? (Draft.ofLevels d.levels) name).bind (·.marker? kind)

variable {name : String} {kind : MarkerKind} {m n : PropertyMarker}

theorem declares_of_getterMarker? (h : x.getterMarker? name kind = some m) :
    x.declares name := by
  obtain ⟨member, hmember, -⟩ := List.mem_flatMap.mp (List.mem_of_find?_eq_some h)
  rw [List.mem_filter, Bool.and_eq_true] at hmember
  exact List.any_eq_true.mpr ⟨member, hmember.1, hmember.2.2⟩

/-- Getters are met before other members, from the closest declaration to the farthest. -/
theorem marker?_declared (levels : List Level)
    (h : (levels.map (·.decl)).findSome? (·.getterMarker? name kind) = some m) :
    (Draft.declared levels name).marker? kind = some m := by
  have hgetters : ((Draft.membersOfProperty name (Draft.membersOf .getter levels)).flatMap
      fun lm => lm.2.markers) = (levels.map (·.decl)).flatMap (·.getterMarkers name) := by
    simp only [Draft.membersOfProperty, Draft.membersOf, List.filter_flatMap, List.filter_map,
      List.filter_filter, List.flatMap_assoc, List.flatMap_map, getterMarkers, Function.comp_def,
      Bool.and_comm]
  rw [Draft.marker?, Draft.declared, Draft.ofMembers, Draft.scan, Draft.membersOfProperty,
    List.filter_append, List.flatMap_append, ← Draft.membersOfProperty, hgetters,
    List.find?_append, List.find?_flatMap]
  simp only [getterMarker?] at h
  rw [h, Option.some_or]

/-- **The first getter that has a marker has the say**, if getters have one at all. -/
theorem marker?_eq_some (hx : x ∈ d.declarations) (hm : x.getterMarker? name kind = some m)
    (hfirst : ∀ z, d.Precedes z x → z.getterMarker? name kind = none) :
    d.marker? name kind = some m := by
  obtain ⟨l, hl, rfl⟩ := List.mem_map.mp hx
  obtain ⟨draft, hdraft, hsame⟩ := Draft.exists_draft?_ofLevels
    (Draft.mem_names_iff.mpr ⟨l, hl, declares_of_getterMarker? hm⟩)
  obtain ⟨before, after, hsplit⟩ := List.append_of_mem hx
  rw [marker?, hdraft, Option.bind_some, hsame.marker?]
  refine marker?_declared d.levels
    (List.findSome?_eq_some_iff.mpr ⟨before, l.decl, after, hsplit, hm, fun z hz => hfirst z ?_⟩)
  rw [Precedes, hsplit]
  exact (List.singleton_sublist.mpr hz).append (List.singleton_sublist.mpr List.mem_cons_self)

/-! ### An interface that extends another one -/

open Samples

theorem isCoherent_article {interfaces : List ClassDecl} (h : interfaces ⊆ [headed, titled]) :
    (article interfaces).IsCoherent := by
  refine isCoherent_of_forall_mem [article interfaces, headed, titled] ?_ ?_ ?_
  · exact (by decide : [3, 2, 1].Nodup)
  · intro x hx
    rw [ancestry_eq] at hx
    exact List.mem_singleton.mp hx ▸ List.mem_cons_self
  · intro x hx y hy
    rw [List.mem_cons, List.mem_cons, List.mem_singleton] at hx
    rcases hx with rfl | rfl | rfl
    · exact List.mem_cons_of_mem _ (h hy)
    · exact List.mem_cons_of_mem _ (List.mem_cons_of_mem _ hy)
    · cases hy

theorem reaches_headed (d : ClassDecl) : d.Reaches headed titled :=
  .single (Or.inl List.mem_cons_self)

/-! ### What is declared again -/

/-- **When what is declared again has the say.** Of a declaration and one that it extends or
implements, the one on the closest path comes first, and its marker counts. -/
theorem precedes_iff_of_reaches (hd : d.IsCoherent) (hx : x ∈ d.declarations)
    (h : d.Reaches x y) :
    (d.Precedes x y ↔ ∃ p, d.IsPath p x ∧ ∀ q, d.IsPath q y → IsCloser p q) ∧
    (x ∈ d.ancestry → d.Precedes x y) ∧
    ((∀ q, d.IsPath q y → ∃ p, p <+: q ∧ d.IsPath p x) → d.Precedes x y) ∧
    ∀ (name : String) (kind : MarkerKind) (m n : PropertyMarker),
      x.getterMarker? name kind = some m → y.getterMarker? name kind = some n →
      (∀ z, d.Precedes z x → z ≠ y → z.getterMarker? name kind = none) →
      (d.Precedes x y → d.marker? name kind = some m) ∧
      (¬d.Precedes x y → d.marker? name kind = some n) := by
  have hy := h.mem_declarations hd hx
  have hne : x ≠ y := by
    rintro rfl
    exact lt_irrefl _ h.sizeOf_lt
  refine ⟨precedes_iff hd hx hy hne, fun hmem => precedes_of_mem_ancestry hd hmem h,
    precedes_of_forall_isPath hd hx hy hne, ?_⟩
  intro name kind m n hm hn hothers
  constructor
  · intro hxy
    refine marker?_eq_some hx hm fun z hz => hothers z hz ?_
    rintro rfl
    exact hxy.not_precedes hd hz
  · intro hnot
    have hyx := (precedes_or_precedes hx hy hne).resolve_left hnot
    refine marker?_eq_some hy hn fun z hz => hothers z (hz.trans hd hyx) ?_
    rintro rfl
    exact hz.not_precedes hd hz

/-- The marker of an interface that extends another one counts if the class names it first. -/
theorem marker?_article : (article [headed, titled]).marker? "title" .column =
    some (.column { name := some "heading" }) := by
  have hdeclarations : (article [headed, titled]).declarations =
      [article [headed, titled], headed, titled] := by
    simp [declarations_eq, ancestry_eq, article, titling, headed, titled, reached]
  have hd : (article [headed, titled]).IsCoherent := isCoherent_article (List.Subset.refl _)
  have hfirst : (article [headed, titled]).Precedes headed titled := by
    rw [Precedes, hdeclarations]
    exact List.sublist_cons_self ..
  have hothers : ∀ z, (article [headed, titled]).Precedes z headed → z ≠ titled →
      z.getterMarker? "title" .column = none := by
    intro z hz hne
    have hmem := hz.left_mem
    rw [hdeclarations, List.mem_cons, List.mem_cons, List.mem_singleton] at hmem
    rcases hmem with rfl | rfl | rfl
    · rfl
    · exact absurd hz (hz.not_precedes hd)
    · exact absurd rfl hne
  obtain ⟨-, -, -, hmarker⟩ := precedes_iff_of_reaches hd hfirst.left_mem (reaches_headed _)
  exact (hmarker "title" .column _ _ rfl rfl hothers).1 hfirst

/-- **What extends an interface need not come before it**: the class may name the latter first. -/
theorem not_forall_precedes_of_reaches :
    ¬∀ d x y : ClassDecl, d.IsCoherent → x ∈ d.declarations → d.Reaches x y →
      d.Precedes x y := by
  intro h
  have hdeclarations : (article [titled, headed]).declarations =
      [article [titled, headed], titled, headed] := by
    simp [declarations_eq, ancestry_eq, article, titling, headed, titled, reached]
  have hd : (article [titled, headed]).IsCoherent :=
    isCoherent_article (List.Perm.swap ..).subset
  have hfirst : (article [titled, headed]).Precedes titled headed := by
    rw [Precedes, hdeclarations]
    exact List.sublist_cons_self ..
  exact hfirst.not_precedes hd (h _ headed titled hd hfirst.right_mem (reaches_headed _))

end ClassDecl

end WideColumn

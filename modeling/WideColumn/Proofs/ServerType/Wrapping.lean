import Mathlib
import WideColumn.Registry

/-!
# Wrappers say nothing about the values

The server puts some types into a class of their own, to say that a column is sorted the other way
round or that its values are replaced as a whole. Such wrappers stand around any part of a type and
around one another. A class is a wrapper by its name and by its single parameter: under the same
name with other than one parameter it is a class like any other, in whose parameters there may be
wrappers again.

A type without its wrappers is the same wherever they were and however many. It is a normal form:
each type comes from exactly one type that has no wrappers, and this is the one that is found.

* `WideColumn.ServerType.WrapsOnce`, `WideColumn.ServerType.Wraps`: a type with one wrapper more, or
  with any number;
* `WideColumn.ServerType.HasWrapper`: there is a wrapper somewhere in a type;
* `WideColumn.ServerType.WrapsOnce.unwrapped_eq`: one wrapper makes no difference;
* `WideColumn.ServerType.wraps_unwrapped`: what has been taken off can be put on again;
* `WideColumn.ServerType.unwrapped_of_wraps`: **wrappers make no difference, and none is left**.
-/

namespace WideColumn

namespace ServerType

/-- To show something of a type one may assume it of its parameters. -/
@[elab_as_elim]
theorem params_induction {P : ServerType → Prop}
    (node : ∀ c ps, (∀ p ∈ ps, P p) → P (node c ps)) (t : ServerType) : P t :=
  match t with
  | .node c ps => node c ps fun p _ => params_induction node p

/-! ### Types with more wrappers -/

/-- **A type with one wrapper more**, around the whole or somewhere in one of its parameters. -/
inductive WrapsOnce : ServerType → ServerType → Prop
  | whole {c : String} (wrapper : c ∈ wrappers) (t : ServerType) : WrapsOnce t (node c [t])
  | param (c : String) (before after : List ServerType) {p p' : ServerType}
      (inner : WrapsOnce p p') :
      WrapsOnce (node c (before ++ p :: after)) (node c (before ++ p' :: after))

/-- **A type with any number of wrappers more.** -/
def Wraps : ServerType → ServerType → Prop :=
  Relation.ReflTransGen WrapsOnce

namespace Wraps

variable {c : String} {p p' : ServerType} {ps qs : List ServerType}

/-- More wrappers in one parameter. -/
theorem param (h : Wraps p p') (c : String) (before after : List ServerType) :
    Wraps (node c (before ++ p :: after)) (node c (before ++ p' :: after)) := by
  induction h with
  | refl => exact Relation.ReflTransGen.refl
  | tail _ hstep ih => exact ih.tail (hstep.param c before after)

/-- More wrappers in all parameters from some place on. -/
theorem params (h : List.Forall₂ Wraps ps qs) (c : String) (before : List ServerType) :
    Wraps (.node c (before ++ ps)) (.node c (before ++ qs)) := by
  induction h generalizing before with
  | nil => exact Relation.ReflTransGen.refl
  | @cons p q ps qs hfirst _ ih =>
    -- once the first one is wrapped it stands before the place for the others
    have hrest := ih (before ++ [q])
    rw [List.append_assoc, List.append_assoc] at hrest
    exact (hfirst.param c before ps).trans hrest

/-- More wrappers in all parameters. -/
theorem node (h : List.Forall₂ Wraps ps qs) (c : String) : Wraps (.node c ps) (.node c qs) :=
  params h c []

end Wraps

/-! ### Types that are wrappers -/

/-- A type is a wrapper by its class and its single parameter. -/
def IsWrapper (t : ServerType) : Prop :=
  t.className ∈ wrappers ∧ t.params.length = 1

/-- **The first type is somewhere in the second, or is the second.** -/
def Occurs : ServerType → ServerType → Prop :=
  Relation.ReflTransGen fun p t => p ∈ t.params

/-- **There is a wrapper** somewhere in a type. -/
def HasWrapper (t : ServerType) : Prop :=
  ∃ w, w.IsWrapper ∧ Occurs w t

variable {c : String} {m m' n p : ServerType} {ps qs : List ServerType}

theorem occurs_node_iff {w : ServerType} :
    Occurs w (node c ps) ↔ w = node c ps ∨ ∃ p ∈ ps, Occurs w p := by
  rw [Occurs, Relation.ReflTransGen.cases_tail_iff, eq_comm]
  exact or_congr_right (exists_congr fun p => and_comm)

theorem hasWrapper_node_iff :
    (node c ps).HasWrapper ↔ (node c ps).IsWrapper ∨ ∃ p ∈ ps, p.HasWrapper := by
  simp only [HasWrapper, occurs_node_iff]
  constructor
  · rintro ⟨w, hw, rfl | ⟨p, hp, hoccurs⟩⟩
    · exact Or.inl hw
    · exact Or.inr ⟨p, hp, w, hw, hoccurs⟩
  · rintro (hw | ⟨p, hp, w, hw, hoccurs⟩)
    · exact ⟨_, hw, Or.inl rfl⟩
    · exact ⟨w, hw, Or.inr ⟨p, hp, hoccurs⟩⟩

/-- A wrapper has one parameter and the name of a wrapper. -/
theorem IsWrapper.exists_eq (h : (node c ps).IsWrapper) : c ∈ wrappers ∧ ∃ p, ps = [p] :=
  ⟨h.1, List.length_eq_one_iff.mp h.2⟩

/-! ### Taking wrappers off -/

theorem unwrappedAll_eq_map (ps : List ServerType) : unwrappedAll ps = ps.map unwrapped := by
  induction ps with
  | nil => rfl
  | cons p ps ih => rw [unwrappedAll, ih, List.map_cons]

theorem unwrapped_wrapper (hc : c ∈ wrappers) (p : ServerType) :
    (node c [p]).unwrapped = p.unwrapped := by
  rw [unwrapped, if_pos hc]

/-- A type that is no wrapper keeps its class. -/
theorem unwrapped_of_not_isWrapper (h : ¬(node c ps).IsWrapper) :
    (node c ps).unwrapped = node c (ps.map unwrapped) := by
  rcases ps with _ | ⟨p, _ | ⟨q, ps⟩⟩
  · rfl
  · have hc : c ∉ wrappers := fun hc => h ⟨hc, rfl⟩
    rw [unwrapped, if_neg hc, List.map_singleton]
  · rw [unwrapped, unwrappedAll_eq_map]
    exact nofun

/-- What wrappers there are in the parameters makes no difference to the whole. -/
theorem unwrapped_node_congr (h : ps.map unwrapped = qs.map unwrapped) :
    (node c ps).unwrapped = (node c qs).unwrapped := by
  have hlength : ps.length = qs.length := by
    simpa using congrArg List.length h
  by_cases hw : (node c ps).IsWrapper
  · obtain ⟨hc, p, rfl⟩ := hw.exists_eq
    obtain ⟨q, rfl⟩ := List.length_eq_one_iff.mp hlength.symm
    rw [unwrapped_wrapper hc, unwrapped_wrapper hc]
    exact (List.cons.inj h).1
  · have hw' : ¬(node c qs).IsWrapper := fun hw' => hw ⟨hw'.1, hlength.trans hw'.2⟩
    rw [unwrapped_of_not_isWrapper hw, unwrapped_of_not_isWrapper hw', h]

/-- **One wrapper makes no difference.** -/
theorem WrapsOnce.unwrapped_eq (h : WrapsOnce m m') : m'.unwrapped = m.unwrapped := by
  induction h with
  | whole hc t => exact unwrapped_wrapper hc t
  | param c before after _ ih =>
    refine unwrapped_node_congr ?_
    rw [List.map_append, List.map_append, List.map_cons, List.map_cons, ih]

/-- **Any number of wrappers makes no difference.** -/
theorem Wraps.unwrapped_eq (h : Wraps m m') : m'.unwrapped = m.unwrapped := by
  induction h with
  | refl => rfl
  | tail _ hstep ih => exact hstep.unwrapped_eq.trans ih

/-! ### The normal form -/

/-- **What has been taken off can be put on again.** -/
theorem wraps_unwrapped (m : ServerType) : Wraps m.unwrapped m := by
  induction m using params_induction with
  | node c ps ih =>
    by_cases hw : (node c ps).IsWrapper
    · -- the wrapper itself is the last one to be put on
      obtain ⟨hc, p, rfl⟩ := hw.exists_eq
      rw [unwrapped_wrapper hc]
      exact (ih p (List.mem_singleton_self p)).tail (.whole hc p)
    · rw [unwrapped_of_not_isWrapper hw]
      refine Wraps.node (List.forall₂_map_left_iff.mpr ?_) c
      exact List.forall₂_same.mpr ih

/-- **No wrapper is left.** -/
theorem not_hasWrapper_unwrapped (m : ServerType) : ¬m.unwrapped.HasWrapper := by
  induction m using params_induction with
  | node c ps ih =>
    by_cases hw : (node c ps).IsWrapper
    · obtain ⟨hc, p, rfl⟩ := hw.exists_eq
      rw [unwrapped_wrapper hc]
      exact ih p (List.mem_singleton_self p)
    · -- the number of parameters has not changed, so the class has not become a wrapper
      rw [unwrapped_of_not_isWrapper hw, hasWrapper_node_iff]
      rintro (hw' | ⟨q, hq, hwq⟩)
      · exact hw ⟨hw'.1, List.length_map unwrapped ▸ hw'.2⟩
      · obtain ⟨p, hp, rfl⟩ := List.mem_map.mp hq
        exact ih p hp hwq

/-- Where there is no wrapper, nothing changes. -/
theorem unwrapped_eq_self (h : ¬m.HasWrapper) : m.unwrapped = m := by
  induction m using params_induction with
  | node c ps ih =>
    rw [hasWrapper_node_iff, not_or] at h
    obtain ⟨hw, hparams⟩ := h
    rw [unwrapped_of_not_isWrapper hw]
    refine congrArg (node c) ((List.map_congr_left fun p hp => ?_).trans (List.map_id ps))
    exact ih p hp fun hwp => hparams ⟨p, hp, hwp⟩

/-- **Every type comes from one type without wrappers**, the one that is found. -/
theorem wraps_and_not_hasWrapper_iff : Wraps n m ∧ ¬n.HasWrapper ↔ n = m.unwrapped := by
  constructor
  · rintro ⟨hwraps, hn⟩
    rw [hwraps.unwrapped_eq, unwrapped_eq_self hn]
  · rintro rfl
    exact ⟨wraps_unwrapped m, not_hasWrapper_unwrapped m⟩

/-- **Wrappers make no difference, and none is left.** However a type is wrapped, it is the same
without its wrappers, and to every registry it stands for the same column type or is refused with
the same error. To take wrappers off again changes nothing; there is none left, and of the types
without wrappers no other one can be wrapped to give the same. -/
theorem unwrapped_of_wraps (h : Wraps m m') :
    m'.unwrapped = m.unwrapped ∧
      (∀ r : Registry, r.columnType m' = r.columnType m) ∧
      m.unwrapped.unwrapped = m.unwrapped ∧
      ¬m.unwrapped.HasWrapper ∧
      ∀ n, Wraps n m' ∧ ¬n.HasWrapper ↔ n = m.unwrapped := by
  refine ⟨h.unwrapped_eq, fun r => ?_, ?_, not_hasWrapper_unwrapped m, fun n => ?_⟩
  · rw [Registry.columnType, Registry.columnType, h.unwrapped_eq]
  · exact unwrapped_eq_self (not_hasWrapper_unwrapped m)
  · rw [wraps_and_not_hasWrapper_iff, h.unwrapped_eq]

/-- A class of the name of a wrapper with two parameters, each of which is wrapped, under a map that
is wrapped twice. It is no wrapper, so no column type is found, and the error names it. -/
theorem unwrapped_of_wraps_pair :
    Registry.standard.columnType (node "ReversedType" [node "FrozenType" [node "MapType"
      [node "FrozenType" [node "UTF8Type" []], node "ReversedType"
        [node "ReversedType" [node "Int32Type" []], node "FrozenType" [node "DateType" []]]]]]) =
      .error (.unknownServerType "org.apache.cassandra.db.marshal.ReversedType") := by
  have hreversed : "ReversedType" ∈ wrappers := by decide
  have hfrozen : "FrozenType" ∈ wrappers := by decide
  have hpair : Wraps (node "ReversedType" [node "Int32Type" [], node "DateType" []])
      (node "ReversedType"
        [node "ReversedType" [node "Int32Type" []], node "FrozenType" [node "DateType" []]]) :=
    .node (.cons (.single (.whole hreversed _)) (.cons (.single (.whole hfrozen _)) .nil)) _
  have hmap := Wraps.node (.cons (.single (.whole hfrozen (node "UTF8Type" []))) (.cons hpair .nil))
    "MapType"
  have hwraps := (hmap.tail (.whole hfrozen _)).tail (.whole hreversed _)
  exact ((unwrapped_of_wraps hwraps).2.1 Registry.standard).trans rfl

end ServerType

end WideColumn

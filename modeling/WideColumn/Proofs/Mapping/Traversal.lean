import Mathlib
import WideColumn.Proofs.Mapping.Hierarchy
import WideColumn.Samples.Interfaces

/-!
# Going through a hierarchy

The interfaces of a hierarchy are looked for with a queue, to which those that a new interface
extends are added in turn. One interface may be added again and again, along as many paths as there
are, and the queue may grow with every step. The search ends all the same. A declaration that has
been seen adds nothing, so that the queue is given each list of interfaces of the hierarchy once, and
the steps of the search are the entries of these lists
(`WideColumn.ClassDecl.Search.queue_iterate_eq_nil_iff`). What the search comes to is not changed by
any of its steps (`WideColumn.ClassDecl.Search.outcome_step`).

What it comes to is what a linearization has to be (`WideColumn.ClassDecl.IsLinearized`): nothing is
missing and nothing is repeated, and what is fewer links behind the queue comes first.

* `WideColumn.ClassDecl.IsBehind`, `WideColumn.ClassDecl.distance`: how many links behind the queue a
  declaration is;
* `WideColumn.ClassDecl.Search`: the search, one step at a time;
* `WideColumn.ClassDecl.IsLinearized`: what a linearization is;
* `WideColumn.ClassDecl.search_enumerates`: **the search ends, and it comes to one**.
-/

namespace WideColumn

namespace ClassDecl

variable {d x y : ClassDecl} {n : Nat}

/-! ### Links -/

/-- A declaration has another one as an interface: it implements or extends it. -/
def HasInterface (x y : ClassDecl) : Prop :=
  y ∈ x.interfaces

/-- **A declaration is a number of links behind the queue**, which is made of the interfaces of the
class and its superclasses. -/
inductive IsBehind (d : ClassDecl) : Nat → ClassDecl → Prop where
  /-- What is in the queue at first. -/
  | queued {c x : ClassDecl} (hc : c ∈ d.ancestry) (hx : c.HasInterface x) : IsBehind d 0 x
  /-- One more link. -/
  | link {n : Nat} {x y : ClassDecl} (hx : IsBehind d n x) (hy : x.HasInterface y) :
    IsBehind d (n + 1) y

/-- The links are the steps of a path after its first two. -/
theorem isBehind_iff : d.IsBehind n x ↔ ∃ p, d.IsPath p x ∧ p.length = n + 2 := by
  constructor
  · intro h
    induction h with
    | queued hc hx =>
      obtain ⟨i, hi⟩ := List.mem_iff_getElem?.mp hc
      obtain ⟨j, hj⟩ := List.mem_iff_getElem?.mp hx
      exact ⟨[i] ++ [j], (isPath_concat_iff (List.cons_ne_nil _ _)).mpr ⟨_, hi, hj⟩, rfl⟩
    | link hx hy ih =>
      obtain ⟨p, hp, hlength⟩ := ih
      obtain ⟨j, hj⟩ := List.mem_iff_getElem?.mp hy
      refine ⟨p ++ [j], (isPath_concat_iff hp.ne_nil).mpr ⟨_, hp, hj⟩, ?_⟩
      rw [List.length_append, hlength, List.length_singleton]
  · rintro ⟨p, hp, hlength⟩
    induction n generalizing p x with
    | zero =>
      obtain ⟨i, j, rfl⟩ := List.length_eq_two.mp hlength
      obtain ⟨c, hc, hx⟩ := (isPath_concat_iff (p := [i]) (List.cons_ne_nil _ _)).mp hp
      exact .queued (List.mem_of_getElem? hc) (List.mem_of_getElem? hx)
    | succ n ih =>
      obtain ⟨q, j, rfl⟩ := (List.eq_nil_or_concat' p).resolve_left hp.ne_nil
      rw [List.length_append, List.length_singleton] at hlength
      have hq : q ≠ [] := List.ne_nil_of_length_pos (by omega)
      obtain ⟨z, hz, hx⟩ := (isPath_concat_iff hq).mp hp
      exact .link (ih q hz (by omega)) (List.mem_of_getElem? hx)

/-- What is behind the queue is what the class and its superclasses reach. -/
theorem exists_isBehind_iff :
    (∃ n, d.IsBehind n x) ↔ ∃ c ∈ d.ancestry, Relation.TransGen HasInterface c x := by
  constructor
  · rintro ⟨n, h⟩
    induction h with
    | queued hc hx => exact ⟨_, hc, .single hx⟩
    | link hx hy ih =>
      obtain ⟨c, hc, hreach⟩ := ih
      exact ⟨c, hc, hreach.tail hy⟩
  · rintro ⟨c, hc, hreach⟩
    induction hreach with
    | single hx => exact ⟨0, .queued hc hx⟩
    | tail _ hy ih =>
      obtain ⟨n, hn⟩ := ih
      exact ⟨n + 1, .link hn hy⟩

/-- **How many links behind the queue a declaration is**, on the shortest way. -/
noncomputable def distance (d x : ClassDecl) : Nat :=
  sInf {n | d.IsBehind n x}

/-- A declaration with a closer path is not farther behind the queue. -/
theorem distance_le_of_isCloser {p : List Nat} (hx : x ∉ d.ancestry) (hp : d.IsPath p x)
    (hy : ∃ n, d.IsBehind n y) (hcloser : ∀ q, d.IsPath q y → IsCloser p q) :
    d.distance x ≤ d.distance y := by
  obtain ⟨q, hq, hlength⟩ := isBehind_iff.mp (Nat.sInf_mem hy)
  have hle : p.length ≤ q.length := by
    rcases List.shortlex_def.mp (hcloser q hq) with hlt | ⟨heq, -⟩
    · exact hlt.le
    · exact heq.le
  have hlong : 2 ≤ p.length := by
    by_contra hshort
    obtain ⟨i, rfl⟩ := List.length_eq_one_iff.mp
      (le_antisymm (by omega) (List.length_pos_iff.mpr hp.ne_nil))
    exact hx (List.mem_of_getElem? (isPath_singleton_iff.mp hp))
  calc d.distance x
    _ ≤ p.length - 2 := Nat.sInf_le (isBehind_iff.mpr ⟨p, hp, by omega⟩)
    _ ≤ q.length - 2 := Nat.sub_le_sub_right hle 2
    _ = d.distance y := by
      rw [hlength]
      rfl

/-! ### The search -/

/-- **The search for interfaces**: what has been found, the serial numbers of what has been seen, and
what is still to be looked at. -/
structure Search where
  found : List ClassDecl
  seen : List Nat
  queue : List ClassDecl

namespace Search

/-- At first the class and its superclasses have been found, and their interfaces are to be looked
at. -/
def start (d : ClassDecl) : Search :=
  ⟨d.ancestry, d.ancestry.map (·.serial), d.ancestry.flatMap (·.interfaces)⟩

/-- **One step of the search**: the first of the queue is taken from it. If it has not been seen, then
it is found, and its interfaces join the end of the queue. -/
def step : Search → Search
  | ⟨found, seen, []⟩ => ⟨found, seen, []⟩
  | ⟨found, seen, x :: queue⟩ =>
    if x.serial ∈ seen then ⟨found, seen, queue⟩
    else ⟨found ++ [x], x.serial :: seen, queue ++ x.interfaces⟩

/-- What the search comes to. -/
def outcome (s : Search) : List ClassDecl :=
  s.found ++ reached s.seen s.queue

/-- How many steps are left: what is in the queue and what will join it. -/
def remaining (s : Search) : Nat :=
  s.queue.length + ((reached s.seen s.queue).flatMap (·.interfaces)).length

section Step

variable {found queue : List ClassDecl} {seen : List Nat}

theorem step_of_mem (hx : x.serial ∈ seen) :
    step ⟨found, seen, x :: queue⟩ = ⟨found, seen, queue⟩ :=
  if_pos hx

theorem step_of_not_mem (hx : x.serial ∉ seen) :
    step ⟨found, seen, x :: queue⟩ = ⟨found ++ [x], x.serial :: seen, queue ++ x.interfaces⟩ :=
  if_neg hx

theorem reached_cons_of_mem (hx : x.serial ∈ seen) :
    reached seen (x :: queue) = reached seen queue := by
  rw [reached, if_pos hx]

theorem reached_cons_of_not_mem (hx : x.serial ∉ seen) :
    reached seen (x :: queue) = x :: reached (x.serial :: seen) (queue ++ x.interfaces) := by
  rw [reached, if_neg hx]

end Step

variable (s : Search)

/-- **A step does not change what the search comes to.** -/
theorem outcome_step : s.step.outcome = s.outcome := by
  rcases s with ⟨found, seen, _ | ⟨x, queue⟩⟩
  · rfl
  · by_cases hx : x.serial ∈ seen
    · rw [step_of_mem hx, outcome, outcome, reached_cons_of_mem hx]
    · rw [step_of_not_mem hx, outcome, outcome, reached_cons_of_not_mem hx, List.append_assoc,
        List.singleton_append]

/-- **A step is one of those that are left**, although the queue may have grown. -/
theorem remaining_step : s.step.remaining = s.remaining - 1 := by
  rcases s with ⟨found, seen, _ | ⟨x, queue⟩⟩
  · simp only [step, remaining, reached, List.flatMap_nil, List.length_nil]
  · by_cases hx : x.serial ∈ seen
    · simp only [step_of_mem hx, remaining, reached_cons_of_mem hx, List.length_cons]
      omega
    · simp only [step_of_not_mem hx, remaining, reached_cons_of_not_mem hx, List.flatMap_cons,
        List.length_append, List.length_cons]
      omega

theorem outcome_iterate : (step^[n] s).outcome = s.outcome := by
  induction n with
  | zero => rfl
  | succ n ih => rw [Function.iterate_succ_apply', outcome_step, ih]

theorem remaining_iterate : (step^[n] s).remaining = s.remaining - n := by
  induction n with
  | zero => rfl
  | succ n ih =>
    rw [Function.iterate_succ_apply', remaining_step, ih]
    omega

theorem remaining_eq_zero_iff : s.remaining = 0 ↔ s.queue = [] := by
  constructor
  · intro h
    exact List.eq_nil_of_length_eq_zero (Nat.eq_zero_of_add_eq_zero_right h)
  · intro h
    rw [remaining, h, reached]
    rfl

/-- **The search ends** after as many steps as are left at first. -/
theorem queue_iterate_eq_nil_iff : (step^[n] s).queue = [] ↔ s.remaining ≤ n := by
  rw [← remaining_eq_zero_iff, remaining_iterate, Nat.sub_eq_zero_iff_le]

/-- When the queue is empty, everything has been found. -/
theorem found_of_queue_eq_nil (h : s.queue = []) : s.found = s.outcome := by
  rw [outcome, h, reached, List.append_nil]

theorem outcome_start (d : ClassDecl) : (start d).outcome = d.declarations :=
  (declarations_eq d).symm

/-- The steps of a search are the entries of all lists of interfaces, of every declaration once. -/
theorem remaining_start (d : ClassDecl) :
    (start d).remaining = (d.declarations.flatMap (·.interfaces)).length := by
  rw [declarations_eq, List.flatMap_append, List.length_append]
  rfl

end Search

/-! ### Linearizations -/

/-- **What a linearization is**: the class and its superclasses upwards, and then the interfaces that
are reached from these. Nothing is listed twice, and interfaces are in the order of their distance,
those at one distance in the order of the closest paths to them. -/
structure IsLinearized (d : ClassDecl) (chain interfaces : List ClassDecl) : Prop where
  head? : chain.head? = some d
  superclass : chain.IsChain fun x y => x.superclass = some y
  /-- The chain goes on as long as there is a superclass. -/
  top : ∀ x, chain.getLast? = some x → x.superclass = none
  nodup : ((chain ++ interfaces).map (·.serial)).Nodup
  mem_iff : ∀ x, x ∈ interfaces ↔
    x ∉ chain ∧ ∃ c ∈ chain, Relation.TransGen HasInterface c x
  distance_le : interfaces.Pairwise fun x y => d.distance x ≤ d.distance y
  closer : interfaces.Pairwise fun x y =>
    ∃ p, d.IsPath p x ∧ ∀ q, d.IsPath q y → IsCloser p q

theorem isChain_ancestry (d : ClassDecl) :
    d.ancestry.IsChain fun x y => x.superclass = some y := by
  induction d using superclass_induction with
  | step d ih =>
    rw [ancestry_eq]
    cases hs : d.superclass with
    | none => exact List.isChain_singleton d
    | some s =>
      have hchain := ih s hs
      rw [Option.elim_some]
      rw [ancestry_eq] at hchain ⊢
      exact List.isChain_cons_cons.mpr ⟨hs, hchain⟩

theorem superclass_of_getLast?_ancestry (h : d.ancestry.getLast? = some x) :
    x.superclass = none := by
  induction d using superclass_induction with
  | step d ih =>
    rw [ancestry_eq] at h
    cases hs : d.superclass with
    | none =>
      rw [hs] at h
      exact Option.some.inj h ▸ hs
    | some s =>
      rw [hs, Option.elim_some, ancestry_eq, List.getLast?_cons_cons, ← ancestry_eq] at h
      exact ih s hs h

/-- What is reached from a queue has a path through the queue. -/
theorem mem_interfaces_iff (hd : d.IsCoherent) (hx : x ∉ d.ancestry) :
    x ∈ d.declarations ↔ ∃ c ∈ d.ancestry, Relation.TransGen HasInterface c x := by
  rw [mem_declarations_iff hd, ← exists_isBehind_iff]
  constructor
  · rintro ⟨p, hp⟩
    obtain ⟨q, j, rfl⟩ := (List.eq_nil_or_concat' p).resolve_left hp.ne_nil
    rcases eq_or_ne q [] with rfl | hq
    · exact absurd (List.mem_of_getElem? (isPath_singleton_iff.mp hp)) hx
    · have hlength := List.length_pos_iff.mpr hq
      refine ⟨q.length - 1, isBehind_iff.mpr ⟨_, hp, ?_⟩⟩
      rw [List.length_append, List.length_singleton]
      omega
  · rintro ⟨n, hn⟩
    obtain ⟨p, hp, -⟩ := isBehind_iff.mp hn
    exact ⟨p, hp⟩

/-- **The search for interfaces ends, and it comes to the linearization of the class.** The queue is
empty after as many steps as there are entries in the lists of interfaces of all declarations of the
hierarchy, each of these taken once, and not before. -/
theorem search_enumerates (hd : d.IsCoherent) :
    (∀ n, ((Search.step^[n] (.start d)).queue = [] ↔
        (d.declarations.flatMap (·.interfaces)).length ≤ n) ∧
      ((Search.step^[n] (.start d)).queue = [] →
        (Search.step^[n] (.start d)).found = d.declarations)) ∧
    ∃ interfaces, d.declarations = d.ancestry ++ interfaces ∧
      d.IsLinearized d.ancestry interfaces := by
  constructor
  · intro n
    refine ⟨?_, fun h => ?_⟩
    · rw [Search.queue_iterate_eq_nil_iff, Search.remaining_start]
    · rw [Search.found_of_queue_eq_nil _ h, Search.outcome_iterate, Search.outcome_start]
  · let interfaces := reached (d.ancestry.map (·.serial)) (d.ancestry.flatMap (·.interfaces))
    have hsplit : d.declarations = d.ancestry ++ interfaces := declarations_eq d
    have hnodup := nodup_declarations hd
    rw [hsplit] at hnodup
    have hnot : ∀ x ∈ interfaces, x ∉ d.ancestry := fun x hx hx' =>
      List.disjoint_of_nodup_append (hnodup.of_map _) hx' hx
    have hmem : ∀ x, x ∈ interfaces ↔
        x ∉ d.ancestry ∧ ∃ c ∈ d.ancestry, Relation.TransGen HasInterface c x := by
      intro x
      by_cases hx : x ∈ d.ancestry
      · exact iff_of_false (fun h => hnot x h hx) fun h => h.1 hx
      · rw [← mem_interfaces_iff hd hx, hsplit, List.mem_append, or_iff_right hx,
          and_iff_right hx]
    have hcloser : interfaces.Pairwise fun x y =>
        ∃ p, d.IsPath p x ∧ ∀ q, d.IsPath q y → IsCloser p q := by
      refine List.pairwise_iff_forall_sublist.mpr fun {x y} hxy => ?_
      have hprecedes : d.Precedes x y := by
        rw [Precedes, hsplit]
        exact hxy.trans (List.sublist_append_right ..)
      have hne : x ≠ y := by
        rintro rfl
        exact hprecedes.not_precedes hd hprecedes
      exact (precedes_iff hd hprecedes.left_mem hprecedes.right_mem hne).mp hprecedes
    have hdistance : interfaces.Pairwise fun x y => d.distance x ≤ d.distance y := by
      refine hcloser.imp_of_mem ?_
      rintro x y hx hy ⟨p, hp, hcloser⟩
      have hbehind := exists_isBehind_iff.mpr ((hmem y).mp hy).2
      exact distance_le_of_isCloser (hnot x hx) hp hbehind hcloser
    refine ⟨interfaces, hsplit, ?_⟩
    exact {
      head? := by
        rw [ancestry_eq]
        rfl
      superclass := isChain_ancestry d
      top := fun x => superclass_of_getLast?_ancestry
      nodup := hnodup
      mem_iff := hmem
      distance_le := hdistance
      closer := hcloser }

open Samples in
/-- A class that implements two extensions of one interface, and one of them twice. -/
theorem search_enumerates_diamond :
    let d := article [headed, captioned, headed]
    d.declarations = [d, headed, captioned, titled] ∧
      (Search.step^[5] (.start d)).queue = [] ∧ (Search.step^[4] (.start d)).queue ≠ [] ∧
      d.IsLinearized [d] [headed, captioned, titled] := by
  intro d
  have hancestry : d.ancestry = [d] := rfl
  have hdeclarations : d.declarations = [d, headed, captioned, titled] := by
    simp [d, declarations_eq, ancestry_eq, article, titling, headed, captioned, titled, reached]
  have hd : d.IsCoherent := by
    refine isCoherent_of_forall_mem [d, headed, captioned, titled]
      (by decide : [3, 2, 4, 1].Nodup) ?_ ?_
    · intro x hx
      rw [hancestry] at hx
      exact List.mem_singleton.mp hx ▸ List.mem_cons_self
    · intro x hx
      simp only [List.mem_cons, List.not_mem_nil, or_false] at hx
      rcases hx with rfl | rfl | rfl | rfl
      · exact (by simp : [headed, captioned, headed] ⊆ [d, headed, captioned, titled])
      · exact (by simp : [titled] ⊆ [d, headed, captioned, titled])
      · exact (by simp : [titled] ⊆ [d, headed, captioned, titled])
      · exact List.nil_subset _
  obtain ⟨hends, interfaces, hsplit, hlinearized⟩ := search_enumerates hd
  have hentries : (d.declarations.flatMap (·.interfaces)).length = 5 := by
    rw [hdeclarations]
    rfl
  have hinterfaces : interfaces = [headed, captioned, titled] := by
    rw [hancestry, hdeclarations] at hsplit
    exact (List.cons.inj hsplit).2.symm
  refine ⟨hdeclarations, ?_, ?_, ?_⟩
  · exact (hends 5).1.mpr hentries.le
  · intro h
    have hle := (hends 4).1.mp h
    omega
  · rw [← hancestry, ← hinterfaces]
    exact hlinearized

end ClassDecl

end WideColumn

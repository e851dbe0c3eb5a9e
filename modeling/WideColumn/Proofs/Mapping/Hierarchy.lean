import Mathlib
import WideColumn.Mapping.Hierarchy

/-!
# The order of a hierarchy

The declarations that a class is made of are found breadth first: what is met is taken unless it
has been met before, and what it extends is looked at later. Which of two declarations comes first
can be told without running this. A declaration is reached on paths: from the class or one of its
superclasses, and then from one declaration to an entry of its list of interfaces. The shorter of
two paths is the closer one, and among paths of one length the one that turns to an earlier entry
where they part (`WideColumn.ClassDecl.IsCloser`). The declarations are in the order of the closest
paths to them (`WideColumn.ClassDecl.precedes_iff`).

The proof goes by what is mentioned on paths of bounded length, with repetitions
(`WideColumn.ClassDecl.within`). This list is sorted by paths. Without the repetitions it is a
beginning of the hierarchy (`WideColumn.ClassDecl.isPrefix_firsts_within`), because the hierarchy is
what is mentioned in the class and its superclasses and in the hierarchy itself, without the
repetitions (`WideColumn.ClassDecl.declarations_eq_firsts`).

That repetitions may be left out relies on there being no two different declarations of one serial
number (`WideColumn.ClassDecl.IsCoherent`).

* `WideColumn.ClassDecl.declarations`: the declarations that a class is made of;
* `WideColumn.ClassDecl.IsPath`: the paths to a declaration;
* `WideColumn.ClassDecl.mem_declarations_iff`: **the declarations are those that there are paths
  to**;
* `WideColumn.ClassDecl.precedes_iff`: **which of two declarations comes first**.
-/

namespace List

/-- Of two elements of a list one comes first. -/
theorem pair_sublist_or {α : Type} {l : List α} {a b : α} (ha : a ∈ l) (hb : b ∈ l) (hne : a ≠ b) :
    [a, b].Sublist l ∨ [b, a].Sublist l := by
  obtain ⟨before, after, rfl⟩ := append_of_mem ha
  rw [mem_append, mem_cons, or_iff_right hne.symm] at hb
  rcases hb with hb | hb
  · exact Or.inr ((singleton_sublist.mpr hb).append (singleton_sublist.mpr mem_cons_self))
  · exact Or.inl (((singleton_sublist.mpr hb).cons_cons a).trans (sublist_append_right ..))

end List

namespace WideColumn

namespace ClassDecl

/-! ### Without repetitions -/

/-- The declarations of a list that have not been seen before, each where it comes first. -/
def firsts (seen : List Nat) : List ClassDecl → List ClassDecl
  | [] => []
  | x :: xs =>
    if x.serial ∈ seen then firsts seen xs else x :: firsts (x.serial :: seen) xs

variable {seen : List Nat} {x y : ClassDecl} {xs ys : List ClassDecl}

theorem firsts_cons_of_mem (h : x.serial ∈ seen) : firsts seen (x :: xs) = firsts seen xs :=
  if_pos h

theorem firsts_cons_of_not_mem (h : x.serial ∉ seen) :
    firsts seen (x :: xs) = x :: firsts (x.serial :: seen) xs :=
  if_neg h

/-- It does not matter in which order declarations have been seen. -/
theorem firsts_congr {seen' : List Nat} (h : ∀ n, n ∈ seen ↔ n ∈ seen') :
    firsts seen xs = firsts seen' xs := by
  induction xs generalizing seen seen' with
  | nil => rfl
  | cons x xs ih =>
    by_cases hx : x.serial ∈ seen
    · rw [firsts_cons_of_mem hx, firsts_cons_of_mem ((h _).mp hx), ih h]
    · rw [firsts_cons_of_not_mem hx, firsts_cons_of_not_mem (mt (h _).mpr hx), ih]
      intro n
      rw [List.mem_cons, List.mem_cons, h n]

/-- **What comes later is taken if it has not come before.** -/
theorem firsts_append :
    firsts seen (xs ++ ys) = firsts seen xs ++ firsts (xs.map (·.serial) ++ seen) ys := by
  induction xs generalizing seen with
  | nil => rfl
  | cons x xs ih =>
    by_cases hx : x.serial ∈ seen
    · rw [List.cons_append, firsts_cons_of_mem hx, firsts_cons_of_mem hx, ih]
      congr 1
      refine firsts_congr fun n => ?_
      simp only [List.map_cons, List.cons_append, List.mem_cons]
      exact (or_iff_right_of_imp fun hn => by rw [hn]; exact List.mem_append_right _ hx).symm
    · rw [List.cons_append, firsts_cons_of_not_mem hx, firsts_cons_of_not_mem hx, ih,
        List.cons_append]
      congr 2
      refine firsts_congr fun n => ?_
      simp only [List.map_cons, List.cons_append, List.mem_append, List.mem_cons]
      exact or_left_comm

theorem isPrefix_firsts (h : xs <+: ys) : firsts seen xs <+: firsts seen ys := by
  obtain ⟨zs, rfl⟩ := h
  rw [firsts_append]
  exact List.prefix_append ..

/-- Nothing is left of what has been seen. -/
theorem firsts_eq_nil (h : ∀ x ∈ xs, x.serial ∈ seen) : firsts seen xs = [] := by
  induction xs with
  | nil => rfl
  | cons x xs ih =>
    rw [firsts_cons_of_mem (h x List.mem_cons_self), ih fun y hy => h y (List.mem_cons_of_mem _ hy)]

/-- Where nothing is repeated, everything is taken. -/
theorem firsts_eq_self (h : (xs.map (·.serial) ++ seen).Nodup) : firsts seen xs = xs := by
  induction xs generalizing seen with
  | nil => rfl
  | cons x xs ih =>
    rw [List.map_cons, List.cons_append, List.nodup_cons, List.mem_append, not_or] at h
    rw [firsts_cons_of_not_mem h.1.2, ih]
    refine (List.perm_middle.nodup_iff).mpr (List.nodup_cons.mpr ⟨?_, h.2⟩)
    exact List.mem_append.not.mpr (not_or.mpr h.1)

theorem nodup_firsts : ((firsts seen xs).map (·.serial)).Nodup ∧
    ∀ x ∈ firsts seen xs, x.serial ∉ seen := by
  induction xs generalizing seen with
  | nil => exact ⟨List.nodup_nil, nofun⟩
  | cons x xs ih =>
    by_cases hx : x.serial ∈ seen
    · rw [firsts_cons_of_mem hx]
      exact ih
    · have hnew := @ih (x.serial :: seen)
      rw [firsts_cons_of_not_mem hx, List.map_cons, List.nodup_cons]
      refine ⟨⟨fun h => ?_, hnew.1⟩, fun y hy => ?_⟩
      · obtain ⟨y, hy, hserial⟩ := List.mem_map.mp h
        exact hnew.2 y hy (hserial ▸ List.mem_cons_self)
      · rcases List.mem_cons.mp hy with rfl | hy
        · exact hx
        · exact fun h => hnew.2 y hy (List.mem_cons_of_mem _ h)

/-- What has not been seen is taken if there is nothing else of its serial number. -/
theorem mem_firsts (hx : x ∈ xs) (hseen : x.serial ∉ seen)
    (hsame : ∀ y ∈ xs, y.serial = x.serial → y = x) : x ∈ firsts seen xs := by
  induction xs generalizing seen with
  | nil => cases hx
  | cons z xs ih =>
    have hsame' := fun y hy => hsame y (List.mem_cons_of_mem z hy)
    by_cases hz : z.serial ∈ seen
    · rw [firsts_cons_of_mem hz]
      refine ih ((List.mem_cons.mp hx).resolve_left ?_) hseen hsame'
      rintro rfl
      exact hseen hz
    · rw [firsts_cons_of_not_mem hz]
      by_cases hzx : z.serial = x.serial
      · rw [hsame z List.mem_cons_self hzx]
        exact List.mem_cons_self
      · have hne : x ≠ z := fun h => hzx (h ▸ rfl)
        refine List.mem_cons_of_mem _ (ih ((List.mem_cons.mp hx).resolve_left hne) ?_ hsame')
        rw [List.mem_cons, not_or]
        exact ⟨Ne.symm hzx, hseen⟩

/-- What comes first in a list stays before what comes later only. -/
theorem pair_sublist_firsts (hx : x ∈ xs) (hy : y ∈ ys)
    (hlater : y.serial ∉ xs.map (·.serial))
    (hsame : ∀ z ∈ xs ++ ys, ∀ w ∈ [x, y], z.serial = w.serial → z = w) :
    [x, y].Sublist (firsts [] (xs ++ ys)) := by
  rw [firsts_append, List.append_nil]
  refine (List.singleton_sublist.mpr ?_).append (List.singleton_sublist.mpr ?_)
  · exact mem_firsts hx List.not_mem_nil fun z hz =>
      hsame z (List.mem_append_left _ hz) x List.mem_cons_self
  · exact mem_firsts hy hlater fun z hz =>
      hsame z (List.mem_append_right _ hz) y (List.mem_cons_of_mem _ List.mem_cons_self)

/-- **What repetitions lead to is repeated.** -/
theorem firsts_flatMap_firsts (known : List Nat)
    (hsame : ∀ x ∈ xs, ∀ y ∈ xs, x.serial = y.serial → x = y)
    (hknown : ∀ x ∈ xs, x.serial ∈ known → ∀ y ∈ x.interfaces, y.serial ∈ seen) :
    firsts seen ((firsts known xs).flatMap (·.interfaces)) =
      firsts seen (xs.flatMap (·.interfaces)) := by
  induction xs generalizing seen known with
  | nil => rfl
  | cons x xs ih =>
    have hsame' : ∀ y ∈ xs, ∀ z ∈ xs, y.serial = z.serial → y = z := fun y hy z hz =>
      hsame y (List.mem_cons_of_mem _ hy) z (List.mem_cons_of_mem _ hz)
    have hknown' : ∀ y ∈ xs, y.serial ∈ known → ∀ z ∈ y.interfaces, z.serial ∈ seen :=
      fun y hy => hknown y (List.mem_cons_of_mem _ hy)
    rw [List.flatMap_cons, firsts_append]
    by_cases hx : x.serial ∈ known
    · rw [firsts_cons_of_mem hx, ih known hsame' hknown',
        firsts_eq_nil (hknown x List.mem_cons_self hx), List.nil_append]
      refine firsts_congr fun n => ?_
      rw [List.mem_append, or_iff_right_of_imp]
      intro hn
      obtain ⟨y, hy, rfl⟩ := List.mem_map.mp hn
      exact hknown x List.mem_cons_self hx y hy
    · rw [firsts_cons_of_not_mem hx, List.flatMap_cons, firsts_append,
        ih (x.serial :: known) hsame']
      intro y hy hserial z hz
      rcases List.mem_cons.mp hserial with hxy | hknown
      · -- a repetition of the first one
        obtain rfl := hsame y (List.mem_cons_of_mem _ hy) x List.mem_cons_self hxy
        exact List.mem_append_left _ (List.mem_map_of_mem hz)
      · exact List.mem_append_right _ (hknown' y hy hknown z hz)

/-! ### The hierarchy -/

/-- A class and its superclasses upwards. -/
def ancestry (d : ClassDecl) : List ClassDecl :=
  d.chain.map (·.decl)

/-- **The declarations that a class is made of**, the closest one first. -/
def declarations (d : ClassDecl) : List ClassDecl :=
  d.levels.map (·.decl)

/-- What is reached from a queue is what is mentioned in it, or in something that is reached. -/
theorem reached_eq_firsts (seen : List Nat) (queue : List ClassDecl) :
    reached seen queue = firsts seen (queue ++ (reached seen queue).flatMap (·.interfaces)) := by
  induction seen, queue using reached.induct with
  | case1 seen =>
    rw [reached]
    rfl
  | case2 seen d queue hd ih =>
    rw [reached, if_pos hd, List.cons_append, firsts_cons_of_mem hd]
    exact ih
  | case3 seen d queue hd ih =>
    rw [reached, if_neg hd, List.cons_append, firsts_cons_of_not_mem hd, List.flatMap_cons,
      ← List.append_assoc]
    exact congrArg _ ih

/-- What holds of the declarations in a queue, and of the interfaces of what it holds of, holds of
all that is reached. -/
theorem forall_mem_reached {P : ClassDecl → Prop} (hstep : ∀ x, P x → ∀ y ∈ x.interfaces, P y)
    {queue : List ClassDecl} (hqueue : ∀ x ∈ queue, P x) : ∀ x ∈ reached seen queue, P x := by
  induction seen, queue using reached.induct with
  | case1 seen =>
    rw [reached]
    nofun
  | case2 seen d queue hd ih =>
    rw [reached, if_pos hd]
    exact ih fun x hx => hqueue x (List.mem_cons_of_mem _ hx)
  | case3 seen d queue hd ih =>
    have hfirst := hqueue d List.mem_cons_self
    rw [reached, if_neg hd, List.forall_mem_cons]
    refine ⟨hfirst, ih fun x hx => ?_⟩
    rcases List.mem_append.mp hx with hx | hx
    · exact hqueue x (List.mem_cons_of_mem _ hx)
    · exact hstep d hfirst x hx

variable {d : ClassDecl}

theorem declarations_eq (d : ClassDecl) : d.declarations =
    d.ancestry ++ reached (d.ancestry.map (·.serial)) (d.ancestry.flatMap (·.interfaces)) := by
  simp only [declarations, levels, ancestry, List.map_append, List.map_map, List.flatMap_map]
  congr 1
  exact List.map_id _

/-! ### Superclasses -/

theorem sizeOf_superclass_lt (h : d.superclass = some x) : sizeOf x < sizeOf d := by
  cases d
  simp only at h
  simp only [ClassDecl.mk.sizeOf_spec, h, Option.some.sizeOf_spec]
  omega

/-- To show something of a class one may assume it of its superclass. -/
@[elab_as_elim]
theorem superclass_induction {P : ClassDecl → Prop}
    (step : ∀ d, (∀ s, d.superclass = some s → P s) → P d) (d : ClassDecl) : P d :=
  (measure sizeOf).wf.induction d fun d ih => step d fun s hs => ih s (sizeOf_superclass_lt hs)

theorem chainBehind_eq (embeddings : List String) (d : ClassDecl) :
    d.chainBehind embeddings =
      ⟨d, embeddings⟩ :: d.superclass.elim [] (chainBehind (embeddings ++ d.embeddedIn.toList)) := by
  fun_cases chainBehind embeddings d with
  | case1 => rfl
  | case2 => rfl

/-- The embeddings make no difference to the declarations of a chain. -/
theorem map_decl_chainBehind (embeddings : List String) (d : ClassDecl) :
    (d.chainBehind embeddings).map (·.decl) = d.ancestry := by
  induction d using superclass_induction generalizing embeddings with
  | step d ih =>
    rw [ancestry, chain, chainBehind_eq, chainBehind_eq [], List.map_cons, List.map_cons]
    cases hs : d.superclass with
    | none => rfl
    | some s => rw [Option.elim_some, Option.elim_some, ih s hs, ih s hs]

/-- What a class is made of upwards: itself, and what its superclass is made of. -/
theorem ancestry_eq (d : ClassDecl) : d.ancestry = d :: d.superclass.elim [] ancestry := by
  rw [ancestry, chain, chainBehind_eq, List.map_cons]
  cases d.superclass with
  | none => rfl
  | some s => rw [Option.elim_some, map_decl_chainBehind, Option.elim_some]

theorem mem_ancestry_iff :
    x ∈ d.ancestry ↔ x = d ∨ ∃ s, d.superclass = some s ∧ x ∈ s.ancestry := by
  rw [ancestry_eq, List.mem_cons]
  cases d.superclass with
  | none => simp
  | some s => simp

/-- The superclass of what a class is made of upwards is part of it. -/
theorem superclass_mem_ancestry (hx : x ∈ d.ancestry) (hy : x.superclass = some y) :
    y ∈ d.ancestry := by
  induction d using superclass_induction with
  | step d ih =>
    rcases mem_ancestry_iff.mp hx with rfl | ⟨s, hs, hx⟩
    · exact mem_ancestry_iff.mpr (Or.inr ⟨y, hy, mem_ancestry_iff.mpr (Or.inl rfl)⟩)
    · exact mem_ancestry_iff.mpr (Or.inr ⟨s, hs, ih s hs hx⟩)

theorem sizeOf_le_of_mem_ancestry (hx : x ∈ d.ancestry) : sizeOf x ≤ sizeOf d := by
  induction d using superclass_induction with
  | step d ih =>
    rcases mem_ancestry_iff.mp hx with rfl | ⟨s, hs, hx⟩
    · exact le_rfl
    · exact (ih s hs hx).trans (sizeOf_superclass_lt hs).le

/-- **Superclasses are smaller** than the classes that extend them. -/
theorem pairwise_ancestry (d : ClassDecl) :
    d.ancestry.Pairwise fun x y => sizeOf y < sizeOf x := by
  induction d using superclass_induction with
  | step d ih =>
    rw [ancestry_eq]
    cases hs : d.superclass with
    | none => exact List.pairwise_singleton ..
    | some s =>
      refine List.pairwise_cons.mpr ⟨fun x hx => ?_, ih s hs⟩
      exact (sizeOf_le_of_mem_ancestry hx).trans_lt (sizeOf_superclass_lt hs)

/-! ### Paths -/

/-- **Where a path leads to** from a list of declarations: its first number is a place in this list,
and each of the others one in the list of interfaces of the declaration before. -/
def follow : List ClassDecl → List Nat → Option ClassDecl
  | _, [] => none
  | xs, [i] => xs[i]?
  | xs, i :: j :: p => xs[i]?.bind fun x => follow x.interfaces (j :: p)

/-- **A path to a declaration** from a class and its superclasses. -/
def IsPath (d : ClassDecl) (p : List Nat) (x : ClassDecl) : Prop :=
  follow d.ancestry p = some x

/-- **No two declarations of a hierarchy have one serial number.** -/
def IsCoherent (d : ClassDecl) : Prop :=
  ∀ {p q : List Nat} {x y : ClassDecl}, d.IsPath p x → d.IsPath q y → x.serial = y.serial → x = y

/-- **One path is closer than another one**: it is shorter, or they are of one length and it turns
to an earlier place where they part. -/
abbrev IsCloser (p q : List Nat) : Prop :=
  List.Shortlex (· < ·) p q

theorem follow_concat {p : List Nat} (hp : p ≠ []) (xs : List ClassDecl) (j : Nat) :
    follow xs (p ++ [j]) = (follow xs p).bind fun x => x.interfaces[j]? := by
  induction p generalizing xs with
  | nil => exact absurd rfl hp
  | cons i p ih =>
    cases p with
    | nil => rfl
    | cons k p =>
      rw [List.cons_append, List.cons_append, follow, follow, Option.bind_assoc]
      refine congrArg _ (funext fun x => ?_)
      exact ih (List.cons_ne_nil _ _) x.interfaces

theorem IsPath.ne_nil {p : List Nat} (h : d.IsPath p x) : p ≠ [] := by
  rintro rfl
  cases h

/-- A path leads to one declaration. -/
theorem IsPath.unique {p : List Nat} (hx : d.IsPath p x) (hy : d.IsPath p y) : x = y :=
  Option.some.inj (hx.symm.trans hy)

/-- The last step of a path. -/
theorem isPath_concat_iff {p : List Nat} {j : Nat} (hp : p ≠ []) :
    d.IsPath (p ++ [j]) y ↔ ∃ x, d.IsPath p x ∧ x.interfaces[j]? = some y := by
  rw [IsPath, follow_concat hp, Option.bind_eq_some_iff]
  rfl

theorem isPath_singleton_iff {i : Nat} : d.IsPath [i] x ↔ d.ancestry[i]? = some x :=
  Iff.rfl

theorem exists_isPath_of_mem_ancestry (hx : x ∈ d.ancestry) : ∃ p, d.IsPath p x := by
  obtain ⟨i, hi⟩ := List.mem_iff_getElem?.mp hx
  exact ⟨[i], isPath_singleton_iff.mpr hi⟩

theorem exists_isPath_of_mem_interfaces (hx : ∃ p, d.IsPath p x) (hy : y ∈ x.interfaces) :
    ∃ p, d.IsPath p y := by
  obtain ⟨p, hp⟩ := hx
  obtain ⟨j, hj⟩ := List.mem_iff_getElem?.mp hy
  exact ⟨p ++ [j], (isPath_concat_iff hp.ne_nil).mpr ⟨x, hp, hj⟩⟩

/-- **Hierarchies are coherent** if all that they consist of is in a list in which no serial number
comes twice. -/
theorem isCoherent_of_forall_mem (xs : List ClassDecl) (hxs : (xs.map (·.serial)).Nodup)
    (hancestry : ∀ x ∈ d.ancestry, x ∈ xs) (hinterfaces : ∀ x ∈ xs, ∀ y ∈ x.interfaces, y ∈ xs) :
    d.IsCoherent := by
  have hmem : ∀ p x, d.IsPath p x → x ∈ xs := by
    intro p
    induction p using List.reverseRecOn with
    | nil => exact fun x hx => absurd rfl hx.ne_nil
    | append_singleton p j ih =>
      intro x hx
      rcases eq_or_ne p [] with rfl | hne
      · exact hancestry x (List.mem_of_getElem? (isPath_singleton_iff.mp hx))
      · obtain ⟨z, hz, hx⟩ := (isPath_concat_iff hne).mp hx
        exact hinterfaces z (ih z hz) x (List.mem_of_getElem? hx)
  intro p q x y hx hy hserial
  exact List.inj_on_of_nodup_map hxs (hmem p x hx) (hmem q y hy) hserial

/-! ### What is mentioned -/

/-- The entries of a list, with the paths to them if the list is found on a path. -/
def entries (p : List Nat) (xs : List ClassDecl) : List (List Nat × ClassDecl) :=
  xs.zipIdx.map fun xi => (p ++ [xi.2], xi.1)

/-- **What is mentioned** on paths that are not longer than a bound, with the paths: first the class
and its superclasses, and then the interfaces of what is mentioned on shorter paths. -/
def within (d : ClassDecl) : Nat → List (List Nat × ClassDecl)
  | 0 => entries [] d.ancestry
  | n + 1 => entries [] d.ancestry ++ (d.within n).flatMap fun px => entries px.1 px.2.interfaces

theorem mem_entries_iff {p : List Nat} {qx : List Nat × ClassDecl} :
    qx ∈ entries p xs ↔ ∃ i : Nat, qx.1 = p ++ [i] ∧ xs[i]? = some qx.2 := by
  simp only [entries, List.mem_map, List.mem_zipIdx_iff_getElem?]
  constructor
  · rintro ⟨xi, hx, rfl⟩
    exact ⟨xi.2, rfl, hx⟩
  · rintro ⟨i, hp, hx⟩
    exact ⟨(qx.2, i), hx, Prod.ext hp.symm rfl⟩

theorem map_snd_entries (p : List Nat) (xs : List ClassDecl) : (entries p xs).map (·.2) = xs := by
  rw [entries, List.map_map]
  exact List.zipIdx_map_fst 0 xs

/-- **A declaration is mentioned** if there is a path to it. -/
theorem mem_within_iff {n : Nat} {px : List Nat × ClassDecl} :
    px ∈ d.within n ↔ d.IsPath px.1 px.2 ∧ px.1.length ≤ n + 1 := by
  have hroot : ∀ px, px ∈ entries [] d.ancestry ↔ d.IsPath px.1 px.2 ∧ px.1.length ≤ 1 := by
    intro px
    rw [mem_entries_iff]
    constructor
    · rintro ⟨i, hp, hx⟩
      rw [hp]
      exact ⟨hx, le_rfl⟩
    · rintro ⟨hp, hlength⟩
      obtain ⟨i, hi⟩ := List.length_eq_one_iff.mp
        (hlength.antisymm (List.length_pos_iff.mpr hp.ne_nil))
      rw [hi] at hp ⊢
      exact ⟨i, rfl, hp⟩
  induction n generalizing px with
  | zero => exact hroot px
  | succ n ih =>
    simp only [within, List.mem_append, hroot, List.mem_flatMap, ih, mem_entries_iff]
    constructor
    · rintro (⟨hp, hlength⟩ | ⟨qx, ⟨hq, hlength⟩, j, hp, hy⟩)
      · exact ⟨hp, hlength.trans (Nat.le_add_left 1 _)⟩
      · rw [hp, isPath_concat_iff hq.ne_nil, List.length_append, List.length_singleton]
        exact ⟨⟨qx.2, hq, hy⟩, Nat.succ_le_succ hlength⟩
    · rintro ⟨hp, hlength⟩
      obtain ⟨q, j, hq⟩ := (List.eq_nil_or_concat' px.1).resolve_left hp.ne_nil
      rcases eq_or_ne q [] with rfl | hne
      · exact Or.inl ⟨hp, by rw [hq]; exact le_rfl⟩
      · rw [hq, List.length_append] at hlength
        rw [hq, isPath_concat_iff hne] at hp
        obtain ⟨x, hx, hy⟩ := hp
        exact Or.inr ⟨(q, x), ⟨hx, Nat.le_of_succ_le_succ hlength⟩, j, hq, hy⟩

/-- Of two paths of one length that part, neither comes closer by going on. -/
theorem lex_append {p q : List Nat} (h : List.Lex (· < ·) p q) (hlength : p.length = q.length)
    (r s : List Nat) : List.Lex (· < ·) (p ++ r) (q ++ s) := by
  induction h with
  | nil => cases hlength
  | cons _ ih => exact .cons (ih (Nat.succ.inj hlength))
  | rel h => exact .rel h

theorem IsCloser.concat {p q : List Nat} (h : IsCloser p q) (i j : Nat) :
    IsCloser (p ++ [i]) (q ++ [j]) := by
  rw [IsCloser, List.shortlex_def, List.length_append, List.length_append, List.length_singleton,
    List.length_singleton, Nat.add_lt_add_iff_right, Nat.add_right_cancel_iff]
  exact (List.shortlex_def.mp h).imp_right fun h => ⟨h.1, lex_append h.2 h.1 _ _⟩

/-- **The mentions are sorted by their paths.** -/
theorem pairwise_within (n : Nat) : (d.within n).Pairwise fun px qy => IsCloser px.1 qy.1 := by
  have hentries : ∀ p xs, (entries p xs).Pairwise fun px qy => IsCloser px.1 qy.1 := by
    intro p xs
    have hplaces : (xs.zipIdx.map (·.2)).Pairwise (· < ·) := by
      rw [List.zipIdx_map_snd]
      exact List.pairwise_lt_range'
    refine List.pairwise_map.mpr ((List.pairwise_map.mp hplaces).imp fun h => ?_)
    exact ((List.shortlex_singleton_iff ..).mpr h).append_left p
  induction n with
  | zero => exact hentries [] d.ancestry
  | succ n ih =>
    refine List.pairwise_append.mpr ⟨hentries _ _, ?_, ?_⟩
    · refine List.pairwise_flatMap.mpr ⟨fun px _ => hentries _ _, ih.imp fun {px qy} hcloser => ?_⟩
      intro px' hpx' qy' hqy'
      obtain ⟨i, hp, -⟩ := mem_entries_iff.mp hpx'
      obtain ⟨j, hq, -⟩ := mem_entries_iff.mp hqy'
      rw [hp, hq]
      exact hcloser.concat i j
    · intro px hpx qy hqy
      obtain ⟨i, hp, -⟩ := mem_entries_iff.mp hpx
      obtain ⟨qy', hqy', hqy⟩ := List.mem_flatMap.mp hqy
      obtain ⟨j, hq, -⟩ := mem_entries_iff.mp hqy
      have hpos := List.length_pos_iff.mpr (mem_within_iff.mp hqy').1.ne_nil
      rw [hp, hq]
      refine .of_length_lt ?_
      rw [List.length_append, List.length_append]
      exact Nat.add_lt_add_right hpos 1

theorem map_within_succ (n : Nat) : (d.within (n + 1)).map (·.2) =
    d.ancestry ++ ((d.within n).map (·.2)).flatMap (·.interfaces) := by
  rw [within, List.map_append, map_snd_entries, List.map_flatMap, List.flatMap_map]
  simp only [map_snd_entries]

/-! ### The order -/

/-- **One declaration comes before another one** in a hierarchy. -/
def Precedes (d x y : ClassDecl) : Prop :=
  [x, y].Sublist d.declarations

theorem precedes_or_precedes (hx : x ∈ d.declarations) (hy : y ∈ d.declarations) (hne : x ≠ y) :
    d.Precedes x y ∨ d.Precedes y x :=
  List.pair_sublist_or hx hy hne

theorem Precedes.left_mem (h : d.Precedes x y) : x ∈ d.declarations :=
  h.subset List.mem_cons_self

theorem Precedes.right_mem (h : d.Precedes x y) : y ∈ d.declarations :=
  h.subset (List.mem_cons_of_mem _ List.mem_cons_self)

variable (hd : d.IsCoherent)

include hd

theorem eq_of_mem_within {n : Nat} {p : List Nat} (hx : d.IsPath p x)
    (hy : y ∈ (d.within n).map (·.2)) (hserial : y.serial = x.serial) : y = x := by
  obtain ⟨qy, hqy, rfl⟩ := List.mem_map.mp hy
  exact hd (mem_within_iff.mp hqy).1 hx hserial

theorem nodup_ancestry : (d.ancestry.map (·.serial)).Nodup := by
  refine List.pairwise_map.mpr ((pairwise_ancestry d).imp_of_mem fun hx hy hlt hserial => ?_)
  obtain ⟨p, hp⟩ := exists_isPath_of_mem_ancestry hx
  obtain ⟨q, hq⟩ := exists_isPath_of_mem_ancestry hy
  rw [hd hp hq hserial] at hlt
  exact lt_irrefl _ hlt

/-- **A hierarchy is what is mentioned in the class and its superclasses, and in the hierarchy
itself**, without repetitions. -/
theorem declarations_eq_firsts :
    d.declarations = firsts [] (d.ancestry ++ d.declarations.flatMap (·.interfaces)) := by
  let seen := d.ancestry.map (·.serial)
  let queue := d.ancestry.flatMap (·.interfaces)
  have hancestry : firsts [] d.ancestry = d.ancestry := firsts_eq_self (by
    rw [List.append_nil]
    exact nodup_ancestry hd)
  calc d.declarations
    _ = d.ancestry ++ reached seen queue := declarations_eq d
    _ = d.ancestry ++ firsts seen (queue ++ (reached seen queue).flatMap (·.interfaces)) :=
      congrArg _ (reached_eq_firsts ..)
    _ = d.ancestry ++ firsts seen (d.declarations.flatMap (·.interfaces)) := by
      rw [declarations_eq, List.flatMap_append]
    _ = firsts [] (d.ancestry ++ d.declarations.flatMap (·.interfaces)) := by
      rw [firsts_append, hancestry, List.append_nil]

/-- **What is mentioned on paths of bounded length is a beginning of the hierarchy**, without
repetitions. -/
theorem isPrefix_firsts_within (n : Nat) :
    firsts [] ((d.within n).map (·.2)) <+: d.declarations := by
  induction n with
  | zero =>
    rw [declarations_eq_firsts hd, within, map_snd_entries]
    exact isPrefix_firsts (List.prefix_append ..)
  | succ n ih =>
    have hsame : ∀ x ∈ (d.within n).map (·.2), ∀ y ∈ (d.within n).map (·.2),
        x.serial = y.serial → x = y := by
      intro x hx y hy
      obtain ⟨qy, hqy, rfl⟩ := List.mem_map.mp hy
      exact eq_of_mem_within hd (mem_within_iff.mp hqy).1 hx
    rw [declarations_eq_firsts hd, map_within_succ, firsts_append,
      ← firsts_flatMap_firsts [] hsame fun x _ h => absurd h List.not_mem_nil,
      ← firsts_append]
    refine isPrefix_firsts ((List.prefix_append_right_inj _).mpr ?_)
    obtain ⟨zs, hzs⟩ := ih
    rw [← hzs, List.flatMap_append]
    exact List.prefix_append ..

/-- **The declarations that a class is made of are those that there are paths to.** -/
theorem mem_declarations_iff : x ∈ d.declarations ↔ ∃ p, d.IsPath p x := by
  constructor
  · have hancestry : ∀ y ∈ d.ancestry, ∃ p, d.IsPath p y := fun y => exists_isPath_of_mem_ancestry
    rw [declarations_eq, List.mem_append]
    rintro (hx | hx)
    · exact hancestry x hx
    · refine forall_mem_reached (P := fun y => ∃ p, d.IsPath p y)
        (fun y hy z => exists_isPath_of_mem_interfaces hy) (fun y hy => ?_) x hx
      obtain ⟨z, hz, hy⟩ := List.mem_flatMap.mp hy
      exact exists_isPath_of_mem_interfaces (hancestry z hz) hy
  · rintro ⟨p, hp⟩
    have hmem : (p, x) ∈ d.within p.length := mem_within_iff.mpr ⟨hp, Nat.le_succ _⟩
    exact (isPrefix_firsts_within hd p.length).subset (mem_firsts (List.mem_map_of_mem hmem)
      List.not_mem_nil fun y => eq_of_mem_within hd hp)

theorem nodup_declarations : (d.declarations.map (·.serial)).Nodup := by
  rw [declarations_eq_firsts hd]
  exact nodup_firsts.1

theorem Precedes.trans {z : ClassDecl} (h : d.Precedes x y) (h' : d.Precedes y z) :
    d.Precedes x z := by
  have hnodup : d.declarations.Nodup := (nodup_declarations hd).of_map _
  obtain ⟨before, after, hsplit, hx, hy⟩ := List.cons_sublist_iff.mp h
  rw [hsplit] at hnodup
  rw [Precedes, hsplit] at h' ⊢
  obtain ⟨before', after', hpair, hbefore, hafter⟩ := List.sublist_append_iff.mp h'
  cases before' with
  | nil =>
    rw [List.nil_append] at hpair
    have hz : z ∈ after := hafter.subset (hpair ▸ List.mem_cons_of_mem _ List.mem_cons_self)
    exact (List.singleton_sublist.mpr hx).append (List.singleton_sublist.mpr hz)
  | cons w before' =>
    rw [List.cons_append, List.cons.injEq] at hpair
    exact absurd (List.singleton_sublist.mp hy)
      (List.disjoint_of_nodup_append hnodup (hpair.1 ▸ hbefore.subset List.mem_cons_self))

theorem Precedes.not_precedes (h : d.Precedes x y) : ¬d.Precedes y x := fun h' =>
  List.nodup_iff_sublist.mp ((nodup_declarations hd).of_map _) x (h.trans hd h')

/-- What is reached on a path that is closer than all paths to another declaration comes first. -/
theorem precedes_of_isCloser {p : List Nat} (hp : d.IsPath p x) (hy : y ∈ d.declarations)
    (hcloser : ∀ q, d.IsPath q y → IsCloser p q) : d.Precedes x y := by
  obtain ⟨q, hq⟩ := (mem_declarations_iff hd).mp hy
  let n := p.length + q.length
  have hpx : (p, x) ∈ d.within n :=
    mem_within_iff.mpr ⟨hp, (Nat.le_add_right ..).trans (Nat.le_succ _)⟩
  have hqy : (q, y) ∈ d.within n :=
    mem_within_iff.mpr ⟨hq, (Nat.le_add_left ..).trans (Nat.le_succ _)⟩
  -- what is mentioned up to the path to the first declaration, and what is mentioned after it
  obtain ⟨before, after, hsplit⟩ := List.append_of_mem hpx
  rw [List.append_cons] at hsplit
  have hmap : (d.within n).map (·.2) = (before ++ [(p, x)]).map (·.2) ++ after.map (·.2) := by
    rw [hsplit, List.map_append]
  have hupto : ∀ rz ∈ before ++ [(p, x)], ¬IsCloser p rz.1 := by
    have hsorted := pairwise_within (d := d) n
    rw [hsplit, List.append_assoc, List.pairwise_append] at hsorted
    intro rz hrz hpr
    rcases List.mem_append.mp hrz with hrz | hrz
    · exact Std.Asymm.asymm _ _ hpr (hsorted.2.2 rz hrz (p, x) List.mem_cons_self)
    · rw [List.mem_singleton.mp hrz] at hpr
      exact Std.Asymm.asymm _ _ hpr hpr
  have hlater : y.serial ∉ ((before ++ [(p, x)]).map (·.2)).map (·.serial) := by
    intro h
    obtain ⟨z, hz, hserial⟩ := List.mem_map.mp h
    obtain ⟨rz, hrz, rfl⟩ := List.mem_map.mp hz
    have hr : d.IsPath rz.1 rz.2 :=
      (mem_within_iff.mp (hsplit ▸ List.mem_append_left after hrz)).1
    exact hupto rz hrz (hcloser rz.1 (hd hr hq hserial ▸ hr))
  have hx : x ∈ (before ++ [(p, x)]).map (·.2) :=
    List.mem_map_of_mem (List.mem_append_right _ List.mem_cons_self)
  have hy : y ∈ after.map (·.2) := by
    have hmem := List.mem_map_of_mem (f := (·.2)) hqy
    rw [hmap, List.mem_append] at hmem
    exact hmem.resolve_left fun h => hlater (List.mem_map_of_mem h)
  have hpair : [x, y].Sublist (firsts [] ((d.within n).map (·.2))) := by
    rw [hmap]
    refine pair_sublist_firsts hx hy hlater fun z hz w hw => ?_
    rw [← hmap] at hz
    rcases List.mem_cons.mp hw with rfl | hw
    · exact eq_of_mem_within hd hp hz
    · exact List.mem_singleton.mp hw ▸ eq_of_mem_within hd hq hz
  exact hpair.trans (isPrefix_firsts_within hd n).sublist

omit hd in
/-- Of two paths to different declarations one is closer. -/
theorem isCloser_of_not_isCloser {p q : List Nat} (hp : d.IsPath p x) (hq : d.IsPath q y)
    (hne : x ≠ y) (h : ¬IsCloser q p) : IsCloser p q := by
  by_contra hnot
  obtain rfl := Std.Trichotomous.trichotomous p q hnot h
  exact hne (hp.unique hq)

/-- **Of two declarations the one on the closest path comes first.** -/
theorem precedes_iff (hx : x ∈ d.declarations) (hy : y ∈ d.declarations) (hne : x ≠ y) :
    d.Precedes x y ↔ ∃ p, d.IsPath p x ∧ ∀ q, d.IsPath q y → IsCloser p q := by
  constructor
  · intro h
    -- the closest of all paths to one of the two
    obtain ⟨p, hp⟩ := (mem_declarations_iff hd).mp hx
    obtain ⟨r, hr, hclosest⟩ := (List.Shortlex.wf Nat.lt_wfRel.wf).has_min
      {r | d.IsPath r x ∨ d.IsPath r y} ⟨p, Or.inl hp⟩
    rcases hr with hr | hr
    · exact ⟨r, hr, fun q hq => isCloser_of_not_isCloser hr hq hne (hclosest q (Or.inr hq))⟩
    · refine absurd h ((precedes_of_isCloser hd hr hx fun q hq => ?_).not_precedes hd)
      exact isCloser_of_not_isCloser hr hq hne.symm (hclosest q (Or.inl hq))
  · rintro ⟨p, hp, hcloser⟩
    exact precedes_of_isCloser hd hp hy hcloser

end ClassDecl

end WideColumn

import Mathlib
import WideColumn.Proofs.Mapping.Access

/-!
# A class that embeds its superclass

What a class inherits from its superclass does not depend on the other interfaces that the class
has, as far as these do not declare the same properties
(`WideColumn.ClassDecl.LeavesAlone`): the declarations of such a property are those that the
superclass has, and in the same order (`WideColumn.ClassDecl.filter_declarations`), since the paths
to them are those of the superclass with one more step at the beginning. So all that the members of
the property say is the same.

The slots are not. A member of a class up the chain is found in the instance that is embedded, behind
one more embedding. The way to a member of an interface leads through no embeddings at all, so that
it is looked for in the instance of the class itself, also where the interface is one of the
superclass (`WideColumn.Descriptor.not_forall_get_iff_of_embeds`).

* `WideColumn.ClassDecl.filter_declarations`: **the declarations of what is inherited**;
* `WideColumn.ClassDecl.embeddingsTo`: the embeddings on the way to a declaration;
* `WideColumn.Draft.membersOfProperty_of_leavesAlone`: the members of what is inherited;
* `WideColumn.Descriptor.property_of_embeds`: **what becomes of a property in a class that embeds**.
-/

namespace WideColumn

namespace ClassDecl

variable {d s x y : ClassDecl} {name : String} {p q : List Nat} {i j : Nat}

/-! ### Paths of a class and of its superclass -/

theorem ancestry_of_superclass (hs : d.superclass = some s) : d.ancestry = d :: s.ancestry := by
  rw [ancestry_eq, hs, Option.elim_some]

theorem follow_cons_succ (x : ClassDecl) (xs : List ClassDecl) :
    follow (x :: xs) ((i + 1) :: p) = follow xs (i :: p) := by
  cases p with
  | nil => exact List.getElem?_cons_succ
  | cons j p =>
    rw [follow, follow, List.getElem?_cons_succ]

/-- **A path of the superclass is one of the class**, with one more step up the chain. -/
theorem isPath_succ_iff (hs : d.superclass = some s) :
    d.IsPath ((i + 1) :: p) x ↔ s.IsPath (i :: p) x := by
  rw [IsPath, IsPath, ancestry_of_superclass hs, follow_cons_succ]

theorem isCloser_succ_iff : IsCloser ((i + 1) :: p) ((j + 1) :: q) ↔ IsCloser (i :: p) (j :: q) := by
  rw [IsCloser, IsCloser, List.shortlex_def, List.shortlex_def, List.cons_lex_cons_iff,
    List.cons_lex_cons_iff, Nat.add_lt_add_iff_right, Nat.add_right_cancel_iff]
  rfl

theorem IsCoherent.of_superclass (hd : d.IsCoherent) (hs : d.superclass = some s) :
    s.IsCoherent := by
  intro p q x y hp hq hserial
  cases p with
  | nil => exact absurd rfl hp.ne_nil
  | cons i p =>
    cases q with
    | nil => exact absurd rfl hq.ne_nil
    | cons j q => exact hd ((isPath_succ_iff hs).mpr hp) ((isPath_succ_iff hs).mpr hq) hserial

/-- **The declarations of the superclass are among those of the class.** -/
theorem mem_declarations_of_superclass (hd : d.IsCoherent) (hs : d.superclass = some s)
    (hx : x ∈ s.declarations) : x ∈ d.declarations := by
  obtain ⟨p, hp⟩ := (mem_declarations_iff (hd.of_superclass hs)).mp hx
  cases p with
  | nil => exact absurd rfl hp.ne_nil
  | cons i p => exact (mem_declarations_iff hd).mpr ⟨(i + 1) :: p, (isPath_succ_iff hs).mpr hp⟩

/-! ### What a class declares itself -/

/-- **An interface that a class has itself**, perhaps through others. -/
def IsOwnInterface (d x : ClassDecl) : Prop :=
  ∃ i ∈ d.interfaces, Relation.ReflTransGen (fun y z : ClassDecl => z ∈ y.interfaces) i x

/-- **A class leaves a property alone**: neither the class itself nor an interface of its own
declares it. -/
def LeavesAlone (d : ClassDecl) (name : String) : Prop :=
  ¬d.declares name ∧ ∀ x, d.IsOwnInterface x → ¬x.declares name

theorem exists_reflTransGen_of_follow {xs : List ClassDecl} (h : follow xs p = some x) :
    ∃ i ∈ xs, Relation.ReflTransGen (fun y z : ClassDecl => z ∈ y.interfaces) i x := by
  induction p generalizing xs with
  | nil => cases h
  | cons i p ih =>
    cases p with
    | nil => exact ⟨x, List.mem_of_getElem? h, .refl⟩
    | cons j p =>
      obtain ⟨y, hy, hx⟩ := Option.bind_eq_some_iff.mp h
      obtain ⟨z, hz, hreach⟩ := ih hx
      exact ⟨y, List.mem_of_getElem? hy, .head hz hreach⟩

/-- What declares a property that the class leaves alone is found by way of the superclass only. -/
theorem LeavesAlone.exists_eq_succ (h : d.LeavesAlone name) (hs : d.superclass = some s)
    (hp : d.IsPath p x) (hx : x.declares name) : ∃ i q, p = (i + 1) :: q ∧ s.IsPath (i :: q) x := by
  cases p with
  | nil => exact absurd rfl hp.ne_nil
  | cons i p =>
    cases i with
    | succ i => exact ⟨i, p, rfl, (isPath_succ_iff hs).mp hp⟩
    | zero =>
      rw [IsPath, ancestry_of_superclass hs] at hp
      cases p with
      | nil =>
        obtain rfl := Option.some.inj hp
        exact absurd hx h.1
      | cons j p => exact absurd hx (h.2 x (exists_reflTransGen_of_follow hp))

section Inherited

variable (hd : d.IsCoherent) (hs : d.superclass = some s) (h : d.LeavesAlone name)

include hd hs h

theorem mem_declarations_iff_of_leavesAlone (hx : x.declares name) :
    x ∈ d.declarations ↔ x ∈ s.declarations := by
  constructor
  · intro hmem
    obtain ⟨p, hp⟩ := (mem_declarations_iff hd).mp hmem
    obtain ⟨i, q, -, hq⟩ := h.exists_eq_succ hs hp hx
    exact (mem_declarations_iff (hd.of_superclass hs)).mpr ⟨i :: q, hq⟩
  · exact mem_declarations_of_superclass hd hs

/-- The declarations of what is inherited stay in their order. -/
theorem precedes_of_leavesAlone (hx : x.declares name) (hy : y.declares name)
    (hxy : s.Precedes x y) : d.Precedes x y := by
  have hsc : s.IsCoherent := hd.of_superclass hs
  have hne : x ≠ y := by
    rintro rfl
    exact hxy.not_precedes hsc hxy
  obtain ⟨p, hp, hcloser⟩ := (precedes_iff hsc hxy.left_mem hxy.right_mem hne).mp hxy
  have hxd := (mem_declarations_iff_of_leavesAlone hd hs h hx).mpr hxy.left_mem
  have hyd := (mem_declarations_iff_of_leavesAlone hd hs h hy).mpr hxy.right_mem
  refine (precedes_iff hd hxd hyd hne).mpr ?_
  cases p with
  | nil => exact absurd rfl hp.ne_nil
  | cons i p =>
    refine ⟨(i + 1) :: p, (isPath_succ_iff hs).mpr hp, fun q hq => ?_⟩
    obtain ⟨j, r, rfl, hr⟩ := h.exists_eq_succ hs hq hy
    exact isCloser_succ_iff.mpr (hcloser _ hr)

/-- **The declarations of what is inherited are those of the superclass**, in the same order. -/
theorem filter_declarations :
    d.declarations.filter (·.declares name) = s.declarations.filter (·.declares name) := by
  have hsc : s.IsCoherent := hd.of_superclass hs
  have hnodup : ∀ {c : ClassDecl}, c.IsCoherent →
      (c.declarations.filter (·.declares name)).Nodup := by
    intro c hc
    exact ((nodup_declarations hc).of_map _).filter _
  have hperm : (d.declarations.filter (·.declares name)).Perm
      (s.declarations.filter (·.declares name)) := by
    refine (List.perm_ext_iff_of_nodup (hnodup hd) (hnodup hsc)).mpr fun x => ?_
    rw [List.mem_filter, List.mem_filter]
    exact and_congr_left fun hx => mem_declarations_iff_of_leavesAlone hd hs h hx
  have hsorted : (d.declarations.filter (·.declares name)).Pairwise d.Precedes :=
    List.pairwise_iff_forall_sublist.mpr fun hxy => hxy.trans List.filter_sublist
  have hsorted' : (s.declarations.filter (·.declares name)).Pairwise d.Precedes := by
    refine List.pairwise_iff_forall_sublist.mpr fun {x y} hxy => ?_
    have hx := (List.mem_filter.mp (hxy.subset List.mem_cons_self)).2
    have hy := (List.mem_filter.mp (hxy.subset (List.mem_cons_of_mem _ List.mem_cons_self))).2
    exact precedes_of_leavesAlone hd hs h hx hy (hxy.trans List.filter_sublist)
  exact hperm.eq_of_pairwise (fun x y _ _ hxy hyx => absurd hyx (hxy.not_precedes hd))
    hsorted hsorted'

end Inherited

/-! ### Embeddings -/

/-- **The embeddings on the way to a declaration**: those up to the class of the chain that it is,
and none to an interface. -/
def embeddingsTo (d x : ClassDecl) : List String :=
  ((d.chain.find? fun l => l.decl.serial == x.serial).map (·.embeddings)).getD []

theorem embeddingsTo_of_forall_ne (h : ∀ y ∈ d.ancestry, y.serial ≠ x.serial) :
    d.embeddingsTo x = [] := by
  have hnone : (d.chain.find? fun l => l.decl.serial == x.serial) = none := by
    refine List.find?_eq_none.mpr fun l hl => ?_
    simpa using h l.decl (List.mem_map_of_mem hl)
  rw [embeddingsTo, hnone]
  rfl

/-- **A level is a declaration with the embeddings on the way to it.** -/
theorem embeddings_eq_embeddingsTo (hd : d.IsCoherent) {l : Level} (hl : l ∈ d.levels) :
    l.embeddings = d.embeddingsTo l.decl := by
  have hchain : (d.chain.map (·.decl.serial)).Nodup := by
    have hancestry := nodup_ancestry hd
    rwa [ancestry, List.map_map] at hancestry
  rcases List.mem_append.mp hl with hl | hl
  · rw [embeddingsTo, List.find?_eq_some_of_nodup_map hchain hl]
    rfl
  · obtain ⟨x, hx, rfl⟩ := List.mem_map.mp hl
    refine (embeddingsTo_of_forall_ne fun y hy hserial => ?_).symm
    have hnodup := nodup_declarations hd
    rw [declarations_eq, List.map_append] at hnodup
    have hx' : x ∈ reached (d.ancestry.map (·.serial)) (d.ancestry.flatMap (·.interfaces)) := by
      rw [ancestry, List.map_map, List.flatMap_map]
      exact hx
    exact List.disjoint_of_nodup_append hnodup (hserial ▸ List.mem_map_of_mem hy)
      (List.mem_map_of_mem hx')

/-- There are no embeddings on the way to an interface. -/
theorem embeddingsTo_of_not_mem_ancestry (hd : d.IsCoherent) (hx : x ∈ d.declarations)
    (hnot : x ∉ d.ancestry) : d.embeddingsTo x = [] := by
  refine embeddingsTo_of_forall_ne fun y hy hserial => ?_
  obtain ⟨p, hp⟩ := exists_isPath_of_mem_ancestry hy
  obtain ⟨q, hq⟩ := (mem_declarations_iff hd).mp hx
  exact hnot (hd hp hq hserial ▸ hy)

theorem levels_eq (hd : d.IsCoherent) :
    d.levels = d.declarations.map fun x => ⟨x, d.embeddingsTo x⟩ := by
  rw [declarations, List.map_map]
  refine (List.map_id _).symm.trans (List.map_congr_left fun l hl => ?_)
  exact congrArg (Level.mk l.decl) (embeddings_eq_embeddingsTo hd hl)

theorem chainBehind_eq_map (embeddings : List String) (d : ClassDecl) :
    d.chainBehind embeddings = d.chain.map fun l => ⟨l.decl, embeddings ++ l.embeddings⟩ := by
  induction d using superclass_induction generalizing embeddings with
  | step d ih =>
    rw [chain, chainBehind_eq, chainBehind_eq [], List.map_cons, List.append_nil]
    cases hs : d.superclass with
    | none => rfl
    | some s =>
      rw [Option.elim_some, Option.elim_some, ih s hs, ih s hs ([] ++ _), List.map_map]
      simp only [Function.comp_def, List.nil_append, List.append_assoc]

/-- **The way to a class up the chain leads through the base** that a class embeds. -/
theorem embeddingsTo_of_mem_ancestry (hd : d.IsCoherent) (hs : d.superclass = some s)
    (hx : x ∈ s.ancestry) : d.embeddingsTo x = d.embeddedIn.toList ++ s.embeddingsTo x := by
  have hne : d.serial ≠ x.serial := by
    have hnodup := nodup_ancestry hd
    rw [ancestry_of_superclass hs, List.map_cons, List.nodup_cons] at hnodup
    exact fun h => hnodup.1 (h ▸ List.mem_map_of_mem hx)
  obtain ⟨l, hl, rfl⟩ := List.mem_map.mp hx
  have hfound : (s.chain.find? fun l' => l'.decl.serial == l.decl.serial).isSome :=
    List.find?_isSome.mpr ⟨l, hl, beq_self_eq_true _⟩
  obtain ⟨l', hl'⟩ := Option.isSome_iff_exists.mp hfound
  rw [embeddingsTo, embeddingsTo, chain, chainBehind_eq, hs, Option.elim_some, List.nil_append,
    List.find?_cons_of_neg (by simpa using hne), chainBehind_eq_map, List.find?_map, hl']
  simp only [Function.comp_def, hl']
  rfl

end ClassDecl

namespace Draft

variable {d s : ClassDecl} {name : String}

/-! ### Members -/

/-- A level with the embeddings on the way to it in another hierarchy. -/
def relevel (d : ClassDecl) (lm : Level × Member) : Level × Member :=
  (⟨lm.1.decl, d.embeddingsTo lm.1.decl⟩, lm.2)

theorem scan_map_relevel (levels : List Level) :
    scan (levels.map fun l => ⟨l.decl, d.embeddingsTo l.decl⟩) = (scan levels).map (relevel d) := by
  simp only [scan, membersOf, List.map_append, List.map_flatMap, List.flatMap_map, List.map_map]
  rfl

/-- Only declarations of a property have members of it. -/
theorem membersOfProperty_scan_filter (levels : List Level) :
    membersOfProperty name (scan (levels.filter fun l => l.decl.declares name)) =
      membersOfProperty name (scan levels) := by
  have hform : ∀ origin,
      membersOfProperty name (membersOf origin (levels.filter fun l => l.decl.declares name)) =
        membersOfProperty name (membersOf origin levels) := by
    intro origin
    induction levels with
    | nil => rfl
    | cons l levels ih =>
      by_cases hl : l.decl.declares name
      · rw [List.filter_cons, if_pos hl, membersOf, membersOf, List.flatMap_cons, List.flatMap_cons,
          membersOfProperty, List.filter_append, membersOfProperty, List.filter_append]
        exact congrArg _ ih
      · have hnone : (((l.decl.members.filter fun m => m.origin == origin).map
            fun m => (l, m)).filter fun lm => lm.2.property == name) = [] := by
          refine List.filter_eq_nil_iff.mpr fun lm hlm hname => hl ?_
          obtain ⟨m, hm, rfl⟩ := List.mem_map.mp hlm
          exact List.any_eq_true.mpr ⟨m, (List.mem_filter.mp hm).1, hname⟩
        rw [List.filter_cons, if_neg hl, ih, membersOf, membersOf, List.flatMap_cons,
          membersOfProperty, membersOfProperty, List.filter_append, hnone, List.nil_append]
  simp only [scan, membersOfProperty, List.filter_append] at hform ⊢
  rw [hform, hform, hform]

/-- **The members of what is inherited** are those of the superclass, behind other embeddings. -/
theorem membersOfProperty_of_leavesAlone (hd : d.IsCoherent) (hs : d.superclass = some s)
    (h : d.LeavesAlone name) :
    membersOfProperty name (scan d.levels) =
      (membersOfProperty name (scan s.levels)).map (relevel d) := by
  have hlevels : (d.levels.filter fun l => l.decl.declares name) =
      (s.levels.filter fun l => l.decl.declares name).map
        fun l => ⟨l.decl, d.embeddingsTo l.decl⟩ := by
    have hdecls : (s.levels.filter fun l => l.decl.declares name).map (·.decl) =
        s.declarations.filter (·.declares name) := by
      rw [ClassDecl.declarations, List.filter_map]
      rfl
    calc (d.levels.filter fun l => l.decl.declares name)
      _ = (d.declarations.filter (·.declares name)).map fun x => ⟨x, d.embeddingsTo x⟩ := by
        rw [ClassDecl.levels_eq hd, List.filter_map]
        rfl
      _ = ((s.levels.filter fun l => l.decl.declares name).map (·.decl)).map
          fun x => ⟨x, d.embeddingsTo x⟩ := by
        rw [ClassDecl.filter_declarations hd hs h, hdecls]
      _ = _ := List.map_map ..
  rw [← membersOfProperty_scan_filter d.levels, hlevels, scan_map_relevel, membersOfProperty,
    List.filter_map, ← membersOfProperty_scan_filter s.levels]
  rfl

/-- Members are bound in the same way behind other embeddings. -/
theorem firstBound_map_relevel {f g : Level × Member → Option Route}
    (hf : ∀ lm, (f (relevel d lm)).isSome = (f lm).isSome)
    (hg : ∀ lm, (g (relevel d lm)).isSome = (g lm).isSome) (lms : List (Level × Member)) :
    firstBound f g (lms.map (relevel d)) = (firstBound f g lms).map (relevel d) := by
  rw [firstBound, firstBound, List.find?_map, List.find?_map]
  simp only [Function.comp_def, hf, hg]
  cases lms.find? fun lm => (f lm).isSome <;> rfl

theorem mem_of_firstBound {f g : Level × Member → Option Route} {lms : List (Level × Member)}
    {lm : Level × Member} (h : firstBound f g lms = some lm) : lm ∈ lms := by
  rw [firstBound] at h
  cases hfirst : lms.find? fun lm => (f lm).isSome with
  | some lm' =>
    rw [hfirst] at h
    obtain rfl := Option.some.inj h
    exact List.mem_of_find?_eq_some hfirst
  | none =>
    rw [hfirst] at h
    exact List.mem_of_find?_eq_some h

/-- A member is bound behind other embeddings exactly if it is bound. -/
theorem isSome_boundFrom_relevel (slot? : Member → Option SlotRef) (origin : MemberOrigin)
    (lm : Level × Member) :
    (boundFrom slot? origin (relevel d lm)).isSome = (boundFrom slot? origin lm).isSome := by
  rw [boundFrom, boundFrom, relevel]
  split_ifs
  · rw [Option.isSome_map, Option.isSome_map]
  · rfl

/-- **What is inherited is read through the same member** as in the superclass. -/
theorem readingMember?_of_leavesAlone (hd : d.IsCoherent) (hs : d.superclass = some s)
    (h : d.LeavesAlone name) :
    readingMember? d.levels name = (readingMember? s.levels name).map (relevel d) := by
  rw [readingMember?, membersOfProperty_of_leavesAlone hd hs h]
  exact firstBound_map_relevel (isSome_boundFrom_relevel (·.reader) .getter)
    (isSome_boundFrom_relevel (·.reader) .field) _

/-- It is written through the same member. -/
theorem writingMember?_of_leavesAlone (hd : d.IsCoherent) (hs : d.superclass = some s)
    (h : d.LeavesAlone name) :
    writingMember? d.levels name = (writingMember? s.levels name).map (relevel d) := by
  rw [writingMember?, membersOfProperty_of_leavesAlone hd hs h]
  exact firstBound_map_relevel (isSome_boundFrom_relevel (·.writer) .setter)
    (isSome_boundFrom_relevel (·.writer) .field) _

/-- **All that is said about what is inherited** is what is said in the superclass, slots aside. -/
theorem declared_of_leavesAlone (hd : d.IsCoherent) (hs : d.superclass = some s)
    (h : d.LeavesAlone name) :
    declared d.levels name = { declared s.levels name with
      getter := (declared d.levels name).getter
      setter := (declared d.levels name).setter
      fieldReader := (declared d.levels name).fieldReader
      fieldWriter := (declared d.levels name).fieldWriter } := by
  rw [declared, declared, membersOfProperty_of_leavesAlone hd hs h, ofMembers, ofMembers,
    List.flatMap_map, List.findSome?_map, List.findSome?_map, List.findSome?_map]
  rfl

end Draft

/-! ### Routes -/

/-- A route behind one more embedding. -/
def Route.behind (t : String) (r : Route) : Route :=
  ⟨t :: r.embeddings, r.target⟩

namespace Property

variable {p q : Property} {t : String} {e b e' : Entity} {v : Value}

/-- **A property behind one more embedding has the value that it has in the base.** -/
theorem get_of_behind (hreader : q.reader = p.reader.map (Route.behind t))
    (hb : Route.project? t e = some b) : q.get e = .ok v ↔ p.get b = .ok v := by
  have hread : ∀ r : Route, (r.behind t).read e = r.read b := by
    intro r
    rw [Route.read, Route.behind, Route.reach, hb, Route.read]
  rw [get_eq_ok_iff, get_eq_ok_iff, hreader]
  simp only [Option.map_eq_some_iff, exists_exists_and_eq_and, hread]

theorem get_of_same (hreader : q.reader = p.reader) : q.get e = .ok v ↔ p.get e = .ok v := by
  rw [get_eq_ok_iff, get_eq_ok_iff, hreader]

/-- **It is written by writing the base**, and nothing else is changed. -/
theorem set_of_behind (hwriter : q.writer = p.writer.map (Route.behind t))
    (hb : Route.project? t e = some b) :
    q.set e v = .ok e' ↔ ∃ b', p.set b v = .ok b' ∧ e' = e.withBase b' := by
  have hwrite : ∀ r : Route, (r.behind t).write e v = (r.write b v).map e.withBase := by
    intro r
    rw [Route.write, Route.behind, Route.change, hb, Route.write]
    dsimp only
    cases Route.change (r.target.write v) r.embeddings b <;> rfl
  simp only [set_eq_ok_iff, hwriter, Option.map_eq_some_iff, exists_exists_and_eq_and, hwrite,
    Except.map_eq_ok_iff]
  constructor
  · rintro ⟨r, hr, b', hb', rfl⟩
    exact ⟨b', ⟨r, hr, hb'⟩, rfl⟩
  · rintro ⟨b', ⟨r, hr, hb'⟩, rfl⟩
    exact ⟨r, hr, b', hb', rfl⟩

theorem set_of_same (hwriter : q.writer = p.writer) : q.set e v = .ok e' ↔ p.set e v = .ok e' := by
  rw [set_eq_ok_iff, set_eq_ok_iff, hwriter]

end Property

namespace Draft

variable {d s : ClassDecl} {t name : String}

/-- **The way to what is inherited** leads through the embedding of the class, if it is a member of a
class up the chain, and through no embedding if it is one of an interface. -/
theorem route_relevel (hd : d.IsCoherent) (hs : d.superclass = some s)
    (ht : d.embeddedIn = some t) (h : d.LeavesAlone name) (member? : Option (Level × Member))
    (hmember : ∀ lm, member? = some lm → lm ∈ membersOfProperty name (scan s.levels))
    (slot? : Member → Option SlotRef) :
    ((∀ lm, member? = some lm → lm.1.decl ∈ s.ancestry) →
      ((member?.map (relevel d)).bind fun lm => (slot? lm.2).map lm.1.route) =
        (member?.bind fun lm => (slot? lm.2).map lm.1.route).map (Route.behind t)) ∧
    ((∀ lm, member? = some lm → lm.1.decl ∉ s.ancestry) →
      ((member?.map (relevel d)).bind fun lm => (slot? lm.2).map lm.1.route) =
        member?.bind fun lm => (slot? lm.2).map lm.1.route) := by
  cases member? with
  | none => exact ⟨fun _ => rfl, fun _ => rfl⟩
  | some lm =>
    have hmem := List.mem_filter.mp (hmember lm rfl)
    have hl : lm.1 ∈ s.levels := (mem_scan_iff.mp hmem.1).1
    have hdeclares : lm.1.decl.declares name :=
      List.any_eq_true.mpr ⟨lm.2, (mem_scan_iff.mp hmem.1).2, hmem.2⟩
    have hsc : s.IsCoherent := hd.of_superclass hs
    have hs' : lm.1.decl ∈ s.declarations := List.mem_map_of_mem hl
    have hembeddings := ClassDecl.embeddings_eq_embeddingsTo hsc hl
    constructor
    · intro hx
      have hway : d.embeddingsTo lm.1.decl = t :: lm.1.embeddings := by
        rw [hembeddings, ClassDecl.embeddingsTo_of_mem_ancestry hd hs (hx lm rfl), ht]
        rfl
      rw [Option.map_some, Option.bind_some, Option.bind_some, Option.map_map, relevel, hway]
      rfl
    · intro hx
      have hd' : lm.1.decl ∈ d.declarations :=
        (ClassDecl.mem_declarations_iff_of_leavesAlone hd hs h hdeclares).mpr hs'
      have hnot : lm.1.decl ∉ d.ancestry := by
        rw [ClassDecl.ancestry_of_superclass hs, List.mem_cons, not_or]
        exact ⟨fun heq => h.1 (heq ▸ hdeclares), hx lm rfl⟩
      have hway : d.embeddingsTo lm.1.decl = lm.1.embeddings := by
        rw [hembeddings, ClassDecl.embeddingsTo_of_not_mem_ancestry hsc hs' (hx lm rfl),
          ClassDecl.embeddingsTo_of_not_mem_ancestry hd hd' hnot]
      rw [Option.map_some, Option.bind_some, Option.bind_some, relevel, hway]

end Draft

/-! ### A class that embeds its superclass -/

namespace Descriptor

variable {d s : ClassDecl} {t : String} {kind : MappingKind} {config : Config}
  {desc base : Descriptor} {p : Property}

/-- **What becomes of a property of the superclass in a class that embeds it**, where the class
leaves it alone. All that is said about it stays. Read or written through a member of a class up the
chain, it is what it is in the base; read or written through a member of an interface, it is what the
property of the superclass is in the instance itself. -/
theorem property_of_embeds (hd : d.IsCoherent) (hs : d.superclass = some s)
    (ht : d.embeddedIn = some t) (hkind : kind ≠ .accessor)
    (hdesc : (build d kind config).result = .ok desc)
    (hbase : (build s kind config).result = .ok base) (hp : p ∈ base.properties)
    (h : d.LeavesAlone p.name) :
    ∃ q ∈ desc.properties, q.name = p.name ∧
      (q.columnName = p.columnName ∧ q.role = p.role ∧ q.position = p.position ∧
        q.appType = p.appType ∧ q.frozen = p.frozen ∧ q.customCodec = p.customCodec) ∧
      ((∀ lm, Draft.readingMember? s.levels p.name = some lm → lm.1.decl ∈ s.ancestry) →
        ∀ e b, Route.project? t e = some b → ∀ v, q.get e = .ok v ↔ p.get b = .ok v) ∧
      ((∀ lm, Draft.readingMember? s.levels p.name = some lm → lm.1.decl ∉ s.ancestry) →
        ∀ e v, q.get e = .ok v ↔ p.get e = .ok v) ∧
      ((∀ lm, Draft.writingMember? s.levels p.name = some lm → lm.1.decl ∈ s.ancestry) →
        ∀ e b, Route.project? t e = some b → ∀ v e', q.set e v = .ok e' ↔
          ∃ b', p.set b v = .ok b' ∧ e' = e.withBase b') ∧
      ((∀ lm, Draft.writingMember? s.levels p.name = some lm → lm.1.decl ∉ s.ancestry) →
        ∀ e v e', q.set e v = .ok e' ↔ p.set e v = .ok e') := by
  obtain ⟨hname, hdeclared⟩ := (mem_properties_iff hkind hbase).mp hp
  obtain ⟨l, hl, hdeclares⟩ := Draft.mem_names_iff.mp hname
  have hname' : p.name ∈ Draft.names d.levels := by
    have hmem : l.decl ∈ d.declarations :=
      (ClassDecl.mem_declarations_iff_of_leavesAlone hd hs h hdeclares).mpr (List.mem_map_of_mem hl)
    obtain ⟨l', hl', heq⟩ := List.mem_map.mp hmem
    exact Draft.mem_names_iff.mpr ⟨l', hl', heq ▸ hdeclares⟩
  let q : Property := d.property p.name
  have hq : q ∈ desc.properties := (mem_properties_iff hkind hdesc).mpr ⟨hname', rfl⟩
  have hreader : p.reader = (Draft.readingMember? s.levels p.name).bind
      fun lm => lm.2.reader.map lm.1.route := by
    rw [← Draft.reader_declared]
    exact congrArg Property.reader hdeclared.symm
  have hwriter : p.writer = (Draft.writingMember? s.levels p.name).bind
      fun lm => lm.2.writer.map lm.1.route := by
    rw [← Draft.writer_declared]
    exact congrArg Property.writer hdeclared.symm
  have hreader' : q.reader = ((Draft.readingMember? s.levels p.name).map (Draft.relevel d)).bind
      fun lm => lm.2.reader.map lm.1.route := by
    rw [← Draft.readingMember?_of_leavesAlone hd hs h, ← Draft.reader_declared]
    rfl
  have hwriter' : q.writer = ((Draft.writingMember? s.levels p.name).map (Draft.relevel d)).bind
      fun lm => lm.2.writer.map lm.1.route := by
    rw [← Draft.writingMember?_of_leavesAlone hd hs h, ← Draft.writer_declared]
    rfl
  obtain ⟨hread, hread'⟩ := Draft.route_relevel hd hs ht h
    (Draft.readingMember? s.levels p.name) (fun lm => Draft.mem_of_firstBound) (·.reader)
  obtain ⟨hwrite, hwrite'⟩ := Draft.route_relevel hd hs ht h
    (Draft.writingMember? s.levels p.name) (fun lm => Draft.mem_of_firstBound) (·.writer)
  rw [← hreader, ← hreader'] at hread hread'
  rw [← hwriter, ← hwriter'] at hwrite hwrite'
  have hsays : q.columnName = p.columnName ∧ q.role = p.role ∧ q.position = p.position ∧
      q.appType = p.appType ∧ q.frozen = p.frozen ∧ q.customCodec = p.customCodec := by
    have hsame : q = Property.described d.name _ :=
      congrArg (Property.described d.name) (Draft.declared_of_leavesAlone hd hs h)
    rw [hsame, ← hdeclared]
    exact ⟨rfl, rfl, rfl, rfl, rfl, rfl⟩
  exact ⟨q, hq, rfl, hsays,
    fun hx e b hb v => Property.get_of_behind (hread hx) hb,
    fun hx e v => Property.get_of_same (hread' hx),
    fun hx e b hb v e' => Property.set_of_behind (hwrite hx) hb,
    fun hx e v e' => Property.set_of_same (hwrite' hx)⟩

/-! ### A member of an interface of the superclass -/

open Samples

theorem isCoherent_meter : meter.IsCoherent := by
  have hancestry : meter.ancestry = [meter, counter] := rfl
  refine @ClassDecl.isCoherent_of_forall_mem meter [meter, counter, counted] ?_ ?_ ?_
  · exact (by decide : [3, 2, 1].Nodup)
  · intro x hx
    rw [hancestry] at hx
    exact List.mem_append_left [counted] hx
  · intro x hx y hy
    rw [List.mem_cons, List.mem_cons, List.mem_singleton] at hx
    rcases hx with rfl | rfl | rfl
    · cases hy
    · exact List.mem_cons_of_mem _ (List.mem_cons_of_mem _ hy)
    · cases hy

/-- A class without members and interfaces leaves all properties alone. -/
theorem leavesAlone_meter (name : String) : meter.LeavesAlone name := by
  refine ⟨by simp [ClassDecl.declares, meter, linked], ?_⟩
  rintro x ⟨i, hi, -⟩
  cases hi

/-- What the properties of a counter are read from, and written to. -/
theorem exists_build_counter : ∃ base, (build counter .table {}).result = .ok base ∧
    base.properties.map (fun p => (p.name, p.reader, p.writer)) =
      [("count", some ⟨[], "L0", "i"⟩, none),
        ("label", some ⟨[], "L0", "s"⟩, some ⟨[], "L0", "s"⟩)] := by
  refine Except.map_eq_ok_iff.mp ?_
  cbv

/-- What those of a class that embeds one are. The count is not where the counter is. -/
theorem exists_build_meter : ∃ desc, (build meter .table {}).result = .ok desc ∧
    desc.properties.map (fun p => (p.name, p.reader, p.writer)) =
      [("label", some ⟨["L1"], "L0", "s"⟩, some ⟨["L1"], "L0", "s"⟩),
        ("count", some ⟨[], "L0", "i"⟩, none)] := by
  refine Except.map_eq_ok_iff.mp ?_
  cbv

/-- The label of a counter is still its label where the counter is embedded. -/
theorem property_of_embeds_label : ∃ base desc p q,
    (build counter .table {}).result = .ok base ∧ (build meter .table {}).result = .ok desc ∧
      p ∈ base.properties ∧ q ∈ desc.properties ∧ p.name = "label" ∧ q.name = "label" ∧
      ∀ v, q.get double.new = .ok v ↔ p.get single.new = .ok v := by
  obtain ⟨base, hbase, hproperties⟩ := exists_build_counter
  obtain ⟨desc, hdesc, -⟩ := exists_build_meter
  have hlabel : "label" ∈ base.properties.map (·.name) := by
    have hnames := congrArg (List.map Prod.fst) hproperties
    rw [List.map_map] at hnames
    exact hnames ▸ List.mem_cons_of_mem _ List.mem_cons_self
  obtain ⟨p, hp, hname⟩ := List.mem_map.mp hlabel
  have hlevels : counter.levels = [⟨counter, []⟩, ⟨counted, []⟩] := by
    simp [ClassDecl.levels, ClassDecl.chain, ClassDecl.chainBehind_eq, ClassDecl.reached, counter,
      counted, linked]
  have hreads : ∀ lm, Draft.readingMember? counter.levels p.name = some lm →
      lm.1.decl ∈ counter.ancestry := by
    rw [hname, hlevels]
    intro lm hlm
    obtain rfl := Option.some.inj hlm
    exact ClassDecl.mem_ancestry_iff.mpr (Or.inl rfl)
  obtain ⟨q, hq, hname', -, hget, -⟩ := property_of_embeds isCoherent_meter rfl rfl (by decide)
    hdesc hbase hp (leavesAlone_meter p.name)
  exact ⟨base, desc, p, q, hbase, hdesc, hp, hq, hname, hname'.trans hname,
    hget hreads double.new single.new rfl⟩

/-- **A property of the superclass is not always what it is in the base**: a getter of an interface
of the superclass is looked for in the instance that embeds, and not in the one that is embedded. -/
theorem not_forall_get_iff_of_embeds :
    ¬∀ (d s : ClassDecl) (t : String) (kind : MappingKind) (config : Config)
      (base desc : Descriptor) (p q : Property) (e b : Entity),
      d.IsCoherent → d.superclass = some s → d.embeddedIn = some t →
      (build s kind config).result = .ok base → (build d kind config).result = .ok desc →
      p ∈ base.properties → d.LeavesAlone p.name → q ∈ desc.properties → q.name = p.name →
      Route.project? t e = some b →
      ((∃ v, q.get e = .ok v) ↔ ∃ v, p.get b = .ok v) := by
  intro h
  obtain ⟨base, hbase, hproperties⟩ := exists_build_counter
  obtain ⟨desc, hdesc, hproperties'⟩ := exists_build_meter
  have hcount : ("count", some (⟨[], "L0", "i"⟩ : Route), none) ∈
      base.properties.map fun p => (p.name, p.reader, p.writer) :=
    hproperties ▸ List.mem_cons_self
  have hcount' : ("count", some (⟨[], "L0", "i"⟩ : Route), none) ∈
      desc.properties.map fun p => (p.name, p.reader, p.writer) :=
    hproperties' ▸ List.mem_cons_of_mem _ List.mem_cons_self
  obtain ⟨p, hp, heq⟩ := List.mem_map.mp hcount
  obtain ⟨q, hq, heq'⟩ := List.mem_map.mp hcount'
  obtain ⟨hname, hreader, -⟩ : p.name = "count" ∧ p.reader = some ⟨[], "L0", "i"⟩ ∧ _ := by
    simpa using heq
  obtain ⟨hname', hreader', -⟩ : q.name = "count" ∧ q.reader = some ⟨[], "L0", "i"⟩ ∧ _ := by
    simpa using heq'
  have hbasic : p.get single.new = .ok (.int 0) := by
    rw [Property.get_of_reader hreader]
    rfl
  have houter : q.get double.new = .error (q.accessError .read (.wrongInstance "L0")) := by
    rw [Property.get_of_reader hreader']
    rfl
  obtain ⟨v, hv⟩ := (h meter counter "L1" .table {} base desc p q double.new single.new
    isCoherent_meter rfl rfl hbase hdesc hp (leavesAlone_meter p.name) hq
    (hname'.trans hname.symm) rfl).mpr ⟨_, hbasic⟩
  rw [houter] at hv
  cases hv

end Descriptor

end WideColumn

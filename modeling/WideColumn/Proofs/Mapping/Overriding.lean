import Mathlib
import WideColumn.Proofs.Mapping.Embedding
import WideColumn.Proofs.Mapping.PropertyOrder
import WideColumn.Samples.Redeclared

/-!
# Properties that are declared again

Drafts are in the order of the farthest classes that declare their properties, the roots of these. A
class that extends another one adds itself as the closest declaration. So all roots that it inherits
are one class farther away than they are in its superclass, and what it adds itself is closest. What
is inherited thus comes before the rest, and two inherited properties stay in their order if their
roots differ.

Properties of one root are in the order in which they are met, and in the subclass its own members
are met first. The properties that it declares again come before those that it does not, and in the
order of its own members (`WideColumn.Descriptor.precedes_iff_of_superclass`). This may be another
order than that of the superclass (`WideColumn.Descriptor.not_forall_keepsOrder`). So it may be, too,
where a class is implemented as if it were an interface: it is then farther away than all
superclasses.

* `WideColumn.ClassDecl.root?`: the farthest class that declares a property;
* `WideColumn.ClassDecl.depth_of_inherited`, `WideColumn.ClassDecl.depth_of_not_inherited`: how far
  away it is in a subclass;
* `WideColumn.ClassDecl.place_lt_iff`, `WideColumn.ClassDecl.place_of_not_declares`: where properties
  are met first, if all members are fields;
* `WideColumn.Descriptor.precedes_iff_of_superclass`: **the order of the properties of a subclass**.
-/

namespace List

variable {α : Type}

/-- Which of two elements comes first is told by a beginning of a list that one of them is in. -/
theorem idxOf_append_lt_iff [BEq α] [LawfulBEq α] {l l' : List α} {a b : α} (h : a ∈ l ∨ b ∈ l) :
    (l ++ l').idxOf a < (l ++ l').idxOf b ↔ l.idxOf a < l.idxOf b := by
  have hmem : ∀ x, x ∈ l ↔ l.idxOf x < l.length := fun x => idxOf_lt_length_iff.symm
  have ha : l.idxOf a ≤ l.length := idxOf_le_length
  have hb : l.idxOf b ≤ l.length := idxOf_le_length
  rw [hmem, hmem] at h
  rw [idxOf_append, idxOf_append]
  split_ifs with hal hbl hbl <;> rw [hmem] at hal hbl <;> omega

/-- **In a list that is sorted by an order, elements come first as the order says.** -/
theorem Pairwise.pair_sublist_iff {R : α → α → Prop} {l : List α} {a b : α} (hl : l.Pairwise R)
    (hR : ∀ x y, R x y → ¬R y x) (ha : a ∈ l) (hb : b ∈ l) : [a, b].Sublist l ↔ R a b := by
  constructor
  · intro h
    exact pairwise_pair.mp (hl.sublist h)
  · intro h
    have hne : a ≠ b := by
      rintro rfl
      exact hR a a h h
    refine (pair_sublist_or ha hb hne).resolve_right fun hba => ?_
    exact hR a b h (pairwise_pair.mp (hl.sublist hba))

end List

namespace WideColumn

namespace ClassDecl

variable {d s x c : ClassDecl} {name p q : String} {i : Nat}

/-! ### The root of a property -/

/-- **The root of a property**: the farthest class up the chain that declares it. Interfaces are not
counted. -/
def root? (d : ClassDecl) (name : String) : Option ClassDecl :=
  d.ancestry.findRev? fun c => c.shape != .interface && c.declares name

theorem declares_of_root? (h : d.root? name = some c) :
    c ∈ d.ancestry ∧ c.shape ≠ .interface ∧ c.declares name := by
  rw [root?, List.findRev?_eq_find?_reverse] at h
  have hcounts := List.find?_some h
  rw [Bool.and_eq_true, bne_iff_ne] at hcounts
  exact ⟨List.mem_reverse.mp (List.mem_of_find?_eq_some h), hcounts⟩

/-- Whatever declares a property without being up the chain is an interface. -/
def ImplementsInterfaces (d : ClassDecl) (name : String) : Prop :=
  ∀ x ∈ d.declarations, x ∉ d.ancestry → x.declares name → x.shape = .interface

theorem root?_of_superclass (hs : d.superclass = some s) :
    d.root? name = (s.root? name).or
      (if d.shape != .interface && d.declares name then some d else none) := by
  rw [root?, root?, ancestry_of_superclass hs, List.findRev?_eq_find?_reverse,
    List.findRev?_eq_find?_reverse, List.reverse_cons, List.find?_append, List.find?_singleton]

theorem sizeOf_lt_of_mem_declarations (hs : d.superclass = some s) (hx : x ∈ s.declarations) :
    sizeOf x < sizeOf d := by
  have hle : sizeOf x ≤ sizeOf s := by
    have hancestry : ∀ y ∈ s.ancestry, sizeOf y ≤ sizeOf s := fun y => sizeOf_le_of_mem_ancestry
    have hinterface : ∀ y : ClassDecl, sizeOf y ≤ sizeOf s →
        ∀ z ∈ y.interfaces, sizeOf z ≤ sizeOf s := by
      intro y hy z hz
      have hlt := (List.sizeOf_lt_of_mem hz).trans (sizeOf_interfaces_lt y)
      exact hlt.le.trans hy
    rw [declarations_eq, List.mem_append] at hx
    rcases hx with hx | hx
    · exact hancestry x hx
    · refine forall_mem_reached hinterface (fun z hz => ?_) x hx
      obtain ⟨y, hy, hz⟩ := List.mem_flatMap.mp hz
      exact hinterface y (hancestry y hy) z hz
  exact hle.trans_lt (sizeOf_superclass_lt hs)

theorem ImplementsInterfaces.of_superclass (h : d.ImplementsInterfaces name) (hd : d.IsCoherent)
    (hs : d.superclass = some s) : s.ImplementsInterfaces name := by
  intro x hx hnot
  have hne : x ≠ d := by
    rintro rfl
    exact lt_irrefl _ (sizeOf_lt_of_mem_declarations hs hx)
  refine h x (mem_declarations_of_superclass hd hs hx) ?_
  rw [ancestry_of_superclass hs, List.mem_cons, not_or]
  exact ⟨hne, hnot⟩

section Depth

variable (hd : d.IsCoherent) (h : d.ImplementsInterfaces name)

include hd h

/-- Only classes up the chain count. -/
theorem mem_declaringPlaces_iff : i ∈ Draft.declaringPlaces d.levels name ↔
    ∃ c, d.ancestry[i]? = some c ∧ c.shape ≠ .interface ∧ c.declares name := by
  have hlevel : ∀ c : ClassDecl, (∃ l, d.levels[i]? = some l ∧ l.decl = c) ↔
      d.declarations[i]? = some c := by
    intro c
    rw [declarations, List.getElem?_map, Option.map_eq_some_iff]
  have hplaces : i ∈ Draft.declaringPlaces d.levels name ↔
      ∃ c, d.declarations[i]? = some c ∧ c.shape ≠ .interface ∧ c.declares name := by
    simp only [← hlevel]
    constructor
    · rintro ⟨l, hl, hcounts⟩
      exact ⟨l.decl, ⟨l, hl, rfl⟩, hcounts⟩
    · rintro ⟨c, ⟨l, hl, rfl⟩, hcounts⟩
      exact ⟨l, hl, hcounts⟩
  rw [hplaces]
  have hsplit := declarations_eq d
  refine exists_congr fun c => and_congr_left ?_
  rintro ⟨hshape, hdeclares⟩
  constructor
  · intro hc
    -- it is up the chain, but perhaps at another place, unless nothing is listed twice
    have hmem : c ∈ d.ancestry := by
      by_contra hnot
      exact hshape (h c (List.mem_of_getElem? hc) hnot hdeclares)
    obtain ⟨j, hj⟩ := List.mem_iff_getElem?.mp hmem
    have hjlt : j < d.ancestry.length := (List.getElem?_eq_some_iff.mp hj).1
    have hj' : d.declarations[j]? = some c := by
      rw [hsplit, List.getElem?_append_left hjlt, hj]
    have hnodup : d.declarations.Nodup := (nodup_declarations hd).of_map _
    have hilt : i < d.declarations.length := (List.getElem?_eq_some_iff.mp hc).1
    rwa [(List.getElem?_inj hilt hnodup).mp (hc.trans hj'.symm)]
  · intro hc
    rw [hsplit, List.getElem?_append_left (List.getElem?_eq_some_iff.mp hc).1, hc]

/-- **The depth of a property is the place of its root.** -/
theorem getElem?_depth (hc : d.root? name = some c) :
    d.ancestry[Draft.depth d.levels name]? = some c := by
  rw [root?, List.findRev?_eq_find?_reverse, List.find?_eq_some_iff_append] at hc
  obtain ⟨hcounts, after, before, hsplit, hafter⟩ := hc
  rw [List.reverse_eq_iff, List.reverse_append, List.reverse_cons, List.append_assoc,
    List.singleton_append] at hsplit
  have hroot : d.ancestry[before.reverse.length]? = some c := by
    rw [hsplit, List.getElem?_append_right le_rfl, Nat.sub_self, List.getElem?_cons_zero]
  have hgreatest : IsGreatest (Draft.declaringPlaces d.levels name) before.reverse.length := by
    constructor
    · rw [mem_declaringPlaces_iff hd h]
      exact ⟨c, hroot, by simpa using hcounts⟩
    · intro i hi
      obtain ⟨b, hb, hshape, hdeclares⟩ := (mem_declaringPlaces_iff hd h).mp hi
      by_contra hlt
      rw [not_le] at hlt
      -- what is farther away has been passed over
      obtain ⟨j, rfl⟩ := Nat.exists_eq_add_of_lt hlt
      rw [hsplit, List.getElem?_append_right (by omega), Nat.add_assoc, Nat.add_sub_cancel_left,
        List.getElem?_cons_succ] at hb
      have hnot := hafter b (List.mem_reverse.mp (List.mem_of_getElem? hb))
      simp [hshape, hdeclares] at hnot
  rw [Draft.depth_eq_of_isGreatest hgreatest, hroot]

theorem depth_eq_zero (hc : d.root? name = none) : Draft.depth d.levels name = 0 := by
  rw [root?, List.findRev?_eq_find?_reverse, List.find?_eq_none] at hc
  rcases Draft.isDeepest_depth d.levels name with hgreatest | ⟨-, hzero⟩
  · obtain ⟨c, hc', hshape, hdeclares⟩ := (mem_declaringPlaces_iff hd h).mp hgreatest.1
    exact absurd (by simpa using ⟨hshape, hdeclares⟩)
      (hc c (List.mem_reverse.mpr (List.mem_of_getElem? hc')))
  · exact hzero

end Depth

theorem getElem?_ancestry_inj {j : Nat} (hd : d.IsCoherent) (hi : d.ancestry[i]? = some c)
    (hj : d.ancestry[j]? = some c) : i = j := by
  have hnodup : d.ancestry.Nodup := (nodup_ancestry hd).of_map _
  exact (List.getElem?_inj (List.getElem?_eq_some_iff.mp hi).1 hnodup).mp (hi.trans hj.symm)

/-- **Two properties are equally deep if they have one root.** -/
theorem depth_eq_depth_iff (hd : d.IsCoherent) (hp : d.ImplementsInterfaces p)
    (hq : d.ImplementsInterfaces q) (hp' : (d.root? p).isSome) (hq' : (d.root? q).isSome) :
    Draft.depth d.levels p = Draft.depth d.levels q ↔ d.root? p = d.root? q := by
  obtain ⟨x, hx⟩ := Option.isSome_iff_exists.mp hp'
  obtain ⟨y, hy⟩ := Option.isSome_iff_exists.mp hq'
  have hdepthx := getElem?_depth hd hp hx
  have hdepthy := getElem?_depth hd hq hy
  rw [hx, hy]
  constructor
  · intro heq
    rw [← hdepthx, ← hdepthy, heq]
  · intro heq
    rw [← heq] at hdepthy
    exact getElem?_ancestry_inj hd hdepthx hdepthy

section Subclass

variable (hd : d.IsCoherent) (hs : d.superclass = some s) (h : d.ImplementsInterfaces name)

include hd hs h

/-- **What is inherited is one class farther away** than in the superclass. -/
theorem depth_of_inherited (hinherited : (s.root? name).isSome) :
    Draft.depth d.levels name = Draft.depth s.levels name + 1 := by
  obtain ⟨c, hc⟩ := Option.isSome_iff_exists.mp hinherited
  have hroot : d.root? name = some c := by
    rw [root?_of_superclass hs, hc, Option.some_or]
  have hbase := getElem?_depth (hd.of_superclass hs) (h.of_superclass hd hs) hc
  refine getElem?_ancestry_inj hd (getElem?_depth hd h hroot) ?_
  rw [ancestry_of_superclass hs, List.getElem?_cons_succ, hbase]

/-- **Nothing is closer than what a class does not inherit.** -/
theorem depth_of_not_inherited (hnot : s.root? name = none) : Draft.depth d.levels name = 0 := by
  have hroot : d.root? name = _ := root?_of_superclass hs
  rw [hnot, Option.none_or] at hroot
  split_ifs at hroot
  · refine getElem?_ancestry_inj hd (getElem?_depth hd h hroot) ?_
    rw [ancestry_of_superclass hs, List.getElem?_cons_zero]
  · exact depth_eq_zero hd h hroot

end Subclass

/-! ### Where properties are met first -/

/-- The properties that a class has members of. -/
def memberNames (d : ClassDecl) : List String :=
  d.members.map (·.property)

theorem mem_memberNames_iff : name ∈ d.memberNames ↔ d.declares name := by
  rw [memberNames, declares, List.mem_map, List.any_eq_true]
  simp only [beq_iff_eq]

/-- **One property is declared before another one** by a class, where what the class does not declare
comes last. -/
def DeclaresBefore (d : ClassDecl) (p q : String) : Prop :=
  d.memberNames.idxOf p < d.memberNames.idxOf q

instance : Decidable (d.DeclaresBefore p q) :=
  inferInstanceAs (Decidable (_ < _))

/-- All members of a hierarchy are fields. -/
def HasOnlyFields (d : ClassDecl) : Prop :=
  ∀ x ∈ d.declarations, ∀ m ∈ x.members, m.origin = .field

/-- Fields are met by level only. -/
theorem scanned_levels (hfields : d.HasOnlyFields) :
    Draft.scanned d.levels = d.declarations.flatMap memberNames := by
  have horigin : ∀ l ∈ d.levels, ∀ m ∈ l.decl.members, m.origin = .field := by
    intro l hl
    exact hfields l.decl (List.mem_map_of_mem hl)
  have hnone : ∀ origin ≠ MemberOrigin.field, Draft.membersOf origin d.levels = [] := by
    intro origin hne
    refine List.flatMap_eq_nil_iff.mpr fun l hl => List.map_eq_nil_iff.mpr ?_
    refine List.filter_eq_nil_iff.mpr fun m hm => ?_
    rw [horigin l hl m hm, beq_iff_eq]
    exact hne.symm
  have hall : Draft.membersOf .field d.levels =
      d.levels.flatMap fun l => l.decl.members.map fun m => (l, m) := by
    refine List.flatMap_congr fun l hl => congrArg _ (List.filter_eq_self.mpr fun m hm => ?_)
    exact beq_iff_eq.mpr (horigin l hl m hm)
  rw [Draft.scanned, Draft.scan, hnone .getter (by decide), hnone .setter (by decide), hall,
    List.nil_append, List.nil_append, List.map_flatMap, declarations, List.flatMap_map]
  simp only [List.map_map]
  rfl

theorem HasOnlyFields.of_superclass (h : d.HasOnlyFields) (hd : d.IsCoherent)
    (hs : d.superclass = some s) : s.HasOnlyFields := by
  intro x hx
  exact h x (mem_declarations_of_superclass hd hs hx)

/-- **The members of a class are met first.** -/
theorem place_lt_iff (hfields : d.HasOnlyFields) (h : d.declares p ∨ d.declares q) :
    Draft.place d.levels p < Draft.place d.levels q ↔ d.DeclaresBefore p q := by
  rw [← mem_memberNames_iff, ← mem_memberNames_iff] at h
  rw [Draft.place, Draft.place, scanned_levels hfields, declarations_eq, ancestry_eq,
    List.cons_append, List.flatMap_cons, List.idxOf_append_lt_iff h]
  rfl

/-- **What is left to the superclass is met after them**, in the same order as there. -/
theorem place_of_not_declares (hd : d.IsCoherent) (hs : d.superclass = some s)
    (hfields : d.HasOnlyFields) (hnot : ¬d.declares name) (hinherited : (s.root? name).isSome) :
    Draft.place d.levels name = Draft.place s.levels name + d.memberNames.length := by
  -- it is met up the chain already, so that the interfaces, which may differ, do not matter
  have hmem : name ∈ s.ancestry.flatMap memberNames := by
    obtain ⟨c, hc⟩ := Option.isSome_iff_exists.mp hinherited
    obtain ⟨hchain, -, hdeclares⟩ := declares_of_root? hc
    exact List.mem_flatMap.mpr ⟨c, hchain, mem_memberNames_iff.mpr hdeclares⟩
  rw [← mem_memberNames_iff] at hnot
  rw [Draft.place, Draft.place, scanned_levels hfields,
    scanned_levels (hfields.of_superclass hd hs), declarations_eq, declarations_eq,
    ancestry_of_superclass hs, List.cons_append, List.flatMap_cons,
    List.idxOf_append_of_notMem hnot, List.flatMap_append, List.flatMap_append,
    List.idxOf_append_of_mem hmem, List.idxOf_append_of_mem hmem, Nat.add_comm]

/-! ### The order in a subclass -/

section Order

variable (hd : d.IsCoherent) (hs : d.superclass = some s) (hfields : d.HasOnlyFields)
  (hp : d.ImplementsInterfaces p) (hq : d.ImplementsInterfaces q)

include hd hs hp hq

/-- **What is inherited comes before what is not.** -/
theorem comesBefore_of_inherited (hp' : (s.root? p).isSome) (hq' : s.root? q = none) :
    Draft.ComesBefore d.levels p q := by
  refine Or.inl ?_
  rw [depth_of_inherited hd hs hp hp', depth_of_not_inherited hd hs hq hq']
  exact Nat.succ_pos _

include hfields

/-- What is not inherited is in the order in which the class declares it. -/
theorem comesBefore_iff_of_not_inherited (hp' : s.root? p = none) (hq' : s.root? q = none)
    (h : d.declares p ∨ d.declares q) :
    Draft.ComesBefore d.levels p q ↔ d.DeclaresBefore p q := by
  have hdepth := depth_of_not_inherited hd hs hp hp'
  have hdepth' := depth_of_not_inherited hd hs hq hq'
  rw [← place_lt_iff hfields h, Draft.ComesBefore]
  omega

/-- **Properties of one root are in the order in which the class declares them**, if it declares one
of them again. -/
theorem comesBefore_iff_of_declares (hp' : (s.root? p).isSome) (hroot : s.root? p = s.root? q)
    (h : d.declares p ∨ d.declares q) :
    Draft.ComesBefore d.levels p q ↔ d.DeclaresBefore p q := by
  have hdepth := depth_of_inherited hd hs hp hp'
  have hdepth' := depth_of_inherited hd hs hq (hroot ▸ hp')
  have hsame := (depth_eq_depth_iff (hd.of_superclass hs) (hp.of_superclass hd hs)
    (hq.of_superclass hd hs) hp' (hroot ▸ hp')).mpr hroot
  rw [← place_lt_iff hfields h, Draft.ComesBefore]
  omega

/-- **Otherwise properties stay in the order of the superclass.** -/
theorem comesBefore_iff_of_superclass (hp' : (s.root? p).isSome) (hq' : (s.root? q).isSome)
    (h : ¬(s.root? p = s.root? q ∧ (d.declares p ∨ d.declares q))) :
    Draft.ComesBefore d.levels p q ↔ Draft.ComesBefore s.levels p q := by
  have hdepth := depth_of_inherited hd hs hp hp'
  have hdepth' := depth_of_inherited hd hs hq hq'
  have hsame := depth_eq_depth_iff (hd.of_superclass hs) (hp.of_superclass hd hs)
    (hq.of_superclass hd hs) hp' hq'
  by_cases hroot : s.root? p = s.root? q
  · -- the depths are equal in both classes, and neither property is met in the class itself
    have hnot : ¬d.declares p ∧ ¬d.declares q := not_or.mp fun hor => h ⟨hroot, hor⟩
    have hplace := place_of_not_declares hd hs hfields hnot.1 hp'
    have hplace' := place_of_not_declares hd hs hfields hnot.2 hq'
    unfold Draft.ComesBefore
    omega
  · -- the depths differ in the class as they do in its superclass
    have hne := hsame.not.mpr hroot
    unfold Draft.ComesBefore
    omega

end Order

end ClassDecl

namespace Descriptor

variable {d s : ClassDecl} {kind kind' : MappingKind} {config config' : Config}
  {desc base : Descriptor} {p q : String}

/-- The names of the properties of a descriptor. -/
def names (desc : Descriptor) : List String :=
  desc.properties.map (·.name)

/-- **One property comes before another one** in a descriptor. -/
def Precedes (desc : Descriptor) (p q : String) : Prop :=
  [p, q].Sublist desc.names

/-- The names are those of the drafts, unless there are none. -/
theorem names_of_build (h : (build d kind config).result = .ok desc) (hp : p ∈ desc.names) :
    desc.names = (Draft.ofLevels d.levels).map (·.property) := by
  by_cases hkind : kind = .accessor
  · -- accessors have no properties
    subst hkind
    obtain ⟨-, -, h⟩ := Traced.result_bind_eq_ok_iff.mp h
    obtain ⟨queries, -, h⟩ := Traced.result_bind_eq_ok_iff.mp h
    obtain ⟨-, -, h⟩ := Traced.result_bind_eq_ok_iff.mp h
    obtain rfl := Traced.result_pure_eq_ok_iff.mp h
    cases hp
  · obtain ⟨-, -, _, _, _, -, -, -, rfl⟩ := (result_build_eq_ok_iff hkind).mp h
    exact map_name_propertiesOf d

/-- **The properties of a descriptor are in the order of those of the class.** -/
theorem precedes_iff_comesBefore (h : (build d kind config).result = .ok desc)
    (hp : p ∈ desc.names) (hq : q ∈ desc.names) :
    desc.Precedes p q ↔ Draft.ComesBefore d.levels p q := by
  have hnames := names_of_build h hp
  rw [hnames] at hp hq
  rw [Precedes, hnames]
  have hsorted := Draft.pairwise_ofLevels d.levels
  exact hsorted.pair_sublist_iff (fun _ _ => Draft.ComesBefore.asymm) hp hq

/-- **The order of the properties of a class that extends another one**, where all members are
fields. What is declared up the chain of the superclass comes before what is not, and what the class
declares itself is in the order of its members. What is inherited stays in the order of the
superclass, unless it has one root and the class declares some of it again: this comes first, in the
order of the members of the class. -/
theorem precedes_iff_of_superclass (hd : d.IsCoherent) (hs : d.superclass = some s)
    (hfields : d.HasOnlyFields) (hdesc : (build d kind config).result = .ok desc)
    (hbase : (build s kind' config').result = .ok base) (hp : p ∈ desc.names) (hq : q ∈ desc.names)
    (hpi : d.ImplementsInterfaces p) (hqi : d.ImplementsInterfaces q) :
    ((s.root? p).isSome → (s.root? q).isSome →
      ¬(s.root? p = s.root? q ∧ (d.declares p ∨ d.declares q)) →
      p ∈ base.names → q ∈ base.names → (desc.Precedes p q ↔ base.Precedes p q)) ∧
    ((s.root? p).isSome → s.root? p = s.root? q → (d.declares p ∨ d.declares q) →
      (desc.Precedes p q ↔ d.DeclaresBefore p q)) ∧
    ((s.root? p).isSome → s.root? q = none → desc.Precedes p q) ∧
    (s.root? p = none → s.root? q = none → (d.declares p ∨ d.declares q) →
      (desc.Precedes p q ↔ d.DeclaresBefore p q)) := by
  rw [precedes_iff_comesBefore hdesc hp hq]
  refine ⟨fun hp' hq' h hpb hqb => ?_, fun hp' hroot h => ?_, fun hp' hq' => ?_,
    fun hp' hq' h => ?_⟩
  · rw [precedes_iff_comesBefore hbase hpb hqb]
    exact ClassDecl.comesBefore_iff_of_superclass hd hs hfields hpi hqi hp' hq' h
  · exact ClassDecl.comesBefore_iff_of_declares hd hs hfields hpi hqi hp' hroot h
  · exact ClassDecl.comesBefore_of_inherited hd hs hpi hqi hp' hq'
  · exact ClassDecl.comesBefore_iff_of_not_inherited hd hs hfields hpi hqi hp' hq' h

/-! ### A name that is declared again -/

open Samples

theorem declarations_customer : customer.declarations = [customer, person] := by
  simp [ClassDecl.declarations, ClassDecl.levels, ClassDecl.chain, ClassDecl.chainBehind_eq,
    ClassDecl.reached, customer, person, linked]

theorem isCoherent_customer : customer.IsCoherent := by
  refine @ClassDecl.isCoherent_of_forall_mem customer [customer, person] ?_ ?_ ?_
  · exact (by decide : [2, 1].Nodup)
  · intro x hx
    exact hx
  · intro x hx y hy
    rw [List.mem_cons, List.mem_singleton] at hx
    rcases hx with rfl | rfl <;> cases hy

theorem hasOnlyFields_customer : customer.HasOnlyFields := by
  intro x hx
  rw [declarations_customer, List.mem_cons, List.mem_singleton] at hx
  rcases hx with rfl | rfl <;> decide

theorem exists_build_person : ∃ base, (build person .table {}).result = .ok base ∧
    base.names = ["id", "name"] := by
  refine Except.map_eq_ok_iff.mp ?_
  cbv

theorem exists_build_customer : ∃ desc, (build customer .table {}).result = .ok desc ∧
    desc.names = ["name", "id"] := by
  refine Except.map_eq_ok_iff.mp ?_
  cbv

/-- The name of a customer comes before the number, as it is declared again. -/
theorem precedes_iff_of_superclass_customer : ∃ desc base,
    (build customer .table {}).result = .ok desc ∧ (build person .table {}).result = .ok base ∧
      (desc.Precedes "name" "id" ↔ customer.DeclaresBefore "name" "id") ∧
      customer.DeclaresBefore "name" "id" := by
  obtain ⟨desc, hdesc, hnames⟩ := exists_build_customer
  obtain ⟨base, hbase, -⟩ := exists_build_person
  have hinterfaces : ∀ name, customer.ImplementsInterfaces name := by
    intro name x hx hnot
    rw [declarations_customer] at hx
    exact absurd hx hnot
  have hroot : ∀ name ∈ ["id", "name"], person.root? name = some person := by
    intro name hname
    rw [List.mem_cons, List.mem_singleton] at hname
    rcases hname with rfl | rfl <;> rfl
  obtain ⟨-, hdeclared, -, -⟩ := precedes_iff_of_superclass (p := "name") (q := "id")
    isCoherent_customer rfl hasOnlyFields_customer hdesc hbase (by rw [hnames]; decide)
    (by rw [hnames]; decide) (hinterfaces _) (hinterfaces _)
  refine ⟨desc, base, hdesc, hbase, hdeclared ?_ ?_ (Or.inl rfl), by decide⟩
  · rw [hroot "name" (by decide)]
    rfl
  · rw [hroot "name" (by decide), hroot "id" (by decide)]

/-! ### A name that a class has from another one which it implements -/

theorem declarations_member : member.declarations = [member, person, badge] := by
  simp [ClassDecl.declarations, ClassDecl.levels, ClassDecl.chain, ClassDecl.chainBehind_eq,
    ClassDecl.reached, member, person, badge, linked]

theorem isCoherent_member : member.IsCoherent := by
  refine @ClassDecl.isCoherent_of_forall_mem member [member, person, badge] ?_ ?_ ?_
  · exact (by decide : [4, 1, 3].Nodup)
  · intro x hx
    exact List.mem_append_left [badge] hx
  · intro x hx y hy
    rw [List.mem_cons, List.mem_cons, List.mem_singleton] at hx
    rcases hx with rfl | rfl | rfl
    · exact List.mem_append_right [member, person] hy
    · cases hy
    · cases hy

theorem hasOnlyFields_member : member.HasOnlyFields := by
  intro x hx
  rw [declarations_member, List.mem_cons, List.mem_cons, List.mem_singleton] at hx
  rcases hx with rfl | rfl | rfl <;> decide

theorem exists_build_member : ∃ desc, (build member .table {}).result = .ok desc ∧
    desc.names = ["name", "id"] := by
  refine Except.map_eq_ok_iff.mp ?_
  cbv

/-! ### The order may change -/

/-- **What is declared up the chain of a class keeps the order** that it has there. -/
def KeepsOrder (s : ClassDecl) (base desc : Descriptor) : Prop :=
  ∀ p q, (∃ c ∈ s.ancestry, c.declares p) → (∃ c ∈ s.ancestry, c.declares q) →
    (desc.Precedes p q ↔ base.Precedes p q)

theorem not_keepsOrder_person {base desc : Descriptor} (hbase : base.names = ["id", "name"])
    (hdesc : desc.names = ["name", "id"]) : ¬KeepsOrder person base desc := by
  intro h
  have hperson : person ∈ person.ancestry := ClassDecl.mem_ancestry_iff.mpr (Or.inl rfl)
  have hsame := h "name" "id" ⟨person, hperson, rfl⟩ ⟨person, hperson, rfl⟩
  rw [Precedes, Precedes, hbase, hdesc] at hsame
  exact absurd (hsame.mp (by decide)) (by decide)

/-- **What is inherited does not always keep its order**: not if the class declares some of it again,
even where all that it implements are interfaces, and not if it implements a class that does so, even
where it declares nothing itself. -/
theorem not_forall_keepsOrder :
    (¬∀ (d s : ClassDecl) (desc base : Descriptor), d.IsCoherent → d.superclass = some s →
      d.HasOnlyFields → (∀ x ∈ d.declarations, x ∉ d.ancestry → x.shape = .interface) →
      (build d .table {}).result = .ok desc → (build s .table {}).result = .ok base →
      KeepsOrder s base desc) ∧
    (¬∀ (d s : ClassDecl) (desc base : Descriptor), d.IsCoherent → d.superclass = some s →
      d.HasOnlyFields → (∀ name, ¬d.declares name) →
      (build d .table {}).result = .ok desc → (build s .table {}).result = .ok base →
      KeepsOrder s base desc) := by
  obtain ⟨base, hbase, hpersons⟩ := exists_build_person
  constructor
  · intro h
    obtain ⟨desc, hdesc, hnames⟩ := exists_build_customer
    refine not_keepsOrder_person hpersons hnames
      (h customer person desc base isCoherent_customer rfl hasOnlyFields_customer ?_ hdesc hbase)
    intro x hx hnot
    rw [declarations_customer] at hx
    exact absurd hx hnot
  · intro h
    obtain ⟨desc, hdesc, hnames⟩ := exists_build_member
    refine not_keepsOrder_person hpersons hnames
      (h member person desc base isCoherent_member rfl hasOnlyFields_member ?_ hdesc hbase)
    intro name
    exact Bool.false_ne_true

end Descriptor

end WideColumn

import Mathlib
import WideColumn.Mapping.Property

/-!
# What the members of a property say

The drafts of a hierarchy are made in one pass: each member is added to the draft of its property,
which is begun if there is none. What comes out does not depend on the members of other properties,
so that the draft of a property can be told from the members of this property alone
(`WideColumn.Draft.draft?_gatherAll`), and there is one draft for every property that is declared
(`WideColumn.Draft.perm_map_property_ofLevels`).

From its own members a draft is told without a pass as well, field by field: the first getter has
the say about the type of getters, the first bound getter is what is read, and of each kind of
marker the first one counts (`WideColumn.Draft.ofMembers`). A draft that is made in a pass holds
fewer markers than that, as those of a kind that is present are not added. This makes no difference
to whatever asks for the first marker with a property that depends on the kind only
(`WideColumn.Draft.find?_addMarkers`), and nothing asks for anything else.

* `WideColumn.Draft.membersOfProperty`: the members of a property, in the order in which they count;
* `WideColumn.Draft.ofMembers`: what members say;
* `WideColumn.Draft.declared`: what all members of a property in a hierarchy say;
* `WideColumn.Draft.names`: the properties that a hierarchy declares;
* `WideColumn.Draft.saysSame_of_mem_gather`: the draft of a property says what its members say;
* `WideColumn.Draft.ofDraft_of_mem_ofLevels`: **a property is made from what its members say**.
-/

namespace List

/-- Where no two elements agree in some respect, each of them is found by it. -/
theorem find?_eq_some_of_nodup_map {α β : Type} [BEq β] [LawfulBEq β] {f : α → β} {l : List α}
    {a : α} (hl : (l.map f).Nodup) (ha : a ∈ l) : l.find? (fun b => f b == f a) = some a := by
  have hsome : (l.find? fun b => f b == f a).isSome :=
    find?_isSome.mpr ⟨a, ha, beq_self_eq_true _⟩
  obtain ⟨b, hb⟩ := Option.isSome_iff_exists.mp hsome
  have hba : f b = f a := eq_of_beq (find?_some hb :)
  rw [hb, inj_on_of_nodup_map hl (mem_of_find?_eq_some hb) ha hba]

end List

namespace WideColumn

/-- A condition on markers that depends on their kind only. -/
def PropertyMarker.IsKindTest (q : PropertyMarker → Bool) : Prop :=
  ∀ m n : PropertyMarker, m.kind = n.kind → q m = q n

namespace Draft

open PropertyMarker

/-! ### One marker of each kind -/

theorem isKindTest_kind (kind : MarkerKind) : IsKindTest fun m => m.kind == kind :=
  fun _ _ h => congrArg (· == kind) h

theorem isKindTest_not_isAllowed (kind : MappingKind) : IsKindTest fun m => !m.isAllowed kind := by
  intro m n h
  cases m <;> cases n <;> first | contradiction | (cases kind <;> rfl)

/-- **Markers that are not added are never looked for**: there is one of their kind before them. -/
theorem find?_addMarkers {q : PropertyMarker → Bool} (hq : IsKindTest q)
    (present new : List PropertyMarker) :
    (addMarkers present new).find? q = (present ++ new).find? q := by
  rw [addMarkers, List.find?_append, List.find?_append]
  cases hpresent : present.find? q with
  | some m => rfl
  | none =>
    rw [Option.none_or, Option.none_or, List.find?_filter]
    refine List.find?_congr fun m _ => ?_
    cases hm : q m with
    | false => simp
    | true =>
      -- a marker of this kind would have been found among the markers that are present
      have hkind : ∀ n ∈ present, n.kind ≠ m.kind := by
        intro n hn h
        have hqn := List.find?_eq_none.mp hpresent n hn
        rw [hq n m h, hm] at hqn
        exact hqn rfl
      simpa using hkind

/-! ### Members and what they say -/

/-- What a member says about the type of its property, if it is of the given form. -/
def typeFrom (origin : MemberOrigin) (lm : Level × Member) : Option AppType :=
  if lm.2.origin = origin then some lm.2.appType else none

/-- Where a member reads its property from, if it is of the given form. -/
def readerFrom (origin : MemberOrigin) (lm : Level × Member) : Option Route :=
  if lm.2.origin = origin then lm.2.reader.map lm.1.route else none

/-- Where a member writes its property to, if it is of the given form. -/
def writerFrom (origin : MemberOrigin) (lm : Level × Member) : Option Route :=
  if lm.2.origin = origin then lm.2.writer.map lm.1.route else none

/-- **What members say about a property**, each field as the first of them that says something about
it. All markers are kept. -/
def ofMembers (property : String) (lms : List (Level × Member)) : Draft where
  property := property
  markers := lms.flatMap fun lm => lm.2.markers
  getterType := lms.findSome? (typeFrom .getter)
  setterType := lms.findSome? (typeFrom .setter)
  fieldType := lms.findSome? (typeFrom .field)
  getter := lms.findSome? (readerFrom .getter)
  setter := lms.findSome? (writerFrom .setter)
  fieldReader := lms.findSome? (readerFrom .field)
  fieldWriter := lms.findSome? (writerFrom .field)

/-- The draft after members have been added one by one. -/
def absorbAll (d : Draft) (lms : List (Level × Member)) : Draft :=
  lms.foldl (fun d lm => d.absorb lm.1 lm.2) d

theorem absorbAll_concat (d : Draft) (lms : List (Level × Member)) (lm : Level × Member) :
    d.absorbAll (lms ++ [lm]) = (d.absorbAll lms).absorb lm.1 lm.2 := by
  rw [absorbAll, List.foldl_concat, absorbAll]

@[simp] theorem property_absorb (d : Draft) (l : Level) (m : Member) :
    (d.absorb l m).property = d.property := by
  rw [absorb]
  cases m.origin <;> rfl

@[simp] theorem markers_absorb (d : Draft) (l : Level) (m : Member) :
    (d.absorb l m).markers = addMarkers d.markers m.markers := by
  rw [absorb]
  cases m.origin <;> rfl

/-- **Two drafts that say the same**, whatever markers they hold that do not count. -/
structure SaysSame (d e : Draft) : Prop where
  property : d.property = e.property
  find? : ∀ {q : PropertyMarker → Bool}, IsKindTest q → d.markers.find? q = e.markers.find? q
  getterType : d.getterType = e.getterType
  setterType : d.setterType = e.setterType
  fieldType : d.fieldType = e.fieldType
  getter : d.getter = e.getter
  setter : d.setter = e.setter
  fieldReader : d.fieldReader = e.fieldReader
  fieldWriter : d.fieldWriter = e.fieldWriter

/-- One more member adds the same to two drafts that say the same, of which one keeps all
markers. -/
theorem SaysSame.absorb {d : Draft} {property : String} {lms : List (Level × Member)}
    (h : d.SaysSame (ofMembers property lms)) (lm : Level × Member) :
    (d.absorb lm.1 lm.2).SaysSame (ofMembers property (lms ++ [lm])) := by
  have hmarkers : ∀ {q : PropertyMarker → Bool}, IsKindTest q →
      (d.absorb lm.1 lm.2).markers.find? q =
        (ofMembers property (lms ++ [lm])).markers.find? q := by
    intro q hq
    rw [markers_absorb, find?_addMarkers hq, List.find?_append, h.find? hq]
    simp [ofMembers]
  cases horigin : lm.2.origin <;>
    refine ⟨?_, hmarkers, ?_, ?_, ?_, ?_, ?_, ?_, ?_⟩ <;>
    simp [Draft.absorb, ofMembers, horigin, typeFrom, readerFrom, writerFrom, h.property,
      h.getterType, h.setterType, h.fieldType, h.getter, h.setter, h.fieldReader, h.fieldWriter,
      List.findSome?_append, Option.orElse_eq_orElse, Option.orElse_eq_or]

/-- **Members that are added one by one say what they say together.** -/
theorem saysSame_absorbAll (property : String) (lms : List (Level × Member)) :
    SaysSame (absorbAll { property := property } lms) (ofMembers property lms) := by
  induction lms using List.reverseRecOn with
  | nil => exact ⟨rfl, fun _ => rfl, rfl, rfl, rfl, rfl, rfl, rfl, rfl⟩
  | append_singleton lms lm ih =>
    rw [absorbAll_concat]
    exact ih.absorb lm

namespace SaysSame

variable {d e : Draft} (h : d.SaysSame e)

include h

theorem marker? : d.marker? = e.marker? :=
  funext fun kind => h.find? (isKindTest_kind kind)

theorem has : d.has = e.has := by
  funext kind
  rw [Draft.has, h.marker?, Draft.has]

theorem column? : d.column? = e.column? := by
  rw [Draft.column?, h.marker?, Draft.column?]

theorem field? : d.field? = e.field? := by
  rw [Draft.field?, h.marker?, Draft.field?]

theorem computed? : d.computed? = e.computed? := by
  rw [Draft.computed?, h.marker?, Draft.computed?]

theorem appType : d.appType = e.appType := by
  rw [Draft.appType, h.getterType, h.fieldType, h.setterType, Draft.appType]

theorem role : d.role = e.role := by
  rw [Draft.role, h.has, partitionKey?, clusteringColumn?, h.marker?, h.computed?, Draft.role,
    partitionKey?, clusteringColumn?]

theorem validate (kind : MappingKind) : d.validate kind = e.validate kind := by
  rw [Draft.validate, h.find? (isKindTest_not_isAllowed kind), h.has, h.computed?, h.property,
    firstOf, h.has, Draft.validate, firstOf]

theorem boundCodec (className : String) (config : Config) :
    d.boundCodec className config = e.boundCodec className config := by
  rw [Draft.boundCodec, codec?, h.column?, h.field?, h.property, h.appType, Draft.boundCodec,
    codec?]

/-- **Drafts that say the same make the same property.** -/
theorem ofDraft (className : String) (kind : MappingKind) (config : Config) :
    Property.ofDraft className kind config d = Property.ofDraft className kind config e := by
  have hcolumnName : d.columnName = e.columnName := by
    rw [columnName, h.column?, h.field?, h.computed?, h.property, columnName]
  have hfrozenness : d.frozenness = e.frozenness := by
    rw [frozenness, h.has, frozenness]
  have hreader : d.reader = e.reader := by
    rw [reader, h.getter, h.fieldReader, reader]
  have hwriter : d.writer = e.writer := by
    rw [writer, h.setter, h.fieldWriter, writer]
  rw [Property.ofDraft, h.validate, h.boundCodec, h.property, hcolumnName, h.appType, h.role,
    hfrozenness, hreader, hwriter, Property.ofDraft]

end SaysSame

/-! ### One draft for each property -/

/-- The draft of a property among drafts. -/
def draft? (ds : List Draft) (property : String) : Option Draft :=
  ds.find? fun d => d.property == property

/-- One more member changes the draft of its property, or begins it. -/
theorem draft?_absorbInto_self (l : Level) (m : Member) (ds : List Draft) :
    draft? (absorbInto l m ds) m.property =
      some (((draft? ds m.property).getD { property := m.property }).absorb l m) := by
  induction ds with
  | nil => simp [absorbInto, draft?]
  | cons d ds ih =>
    rw [absorbInto]
    split_ifs with hd
    · simp [draft?, hd]
    · simpa [draft?, hd] using ih

/-- It does not change the others. -/
theorem draft?_absorbInto_of_ne {l : Level} {m : Member} {ds : List Draft} {property : String}
    (h : m.property ≠ property) : draft? (absorbInto l m ds) property = draft? ds property := by
  induction ds with
  | nil => simp [absorbInto, draft?, h]
  | cons d ds ih =>
    rw [absorbInto]
    split_ifs with hd
    · simp [draft?, hd, h]
    · rw [draft?, List.find?_cons, ← draft?, ih, draft?, draft?, List.find?_cons]

/-- The properties after one more member: the same ones, or one more at the end. -/
theorem map_property_absorbInto (l : Level) (m : Member) (ds : List Draft) :
    (absorbInto l m ds).map (·.property) =
      if m.property ∈ ds.map (·.property) then ds.map (·.property)
      else ds.map (·.property) ++ [m.property] := by
  induction ds with
  | nil => simp [absorbInto]
  | cons d ds ih =>
    rw [absorbInto]
    split_ifs with hd hmem hmem
    · simp
    · exact absurd (by simp [hd]) hmem
    · rw [List.map_cons, ih, if_pos, List.map_cons]
      simpa [Ne.symm hd] using hmem
    · rw [List.map_cons, ih, if_neg, List.map_cons, List.cons_append]
      simpa [Ne.symm hd] using hmem

/-- The drafts after members have been added one by one. -/
def gatherAll (lms : List (Level × Member)) : List Draft :=
  lms.foldl (fun ds lm => absorbInto lm.1 lm.2 ds) []

theorem gatherAll_concat (lms : List (Level × Member)) (lm : Level × Member) :
    gatherAll (lms ++ [lm]) = absorbInto lm.1 lm.2 (gatherAll lms) := by
  rw [gatherAll, List.foldl_concat, gatherAll]

theorem mem_map_property_gatherAll_iff {lms : List (Level × Member)} {property : String} :
    property ∈ (gatherAll lms).map (·.property) ↔ ∃ lm ∈ lms, lm.2.property = property := by
  induction lms using List.reverseRecOn with
  | nil => simp [gatherAll]
  | append_singleton lms lm ih =>
    have hlast : (∃ lm' ∈ lms ++ [lm], lm'.2.property = property) ↔
        (∃ lm' ∈ lms, lm'.2.property = property) ∨ lm.2.property = property := by
      simp [or_and_right, exists_or]
    rw [gatherAll_concat, map_property_absorbInto, hlast, ← ih]
    split_ifs with hmem
    · exact ⟨Or.inl, fun h => h.elim id fun h => h ▸ hmem⟩
    · rw [List.mem_append, List.mem_singleton, eq_comm (a := property)]

/-- No property has two drafts. -/
theorem nodup_map_property_gatherAll (lms : List (Level × Member)) :
    ((gatherAll lms).map (·.property)).Nodup := by
  induction lms using List.reverseRecOn with
  | nil => exact List.nodup_nil
  | append_singleton lms lm ih =>
    rw [gatherAll_concat, map_property_absorbInto]
    split_ifs with hmem
    · exact ih
    · exact List.nodup_append.mpr ⟨ih, List.nodup_singleton _, by
        rintro a ha b hb rfl
        exact hmem (List.mem_singleton.mp hb ▸ ha)⟩

/-- The members of a property. -/
def membersOfProperty (property : String) (lms : List (Level × Member)) : List (Level × Member) :=
  lms.filter fun lm => lm.2.property == property

/-- **The draft of a property** comes from the members of this property. -/
theorem draft?_gatherAll (lms : List (Level × Member)) (property : String) :
    draft? (gatherAll lms) property =
      if membersOfProperty property lms = [] then none
      else some (absorbAll { property := property } (membersOfProperty property lms)) := by
  induction lms using List.reverseRecOn with
  | nil => rfl
  | append_singleton lms lm ih =>
    rw [gatherAll_concat, membersOfProperty, List.filter_append, ← membersOfProperty]
    by_cases hlm : lm.2.property = property
    · have hlast : [lm].filter (fun lm => lm.2.property == property) = [lm] := by
        simp [hlm]
      rw [hlast, if_neg (List.append_ne_nil_of_right_ne_nil _ (List.cons_ne_nil _ _)),
        absorbAll_concat, ← hlm, draft?_absorbInto_self, hlm, ih]
      -- the first member of a property begins its draft
      split_ifs with hnil
      · rw [hnil]
        rfl
      · rfl
    · have hlast : [lm].filter (fun lm => lm.2.property == property) = [] := by
        simp [hlm]
      rw [hlast, List.append_nil, draft?_absorbInto_of_ne hlm, ih]

/-! ### The whole hierarchy -/

/-- **What the members of a property in a hierarchy say about it**, in the order in which they
count. -/
def declared (levels : List Level) (property : String) : Draft :=
  ofMembers property (membersOfProperty property (scan levels))

theorem mem_scan_iff {levels : List Level} {lm : Level × Member} :
    lm ∈ scan levels ↔ lm.1 ∈ levels ∧ lm.2 ∈ lm.1.decl.members := by
  have hform : ∀ origin, lm ∈ membersOf origin levels ↔
      (lm.1 ∈ levels ∧ lm.2 ∈ lm.1.decl.members) ∧ lm.2.origin = origin := by
    intro origin
    simp only [membersOf, List.mem_flatMap, List.mem_map, List.mem_filter, beq_iff_eq]
    constructor
    · rintro ⟨l, hl, m, ⟨hm, horigin⟩, rfl⟩
      exact ⟨⟨hl, hm⟩, horigin⟩
    · rintro ⟨⟨hl, hm⟩, horigin⟩
      exact ⟨lm.1, hl, lm.2, ⟨hm, horigin⟩, rfl⟩
  rw [scan, List.mem_append, List.mem_append, hform, hform, hform, ← and_or_left, ← and_or_left]
  refine and_iff_left ?_
  cases lm.2.origin <;> simp

/-- A property has a draft if a declaration of the hierarchy has a member of it. -/
theorem mem_map_property_gather_iff {levels : List Level} {property : String} :
    property ∈ (gather levels).map (·.property) ↔ ∃ l ∈ levels, l.decl.declares property := by
  rw [gather, ← gatherAll, mem_map_property_gatherAll_iff]
  simp only [mem_scan_iff, ClassDecl.declares, List.any_eq_true, beq_iff_eq]
  constructor
  · rintro ⟨lm, ⟨hl, hm⟩, hproperty⟩
    exact ⟨lm.1, hl, lm.2, hm, hproperty⟩
  · rintro ⟨l, hl, m, hm, hproperty⟩
    exact ⟨(l, m), ⟨hl, hm⟩, hproperty⟩

/-- **The draft of a property says what the members of this property say.** -/
theorem saysSame_of_mem_gather {levels : List Level} {d : Draft} (h : d ∈ gather levels) :
    d.SaysSame (declared levels d.property) := by
  have hfound : draft? (gather levels) d.property = some d :=
    List.find?_eq_some_of_nodup_map (nodup_map_property_gatherAll _) h
  rw [gather, ← gatherAll, draft?_gatherAll] at hfound
  split_ifs at hfound
  have hsame := saysSame_absorbAll d.property (membersOfProperty d.property (scan levels))
  rwa [Option.some.inj hfound] at hsame

theorem perm_ofLevels (levels : List Level) : (ofLevels levels).Perm (gather levels) :=
  List.mergeSort_perm ..

/-- **A property is made from what its members say**, with whatever else the hierarchy declares. -/
theorem ofDraft_of_mem_ofLevels {levels : List Level} {d : Draft} (h : d ∈ ofLevels levels)
    (className : String) (kind : MappingKind) (config : Config) :
    Property.ofDraft className kind config d =
      Property.ofDraft className kind config (declared levels d.property) :=
  (saysSame_of_mem_gather ((perm_ofLevels levels).mem_iff.mp h)).ofDraft className kind config

/-- **The properties that a hierarchy declares.** -/
def names (levels : List Level) : List String :=
  (levels.flatMap fun l => l.decl.members.map (·.property)).dedup

theorem mem_names_iff {levels : List Level} {property : String} :
    property ∈ names levels ↔ ∃ l ∈ levels, l.decl.declares property := by
  simp only [names, List.mem_dedup, List.mem_flatMap, List.mem_map, ClassDecl.declares,
    List.any_eq_true, beq_iff_eq]

/-- **There is one draft for each property that is declared.** -/
theorem perm_map_property_ofLevels (levels : List Level) :
    ((ofLevels levels).map (·.property)).Perm (names levels) := by
  have hnodup : ((gather levels).map (·.property)).Nodup := nodup_map_property_gatherAll _
  refine ((perm_ofLevels levels).map _).trans ?_
  refine (List.perm_ext_iff_of_nodup hnodup (List.nodup_dedup _)).mpr fun property => ?_
  rw [mem_map_property_gather_iff, ← names, mem_names_iff]

/-- **A property that is declared has a draft**, which says what its members say. -/
theorem exists_draft?_ofLevels {levels : List Level} {property : String}
    (h : property ∈ names levels) :
    ∃ d, draft? (ofLevels levels) property = some d ∧ d.SaysSame (declared levels property) := by
  have hperm := perm_map_property_ofLevels levels
  obtain ⟨d, hd, rfl⟩ := List.mem_map.mp (hperm.mem_iff.mpr h)
  have hnodup : ((ofLevels levels).map (·.property)).Nodup :=
    hperm.nodup_iff.mpr (List.nodup_dedup _)
  exact ⟨d, List.find?_eq_some_of_nodup_map hnodup hd,
    saysSame_of_mem_gather ((perm_ofLevels levels).mem_iff.mp hd)⟩

end Draft

end WideColumn

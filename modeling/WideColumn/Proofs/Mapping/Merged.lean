import Mathlib
import WideColumn.Proofs.Mapping.Access
import WideColumn.Proofs.Mapping.PropertyOrder
import WideColumn.Samples.Records

/-!
# What a merge comes to

All members of all properties are merged in one pass over the hierarchy for each of the three forms of
members, and every property is gathered from many of them, for each of its parts by a rule of its own.
What comes out can be told for one property at a time and without any pass. The members of the
property are taken in the order of the hierarchy, getters before setters before fields
(`WideColumn.Draft.countingMembers`). Of a kind of marker the first one counts that any of them has,
its type is that of the first getter if there is one, and it is read through the first getter or field
that can be read (`WideColumn.Draft.IsMerged`).

* `WideColumn.Draft.countingMembers`: the members of a property, in the order in which they count;
* `WideColumn.Draft.firstMember`: the first member of some form;
* `WideColumn.Draft.IsMerged`: what the members of a property come to;
* `WideColumn.Draft.ofLevels_merges`: **the drafts of a hierarchy**, and their order.
-/

namespace WideColumn

namespace Draft

variable {levels : List Level} {name : String} {d : Draft}

/-! ### Members -/

/-- The members of a property, in the order of the hierarchy. -/
def membersNamed (levels : List Level) (name : String) : List (Level × Member) :=
  levels.flatMap fun l => (l.decl.members.filter (·.property == name)).map fun m => (l, m)

/-- **The members of a property in the order in which they count**: getters first, then setters, then
fields. -/
def countingMembers (levels : List Level) (name : String) : List (Level × Member) :=
  let members := membersNamed levels name
  members.filter (·.2.origin == .getter) ++
    (members.filter (·.2.origin == .setter) ++ members.filter (·.2.origin == .field))

/-- It makes no difference whether members are told apart by their form or by their property
first. -/
theorem membersOfProperty_scan (levels : List Level) (name : String) :
    membersOfProperty name (scan levels) = countingMembers levels name := by
  have hform : ∀ origin, membersOfProperty name (membersOf origin levels) =
      (membersNamed levels name).filter (·.2.origin == origin) := by
    intro origin
    simp only [membersOfProperty, membersOf, membersNamed, List.filter_flatMap, List.filter_map,
      List.filter_filter, Function.comp_def, Bool.and_comm]
  rw [scan, membersOfProperty, List.filter_append, List.filter_append]
  exact congrArg₂ _ (hform .getter) (congrArg₂ _ (hform .setter) (hform .field))

/-- **The first member of a form that has some property**, where of several forms the earlier ones
are preferred. -/
def firstMember (origins : List MemberOrigin) (p : Member → Bool) (members : List (Level × Member)) :
    Option (Level × Member) :=
  origins.findSome? fun origin => members.find? fun lm => lm.2.origin == origin && p lm.2

/-- The first marker of a kind is that of the first member that has one. -/
theorem find?_flatMap_markers (kind : MarkerKind) (members : List (Level × Member)) :
    (members.flatMap fun lm => lm.2.markers).find? (fun m => m.kind == kind) =
      (members.find? fun lm => lm.2.markers.any fun m => m.kind == kind).bind
        fun lm => lm.2.markers.find? fun m => m.kind == kind := by
  have hany : ∀ lm : Level × Member,
      (lm.2.markers.find? fun m => m.kind == kind).isSome =
        lm.2.markers.any fun m => m.kind == kind := by
    intro lm
    rw [Bool.eq_iff_iff, List.find?_isSome, List.any_eq_true]
  rw [List.find?_flatMap, List.findSome?_eq_bind_find?]
  simp only [hany]

/-- What the members of a form say about the type is what the first of them says. -/
theorem findSome?_typeFrom (origin : MemberOrigin) (members : List (Level × Member)) :
    members.findSome? (typeFrom origin) =
      (members.find? fun lm => lm.2.origin == origin).map (·.2.appType) := by
  induction members with
  | nil => rfl
  | cons lm members ih =>
    rw [List.findSome?_cons, List.find?_cons, typeFrom]
    by_cases h : lm.2.origin = origin
    · rw [if_pos h, beq_iff_eq.mpr h]
      rfl
    · rw [if_neg h, beq_false_of_ne h]
      exact ih

/-- The first member that is bound is the first one that has a slot. -/
theorem firstBound_eq_firstMember (slot? : Member → Option SlotRef) (first second : MemberOrigin)
    (members : List (Level × Member)) :
    firstBound (boundFrom slot? first) (boundFrom slot? second) members =
      firstMember [first, second] (fun m => (slot? m).isSome) members := by
  have hbound : ∀ origin (lm : Level × Member), (boundFrom slot? origin lm).isSome =
      (lm.2.origin == origin && (slot? lm.2).isSome) := by
    intro origin lm
    rw [boundFrom]
    by_cases h : lm.2.origin = origin
    · rw [if_pos h, Option.isSome_map, beq_iff_eq.mpr h, Bool.true_and]
    · rw [if_neg h, beq_false_of_ne h]
      rfl
  simp only [firstBound, hbound, firstMember, List.findSome?_cons, List.findSome?_nil]
  cases members.find? fun lm => lm.2.origin == first && (slot? lm.2).isSome with
  | some lm => rfl
  | none => cases members.find? fun lm => lm.2.origin == second && (slot? lm.2).isSome <;> rfl

/-! ### Drafts -/

/-- **What the members of a property come to.** -/
structure IsMerged (members : List (Level × Member)) (d : Draft) : Prop where
  /-- Of each kind the first marker counts, on the first member that has one. -/
  marker? : ∀ kind, d.marker? kind =
    (members.find? fun lm => lm.2.markers.any fun m => m.kind == kind).bind
      fun lm => lm.2.markers.find? fun m => m.kind == kind
  /-- The type is that of the first getter, else of the first field, else of the first setter. -/
  appType : some d.appType =
    (firstMember [.getter, .field, .setter] (fun _ => true) members).map (·.2.appType)
  /-- The property is read through the first getter that can be read, else such a field. -/
  reader : d.reader = (firstMember [.getter, .field] (·.reader.isSome) members).bind
    fun lm => lm.2.reader.map lm.1.route
  /-- It is written through the first setter that can be written, else such a field. -/
  writer : d.writer = (firstMember [.setter, .field] (·.writer.isSome) members).bind
    fun lm => lm.2.writer.map lm.1.route

/-- The type of a property that has members is that of one of them. -/
theorem some_appType_ofMembers {members : List (Level × Member)} (h : members ≠ []) :
    some (ofMembers name members).appType =
      (firstMember [.getter, .field, .setter] (fun _ => true) members).map (·.2.appType) := by
  have hfirst : (firstMember [.getter, .field, .setter] (fun _ => true) members).map (·.2.appType) =
      ((ofMembers name members).getterType <|> (ofMembers name members).fieldType <|>
        (ofMembers name members).setterType) := by
    simp only [firstMember, ofMembers, findSome?_typeFrom, Bool.and_true, List.findSome?_cons,
      List.findSome?_nil]
    cases members.find? (fun lm => lm.2.origin == .getter) <;>
      cases members.find? (fun lm => lm.2.origin == .field) <;>
      cases members.find? (fun lm => lm.2.origin == .setter) <;> rfl
  have hsome : (firstMember [.getter, .field, .setter] (fun _ => true) members).isSome := by
    obtain ⟨lm, hlm⟩ := List.exists_mem_of_ne_nil members h
    rw [firstMember, List.findSome?_isSome_iff]
    refine ⟨lm.2.origin, by cases lm.2.origin <;> decide, ?_⟩
    rw [List.find?_isSome]
    exact ⟨lm, hlm, by simp⟩
  rw [Draft.appType, ← hfirst]
  obtain ⟨lm, hlm⟩ := Option.isSome_iff_exists.mp hsome
  rw [hlm]
  rfl

theorem isMerged_declared (h : countingMembers levels name ≠ []) :
    IsMerged (countingMembers levels name) (declared levels name) := by
  have hdeclared : declared levels name = ofMembers name (countingMembers levels name) := by
    rw [declared, membersOfProperty_scan]
  refine ⟨fun kind => ?_, ?_, ?_, ?_⟩
  · rw [hdeclared]
    exact find?_flatMap_markers kind _
  · rw [hdeclared]
    exact some_appType_ofMembers h
  · rw [reader_declared, readingMember?, membersOfProperty_scan]
    exact congrArg (Option.bind · _) (firstBound_eq_firstMember (·.reader) .getter .field _)
  · rw [writer_declared, writingMember?, membersOfProperty_scan]
    exact congrArg (Option.bind · _) (firstBound_eq_firstMember (·.writer) .setter .field _)

/-- What says the same has been merged in the same way. -/
theorem SaysSame.isMerged {e : Draft} {members : List (Level × Member)} (h : d.SaysSame e)
    (he : IsMerged members e) : IsMerged members d := by
  refine ⟨fun kind => ?_, ?_, ?_, ?_⟩
  · rw [h.marker?, he.marker?]
  · rw [h.appType, he.appType]
  · rw [← he.reader, Draft.reader, h.getter, h.fieldReader, Draft.reader]
  · rw [← he.writer, Draft.writer, h.setter, h.fieldWriter, Draft.writer]

/-- A property is declared if it has members. -/
theorem countingMembers_ne_nil (h : name ∈ names levels) : countingMembers levels name ≠ [] := by
  obtain ⟨l, hl, hdeclares⟩ := mem_names_iff.mp h
  obtain ⟨m, hm, hname⟩ := List.any_eq_true.mp hdeclares
  have hscan : (l, m) ∈ scan levels := mem_scan_iff.mpr ⟨hl, hm⟩
  rw [← membersOfProperty_scan]
  exact List.ne_nil_of_mem (List.mem_filter.mpr ⟨hscan, hname⟩)

/-- **The drafts of a hierarchy.** There is exactly one for each property that is declared, and it is
what the members of this property come to. Drafts are in the order of the farthest classes that
declare their properties, the farthest first, and otherwise in the order in which their properties are
met first, by form and then by level. -/
theorem ofLevels_merges (levels : List Level) :
    (∀ name, ((ofLevels levels).map (·.property)).count name =
      if levels.any (·.decl.declares name) then 1 else 0) ∧
    (∀ d ∈ ofLevels levels, IsMerged (countingMembers levels d.property) d) ∧
    (∀ name, IsDeepest levels name (depth levels name)) ∧
    ((ofLevels levels).map (·.property)).Pairwise fun a b => depth levels b < depth levels a ∨
      depth levels b = depth levels a ∧ place levels a < place levels b := by
  have hperm := perm_map_property_ofLevels levels
  refine ⟨fun name => ?_, fun d hd => ?_, isDeepest_depth levels, pairwise_ofLevels levels⟩
  · have hdeclared : name ∈ names levels ↔ levels.any (·.decl.declares name) := by
      rw [mem_names_iff, List.any_eq_true]
    have hnodup : (names levels).Nodup := List.nodup_dedup _
    rw [hperm.count_eq, hnodup.count]
    exact if_congr hdeclared rfl rfl
  · have hname : d.property ∈ names levels := hperm.mem_iff.mp (List.mem_map_of_mem hd)
    exact (saysSame_of_mem_gather ((perm_ofLevels levels).mem_iff.mp hd)).isMerged
      (isMerged_declared (countingMembers_ne_nil hname))

/-- The labels of a note are named and typed by the getter of an interface, and read through the
field, since the getter cannot be read. -/
theorem ofLevels_merges_labels : ∃ d ∈ ofLevels (Samples.note.decl 3).levels,
    d.property = "labels" ∧
      d.marker? .column = some (.column ⟨some "tag_set", false, none⟩) ∧
      d.appType = .set (.primitive .string) ∧
      d.reader = some ⟨[], ⟨"Note", "labels"⟩⟩ := by
  obtain ⟨hcount, hmerged, -, -⟩ := ofLevels_merges (Samples.note.decl 3).levels
  have hdeclared : (Samples.note.decl 3).levels.any (·.decl.declares "labels") := by cbv
  have hpos : 0 < ((ofLevels (Samples.note.decl 3).levels).map (·.property)).count "labels" := by
    rw [hcount, if_pos hdeclared]
    exact Nat.one_pos
  obtain ⟨d, hd, hname⟩ := List.mem_map.mp (List.count_pos_iff.mp hpos)
  have hlabels := hmerged d hd
  rw [hname] at hlabels
  refine ⟨d, hd, hname, (hlabels.marker? .column).trans ?_, ?_, hlabels.reader.trans ?_⟩
  · cbv
  · refine Option.some.inj (hlabels.appType.trans ?_)
    cbv
  · cbv

end Draft

end WideColumn

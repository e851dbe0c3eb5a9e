import Mathlib
import WideColumn.Proofs.Mapping.Descriptor
import WideColumn.Proofs.Mapping.Hierarchy
import WideColumn.Samples.Interfaces

/-!
# Markers that do not go together

A property may be declared more than once in a hierarchy, and each declaration brings its own
markers. They are merged kind by kind: a marker gives way to one of its own kind that is met before
it, and to nothing else. So a marker of a declaration far away stays, even where a closer one has a
marker that it does not go together with, and then the class cannot be mapped. What decides is only
which kinds are carried anywhere in the hierarchy (`WideColumn.ClassDecl.CarriesAnywhere`): not by
which declaration, not at which distance, and not whether there is anything to read or to write.

* `WideColumn.MarkerKind.conflicts`: the kinds that do not go together;
* `WideColumn.ClassDecl.Carries`: a declaration has a marker of a kind on a property;
* `WideColumn.Descriptor.build_eq_conflictingMarkers_iff`: **when a class is refused for markers that
  do not go together, and for which ones**;
* `WideColumn.Descriptor.conflictingMarkers_iff_carriesAnywhere`: the same, along with the part that
  a property plays otherwise;
* `WideColumn.Descriptor.not_forall_ne_conflictingMarkers`: a closer declaration does not keep the
  markers of a farther one away.
-/

namespace WideColumn

/-- **The pairs of markers that a property may not have**, in the order in which they are looked
for. -/
def MarkerKind.conflicts : List (MarkerKind × MarkerKind) :=
  [(.partitionKey, .clusteringColumn), (.column, .computed), (.partitionKey, .computed),
    (.clusteringColumn, .computed)]

namespace Draft

variable {d : Draft}

/-! ### The check of one property -/

/-- The first pair of markers that do not go together. -/
def conflict? (d : Draft) : Option (MarkerKind × MarkerKind) :=
  MarkerKind.conflicts.find? fun c => d.has c.1 && d.has c.2

/-- The pairs with a computed property are those that are looked for in such a property. -/
theorem conflict?_eq (hkey : ¬(d.has .partitionKey ∧ d.has .clusteringColumn)) :
    d.conflict? = if d.has .computed then
      (d.firstOf [.column, .partitionKey, .clusteringColumn]).map (·, .computed) else none := by
  have hpair : (d.has .partitionKey && d.has .clusteringColumn) = false := by
    simpa using hkey
  rw [conflict?, MarkerKind.conflicts, List.find?_cons, hpair, firstOf]
  simp only [List.find?_cons, List.find?_nil]
  cases d.has .computed with
  | false => simp only [Bool.and_false, if_neg Bool.false_ne_true]
  | true =>
    simp only [Bool.and_true, if_pos]
    cases d.has .column <;> cases d.has .partitionKey <;> cases d.has .clusteringColumn <;> rfl

/-- **Which markers a property is refused for**: if each of them may be there, the first two that do
not go together. -/
theorem validate_eq_conflictingMarkers_iff {kind : MappingKind} {property : String}
    {first second : MarkerKind} :
    d.validate kind = .error (.conflictingMarkers property first second) ↔
      d.property = property ∧ (∀ m ∈ d.markers, m.isAllowed kind) ∧
        d.conflict? = some (first, second) := by
  rw [validate]
  cases hillegal : d.markers.find? fun m => !m.isAllowed kind with
  | some m =>
    refine iff_of_false (by simp) fun h => ?_
    have hm := List.find?_some hillegal
    rw [h.2.1 m (List.mem_of_find?_eq_some hillegal)] at hm
    simp at hm
  | none =>
    have hallowed : ∀ m ∈ d.markers, m.isAllowed kind := by
      simpa using hillegal
    rw [and_iff_right hallowed]
    by_cases hkey : d.has .partitionKey ∧ d.has .clusteringColumn
    · have hconflict : d.conflict? = some (.partitionKey, .clusteringColumn) :=
        List.find?_cons_of_pos (by simpa using hkey)
      rw [if_pos (by simpa using hkey), hconflict]
      simp
    · rw [if_neg (by simpa using hkey), conflict?_eq hkey]
      cases hexpression : d.computed? with
      | none =>
        have hcomputed : ¬d.has .computed := by
          rw [has_computed_iff, hexpression]
          simp
        rw [if_neg hcomputed]
        simp
      | some e =>
        rw [if_pos (has_computed_iff.mpr ⟨e, hexpression⟩)]
        cases d.firstOf [.column, .partitionKey, .clusteringColumn] with
        | some other => simp
        | none =>
          -- nothing is left but an expression that may be empty
          dsimp only
          split_ifs <;> simp

end Draft

namespace ClassDecl

/-! ### Who carries a marker -/

/-- **A declaration has a marker of a kind** on one of its members of a property. -/
def Carries (x : ClassDecl) (name : String) (kind : MarkerKind) : Prop :=
  ∃ m ∈ x.members, m.property = name ∧ ∃ marker ∈ m.markers, marker.kind = kind

/-- **Some declaration of a hierarchy has a marker of a kind** on a property. -/
def CarriesAnywhere (d : ClassDecl) (name : String) (kind : MarkerKind) : Prop :=
  ∃ x ∈ d.declarations, x.Carries name kind

/-- **The first two kinds that do not go together**, if both are carried by any declarations. -/
def IsFirstConflict (d : ClassDecl) (name : String) (first second : MarkerKind) : Prop :=
  ∃ before after, MarkerKind.conflicts = before ++ (first, second) :: after ∧
    (d.CarriesAnywhere name first ∧ d.CarriesAnywhere name second) ∧
    ∀ c ∈ before, ¬(d.CarriesAnywhere name c.1 ∧ d.CarriesAnywhere name c.2)

variable {d : ClassDecl} {name : String} {kind : MarkerKind}

/-- The markers that are merged are those of all members of the property. -/
theorem mem_markers_declared_iff {marker : PropertyMarker} :
    marker ∈ (Draft.declared d.levels name).markers ↔
      ∃ x ∈ d.declarations, ∃ m ∈ x.members, m.property = name ∧ marker ∈ m.markers := by
  simp only [Draft.declared, Draft.ofMembers, Draft.membersOfProperty, List.mem_flatMap,
    List.mem_filter, Draft.mem_scan_iff, beq_iff_eq, declarations, List.mem_map]
  constructor
  · rintro ⟨lm, ⟨⟨hl, hm⟩, hname⟩, hmarker⟩
    exact ⟨lm.1.decl, ⟨lm.1, hl, rfl⟩, lm.2, hm, hname, hmarker⟩
  · rintro ⟨x, ⟨l, hl, rfl⟩, m, hm, hname, hmarker⟩
    exact ⟨(l, m), ⟨⟨hl, hm⟩, hname⟩, hmarker⟩

/-- **A merged property has a marker of a kind** exactly if any declaration has one. -/
theorem has_declared_iff : (Draft.declared d.levels name).has kind ↔ d.CarriesAnywhere name kind := by
  rw [Draft.has, Draft.marker?, List.find?_isSome]
  simp only [mem_markers_declared_iff, beq_iff_eq]
  constructor
  · rintro ⟨marker, ⟨x, hx, m, hm, hname, hmarker⟩, hkind⟩
    exact ⟨x, hx, m, hm, hname, marker, hmarker, hkind⟩
  · rintro ⟨x, hx, m, hm, hname, marker, hmarker, hkind⟩
    exact ⟨marker, ⟨x, hx, m, hm, hname, hmarker⟩, hkind⟩

theorem conflict?_declared_eq_some_iff {first second : MarkerKind} :
    (Draft.declared d.levels name).conflict? = some (first, second) ↔
      d.IsFirstConflict name first second := by
  rw [Draft.conflict?, List.find?_eq_some_iff_append, IsFirstConflict]
  simp only [Bool.and_eq_true, has_declared_iff, Bool.not_eq_true', ← Bool.not_eq_true]
  constructor
  · rintro ⟨hboth, before, after, hsplit, hbefore⟩
    exact ⟨before, after, hsplit, hboth, hbefore⟩
  · rintro ⟨before, after, hsplit, hboth, hbefore⟩
    exact ⟨hboth, before, after, hsplit, hbefore⟩

/-- In a table only the markers of fields of user-defined types are out of place. -/
theorem forall_isAllowed_table_iff :
    (∀ marker ∈ (Draft.declared d.levels name).markers, marker.isAllowed .table) ↔
      ¬d.CarriesAnywhere name .field := by
  have hfield : ∀ marker : PropertyMarker, marker.isAllowed .table ↔ ¬marker.kind = .field := by
    intro marker
    cases marker <;> simp [PropertyMarker.isAllowed, PropertyMarker.kind]
  rw [← has_declared_iff, Draft.has, Draft.marker?, List.find?_isSome]
  simp only [hfield, beq_iff_eq, not_exists, not_and]

end ClassDecl

/-! ### Roles -/

namespace Draft

variable {d : Draft}

/-- What is not stored has the marker for it, and plays no other part. -/
theorem isTransient_role_iff : d.role.isTransient ↔ d.has .transient := by
  rw [role]
  by_cases h : d.has .transient
  · rw [if_pos h]
    exact iff_of_true rfl h
  · rw [if_neg h]
    refine iff_of_false ?_ h
    split <;> exact Bool.false_ne_true

theorem MarkersAgree.conflict?_eq_none {kind : MappingKind} (h : d.MarkersAgree kind) :
    d.conflict? = none := by
  rw [conflict?_eq h.key]
  split_ifs with hcomputed
  · have hno := not_and.mp h.computed hcomputed
    simpa [firstOf, not_or] using hno
  · rfl

/-- **The part that a property plays**, where it is stored and its markers agree, is that of the
one marker that it has for this. -/
theorem MarkersAgree.role_iff {kind : MappingKind} (h : d.MarkersAgree kind)
    (hstored : ¬d.has .transient) :
    (d.role.isPartitionKey ↔ d.has .partitionKey) ∧
    (d.role.isClusteringColumn ↔ d.has .clusteringColumn) ∧
    (d.role.isComputed ↔ d.has .computed) := by
  have hkey := h.key
  have hcomputed := h.computed
  rw [← exists_partitionKey?_iff, ← exists_clusteringColumn?_iff] at hkey
  rw [← exists_partitionKey?_iff, ← exists_clusteringColumn?_iff, has_computed_iff] at hcomputed
  rw [role, if_neg hstored, ← exists_partitionKey?_iff, ← exists_clusteringColumn?_iff,
    has_computed_iff]
  cases hpartition : d.partitionKey? with
  | some n => simp_all [PropertyRole.isPartitionKey, PropertyRole.isClusteringColumn,
      PropertyRole.isComputed]
  | none =>
    cases hclustering : d.clusteringColumn? with
    | some n => simp_all [PropertyRole.isPartitionKey, PropertyRole.isClusteringColumn,
        PropertyRole.isComputed]
    | none =>
      cases hexpression : d.computed? <;> simp [PropertyRole.isPartitionKey,
        PropertyRole.isClusteringColumn, PropertyRole.isComputed]

end Draft

namespace Descriptor

variable {d : ClassDecl} {kind : MappingKind} {config : Config}

/-! ### Errors of the single steps -/

/-- Drafts are refused with the error of the first one that is. -/
theorem result_buildProperties_eq_error_iff {className : String} {drafts : List Draft}
    {e : MappingError} :
    (buildProperties className kind config drafts).result = .error e ↔
      ∃ before draft after, drafts = before ++ draft :: after ∧
        (∀ other ∈ before, ∃ p, (Property.ofDraft className kind config other).result = .ok p) ∧
        (Property.ofDraft className kind config draft).result = .error e := by
  rw [result_buildProperties, List.mapM_eq_error_iff]

/-- A property is refused for its markers before its codec is looked at. -/
theorem result_ofDraft_eq_conflictingMarkers_iff {className name : String} {draft : Draft}
    {first second : MarkerKind} :
    (Property.ofDraft className kind config draft).result =
        .error (.conflictingMarkers name first second) ↔
      draft.validate kind = .error (.conflictingMarkers name first second) := by
  have hcodec : (draft.boundCodec className config).result ≠
      .error (.conflictingMarkers name first second) := by
    rw [Draft.boundCodec]
    cases draft.codec? with
    | none => simp
    | some c =>
      dsimp only
      split_ifs <;> simp [Except.bind]
  rw [Property.ofDraft, Traced.result_bind_eq_error_iff, Traced.result_ofExcept]
  simp [Traced.result_bind_eq_error_iff, hcodec, -Traced.result_bind]

/-- No later step is about markers that do not go together. -/
theorem orderedKey_ne_conflictingMarkers {marker : MarkerKind} {isKey : Property → Bool}
    {ps : List Property} {name : String} {first second : MarkerKind} :
    orderedKey marker isKey ps ≠ .error (.conflictingMarkers name first second) := by
  have hpositions : ∀ (expected : Nat) (ps : List Property),
      checkPositions marker expected ps ≠ .error (.conflictingMarkers name first second) := by
    intro expected ps
    induction ps generalizing expected with
    | nil => simp [checkPositions]
    | cons p ps ih =>
      rw [checkPositions]
      split_ifs
      · exact ih _
      · simp
  rw [orderedKey, Ne, Except.bind_eq_error_iff]
  rintro (h | ⟨u, -, h⟩)
  · exact hpositions _ _ h
  · cases h

theorem resolveKeyspace_ne_conflictingMarkers {name : String} {first second : MarkerKind} :
    resolveKeyspace d kind config ≠ .error (.conflictingMarkers name first second) := by
  rw [resolveKeyspace]
  cases nonEmpty (entityName d kind).keyspace with
  | some keyspace => simp
  | none =>
    cases config.defaultKeyspace with
    | some keyspace => simp
    | none => simp

theorem validateKind_ne_conflictingMarkers {name : String} {first second : MarkerKind} :
    validateKind d kind ≠ .error (.conflictingMarkers name first second) := by
  rw [validateKind]
  split_ifs
  · simp
  · simp
  · split <;> simp

/-! ### Classes with markers that do not go together -/

/-- A merged property that makes a property keeps the rules. -/
theorem exists_result_ofDraft_iff {draft : Draft} (h : draft ∈ Draft.ofLevels d.levels) :
    (∃ p, (Property.ofDraft d.name kind config draft).result = .ok p) ↔
      KeepsRules d kind config draft.property := by
  simp only [Draft.ofDraft_of_mem_ofLevels h, Property.result_ofDraft_eq_ok_iff, exists_and_left,
    exists_eq', and_true]
  rfl

/-- **When a class cannot be mapped to a table for markers that do not go together, and for which
ones**: its own markers are accepted, the properties before keep the rules, and the two markers are
the first pair of which each is carried by any declaration. -/
theorem build_eq_conflictingMarkers_iff {name : String} {first second : MarkerKind} :
    (build d .table config).result = .error (.conflictingMarkers name first second) ↔
      validateKind d .table = .ok () ∧
      (∃ before after, (Draft.ofLevels d.levels).map (·.property) = before ++ name :: after ∧
        ∀ other ∈ before, KeepsRules d .table config other) ∧
      ¬d.CarriesAnywhere name .field ∧ d.IsFirstConflict name first second := by
  have hsteps : (build d .table config).result = .error (.conflictingMarkers name first second) ↔
      validateKind d .table = .ok () ∧
        (buildProperties d.name .table config (Draft.ofLevels d.levels)).result =
          .error (.conflictingMarkers name first second) := by
    rw [build, Traced.result_bind_eq_error_iff, Traced.result_ofExcept, Unique.exists_iff,
      or_iff_right validateKind_ne_conflictingMarkers, buildEntity]
    simp only [Traced.result_bind_eq_error_iff, Traced.result_ofExcept, Traced.result_note,
      Traced.result_pure, orderedKey_ne_conflictingMarkers, resolveKeyspace_ne_conflictingMarkers,
      reduceCtorEq, and_false, exists_false, or_false]
    rintro ⟨⟩
  have hdraft : ∀ draft ∈ Draft.ofLevels d.levels,
      ((Property.ofDraft d.name .table config draft).result =
          .error (.conflictingMarkers name first second) ↔
        draft.property = name ∧ ¬d.CarriesAnywhere name .field ∧
          d.IsFirstConflict name first second) := by
    intro draft hmem
    have hproperty : (Draft.declared d.levels draft.property).property = draft.property := rfl
    rw [Draft.ofDraft_of_mem_ofLevels hmem, result_ofDraft_eq_conflictingMarkers_iff,
      Draft.validate_eq_conflictingMarkers_iff, hproperty]
    refine and_congr_right fun hname => ?_
    rw [hname, ClassDecl.forall_isAllowed_table_iff, ClassDecl.conflict?_declared_eq_some_iff]
  rw [hsteps, result_buildProperties_eq_error_iff]
  refine and_congr_right fun _ => ?_
  constructor
  · rintro ⟨before, draft, after, hsplit, hbefore, h⟩
    have hmem : ∀ other ∈ before ++ draft :: after, other ∈ Draft.ofLevels d.levels :=
      fun other hother => hsplit ▸ hother
    obtain ⟨rfl, hfield, hconflict⟩ := (hdraft draft (hmem draft (by simp))).mp h
    refine ⟨⟨before.map (·.property), after.map (·.property), ?_, ?_⟩, hfield, hconflict⟩
    · rw [hsplit, List.map_append, List.map_cons]
    · refine List.forall_mem_map.mpr fun other hother => ?_
      exact (exists_result_ofDraft_iff (hmem other (List.mem_append_left _ hother))).mp
        (hbefore other hother)
  · rintro ⟨⟨before, after, hsplit, hbefore⟩, hfield, hconflict⟩
    obtain ⟨before, drafts, hdrafts, rfl, hrest⟩ := List.map_eq_append_iff.mp hsplit
    obtain ⟨draft, after, rfl, rfl, rfl⟩ := List.map_eq_cons_iff.mp hrest
    have hmem : ∀ other ∈ before ++ draft :: after, other ∈ Draft.ofLevels d.levels :=
      fun other hother => hdrafts ▸ hother
    refine ⟨before, draft, after, hdrafts, fun other hother => ?_, ?_⟩
    · exact (exists_result_ofDraft_iff (hmem other (List.mem_append_left _ hother))).mpr
        (hbefore _ (List.mem_map_of_mem hother))
    · exact (hdraft draft (hmem draft (by simp))).mpr ⟨rfl, hfield, hconflict⟩

/-- If the class can be mapped, then all markers go together, and **the part that a property plays is
told by the kinds carried anywhere**. -/
theorem role_iff_carriesAnywhere {desc : Descriptor} (hkind : kind ≠ .accessor)
    (h : (build d kind config).result = .ok desc) {p : Property} (hp : p ∈ desc.properties) :
    (¬∃ first second, d.IsFirstConflict p.name first second) ∧
    (p.isTransient ↔ d.CarriesAnywhere p.name .transient) ∧
    (¬d.CarriesAnywhere p.name .transient →
      (p.isPartitionKey ↔ d.CarriesAnywhere p.name .partitionKey) ∧
      (p.isClusteringColumn ↔ d.CarriesAnywhere p.name .clusteringColumn) ∧
      (p.isComputed ↔ d.CarriesAnywhere p.name .computed)) := by
  obtain ⟨hname, hdeclared⟩ := (mem_properties_iff hkind h).mp hp
  have hrules := ((result_build_eq_ok_iff hkind).mp h).2.1
  have hmarkers : (Draft.declared d.levels p.name).MarkersAgree kind := (hrules p.name hname).1
  have hrole : p.role = (Draft.declared d.levels p.name).role := congrArg Property.role hdeclared.symm
  rw [Property.isTransient, Property.isPartitionKey, Property.isClusteringColumn,
    Property.isComputed, hrole]
  simp only [← ClassDecl.has_declared_iff, ← ClassDecl.conflict?_declared_eq_some_iff,
    hmarkers.conflict?_eq_none]
  exact ⟨by simp, Draft.isTransient_role_iff, hmarkers.role_iff⟩

/-- **What decides whether markers go together is which kinds are carried anywhere**, and the same
kinds tell the part that a property plays otherwise. It makes no difference which declaration
carries a marker, and at which distance. -/
theorem conflictingMarkers_iff_carriesAnywhere (d : ClassDecl) (config : Config) :
    (∀ (name : String) (first second : MarkerKind),
      (build d .table config).result = .error (.conflictingMarkers name first second) ↔
        validateKind d .table = .ok () ∧
        (∃ before after, (Draft.ofLevels d.levels).map (·.property) = before ++ name :: after ∧
          ∀ other ∈ before, KeepsRules d .table config other) ∧
        ¬d.CarriesAnywhere name .field ∧ d.IsFirstConflict name first second) ∧
    ∀ desc, (build d .table config).result = .ok desc → ∀ p ∈ desc.properties,
      (¬∃ first second, d.IsFirstConflict p.name first second) ∧
      (p.isTransient ↔ d.CarriesAnywhere p.name .transient) ∧
      (¬d.CarriesAnywhere p.name .transient →
        (p.isPartitionKey ↔ d.CarriesAnywhere p.name .partitionKey) ∧
        (p.isClusteringColumn ↔ d.CarriesAnywhere p.name .clusteringColumn) ∧
        (p.isComputed ↔ d.CarriesAnywhere p.name .computed)) := by
  exact ⟨fun name first second => build_eq_conflictingMarkers_iff,
    fun desc h p hp => role_iff_carriesAnywhere (by decide) h hp⟩

/-- **A closer declaration does not keep a marker away that it does not go together with**: no
declaration of a class need have both of the markers, and the farther one may have nothing to read
or to write. -/
theorem not_forall_ne_conflictingMarkers :
    ¬∀ (d closer farther : ClassDecl) (config : Config) (name : String),
      d.IsCoherent → d.Precedes closer farther →
      (∀ m ∈ farther.members, m.property = name → m.reader = none ∧ m.writer = none) →
      (∃ c ∈ MarkerKind.conflicts, closer.Carries name c.1 ∧ farther.Carries name c.2 ∨
        closer.Carries name c.2 ∧ farther.Carries name c.1) →
      (∀ x ∈ d.declarations, ∀ c ∈ MarkerKind.conflicts,
        ¬(x.Carries name c.1 ∧ x.Carries name c.2)) →
      ∀ first second,
        (build d .table config).result ≠ .error (.conflictingMarkers name first second) := by
  intro h
  have hdeclarations : Samples.event.declarations = [Samples.event, Samples.dated] := by
    simp [ClassDecl.declarations_eq, ClassDecl.ancestry_eq, Samples.event, Samples.dated,
      ClassDecl.reached]
  have hcoherent : Samples.event.IsCoherent := by
    refine ClassDecl.isCoherent_of_forall_mem [Samples.event, Samples.dated] ?_ ?_ ?_
    · exact (by decide : [2, 1].Nodup)
    · intro x hx
      rw [ClassDecl.ancestry_eq] at hx
      exact List.mem_singleton.mp hx ▸ List.mem_cons_self
    · intro x hx y hy
      rw [List.mem_cons, List.mem_singleton] at hx
      rcases hx with rfl | rfl
      · exact List.mem_cons_of_mem _ hy
      · cases hy
  -- each of the two declarations has a marker of one kind only
  have hevent : ∀ kind, Samples.event.Carries "day" kind ↔ kind = .clusteringColumn := by
    simp [ClassDecl.Carries, Samples.event, Member.bound, PropertyMarker.kind, eq_comm]
  have hdated : ∀ kind, Samples.dated.Carries "day" kind ↔ kind = .partitionKey := by
    simp [ClassDecl.Carries, Samples.dated, Member.declared, PropertyMarker.kind, eq_comm]
  have hdiffer : ∀ c ∈ MarkerKind.conflicts, c.1 ≠ c.2 := by decide
  have hrefused : (build Samples.event .table {}).result =
      .error (.conflictingMarkers "day" .partitionKey .clusteringColumn) := by
    cbv
  refine h Samples.event Samples.event Samples.dated {} "day" hcoherent ?_ ?_ ?_ ?_ _ _ hrefused
  · rw [ClassDecl.Precedes, hdeclarations]
  · intro m hm _
    obtain rfl := List.mem_singleton.mp hm
    exact ⟨rfl, rfl⟩
  · exact ⟨(.partitionKey, .clusteringColumn), List.mem_cons_self,
      Or.inr ⟨(hevent _).mpr rfl, (hdated _).mpr rfl⟩⟩
  · rw [hdeclarations]
    rintro x hx c hc ⟨hfirst, hsecond⟩
    rw [List.mem_cons, List.mem_singleton] at hx
    rcases hx with rfl | rfl
    · exact hdiffer c hc (((hevent _).mp hfirst).trans ((hevent _).mp hsecond).symm)
    · exact hdiffer c hc (((hdated _).mp hfirst).trans ((hdated _).mp hsecond).symm)

end Descriptor

end WideColumn

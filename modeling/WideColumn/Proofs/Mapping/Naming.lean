import Mathlib
import WideColumn.Proofs.Mapping.Conflict
import WideColumn.Proofs.Mapping.Precedence
import WideColumn.Samples.Records

/-!
# How names are written

The names of a descriptor come from many places: from the markers of the class and of its members,
from the settings, and from what the class and its properties are called. There is one rule for them
all (`WideColumn.Identifier.written?`): a name that a marker gives is written as the marker says, an
empty one counts as none, and what stands in for it is written without regard to case.

The rule has two gaps. The keyspace of the settings is taken as it is, be it empty or in capital
letters; and a property that is not stored has the expression of its marker for computed properties
in the place of a column, although it is not computed. Apart from these every name is written by the
rule (`WideColumn.Descriptor.followsCaseRule_iff_of_build`).

* `WideColumn.Identifier.written?`: **the case rule**;
* `WideColumn.ClassDecl.givenColumn`, `WideColumn.ClassDecl.expression?`: what the markers that
  count say about a column;
* `WideColumn.Descriptor.FollowsCaseRule`: all names of a descriptor are written by the rule;
* `WideColumn.Draft.MarkersAgree.columnName_eq`: how a column is written;
* `WideColumn.Descriptor.followsCaseRule_iff_of_build`: **which descriptors follow the rule**.
-/

namespace WideColumn

open Descriptor (entityName nonEmpty)

/-! ### The case rule -/

/-- **The case rule.** A name that is given and not empty is written with or without regard to case,
as it is asked for. Otherwise another name stands in for it, if there is one, and is written
without. -/
def Identifier.written? (given : Option String) (caseSensitive : Bool) (otherwise : Option String) :
    Option String :=
  match nonEmpty given with
  | some name => some (normalize name caseSensitive)
  | none => otherwise.map (normalize · false)

@[simp] theorem Descriptor.nonEmpty_none : nonEmpty none = none := rfl

@[simp] theorem Descriptor.nonEmpty_some (name : String) :
    nonEmpty (some name) = if name = "" then none else some name := by
  simp [nonEmpty, Option.filter]

namespace Identifier

variable {given otherwise : Option String} {caseSensitive : Bool} {name : String}

theorem written?_of_nonEmpty (h : nonEmpty given = some name) :
    written? given caseSensitive otherwise = some (normalize name caseSensitive) := by
  rw [written?, h]

theorem written?_of_empty (h : nonEmpty given = none) :
    written? given caseSensitive otherwise = otherwise.map (normalize · false) := by
  rw [written?, h]

end Identifier

/-! ### What markers say about columns -/

namespace Draft

variable {d : Draft} {kind : MappingKind}

/-- The name that is given to the column or field of a property. -/
def givenColumn (d : Draft) : ColumnName :=
  (((d.marker? .column).or (d.marker? .field)).bind (·.columnName?)).getD {}

/-- **A column is named by one marker at most**, as columns belong to tables and fields to
user-defined types, and only tables have computed properties. -/
theorem MarkersAgree.not_has_field (h : d.MarkersAgree kind)
    (hother : d.has .column ∨ d.has .computed) : ¬d.has .field := by
  have htable : ∀ m : PropertyMarker, m.kind = .column ∨ m.kind = .computed → m.isAllowed kind →
      kind = .table := by
    intro m hm hallowed
    cases kind with
    | table => rfl
    | udt | accessor => cases m <;> simp_all [PropertyMarker.kind, PropertyMarker.isAllowed]
  intro hfield
  obtain ⟨m, hm, hkind⟩ : ∃ m ∈ d.markers, m.kind = .column ∨ m.kind = .computed := by
    rcases hother with hother | hother
    · obtain ⟨m, hm, hkind⟩ := has_iff.mp hother
      exact ⟨m, hm, .inl hkind⟩
    · obtain ⟨m, hm, hkind⟩ := has_iff.mp hother
      exact ⟨m, hm, .inr hkind⟩
  obtain rfl := htable m hkind (h.allowed m hm)
  obtain ⟨n, hn, hkind'⟩ := has_iff.mp hfield
  have hallowed := h.allowed n hn
  cases n <;> simp_all [PropertyMarker.kind, PropertyMarker.isAllowed]

/-- Where there is an expression, nothing names the column. -/
theorem MarkersAgree.marker?_of_computed? {e : String} (h : d.MarkersAgree kind)
    (hexpression : d.computed? = some e) :
    d.marker? .column = none ∧ d.marker? .field = none := by
  have hcomputed : d.has .computed := has_computed_iff.mpr ⟨e, hexpression⟩
  have hcolumn : ¬d.has .column := fun hcolumn => h.computed ⟨hcomputed, .inl hcolumn⟩
  have hfield : ¬d.has .field := h.not_has_field (.inr hcomputed)
  rw [has, Bool.not_eq_true, Option.isSome_eq_false_iff,
    Option.isNone_iff_eq_none] at hcolumn hfield
  exact ⟨hcolumn, hfield⟩

/-- The name that a marker gives is written by the case rule. -/
theorem some_getD_markedName (name : ColumnName) (property : String) :
    some ((markedName name).getD (Identifier.normalize property false)) =
      Identifier.written? name.name name.caseSensitive (some property) := by
  rw [markedName, Identifier.written?]
  cases name.name with
  | none => rfl
  | some n => by_cases hn : n = "" <;> simp [hn]

/-- **How a column is written**: by the case rule, unless an expression stands in its place. -/
theorem MarkersAgree.columnName_eq (h : d.MarkersAgree kind) :
    some d.columnName = d.computed?.or (Identifier.written? d.givenColumn.name
      d.givenColumn.caseSensitive (some d.property)) := by
  rw [← some_getD_markedName, columnName]
  cases hexpression : d.computed? with
  | some e =>
    obtain ⟨hcolumn, hfield⟩ := h.marker?_of_computed? hexpression
    rw [column?, field?, hcolumn, hfield]
    rfl
  | none =>
    rw [column?, field?, givenColumn]
    cases hcolumn : d.marker? .column with
    | some m =>
      have hfield : d.marker? .field = none := by
        simpa [has] using h.not_has_field (.inl (by rw [has, hcolumn, Option.isSome_some]))
      have hkind := kind_of_marker? hcolumn
      rw [hfield]
      cases m with
      | column name => cases hname : markedName name <;> simp [PropertyMarker.columnName?, hname]
      | _ => cases hkind
    | none =>
      cases hfield : d.marker? .field with
      | some m =>
        have hkind := kind_of_marker? hfield
        cases m with
        | field name => cases hname : markedName name <;> simp [PropertyMarker.columnName?, hname]
        | _ => cases hkind
      | none => rfl

end Draft

namespace ClassDecl

variable {d : ClassDecl} {name : String} {kind : MarkerKind}

/-- **The name that is given to the column of a property**, by the marker that counts. Tables have
columns and user-defined types have fields, so there is one such marker at most. -/
def givenColumn (d : ClassDecl) (name : String) : ColumnName :=
  (((d.marker? name .column).or (d.marker? name .field)).bind (·.columnName?)).getD {}

/-- **The expression of a property**, from the marker that counts. -/
def expression? (d : ClassDecl) (name : String) : Option String :=
  (d.marker? name .computed).bind (·.expression?)

/-- The marker that counts is the first one on the members of the property. -/
theorem marker?_eq (h : name ∈ Draft.names d.levels) (kind : MarkerKind) :
    d.marker? name kind = (Draft.declared d.levels name).marker? kind := by
  obtain ⟨draft, hdraft, hsame⟩ := Draft.exists_draft?_ofLevels h
  rw [marker?, hdraft, Option.bind_some, hsame.marker?]

theorem givenColumn_eq (h : name ∈ Draft.names d.levels) :
    d.givenColumn name = (Draft.declared d.levels name).givenColumn := by
  rw [givenColumn, Draft.givenColumn, marker?_eq h, marker?_eq h]

theorem expression?_eq (h : name ∈ Draft.names d.levels) :
    d.expression? name = (Draft.declared d.levels name).computed? := by
  rw [expression?, Draft.computed?_eq, marker?_eq h]

end ClassDecl

/-! ### Descriptors -/

namespace Descriptor

variable {d : ClassDecl} {kind : MappingKind} {config : Config} {desc : Descriptor} {p : Property}

/-- **All names of a descriptor are written by the case rule.** -/
structure FollowsCaseRule (d : ClassDecl) (kind : MappingKind) (config : Config)
    (desc : Descriptor) : Prop where
  /-- The keyspace is named by the class, or else by the settings, where an empty name counts as
  none as well. -/
  keyspace : desc.keyspace = Identifier.written? (entityName d kind).keyspace
    (entityName d kind).caseSensitiveKeyspace (nonEmpty config.defaultKeyspace)
  /-- The table or user-defined type is named by the class, or else as the class is called. -/
  name : desc.name = Identifier.written? (entityName d kind).name
    (entityName d kind).caseSensitiveName (some d.name)
  /-- The column of a property that is not computed is named by the marker that counts, or else as
  the property is called. -/
  columnName : ∀ p ∈ desc.properties, ¬p.isComputed →
    some p.columnName = Identifier.written? (d.givenColumn p.name).name
      (d.givenColumn p.name).caseSensitive (some p.name)

/-- The keyspace that a class names is written by the case rule, and that of the settings is not. -/
theorem resolveKeyspace_eq_ok_iff {keyspace : String} :
    resolveKeyspace d kind config = .ok keyspace ↔
      (Identifier.written? (entityName d kind).keyspace (entityName d kind).caseSensitiveKeyspace
        none).or config.defaultKeyspace = some keyspace := by
  rw [resolveKeyspace]
  cases hgiven : nonEmpty (entityName d kind).keyspace with
  | some name => simp [Identifier.written?_of_nonEmpty hgiven]
  | none =>
    rw [Identifier.written?_of_empty hgiven, Option.map_none, Option.none_or]
    cases config.defaultKeyspace <;> simp

/-- A table or user-defined type is named by the case rule. -/
theorem some_resolveName (d : ClassDecl) (kind : MappingKind) :
    some (resolveName d kind) = Identifier.written? (entityName d kind).name
      (entityName d kind).caseSensitiveName (some d.name) := by
  rw [resolveName, Identifier.written?]
  cases nonEmpty (entityName d kind).name <;> rfl

/-- **The keyspace follows the case rule** if the class names it, or if the settings do so in the
very way in which it has to be written. -/
theorem keyspace_eq_written?_iff {given keyspace : Option String} {caseSensitive : Bool}
    (h : ((Identifier.written? given caseSensitive none).or keyspace).isSome) :
    (Identifier.written? given caseSensitive none).or keyspace =
        Identifier.written? given caseSensitive (nonEmpty keyspace) ↔
      (nonEmpty given).isSome ∨
        ∃ name, keyspace = some name ∧ name ≠ "" ∧ Text.lowerCase name = name := by
  cases hgiven : nonEmpty given with
  | some name =>
    rw [Identifier.written?_of_nonEmpty hgiven, Identifier.written?_of_nonEmpty hgiven]
    exact iff_of_true rfl (.inl rfl)
  | none =>
    rw [Identifier.written?_of_empty hgiven] at h ⊢
    rw [Identifier.written?_of_empty hgiven]
    obtain ⟨name, rfl⟩ := Option.isSome_iff_exists.mp h
    by_cases hname : name = ""
    · simp [hname]
    · simp [hname, Identifier.normalize, eq_comm]

/-- **How the column of a property is written**: by the case rule, unless there is an expression. -/
theorem columnName_eq_of_build (hkind : kind ≠ .accessor)
    (h : (build d kind config).result = .ok desc) (hp : p ∈ desc.properties) :
    some p.columnName = (d.expression? p.name).or
      (Identifier.written? (d.givenColumn p.name).name (d.givenColumn p.name).caseSensitive
        (some p.name)) := by
  obtain ⟨hname, hdeclared⟩ := (mem_properties_iff hkind h).mp hp
  have hmarkers := (((result_build_eq_ok_iff hkind).mp h).2.1 p.name hname).1
  have hcolumn : p.columnName = (Draft.declared d.levels p.name).columnName :=
    congrArg Property.columnName hdeclared.symm
  rw [hcolumn, ClassDecl.expression?_eq hname, ClassDecl.givenColumn_eq hname,
    hmarkers.columnName_eq]
  rfl

/-- A property that is stored and has an expression is computed, and no other one is. -/
theorem isComputed_iff_of_build (hkind : kind ≠ .accessor)
    (h : (build d kind config).result = .ok desc) (hp : p ∈ desc.properties) :
    p.isComputed ↔ ¬p.isTransient ∧ (d.expression? p.name).isSome := by
  obtain ⟨hname, hdeclared⟩ := (mem_properties_iff hkind h).mp hp
  have hmarkers := (((result_build_eq_ok_iff hkind).mp h).2.1 p.name hname).1
  have hrole : p.role = (Draft.declared d.levels p.name).role :=
    congrArg Property.role hdeclared.symm
  rw [Property.isComputed, Property.isTransient, hrole, ClassDecl.expression?_eq hname,
    Option.isSome_iff_exists, ← Draft.has_computed_iff, Draft.isTransient_role_iff]
  by_cases hstored : (Draft.declared d.levels p.name).has .transient
  · have hrole : (Draft.declared d.levels p.name).role = .transient := by
      rw [Draft.role, if_pos hstored]
    rw [hrole]
    exact iff_of_false (by decide) fun h => h.1 hstored
  · rw [and_iff_right hstored]
    exact (hmarkers.role_iff hstored).2.2

/-- Where there is an expression, no name is given to the column. -/
theorem givenColumn_eq_of_expression? (hkind : kind ≠ .accessor)
    (h : (build d kind config).result = .ok desc) (hp : p ∈ desc.properties) {e : String}
    (he : d.expression? p.name = some e) : d.givenColumn p.name = {} := by
  obtain ⟨hname, -⟩ := (mem_properties_iff hkind h).mp hp
  have hmarkers := (((result_build_eq_ok_iff hkind).mp h).2.1 p.name hname).1
  rw [ClassDecl.expression?_eq hname] at he
  obtain ⟨hcolumn, hfield⟩ := hmarkers.marker?_of_computed? he
  rw [ClassDecl.givenColumn, ClassDecl.marker?_eq hname, ClassDecl.marker?_eq hname, hcolumn,
    hfield]
  rfl

/-- **Which descriptors follow the case rule.** Every table or user-defined type is named by it, and
so is every keyspace that the class names and every column for which no marker gives an expression.
What is not written by the rule is the keyspace of the settings, which is taken as it is, and an
expression in the place of a column. So the rule is followed throughout exactly if the class names
its keyspace, or the settings do so in the way in which it has to be written, and if no property
that is left unstored has an expression, unless it is the name of the property. -/
theorem followsCaseRule_iff_of_build (hkind : kind ≠ .accessor)
    (h : (build d kind config).result = .ok desc) :
    desc.keyspace = (Identifier.written? (entityName d kind).keyspace
      (entityName d kind).caseSensitiveKeyspace none).or config.defaultKeyspace ∧
    desc.name = Identifier.written? (entityName d kind).name (entityName d kind).caseSensitiveName
      (some d.name) ∧
    (∀ p ∈ desc.properties, some p.columnName = (d.expression? p.name).or
      (Identifier.written? (d.givenColumn p.name).name (d.givenColumn p.name).caseSensitive
        (some p.name))) ∧
    (desc.FollowsCaseRule d kind config ↔
      ((nonEmpty (entityName d kind).keyspace).isSome ∨
        ∃ name, config.defaultKeyspace = some name ∧ name ≠ "" ∧ Text.lowerCase name = name) ∧
      ∀ p ∈ desc.properties, p.isTransient → ∀ e, d.expression? p.name = some e →
        e = Text.lowerCase p.name) := by
  obtain ⟨-, -, partition, clustering, keyspace, -, -, hkeyspace, hdesc⟩ :=
    (result_build_eq_ok_iff hkind).mp h
  have hks : desc.keyspace = (Identifier.written? (entityName d kind).keyspace
      (entityName d kind).caseSensitiveKeyspace none).or config.defaultKeyspace := by
    rw [resolveKeyspace_eq_ok_iff.mp hkeyspace, hdesc]
  have hname : desc.name = Identifier.written? (entityName d kind).name
      (entityName d kind).caseSensitiveName (some d.name) := by
    rw [← some_resolveName, hdesc]
  have hsome := Option.isSome_of_eq_some (resolveKeyspace_eq_ok_iff.mp hkeyspace)
  have hcolumn := fun p hp => columnName_eq_of_build hkind h (p := p) hp
  refine ⟨hks, hname, hcolumn, ?_⟩
  have hrule : desc.FollowsCaseRule d kind config ↔
      desc.keyspace = Identifier.written? (entityName d kind).keyspace
        (entityName d kind).caseSensitiveKeyspace (nonEmpty config.defaultKeyspace) ∧
      ∀ p ∈ desc.properties, ¬p.isComputed →
        some p.columnName = Identifier.written? (d.givenColumn p.name).name
          (d.givenColumn p.name).caseSensitive (some p.name) :=
    ⟨fun hrule => ⟨hrule.keyspace, hrule.columnName⟩, fun hrule => ⟨hrule.1, hname, hrule.2⟩⟩
  rw [hrule, hks, keyspace_eq_written?_iff hsome]
  refine and_congr_right' (forall₂_congr fun p hp => ?_)
  rw [isComputed_iff_of_build hkind h hp, hcolumn p hp]
  cases he : d.expression? p.name with
  | none => exact iff_of_true (fun _ => Option.none_or) nofun
  | some e =>
    rw [givenColumn_eq_of_expression? hkind h hp he]
    simp [Identifier.written?, Identifier.normalize]

/-- The names of a table of readings: of the keyspace, which is written without regard to case, of
the table and of a column, which are written with it, and of other columns. -/
theorem followsCaseRule_reading : ∃ desc : Descriptor,
    (build (Samples.reading.decl 1) .table {}).result = .ok desc ∧
      desc.FollowsCaseRule (Samples.reading.decl 1) .table {} ∧
      desc.keyspace = some "telemetry" ∧ desc.name = some "\"Readings\"" ∧
      desc.properties.map (·.columnName) = ["sensor", "day", "ts", "\"Value\"", "ttl(value)",
        "history", "poll_interval", "unit"] := by
  have hgiven : entityName (Samples.reading.decl 1) .table = ⟨some "Telemetry", some "Readings",
      false, true⟩ := by
    cbv
  have hlower : Text.lowerCase "Telemetry" = "telemetry" := by
    cbv
  have hexpression : (Samples.reading.decl 1).expression? "poll_interval" = none := by
    cbv
  have hbuild : ((build (Samples.reading.decl 1) .table {}).result.map fun desc =>
      desc.properties.map fun p => (p.columnName, p.isTransient, p.name)) = .ok [
        ("sensor", false, "sensor"), ("day", false, "day"), ("ts", false, "ts"),
        ("\"Value\"", false, "value"), ("ttl(value)", false, "ttl"), ("history", false, "history"),
        ("poll_interval", true, "poll_interval"), ("unit", false, "unit")] := by
    cbv
  obtain ⟨desc, h, hproperties⟩ := Except.map_eq_ok_iff.mp hbuild
  obtain ⟨hkeyspace, hname, -, hrule⟩ := followsCaseRule_iff_of_build (by decide) h
  rw [hgiven] at hkeyspace hname hrule
  have hcolumns := congrArg (List.map fun p => p.1) hproperties
  rw [List.map_map] at hcolumns
  refine ⟨desc, h, hrule.mpr ⟨.inl rfl, ?_⟩, hkeyspace.trans (congrArg some hlower), hname,
    hcolumns⟩
  -- the only property that is not stored has no expression
  intro p hp hstored e he
  have hmem := List.mem_map_of_mem (f := fun p => (p.columnName, p.isTransient, p.name)) hp
  rw [hproperties, hstored] at hmem
  have hpoll : p.columnName = "poll_interval" ∧ p.name = "poll_interval" := by simpa using hmem
  rw [hpoll.2, hexpression] at he
  cases he

/-- **The rule is not followed by the keyspace of the settings.** -/
theorem not_forall_followsCaseRule :
    ¬∀ (d : ClassDecl) (kind : MappingKind) (config : Config) (desc : Descriptor),
      kind ≠ .accessor → (build d kind config).result = .ok desc →
      desc.FollowsCaseRule d kind config := by
  intro hall
  have hbuild : ((build (Samples.homeless.decl 1) .table
      { defaultKeyspace := some "Shop" }).result.map (·.keyspace)) = .ok (some "Shop") := by
    cbv
  obtain ⟨desc, h, hkeyspace⟩ := Except.map_eq_ok_iff.mp hbuild
  have hrule := (hall _ _ _ desc (by decide) h).keyspace
  rw [hkeyspace] at hrule
  have hlower : Identifier.written? (entityName (Samples.homeless.decl 1) .table).keyspace
      (entityName (Samples.homeless.decl 1) .table).caseSensitiveKeyspace
      (nonEmpty (some "Shop")) = some "shop" := by
    cbv
  rw [hlower] at hrule
  exact absurd hrule (by decide)

end Descriptor

end WideColumn

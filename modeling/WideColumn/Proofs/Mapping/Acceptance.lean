import Mathlib
import WideColumn.Proofs.Mapping.Conflict
import WideColumn.Proofs.Mapping.Merged

/-!
# Which classes can be mapped

Whether a class can be mapped to a table or a user-defined type is checked in several steps, each of
which stops at the first fault. Together they come to a condition on what is declared
(`WideColumn.ClassDecl.IsMappable`) that does not mention steps, drafts or roles. It is about markers
only: those of the class itself, those that the members of each name have, and which of these come
first. A property is in a key if it has a marker for that, unless there is also a marker that it is not
stored. Such a marker takes it out of the key, but the rules for its other markers stay as they are.

* `WideColumn.ClassDecl.firstMarker?`: the marker of a kind that counts for a property;
* `WideColumn.ClassDecl.AgreesOn`: the rules for what is said about a property;
* `WideColumn.ClassDecl.keyPositions`: the positions of the properties of a key;
* `WideColumn.ClassDecl.IsMappable`: the rules for a class;
* `WideColumn.Descriptor.exists_build_iff_isMappable`: **a class is mapped exactly if it keeps all
  rules**.
-/

namespace List

theorem map_filter_eq_filterMap {α β : Type} (p : α → Bool) (f : α → β) (l : List α) :
    (l.filter p).map f = l.filterMap fun a => if p a then some (f a) else none := by
  rw [← filterMap_eq_map, filterMap_filter]
  rfl

end List

namespace WideColumn

/-- **The kinds of markers that have no place in a mapping.** Tables have no fields, the fields of
user-defined types are no columns and neither computed nor in a key, and accessors have no
properties. -/
def MappingKind.foreign : MappingKind → List MarkerKind
  | table => [.field]
  | udt => [.column, .partitionKey, .clusteringColumn, .computed]
  | accessor => [.column, .field, .partitionKey, .clusteringColumn, .computed, .transient, .frozen,
      .frozenKey, .frozenValue]

/-- The name that a marker gives for a mapping. -/
def MappingMarker.nameFor? : MappingKind → MappingMarker → Option EntityName
  | .table, table name => some name
  | .udt, udt name => some name
  | _, _ => none

theorem PropertyMarker.isAllowed_iff {kind : MappingKind} {m : PropertyMarker} :
    m.isAllowed kind ↔ m.kind ∉ kind.foreign := by
  cases kind <;> cases m <;> simp [isAllowed, PropertyMarker.kind, MappingKind.foreign]

namespace ClassDecl

/-! ### The rules -/

/-- **The marker of a kind that counts for a property**: the first one, where the members of the
property come in the order in which they count. -/
def firstMarker? (d : ClassDecl) (name : String) (mk : MarkerKind) : Option PropertyMarker :=
  ((Draft.countingMembers d.levels name).flatMap (·.2.markers)).find? fun m => m.kind == mk

/-- The type of a property: that of its first getter, else of its first field, else of its first
setter. -/
def hostType? (d : ClassDecl) (name : String) : Option AppType :=
  (Draft.firstMember [.getter, .field, .setter] (fun _ => true)
    (Draft.countingMembers d.levels name)).map (·.2.appType)

/-- The codec of a property, if the marker that names its column or its field asks for one. -/
def boundCodec? (d : ClassDecl) (name : String) : Option Codec :=
  (((d.firstMarker? name .column).or (d.firstMarker? name .field)).bind (·.columnName?)).bind
    (·.codec)

/-- **The rules for what a hierarchy says about a property.** -/
structure AgreesOn (d : ClassDecl) (kind : MappingKind) (config : Config) (name : String) :
    Prop where
  /-- Each marker has a place in the mapping. -/
  placed : ∀ mk ∈ kind.foreign, ¬d.CarriesAnywhere name mk
  /-- The markers go together, whether the property is stored or not. -/
  together : ∀ c ∈ MarkerKind.conflicts,
    ¬(d.CarriesAnywhere name c.1 ∧ d.CarriesAnywhere name c.2)
  /-- What is computed is computed from something. -/
  expression : (d.firstMarker? name .computed).bind (·.expression?) ≠ some ""
  /-- The values of the codec are of a narrower or a wider type than those of the property, unless the
  settings do not ask for that. -/
  codec : config.validateCodecs → ∀ c t, d.boundCodec? name = some c → d.hostType? name = some t →
    c.appType.isSubtype t ∨ t.isSubtype c.appType

/-- **The position of a property in a part of the key**, which the first marker for this part gives.
What is not stored has none. -/
def keyPosition? (d : ClassDecl) (part : MarkerKind) (name : String) : Option Int :=
  if (d.firstMarker? name .transient).isSome then none
  else ((d.firstMarker? name part).bind (·.position?)).map (·.toInt)

/-- **The positions in a part of the key**, of all properties that have one. -/
def keyPositions (d : ClassDecl) (part : MarkerKind) : List Int :=
  (Draft.names d.levels).filterMap (d.keyPosition? part)

/-- The first marker of the mapping names a keyspace, and its name is not empty. -/
def NamesKeyspace (d : ClassDecl) (kind : MappingKind) : Prop :=
  ∃ name keyspace, d.markers.findSome? (·.nameFor? kind) = some name ∧
    name.keyspace = some keyspace ∧ keyspace ≠ ""

/-- **The rules for a class that is mapped to a table or a user-defined type.** -/
structure IsMappable (d : ClassDecl) (kind : MappingKind) (config : Config) : Prop where
  /-- The class itself asks for the mapping. -/
  asked : ∃ m ∈ d.markers, m.kind = kind
  /-- It asks for no other one. -/
  alone : ∀ m ∈ d.markers, m.kind = kind
  /-- What is said about each property goes together. -/
  properties : ∀ name ∈ Draft.names d.levels, d.AgreesOn kind config name
  /-- The partition key is numbered without gaps and repetitions. -/
  partition : IsNumbering (d.keyPositions .partitionKey)
  /-- So are the clustering columns. -/
  clustering : IsNumbering (d.keyPositions .clusteringColumn)
  /-- There is a keyspace. -/
  keyspace : d.NamesKeyspace kind ∨ ∃ keyspace, config.defaultKeyspace = some keyspace

end ClassDecl

/-! ### The rules for a property -/

namespace Draft

variable {d : Draft} {kind : MappingKind}

/-- Markers agree if none of their pairs is one that does not go together. -/
theorem markersAgree_iff : d.MarkersAgree kind ↔
    (∀ mk ∈ kind.foreign, ¬d.has mk) ∧ (∀ c ∈ MarkerKind.conflicts, ¬(d.has c.1 ∧ d.has c.2)) ∧
      d.computed? ≠ some "" := by
  have hplaced : (∀ m ∈ d.markers, m.isAllowed kind) ↔ ∀ mk ∈ kind.foreign, ¬d.has mk := by
    simp only [has_iff, PropertyMarker.isAllowed_iff]
    constructor
    · rintro h mk hmk ⟨m, hm, rfl⟩
      exact h m hm hmk
    · exact fun h m hm hmk => h m.kind hmk ⟨m, hm, rfl⟩
  have htogether : (∀ c ∈ MarkerKind.conflicts, ¬(d.has c.1 ∧ d.has c.2)) ↔
      ¬(d.has .partitionKey ∧ d.has .clusteringColumn) ∧
        ¬(d.has .computed ∧ (d.has .column ∨ d.has .partitionKey ∨ d.has .clusteringColumn)) := by
    simp only [MarkerKind.conflicts, List.forall_mem_cons, List.not_mem_nil, false_imp_iff,
      implies_true, and_true]
    tauto
  rw [← hplaced, htogether]
  exact ⟨fun h => ⟨h.allowed, ⟨h.key, h.computed⟩, h.expression⟩,
    fun h => ⟨h.1, h.2.1.1, h.2.1.2, h.2.2⟩⟩

/-- **The codec that is asked for**: one of the two markers that can ask for one has no place. -/
theorem MarkersAgree.codec?_eq (h : d.MarkersAgree kind) :
    d.codec? = (((d.marker? .column).or (d.marker? .field)).bind (·.columnName?)).bind
      (·.codec) := by
  have hforeign : .column ∈ kind.foreign ∨ .field ∈ kind.foreign := by
    cases kind <;> decide
  have hnone : ∀ {mk}, mk ∈ kind.foreign → d.marker? mk = none := by
    intro mk hmk
    simpa [has] using (markersAgree_iff.mp h).1 mk hmk
  rw [codec?, column?_eq, field?_eq]
  rcases hforeign with hmem | hmem
  · simp [hnone hmem]
  · simp [hnone hmem]

/-- **The part that a stored property plays in a key** is told by the marker for it, and so is its
position, where markers agree. -/
theorem MarkersAgree.position_role (h : d.MarkersAgree kind) (hstored : ¬d.has .transient) :
    d.partitionKey? = (if d.role.isPartitionKey then some d.role.position else none) ∧
      d.clusteringColumn? =
        (if d.role.isClusteringColumn then some d.role.position else none) := by
  have hkey := h.key
  rw [← exists_partitionKey?_iff, ← exists_clusteringColumn?_iff] at hkey
  rw [role, if_neg hstored]
  cases hpartition : d.partitionKey? with
  | some n =>
    have hclustering : d.clusteringColumn? = none :=
      Option.eq_none_iff_forall_ne_some.mpr fun i hi => hkey ⟨⟨n, hpartition⟩, i, hi⟩
    exact ⟨rfl, hclustering⟩
  | none =>
    cases d.clusteringColumn? with
    | some n => exact ⟨rfl, rfl⟩
    | none => cases d.computed? <;> exact ⟨rfl, rfl⟩

end Draft

namespace ClassDecl

variable {d : ClassDecl} {kind : MappingKind} {config : Config} {name : String}

theorem firstMarker?_eq (d : ClassDecl) (name : String) :
    d.firstMarker? name = (Draft.declared d.levels name).marker? := by
  rw [Draft.declared, Draft.membersOfProperty_scan]
  rfl

theorem markersAgree_declared_iff : (Draft.declared d.levels name).MarkersAgree kind ↔
    (∀ mk ∈ kind.foreign, ¬d.CarriesAnywhere name mk) ∧
    (∀ c ∈ MarkerKind.conflicts, ¬(d.CarriesAnywhere name c.1 ∧ d.CarriesAnywhere name c.2)) ∧
    (d.firstMarker? name .computed).bind (·.expression?) ≠ some "" := by
  simp only [Draft.markersAgree_iff, has_declared_iff, Draft.computed?_eq, firstMarker?_eq]

theorem hostType?_eq (hname : name ∈ Draft.names d.levels) :
    d.hostType? name = some (Draft.declared d.levels name).appType :=
  (Draft.isMerged_declared (Draft.countingMembers_ne_nil hname)).appType.symm

theorem codecFits_declared_iff (hname : name ∈ Draft.names d.levels)
    (h : (Draft.declared d.levels name).MarkersAgree kind) :
    (Draft.declared d.levels name).CodecFits ↔
      ∀ c t, d.boundCodec? name = some c → d.hostType? name = some t →
        c.appType.isSubtype t ∨ t.isSubtype c.appType := by
  rw [Draft.CodecFits, h.codec?_eq, ← firstMarker?_eq, ← boundCodec?]
  refine forall_congr' fun c => ⟨fun hfits t hc ht => ?_, fun hfits hc => ?_⟩
  · obtain rfl := Option.some.inj ((hostType?_eq hname).symm.trans ht)
    exact hfits hc
  · exact hfits _ hc (hostType?_eq hname)

/-- **What is said about a property goes together** if it keeps the rules that are checked. -/
theorem agreesOn_iff (hname : name ∈ Draft.names d.levels) :
    d.AgreesOn kind config name ↔ Descriptor.KeepsRules d kind config name := by
  constructor
  · intro h
    have hagree := markersAgree_declared_iff.mpr ⟨h.placed, h.together, h.expression⟩
    exact ⟨hagree, fun hvalidate => (codecFits_declared_iff hname hagree).mpr (h.codec hvalidate)⟩
  · rintro ⟨hagree, hfits⟩
    obtain ⟨hplaced, htogether, hexpression⟩ := markersAgree_declared_iff.mp hagree
    exact ⟨hplaced, htogether, hexpression,
      fun hvalidate => (codecFits_declared_iff hname hagree).mp (hfits hvalidate)⟩

/-- **The positions in a key are those of the properties that have been made.** -/
theorem keyPosition?_eq (h : (Draft.declared d.levels name).MarkersAgree kind) :
    (d.keyPosition? .partitionKey name = if (d.property name).isPartitionKey then
      some (d.property name).position.toInt else none) ∧
    (d.keyPosition? .clusteringColumn name = if (d.property name).isClusteringColumn then
      some (d.property name).position.toInt else none) := by
  rw [keyPosition?, keyPosition?, firstMarker?_eq, ← Draft.has, ← Draft.partitionKey?_eq,
    ← Draft.clusteringColumn?_eq]
  by_cases hstored : (Draft.declared d.levels name).has .transient
  · have hrole : (d.property name).role = .transient := if_pos hstored
    rw [if_pos hstored, if_pos hstored, Property.isPartitionKey, Property.isClusteringColumn, hrole]
    exact ⟨rfl, rfl⟩
  · obtain ⟨hpartition, hclustering⟩ := h.position_role hstored
    rw [if_neg hstored, if_neg hstored, hpartition, hclustering, apply_ite (Option.map _),
      apply_ite (Option.map _)]
    exact ⟨rfl, rfl⟩

end ClassDecl

namespace Descriptor

variable {d : ClassDecl} {kind : MappingKind} {config : Config}

/-! ### The single steps -/

/-- **The markers of a class are accepted** if there is one for the mapping and none for another, and
if only interfaces are accessors. -/
theorem validateKind_eq_ok_iff_of_shape (hshape : kind = .accessor → d.shape = .interface) :
    validateKind d kind = .ok () ↔
      (∃ m ∈ d.markers, m.kind = kind) ∧ ∀ m ∈ d.markers, m.kind = kind := by
  have hasked : d.hasMarker kind ↔ ∃ m ∈ d.markers, m.kind = kind := by
    simp [ClassDecl.hasMarker]
  have hrival : (MappingKind.all.find? fun other => other != kind && d.hasMarker other) = none ↔
      ∀ m ∈ d.markers, m.kind = kind := by
    simp only [List.find?_eq_none, Bool.and_eq_true, bne_iff_ne, not_and, ClassDecl.hasMarker,
      List.any_eq_true, beq_iff_eq, not_exists]
    constructor
    · intro h m hm
      by_contra hne
      exact h m.kind (MappingKind.mem_all _) hne m hm rfl
    · rintro h other - hne m hm rfl
      exact hne (h m hm)
  rw [validateKind, if_neg fun h => h.2 (hshape h.1), ← hasked, ← hrival]
  cases hmarker : d.hasMarker kind with
  | false => simp
  | true =>
    cases hother : MappingKind.all.find? fun other => other != kind && d.hasMarker other with
    | some rival => simp
    | none => simp

theorem validateKind_eq_ok_iff (hkind : kind ≠ .accessor) :
    validateKind d kind = .ok () ↔
      (∃ m ∈ d.markers, m.kind = kind) ∧ ∀ m ∈ d.markers, m.kind = kind :=
  validateKind_eq_ok_iff_of_shape fun h => absurd h hkind

/-- The first name that is given for a mapping is that of the first marker for it. -/
theorem findSome?_nameFor? (hkind : kind ≠ .accessor) (markers : List MappingMarker) :
    markers.findSome? (·.nameFor? kind) =
      (markers.find? fun m => m.kind == kind).bind (·.entityName?) := by
  induction markers with
  | nil => rfl
  | cons m markers ih =>
    rw [List.findSome?_cons, List.find?_cons]
    cases kind <;> cases m <;> first | contradiction | exact ih | rfl

/-- **There is a keyspace** if the marker of the class or the settings name one. -/
theorem exists_resolveKeyspace_iff (hkind : kind ≠ .accessor) :
    (∃ keyspace, resolveKeyspace d kind config = .ok keyspace) ↔
      d.NamesKeyspace kind ∨ ∃ keyspace, config.defaultKeyspace = some keyspace := by
  have hgiven : (∃ keyspace, nonEmpty (entityName d kind).keyspace = some keyspace) ↔
      d.NamesKeyspace kind := by
    rw [ClassDecl.NamesKeyspace, findSome?_nameFor? hkind, entityName]
    simp only [nonEmpty, Option.filter_eq_some_iff, bne_iff_ne]
    cases (d.markers.find? fun m => m.kind == kind).bind (·.entityName?) with
    | none => simp
    | some name => simp
  rw [← hgiven, resolveKeyspace]
  cases nonEmpty (entityName d kind).keyspace with
  | some keyspace => simp
  | none =>
    cases config.defaultKeyspace with
    | some keyspace => simp
    | none => simp

/-- **A part of the key is accepted** if the positions that the markers for it give are the numbers
from `0` on. -/
theorem exists_orderedKey_propertiesOf_iff {part marker : MarkerKind} {isKey : Property → Bool}
    (h : ∀ name ∈ Draft.names d.levels, d.keyPosition? part name =
      if isKey (d.property name) then some (d.property name).position.toInt else none) :
    (∃ places, orderedKey marker isKey (propertiesOf d) = .ok places) ↔
      IsNumbering (d.keyPositions part) := by
  have hperm : (((propertiesOf d).filter isKey).map (·.position.toInt)).Perm
      (d.keyPositions part) := by
    calc ((propertiesOf d).filter isKey).map (·.position.toInt)
      _ = (propertiesOf d).filterMap _ := List.map_filter_eq_filterMap ..
      List.Perm _ (((Draft.names d.levels).map d.property).filterMap _) :=
        (propertiesOf_perm d).filterMap _
      _ = d.keyPositions part := by
        rw [List.filterMap_map]
        exact List.filterMap_congr fun name hname => (h name hname).symm
  rw [exists_orderedKey_iff]
  exact ⟨fun h => h.perm hperm, fun h => h.perm hperm.symm⟩

/-- **Both parts of the key are accepted** under this condition, if the properties keep the rules: what
the positions are is only told by markers that agree. -/
theorem exists_orderedKey_iff_isNumbering
    (hrules : ∀ name ∈ Draft.names d.levels, KeepsRules d kind config name) :
    ((∃ places, orderedKey .partitionKey (·.isPartitionKey) (propertiesOf d) = .ok places) ∧
      ∃ places,
        orderedKey .clusteringColumn (·.isClusteringColumn) (propertiesOf d) = .ok places) ↔
    IsNumbering (d.keyPositions .partitionKey) ∧ IsNumbering (d.keyPositions .clusteringColumn) :=
  and_congr
    (exists_orderedKey_propertiesOf_iff fun name hname =>
      (ClassDecl.keyPosition?_eq (hrules name hname).1).1)
    (exists_orderedKey_propertiesOf_iff fun name hname =>
      (ClassDecl.keyPosition?_eq (hrules name hname).1).2)

/-- A class is mapped if every step passes. -/
theorem exists_build_iff_steps (hkind : kind ≠ .accessor) :
    (∃ desc, (build d kind config).result = .ok desc) ↔
      validateKind d kind = .ok () ∧
      (∀ name ∈ Draft.names d.levels, KeepsRules d kind config name) ∧
      ((∃ places, orderedKey .partitionKey (·.isPartitionKey) (propertiesOf d) = .ok places) ∧
        ∃ places,
          orderedKey .clusteringColumn (·.isClusteringColumn) (propertiesOf d) = .ok places) ∧
      ∃ keyspace, resolveKeyspace d kind config = .ok keyspace := by
  simp only [result_build_eq_ok_iff hkind]
  constructor
  · rintro ⟨desc, hvalid, hrules, partition, clustering, keyspace, hp, hc, hk, -⟩
    exact ⟨hvalid, hrules, ⟨⟨partition, hp⟩, clustering, hc⟩, keyspace, hk⟩
  · rintro ⟨hvalid, hrules, ⟨⟨partition, hp⟩, clustering, hc⟩, keyspace, hk⟩
    exact ⟨_, hvalid, hrules, partition, clustering, keyspace, hp, hc, hk, rfl⟩

/-- **A class is mapped exactly if it keeps all rules.** -/
theorem exists_build_iff_isMappable (hkind : kind ≠ .accessor) :
    (∃ desc, (build d kind config).result = .ok desc) ↔ d.IsMappable kind config := by
  have hproperties : (∀ name ∈ Draft.names d.levels, KeepsRules d kind config name) ↔
      ∀ name ∈ Draft.names d.levels, d.AgreesOn kind config name :=
    forall₂_congr fun name hname => (ClassDecl.agreesOn_iff hname).symm
  rw [exists_build_iff_steps hkind, validateKind_eq_ok_iff hkind, exists_resolveKeyspace_iff hkind]
  constructor
  · rintro ⟨⟨hasked, halone⟩, hrules, hkeys, hkeyspace⟩
    obtain ⟨hpartition, hclustering⟩ := (exists_orderedKey_iff_isNumbering hrules).mp hkeys
    exact {
      asked := hasked
      alone := halone
      properties := hproperties.mp hrules
      partition := hpartition
      clustering := hclustering
      keyspace := hkeyspace }
  · intro h
    have hrules := hproperties.mpr h.properties
    exact ⟨⟨h.asked, h.alone⟩, hrules,
      (exists_orderedKey_iff_isNumbering hrules).mpr ⟨h.partition, h.clustering⟩, h.keyspace⟩

open Samples in
/-- A class that names no keyspace is mapped if the settings name one. A class whose only key column
has position `5` is not mapped. -/
theorem isMappable_homeless :
    (homeless.decl 1).IsMappable .table { defaultKeyspace := some "ks" } ∧
      ¬(homeless.decl 1).IsMappable .table {} ∧
      ¬((stored "Gap" "t" [part "id" int32 { partitionKey := some 5 }]).decl 1).IsMappable
        .table {} := by
  have hbuild : ((build (homeless.decl 1) .table
      { defaultKeyspace := some "ks" }).result.map (·.keyspace)) = .ok (some "ks") := by
    cbv
  have hrefused : (build (homeless.decl 1) .table {}).result =
      .error (.missingKeyspace .table "Homeless") := by
    cbv
  have hgap : (build ((stored "Gap" "t" [part "id" int32 { partitionKey := some 5 }]).decl 1)
      .table {}).result = .error (.invalidKeyOrdering .partitionKey "id" 5 0) := by
    cbv
  obtain ⟨desc, h, -⟩ := Except.map_eq_ok_iff.mp hbuild
  refine ⟨(exists_build_iff_isMappable (by decide)).mp ⟨desc, h⟩, fun hmappable => ?_,
    fun hmappable => ?_⟩
  · obtain ⟨desc, h⟩ := (exists_build_iff_isMappable (by decide)).mpr hmappable
    rw [hrefused] at h
    cases h
  · obtain ⟨desc, h⟩ := (exists_build_iff_isMappable (by decide)).mpr hmappable
    rw [hgap] at h
    cases h

end Descriptor

end WideColumn

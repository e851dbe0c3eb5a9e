import Mathlib
import WideColumn.Proofs.Mapping.Key
import WideColumn.Proofs.Mapping.Merge
import WideColumn.Proofs.Mapping.Property
import WideColumn.Proofs.Pairing
import WideColumn.Samples.Records

/-!
# Descriptors are well formed

A descriptor holds its properties in a list and refers to them by places in it: by name, and for
either part of the key. These are four views that are made one after the other, and everything that
uses a descriptor relies on their telling the same story. They do, since each of them is made from
the finished list.

What a class is mapped to is told first (`WideColumn.Descriptor.result_build_eq_ok_iff`): if no rule
is broken, there is one property for each name that the hierarchy declares, and it is what the
members of this name say.

* `WideColumn.ClassDecl.property`: the property of a name, as a hierarchy declares it;
* `WideColumn.Descriptor.result_build_eq_ok_iff`: which descriptor a class has, if it has one;
* `WideColumn.Descriptor.IsWellFormed`: the views of a descriptor agree;
* `WideColumn.Descriptor.isWellFormed_of_build`: **every descriptor is well formed**.
-/

namespace List

/-- Where every key has one entry, looking a key up finds this entry. -/
theorem lookup_eq_some_iff_mem {α β : Type} [BEq α] [LawfulBEq α] {l : List (α × β)} {a : α} {b : β}
    (hl : (l.map (·.1)).Nodup) : l.lookup a = some b ↔ (a, b) ∈ l := by
  induction l with
  | nil => simp
  | cons e l ih =>
    rw [map_cons, nodup_cons] at hl
    rw [lookup_cons, mem_cons]
    by_cases ha : a = e.1
    · have hnot : (a, b) ∉ l := fun h => hl.1 (mem_map.mpr ⟨(a, b), h, ha⟩)
      rw [beq_iff_eq.mpr ha, or_iff_left hnot, Prod.ext_iff]
      simp [ha, eq_comm]
    · rw [beq_false_of_ne ha, or_iff_right fun h => ha (congrArg Prod.fst h)]
      exact ih hl.2

end List

namespace WideColumn

/-- **The property of a name**, as the members of this name in a hierarchy declare it. -/
def ClassDecl.property (d : ClassDecl) (name : String) : Property :=
  Property.described d.name (Draft.declared d.levels name)

namespace Descriptor

variable {d : ClassDecl} {kind : MappingKind} {config : Config}

/-! ### What a class is mapped to -/

/-- **The properties of a class**, those of root classes first. -/
def propertiesOf (d : ClassDecl) : List Property :=
  (Draft.ofLevels d.levels).map fun draft => d.property draft.property

theorem map_name_propertiesOf (d : ClassDecl) :
    (propertiesOf d).map (·.name) = (Draft.ofLevels d.levels).map (·.property) := by
  rw [propertiesOf, List.map_map]
  rfl

/-- The properties of a class in another order: those of the names that its hierarchy declares. -/
theorem propertiesOf_perm (d : ClassDecl) :
    (propertiesOf d).Perm ((Draft.names d.levels).map d.property) := by
  have hperm := (Draft.perm_map_property_ofLevels d.levels).map d.property
  rwa [List.map_map] at hperm

/-- Drafts become properties one by one. -/
theorem result_buildProperties (className : String) (drafts : List Draft) :
    (buildProperties className kind config drafts).result =
      drafts.mapM fun d => (Property.ofDraft className kind config d).result := by
  induction drafts with
  | nil => rfl
  | cons d drafts ih =>
    rw [buildProperties, List.mapM_cons, ← ih]
    simp only [Traced.result_bind, Traced.result_pure]
    rfl

/-- They all become properties if each of them does. -/
theorem result_buildProperties_eq_ok_iff {className : String} {drafts : List Draft}
    {ps : List Property} :
    (buildProperties className kind config drafts).result = .ok ps ↔
      List.Forall₂ (fun d p => (Property.ofDraft className kind config d).result = .ok p)
        drafts ps := by
  rw [result_buildProperties, List.mapM_eq_ok_iff]

/-- **A property keeps the rules**: its markers agree and its codec fits, as far as the settings ask
for that. -/
def KeepsRules (d : ClassDecl) (kind : MappingKind) (config : Config) (name : String) : Prop :=
  (Draft.declared d.levels name).MarkersAgree kind ∧
    (config.validateCodecs → (Draft.declared d.levels name).CodecFits)

/-- **The properties of a class are made exactly if all of them keep the rules.** -/
theorem result_buildProperties_ofLevels_eq_ok_iff {ps : List Property} :
    (buildProperties d.name kind config (Draft.ofLevels d.levels)).result = .ok ps ↔
      (∀ name ∈ Draft.names d.levels, KeepsRules d kind config name) ∧ propertiesOf d = ps := by
  have hdraft : ∀ draft ∈ Draft.ofLevels d.levels, ∀ p,
      (Property.ofDraft d.name kind config draft).result = .ok p ↔
        KeepsRules d kind config draft.property ∧ d.property draft.property = p := by
    intro draft hmem p
    rw [Draft.ofDraft_of_mem_ofLevels hmem, Property.result_ofDraft_eq_ok_iff]
    rfl
  have hnames : (∀ draft ∈ Draft.ofLevels d.levels, KeepsRules d kind config draft.property) ↔
      ∀ name ∈ Draft.names d.levels, KeepsRules d kind config name := by
    have hperm := Draft.perm_map_property_ofLevels d.levels
    simp only [← hperm.mem_iff, List.forall_mem_map]
  rw [result_buildProperties_eq_ok_iff, ← hnames, propertiesOf, ← List.forall₂_eq_eq_eq,
    List.forall₂_map_left_iff, ← List.forall₂_and_left]
  exact ⟨fun h => h.imp_of_mem fun draft hmem p _ => (hdraft draft hmem p).mp,
    fun h => h.imp_of_mem fun draft hmem p _ => (hdraft draft hmem p).mpr⟩

/-- **Which descriptor a class has**, if it is mapped to a table or a user-defined type. -/
theorem result_build_eq_ok_iff {desc : Descriptor} (hkind : kind ≠ .accessor) :
    (build d kind config).result = .ok desc ↔
      validateKind d kind = .ok () ∧
      (∀ name ∈ Draft.names d.levels, KeepsRules d kind config name) ∧
      ∃ partition clustering keyspace,
        orderedKey .partitionKey (·.isPartitionKey) (propertiesOf d) = .ok partition ∧
        orderedKey .clusteringColumn (·.isClusteringColumn) (propertiesOf d) = .ok clustering ∧
        resolveKeyspace d kind config = .ok keyspace ∧
        desc = {
          className := d.name
          kind := kind
          keyspace := some keyspace
          name := some (resolveName d kind)
          properties := propertiesOf d
          index := placesByName (propertiesOf d)
          partitionPlaces := partition
          clusteringPlaces := clustering
          queries := [] } := by
  have hentity : build d kind config =
      (Traced.ofExcept (validateKind d kind) >>= fun _ => buildEntity d kind config) := by
    cases kind with
    | accessor => exact absurd rfl hkind
    | _ => rfl
  rw [hentity, Traced.result_bind_eq_ok_iff, Unique.exists_iff, Traced.result_ofExcept, buildEntity]
  simp only [Traced.result_bind_eq_ok_iff, Traced.result_ofExcept, Traced.result_pure_eq_ok_iff,
    Traced.result_note, result_buildProperties_ofLevels_eq_ok_iff, and_assoc, exists_and_left,
    exists_eq_left', Unique.exists_iff, true_and, eq_comm (a := desc)]

/-- **The properties of a descriptor**: those that the hierarchy declares, as their members say. -/
theorem mem_properties_iff {desc : Descriptor} (hkind : kind ≠ .accessor)
    (h : (build d kind config).result = .ok desc) {p : Property} :
    p ∈ desc.properties ↔ p.name ∈ Draft.names d.levels ∧ d.property p.name = p := by
  obtain ⟨-, -, _, _, _, -, -, -, rfl⟩ := (result_build_eq_ok_iff hkind).mp h
  rw [(propertiesOf_perm d).mem_iff, List.mem_map]
  constructor
  · rintro ⟨name, hname, rfl⟩
    exact ⟨hname, rfl⟩
  · rintro ⟨hname, hp⟩
    exact ⟨p.name, hname, hp⟩

/-! ### Names and places -/

/-- **A name is found at its place**, if no two properties have one name. -/
theorem lookup_placesByName_iff {ps : List Property} {name : String} {i : Nat}
    (hps : (ps.map (·.name)).Nodup) :
    (placesByName ps).lookup name = some i ↔ ∃ p, ps[i]? = some p ∧ p.name = name := by
  have hkeys : ((placesByName ps).map (·.1)).Nodup := by
    have hnames : (ps.zipIdx.map fun pi => (pi.1.name, pi.2)).map (·.1) = ps.map (·.name) := by
      conv_rhs => rw [← List.zipIdx_map_fst 0 ps, List.map_map]
      rw [List.map_map]
      rfl
    rw [placesByName, List.map_reverse, List.nodup_reverse, hnames]
    exact hps
  rw [List.lookup_eq_some_iff_mem hkeys, placesByName, List.mem_reverse]
  simp only [List.mem_map, List.mem_zipIdx_iff_getElem?, Prod.mk.injEq]
  constructor
  · rintro ⟨pi, hp, hname, rfl⟩
    exact ⟨pi.1, hp, hname⟩
  · rintro ⟨p, hp, hname⟩
    exact ⟨(p, i), hp, hname, rfl⟩

/-! ### Columns -/

/-- **The stored properties are those of the two parts of the key and the others.** -/
theorem perm_filter_not_isTransient (ps : List Property) :
    (ps.filter (·.isPartitionKey) ++ ps.filter (·.isClusteringColumn) ++
      ps.filter fun p => !(p.isPartitionKey || p.isClusteringColumn || p.isTransient)).Perm
      (ps.filter fun p => !p.isTransient) := by
  let stored := ps.filter fun p => !p.isTransient
  let others := stored.filter fun p => !p.isPartitionKey
  have hpartition : stored.filter (·.isPartitionKey) = ps.filter (·.isPartitionKey) := by
    rw [List.filter_filter]
    refine List.filter_congr fun p _ => ?_
    change (p.role.isPartitionKey && !p.role.isTransient) = p.role.isPartitionKey
    cases p.role <;> rfl
  have hclustering : others.filter (·.isClusteringColumn) = ps.filter (·.isClusteringColumn) := by
    rw [List.filter_filter, List.filter_filter]
    refine List.filter_congr fun p _ => ?_
    change ((p.role.isClusteringColumn && !p.role.isPartitionKey) && !p.role.isTransient) =
      p.role.isClusteringColumn
    cases p.role <;> rfl
  have hregular : others.filter (fun p => !p.isClusteringColumn) =
      ps.filter fun p => !(p.isPartitionKey || p.isClusteringColumn || p.isTransient) := by
    rw [List.filter_filter, List.filter_filter]
    refine List.filter_congr fun p _ => ?_
    change ((!p.role.isClusteringColumn && !p.role.isPartitionKey) && !p.role.isTransient) =
      !(p.role.isPartitionKey || p.role.isClusteringColumn || p.role.isTransient)
    cases p.role <;> rfl
  calc ps.filter (·.isPartitionKey) ++ ps.filter (·.isClusteringColumn) ++
        ps.filter (fun p => !(p.isPartitionKey || p.isClusteringColumn || p.isTransient))
    _ = stored.filter (·.isPartitionKey) ++
        (others.filter (·.isClusteringColumn) ++ others.filter fun p => !p.isClusteringColumn) := by
      rw [hpartition, hclustering, hregular, List.append_assoc]
    List.Perm _ (stored.filter (·.isPartitionKey) ++ others) :=
      (List.filter_append_perm ..).append_left _
    List.Perm _ stored := List.filter_append_perm ..

/-- **The views of a descriptor agree.** -/
structure IsWellFormed (desc : Descriptor) : Prop where
  /-- No two properties have one name. -/
  nodup_names : (desc.properties.map (·.name)).Nodup
  /-- Every name leads to the place of its property, and nothing else leads anywhere. -/
  lookup_iff : ∀ (name : String) (i : Nat), desc.index.lookup name = some i ↔
    ∃ p, desc.properties[i]? = some p ∧ p.name = name
  property?_iff : ∀ (name : String) (p : Property), desc.property? name = some p ↔
    p ∈ desc.properties ∧ p.name = name
  partition : IsKey (·.isPartitionKey) desc.properties desc.partitionPlaces
  clustering : IsKey (·.isClusteringColumn) desc.properties desc.clusteringPlaces
  disjoint : desc.partitionPlaces.Disjoint desc.clusteringPlaces
  /-- What is not in the key has no position. -/
  position_of_not_key : ∀ p ∈ desc.properties, ¬p.isPartitionKey → ¬p.isClusteringColumn →
    p.position = -1
  /-- Every stored property is either in the key or not, and it is there once. -/
  mapped_perm : (desc.primaryKey ++ desc.regularColumns).Perm desc.mappedColumns
  mapped_disjoint : desc.primaryKey.Disjoint desc.regularColumns
  length_primaryKey : desc.primaryKey.length = desc.keyLength
  /-- User-defined types have no keys and nothing computed. -/
  udt : desc.kind = .udt → desc.partitionPlaces = [] ∧ desc.clusteringPlaces = [] ∧
    ∀ p ∈ desc.properties, ¬p.isComputed

/-- No property is in both parts of the key. -/
theorem not_isClusteringColumn_of_isPartitionKey {p : Property} (h : p.isPartitionKey) :
    ¬p.isClusteringColumn := by
  change p.role.isPartitionKey at h
  change ¬p.role.isClusteringColumn
  cases hrole : p.role with
  | partitionKey n => exact nofun
  | _ => rw [hrole] at h; cases h

/-- What a name leads to, where it leads to the place of its property. -/
theorem property?_eq_some_iff {desc : Descriptor} {name : String} {p : Property}
    (hlookup : ∀ i : Nat, desc.index.lookup name = some i ↔
      ∃ q, desc.properties[i]? = some q ∧ q.name = name) :
    desc.property? name = some p ↔ p ∈ desc.properties ∧ p.name = name := by
  rw [property?, Option.bind_eq_some_iff, List.mem_iff_getElem?]
  constructor
  · rintro ⟨i, hi, hp⟩
    obtain ⟨q, hq, hname⟩ := (hlookup i).mp hi
    rw [hp] at hq
    exact ⟨⟨i, hp⟩, Option.some.inj hq ▸ hname⟩
  · rintro ⟨⟨i, hp⟩, hname⟩
    exact ⟨i, (hlookup i).mpr ⟨p, hp, hname⟩, hp⟩

/-- **Every descriptor is well formed**, and it has one property for every name that the hierarchy
declares. -/
theorem isWellFormed_of_build {desc : Descriptor} (hkind : kind ≠ .accessor)
    (h : (build d kind config).result = .ok desc) :
    desc.IsWellFormed ∧ ∀ name, name ∈ desc.properties.map (·.name) ↔
      ∃ l ∈ d.levels, l.decl.declares name := by
  obtain ⟨-, hrules, partition, clustering, keyspace, hpartition, hclustering, -, rfl⟩ :=
    (result_build_eq_ok_iff hkind).mp h
  have hnames : ((propertiesOf d).map (·.name)).Perm (Draft.names d.levels) := by
    rw [map_name_propertiesOf]
    exact Draft.perm_map_property_ofLevels d.levels
  have hnodup : ((propertiesOf d).map (·.name)).Nodup := hnames.nodup_iff.mpr (List.nodup_dedup _)
  have hlookup : ∀ (name : String) (i : Nat), (placesByName (propertiesOf d)).lookup name = some i ↔
      ∃ p, (propertiesOf d)[i]? = some p ∧ p.name = name :=
    fun name i => lookup_placesByName_iff hnodup
  have hkey := isKey_of_orderedKey hpartition
  have hkey' := isKey_of_orderedKey hclustering
  have hprimary := (filterMap_perm_of_orderedKey hpartition).append
    (filterMap_perm_of_orderedKey hclustering)
  refine ⟨?_, fun name => hnames.mem_iff.trans Draft.mem_names_iff⟩
  exact {
    nodup_names := hnodup
    lookup_iff := hlookup
    property?_iff := fun name p => property?_eq_some_iff (hlookup name)
    partition := hkey
    clustering := hkey'
    disjoint := hkey.disjoint hkey' fun p _ => not_isClusteringColumn_of_isPartitionKey
    position_of_not_key := fun p _ => PropertyRole.position_of_not_key
    mapped_perm := (hprimary.append_right _).trans (perm_filter_not_isTransient _)
    mapped_disjoint := by
      intro p hp hregular
      have hnot := (List.mem_filter.mp hregular).2
      rcases List.mem_append.mp (hprimary.mem_iff.mp hp) with hp | hp
      · simp [(List.mem_filter.mp hp).2] at hnot
      · simp [(List.mem_filter.mp hp).2] at hnot
    length_primaryKey := by
      rw [primaryKey, List.length_append]
      exact congrArg₂ _ hkey.length_filterMap hkey'.length_filterMap
    udt := by
      rintro rfl
      have hudt : ∀ p ∈ propertiesOf d,
          ¬p.isPartitionKey ∧ ¬p.isClusteringColumn ∧ ¬p.isComputed := by
        intro p hp
        obtain ⟨name, hname, rfl⟩ := List.mem_map.mp ((propertiesOf_perm d).mem_iff.mp hp)
        exact (hrules name hname).1.role_udt
      exact ⟨hkey.eq_nil fun p hp => (hudt p hp).1, hkey'.eq_nil fun p hp => (hudt p hp).2.1,
        fun p hp => (hudt p hp).2.2⟩ }

/-- The descriptor of a class with a superclass and an interface. -/
theorem isWellFormed_of_build_note : ∃ desc : Descriptor,
    (build (Samples.note.decl 3) .table {}).result = .ok desc ∧
      desc.properties.map (·.name) = ["created", "dirty", "labels", "id", "body"] ∧
      desc.IsWellFormed := by
  have hbuild : ((build (Samples.note.decl 3) .table {}).result.map fun desc =>
      desc.properties.map (·.name)) = .ok ["created", "dirty", "labels", "id", "body"] := by
    cbv
  obtain ⟨desc, h, hnames⟩ := Except.map_eq_ok_iff.mp hbuild
  exact ⟨desc, h, hnames, (isWellFormed_of_build (by decide) h).1⟩

end Descriptor

end WideColumn

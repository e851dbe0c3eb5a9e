import WideColumn.Mapping.Property

/-!
# Descriptors

How a class is mapped: the table or user-defined type with its columns, or the queries of an
accessor.

A descriptor keeps its properties once, in a list. Whatever else it knows about them, it knows by
their places in this list: the properties of a name and those of the two parts of the key.

* `WideColumn.QueryDescriptor`, `WideColumn.Descriptor`: the result of mapping a class;
* `WideColumn.Descriptor.property?`: the property of a name;
* `WideColumn.Descriptor.primaryKey`, `WideColumn.Descriptor.regularColumns`,
  `WideColumn.Descriptor.mappedColumns`: its columns by the part they play;
* `WideColumn.Descriptor.build`: the mapping of a class.
-/

namespace WideColumn

/-- A query of an accessor. -/
structure QueryDescriptor where
  method : String
  text : String
  params : List Param
  deriving DecidableEq, Repr, Inhabited

/-- Whether the parameters of a query go by name: the first of them tells for all. -/
def QueryDescriptor.hasNamedParams (q : QueryDescriptor) : Bool :=
  match q.params with
  | [] => false
  | p :: _ => p.name.isSome

/-- How a class is mapped. -/
structure Descriptor where
  /-- The name of the class. -/
  className : String
  kind : MappingKind
  /-- The keyspace, as it is written in statements; accessors have none. -/
  keyspace : Option String
  /-- The table or user-defined type, as it is written in statements; accessors have none. -/
  name : Option String
  /-- All properties, those that are not stored included. -/
  properties : List Property
  /-- The place of the property of a name. Of two entries for one name the first counts. -/
  index : List (String × Nat)
  /-- The places of the properties of the partition key, in the order of their positions. -/
  partitionPlaces : List Nat
  /-- The places of the clustering columns, in the order of their positions. -/
  clusteringPlaces : List Nat
  /-- The queries of an accessor. -/
  queries : List QueryDescriptor

namespace Descriptor

/-- The property of a name. -/
def property? (d : Descriptor) (name : String) : Option Property :=
  (d.index.lookup name).bind fun i => d.properties[i]?

/-- The properties at some places. -/
def select (d : Descriptor) (places : List Nat) : List Property :=
  places.filterMap fun i => d.properties[i]?

/-- The properties of the partition key, in the order of their positions. -/
def partitionKey (d : Descriptor) : List Property :=
  d.select d.partitionPlaces

/-- The clustering columns, in the order of their positions. -/
def clusteringColumns (d : Descriptor) : List Property :=
  d.select d.clusteringPlaces

/-- The properties that make up the key of a row. -/
def primaryKey (d : Descriptor) : List Property :=
  d.partitionKey ++ d.clusteringColumns

/-- How many properties make up the key of a row. -/
def keyLength (d : Descriptor) : Nat :=
  d.partitionPlaces.length + d.clusteringPlaces.length

/-- The stored properties outside of the key. -/
def regularColumns (d : Descriptor) : List Property :=
  d.properties.filter fun p => !(p.isPartitionKey || p.isClusteringColumn || p.isTransient)

/-- The stored properties. -/
def mappedColumns (d : Descriptor) : List Property :=
  d.properties.filter fun p => !p.isTransient

/-! ### The class itself -/

/-- The markers of a class have to ask for the mapping and for no other one; accessors are
interfaces. -/
def validateKind (d : ClassDecl) (kind : MappingKind) : Except MappingError Unit :=
  if kind = .accessor ∧ d.shape ≠ .interface then
    .error (.accessorOnConcreteClass d.shape d.name)
  else if !d.hasMarker kind then .error (.missingMapping kind.marker d.shape d.name)
  else
    match MappingKind.all.find? fun other => other != kind && d.hasMarker other with
    | some rival => .error (.conflictingMapping kind.marker rival.marker d.shape d.name)
    | none => .ok ()

/-- The name that the first marker of the mapping gives. -/
def entityName (d : ClassDecl) (kind : MappingKind) : EntityName :=
  ((d.markers.find? fun m => m.kind == kind).bind (·.entityName?)).getD {}

/-- A name that is given and not empty. -/
def nonEmpty (name : Option String) : Option String :=
  name.filter (· != "")

/-- The keyspace: as the marker names it, else that of the settings, which is taken as it is. -/
def resolveKeyspace (d : ClassDecl) (kind : MappingKind) (config : Config) :
    Except MappingError String :=
  let given := entityName d kind
  match nonEmpty given.keyspace with
  | some k => .ok (Identifier.normalize k given.caseSensitiveKeyspace)
  | none =>
    match config.defaultKeyspace with
    | some k => .ok k
    | none => .error (.missingKeyspace kind.marker d.name)

/-- The table or user-defined type: as the marker names it, else as the class is called. -/
def resolveName (d : ClassDecl) (kind : MappingKind) : String :=
  let given := entityName d kind
  match nonEmpty given.name with
  | some n => Identifier.normalize n given.caseSensitiveName
  | none => Identifier.normalize d.name false

/-! ### Keys -/

/-- The positions of properties have to be the numbers from `expected` on. -/
def checkPositions (marker : MarkerKind) : (expected : Nat) → List Property →
    Except MappingError Unit
  | _, [] => .ok ()
  | expected, p :: ps =>
    if p.position.toInt = expected then checkPositions marker (expected + 1) ps
    else .error (.invalidKeyOrdering marker p.name p.position expected)

/-- The properties of a key with their places, in the order of their positions. -/
def sortedKey (isKey : Property → Bool) (ps : List Property) : List (Property × Nat) :=
  (ps.zipIdx.filter fun pi => isKey pi.1).mergeSort fun pi qj =>
    pi.1.position.toInt ≤ qj.1.position.toInt

/-- The places of the properties of a key in the order of their positions, which have to be `0`,
`1`, and so on. -/
def orderedKey (marker : MarkerKind) (isKey : Property → Bool) (ps : List Property) :
    Except MappingError (List Nat) := do
  let keys := sortedKey isKey ps
  checkPositions marker 0 (keys.map (·.1))
  return keys.map (·.2)

/-! ### Queries -/

/-- The query of a method, whose parameters have names all or none of them. -/
def resolveQuery (className : String) (q : Query) : Except MappingError QueryDescriptor :=
  match q.text with
  | none => .error (.missingQuery className q.method)
  | some text =>
    if q.params.all (·.name.isSome) || q.params.all (·.name.isNone) then
      .ok ⟨q.method, text, q.params⟩
    else .error (.inconsistentParamNames className q.method)

/-- The queries of methods, without those whose name has been seen before. -/
def resolveQueries (className : String) (seen : List String) :
    List Query → Except MappingError (List QueryDescriptor)
  | [] => return []
  | q :: qs =>
    if q.method ∈ seen then resolveQueries className seen qs
    else do
      let r ← resolveQuery className q
      let rs ← resolveQueries className (q.method :: seen) qs
      return r :: rs

/-! ### The mapping -/

/-- The mapping of an accessor, once its markers have been checked. -/
def buildAccessor (d : ClassDecl) : Traced MappingError Descriptor := do
  let queries ← Traced.ofExcept
    (resolveQueries d.name [] (d.levels.flatMap fun l => l.decl.queries))
  Traced.note (.accessorBuilt d.name queries.length)
  return {
    className := d.name
    kind := .accessor
    keyspace := none
    name := none
    properties := []
    index := []
    partitionPlaces := []
    clusteringPlaces := []
    queries := queries }

/-- The properties of drafts, up to the first one that is refused. -/
def buildProperties (className : String) (kind : MappingKind) (config : Config) :
    List Draft → Traced MappingError (List Property)
  | [] => return []
  | d :: ds => do
    let p ← Property.ofDraft className kind config d
    let ps ← buildProperties className kind config ds
    return p :: ps

/-- The places of properties by name, the last one first. -/
def placesByName (ps : List Property) : List (String × Nat) :=
  (ps.zipIdx.map fun pi => (pi.1.name, pi.2)).reverse

/-- The mapping of a class to a table or user-defined type, once its markers have been checked. -/
def buildEntity (d : ClassDecl) (kind : MappingKind) (config : Config) :
    Traced MappingError Descriptor := do
  let properties ← buildProperties d.name kind config (Draft.ofLevels d.levels)
  let partition ← Traced.ofExcept (orderedKey .partitionKey (·.isPartitionKey) properties)
  let clustering ← Traced.ofExcept (orderedKey .clusteringColumn (·.isClusteringColumn) properties)
  let keyspace ← Traced.ofExcept (resolveKeyspace d kind config)
  Traced.note (.built kind d.name properties.length partition.length clustering.length)
  return {
    className := d.name
    kind := kind
    keyspace := some keyspace
    name := some (resolveName d kind)
    properties := properties
    index := placesByName properties
    partitionPlaces := partition
    clusteringPlaces := clustering
    queries := [] }

/-- The mapping of a class. -/
def build (d : ClassDecl) (kind : MappingKind) (config : Config) :
    Traced MappingError Descriptor := do
  Traced.ofExcept (validateKind d kind)
  match kind with
  | .accessor => buildAccessor d
  | kind => buildEntity d kind config

end Descriptor

end WideColumn

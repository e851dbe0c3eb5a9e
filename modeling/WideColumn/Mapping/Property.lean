import WideColumn.Config
import WideColumn.Mapping.Draft
import WideColumn.Mapping.Error
import WideColumn.Mapping.Identifier
import WideColumn.Trace.Traced

/-!
# Properties

A property of a mapped class, once all that is said about it has been merged and checked.

* `WideColumn.PropertyRole`, `WideColumn.Frozenness`, `WideColumn.Property`: what is known of a
  property;
* `WideColumn.Draft.validate`: the rules for the markers of a property;
* `WideColumn.Property.ofDraft`: the property of a draft;
* `WideColumn.Property.get`, `WideColumn.Property.set`: the property of an entity.
-/

namespace WideColumn

/-- The part that a property plays. -/
inductive PropertyRole where
  /-- A column among others. -/
  | regular
  /-- The server computes the value from an expression. -/
  | computed (expression : String)
  /-- The property is not stored. -/
  | transient
  /-- A part of the partition key. -/
  | partitionKey (position : Int32)
  /-- A clustering column. -/
  | clusteringColumn (position : Int32)
  deriving DecidableEq, Repr, Inhabited

namespace PropertyRole

/-- The position within a key; `-1` outside of keys. -/
def position : PropertyRole → Int32
  | partitionKey n => n
  | clusteringColumn n => n
  | _ => -1

/-- Whether the property is a part of the partition key. -/
def isPartitionKey : PropertyRole → Bool
  | partitionKey _ => true
  | _ => false

/-- Whether the property is a clustering column. -/
def isClusteringColumn : PropertyRole → Bool
  | clusteringColumn _ => true
  | _ => false

/-- Whether the property is computed. -/
def isComputed : PropertyRole → Bool
  | computed _ => true
  | _ => false

/-- Whether the property is not stored. -/
def isTransient : PropertyRole → Bool
  | transient => true
  | _ => false

end PropertyRole

/-- What of a property is stored as one frozen value. -/
structure Frozenness where
  whole : Bool
  key : Bool
  value : Bool
  deriving DecidableEq, Repr, Inhabited

/-- A property of a mapped class. -/
structure Property where
  name : String
  /-- The column or field as it is written in statements, or the expression of a computed
  property. -/
  columnName : String
  appType : AppType
  role : PropertyRole
  /-- The codec that a marker asks for. -/
  customCodec : Option Codec
  frozen : Frozenness
  /-- Where the property is read from. -/
  reader : Option Route
  /-- Where the property is written to. -/
  writer : Option Route
  /-- The name of the mapped class. -/
  className : String

namespace Draft

/-! ### Rules -/

/-- The first of several kinds of which there is a marker. -/
def firstOf (d : Draft) (kinds : List MarkerKind) : Option MarkerKind :=
  kinds.find? d.has

/-- The markers of a property have to be allowed in the mapping and to agree with each other: a
property is not both in the partition key and a clustering column, and what is computed is neither
of the two and has no column name. -/
def validate (d : Draft) (kind : MappingKind) : Except MappingError Unit :=
  match d.markers.find? fun m => !m.isAllowed kind with
  | some m => .error (.markerNotAllowed m.kind d.property)
  | none =>
    if d.has .partitionKey && d.has .clusteringColumn then
      .error (.conflictingMarkers d.property .partitionKey .clusteringColumn)
    else
      match d.computed? with
      | none => .ok ()
      | some expression =>
        match d.firstOf [.column, .partitionKey, .clusteringColumn] with
        | some other => .error (.conflictingMarkers d.property other .computed)
        | none =>
          if expression = "" then .error (.missingComputedExpression d.property) else .ok ()

/-! ### Parts of the property -/

/-- The name that a marker gives, if it is not empty. -/
def markedName (name : ColumnName) : Option String :=
  match name.name with
  | none => none
  | some n => if n = "" then none else some (Identifier.normalize n name.caseSensitive)

/-- The column of the property: as a marker names it, else the expression of a computed property,
else as the property is called. -/
def columnName (d : Draft) : String :=
  (d.column?.bind markedName <|> d.field?.bind markedName <|> d.computed?).getD
    (Identifier.normalize d.property false)

/-- The part that the property plays. What is not stored plays no other part. -/
def role (d : Draft) : PropertyRole :=
  if d.has .transient then .transient
  else
    match d.partitionKey?, d.clusteringColumn?, d.computed? with
    | some n, _, _ => .partitionKey n
    | none, some n, _ => .clusteringColumn n
    | none, none, some e => .computed e
    | none, none, none => .regular

/-- What of the property is frozen. -/
def frozenness (d : Draft) : Frozenness :=
  ⟨d.has .frozen, d.has .frozenKey, d.has .frozenValue⟩

/-- The codec that a marker asks for. -/
def codec? (d : Draft) : Option Codec :=
  d.column?.bind (·.codec) <|> d.field?.bind (·.codec)

/-- The codec that a marker asks for, if it may be used: the type of its values has to be related
to that of the property, unless the settings say otherwise. -/
def boundCodec (d : Draft) (className : String) (config : Config) :
    Traced MappingError (Option Codec) :=
  match d.codec? with
  | none => pure none
  | some c =>
    if config.validateCodecs && !c.appType.isRelated d.appType then
      Traced.fail (.incompatibleCodec d.property c.appType d.appType)
    else do
      Traced.note (.codecBound className d.property c.columnType)
      return some c

end Draft

namespace Property

/-- The property of a draft, in a class that is mapped in a certain way. -/
def ofDraft (className : String) (kind : MappingKind) (config : Config) (d : Draft) :
    Traced MappingError Property := do
  Traced.ofExcept (d.validate kind)
  let codec ← d.boundCodec className config
  return {
    name := d.property
    columnName := d.columnName
    appType := d.appType
    role := d.role
    customCodec := codec
    frozen := d.frozenness
    reader := d.reader
    writer := d.writer
    className := className }

/-- The position within a key; `-1` outside of keys. -/
def position (p : Property) : Int32 :=
  p.role.position

/-- Whether the property is a part of the partition key. -/
def isPartitionKey (p : Property) : Bool :=
  p.role.isPartitionKey

/-- Whether the property is a clustering column. -/
def isClusteringColumn (p : Property) : Bool :=
  p.role.isClusteringColumn

/-- Whether the property is computed. -/
def isComputed (p : Property) : Bool :=
  p.role.isComputed

/-- Whether the property is not stored. -/
def isTransient (p : Property) : Bool :=
  p.role.isTransient

/-! ### Access -/

/-- The error of an access to the property. -/
def accessError (p : Property) (op : AccessOp) (cause : AccessError) : PropertyError :=
  ⟨op, p.name, p.className, cause⟩

/-- The value of the property in an entity. -/
def get (p : Property) (e : Entity) : Except PropertyError Value :=
  match p.reader with
  | none => .error (p.accessError .read .unsupported)
  | some r => (r.read e).mapError (p.accessError .read)

/-- The entity with another value of the property. -/
def set (p : Property) (e : Entity) (v : Value) : Except PropertyError Entity :=
  match p.writer with
  | none => .error (p.accessError .write .unsupported)
  | some r => (r.write e v).mapError (p.accessError .write)

end Property

end WideColumn

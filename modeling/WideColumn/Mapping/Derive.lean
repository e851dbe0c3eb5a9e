import WideColumn.Mapping.Manager

/-!
# Deriving a declaration

Most classes are not declared by hand: their declaration follows from attributes that stand on the
class and its fields.

* `WideColumn.ClassAttributes`, `WideColumn.FieldAttributes`: the attributes;
* `WideColumn.FieldDecl`, `WideColumn.RecordDecl`: a class as it is written;
* `WideColumn.RecordDecl.derive`: its entity type and declaration.
-/

namespace WideColumn

/-- The attributes of a class. A table or user-defined type may be asked for with or without a
name. -/
structure ClassAttributes where
  table : Option (Option String) := none
  udt : Option (Option String) := none
  accessor : Bool := false
  keyspace : Option String := none
  caseSensitiveKeyspace : Bool := false
  caseSensitiveName : Bool := false
  /-- The interfaces that the class implements. -/
  interfaces : List ClassDecl := []

/-- The attributes of a field. A column or field may be asked for with or without a name. -/
structure FieldAttributes where
  column : Option (Option String) := none
  field : Option (Option String) := none
  caseSensitive : Bool := false
  codec : Option Codec := none
  partitionKey : Option Int32 := none
  clusteringColumn : Option Int32 := none
  computed : Option String := none
  frozen : Bool := false
  frozenKey : Bool := false
  frozenValue : Bool := false

/-- A field of a class. -/
structure FieldDecl where
  name : String
  /-- What the field holds; a field that is not stored may hold anything. -/
  type : Option FieldType
  attributes : FieldAttributes := {}

/-- A class with fields, as it is written. -/
structure RecordDecl where
  name : String
  attributes : ClassAttributes := {}
  /-- The superclass, whose instance the class embeds. -/
  base : Option MappedType := none
  fields : List FieldDecl

/-! ### Markers -/

namespace ClassAttributes

/-- The name that the attributes give to a table or user-defined type. -/
def entityName (a : ClassAttributes) (name : Option String) : EntityName :=
  ⟨a.keyspace, name, a.caseSensitiveKeyspace, a.caseSensitiveName⟩

/-- The markers of the class. -/
def markers (a : ClassAttributes) : List MappingMarker :=
  (a.table.map fun n => .table (a.entityName n)).toList ++
    (a.udt.map fun n => .udt (a.entityName n)).toList ++
      if a.accessor then [.accessor] else []

/-- Whether the class is a user-defined type and no table, so that its fields are not columns. -/
def isUdtOnly (a : ClassAttributes) : Bool :=
  a.udt.isSome && a.table.isNone

end ClassAttributes

namespace FieldAttributes

/-- Whether there is an attribute that has to stand with a name, so that one is implied. -/
def impliesName (a : FieldAttributes) : Bool :=
  a.caseSensitive || a.codec.isSome

/-- The column that the attributes ask for, be it in so many words or by implication. -/
def columnName (a : FieldAttributes) (udtOnly : Bool) : Option (Option String) :=
  a.column <|> if a.impliesName && a.field.isNone && !udtOnly then some none else none

/-- The field that the attributes ask for, be it in so many words or by implication. -/
def fieldName (a : FieldAttributes) (udtOnly : Bool) : Option (Option String) :=
  a.field <|> if a.impliesName && a.column.isNone && udtOnly then some none else none

/-- The markers of the member. The codec goes with the column if there is one. -/
def markers (a : FieldAttributes) (udtOnly transient : Bool) : List PropertyMarker :=
  let column := a.columnName udtOnly
  let field := a.fieldName udtOnly
  let fieldCodec := if column.isSome then none else a.codec
  (column.map fun n => .column ⟨n, a.caseSensitive, a.codec⟩).toList ++
    (field.map fun n => .field ⟨n, a.caseSensitive, fieldCodec⟩).toList ++
    (a.partitionKey.map .partitionKey).toList ++
    (a.clusteringColumn.map .clusteringColumn).toList ++
    (a.computed.map .computed).toList ++
    (if transient then [.transient] else []) ++
    (if a.frozen then [.frozen] else []) ++
    (if a.frozenKey then [.frozenKey] else []) ++
    if a.frozenValue then [.frozenValue] else []

end FieldAttributes

/-! ### The class -/

namespace RecordDecl

/-- The member of a field. One that is not stored is bound to no slot. -/
def member (s : RecordDecl) (f : FieldDecl) : Member :=
  let markers := f.attributes.markers s.attributes.isUdtOnly f.type.isNone
  match f.type with
  | some t => .bound f.name .field ⟨s.name, f.name⟩ t markers
  | none => .declared f.name .field .any markers

/-- The entity type of the class. Its slots are the fields that are stored. -/
def entityType (s : RecordDecl) : EntityType where
  outer := ⟨s.name, s.fields.filterMap fun f => f.type.map fun t => (f.name, t)⟩
  bases :=
    match s.base with
    | some b => b.type.outer :: b.type.bases
    | none => []

/-- The declaration of the class. -/
def decl (s : RecordDecl) (serial : Nat) : ClassDecl where
  serial := serial
  entityType := some s.name
  name := s.name
  shape := .concrete
  markers := s.attributes.markers
  superclass := s.base.map (·.decl)
  embeddedIn := s.base.map fun _ => s.name
  interfaces := s.attributes.interfaces
  members := s.fields.map s.member
  queries := []

/-- The entity type and declaration of the class, which is given a serial number. -/
def derive (s : RecordDecl) (serial : Nat) : MappedType :=
  ⟨s.entityType, s.decl serial⟩

end RecordDecl

end WideColumn

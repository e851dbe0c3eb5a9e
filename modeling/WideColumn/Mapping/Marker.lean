import WideColumn.Codec.Basic
import WideColumn.Mapping.Kind

/-!
# Markers

What is written on classes and on their members to say how they are stored.

* `WideColumn.MarkerKind`: the names of markers;
* `WideColumn.MappingMarker`: markers of classes;
* `WideColumn.PropertyMarker`: markers of members;
* `WideColumn.PropertyMarker.isAllowed`: which members may have which markers.
-/

namespace WideColumn

/-- The names of markers. -/
inductive MarkerKind where
  | table
  | udt
  | accessor
  | column
  | field
  | partitionKey
  | clusteringColumn
  | computed
  | transient
  | frozen
  | frozenKey
  | frozenValue
  deriving DecidableEq, Repr, Inhabited

/-- The name of a marker as it is written. -/
def MarkerKind.text : MarkerKind → String
  | table => "@Table"
  | udt => "@UDT"
  | accessor => "@Accessor"
  | column => "@Column"
  | field => "@Field"
  | partitionKey => "@PartitionKey"
  | clusteringColumn => "@ClusteringColumn"
  | computed => "@Computed"
  | transient => "@Transient"
  | frozen => "@Frozen"
  | frozenKey => "@FrozenKey"
  | frozenValue => "@FrozenValue"

/-- The marker that asks for a mapping. -/
def MappingKind.marker : MappingKind → MarkerKind
  | table => .table
  | udt => .udt
  | accessor => .accessor

/-! ### Markers of classes -/

/-- The name of a table or user-defined type, as far as it is given. -/
structure EntityName where
  keyspace : Option String := none
  name : Option String := none
  caseSensitiveKeyspace : Bool := false
  caseSensitiveName : Bool := false
  deriving DecidableEq, Repr, Inhabited

/-- A marker of a class. -/
inductive MappingMarker where
  | table (name : EntityName)
  | udt (name : EntityName)
  | accessor
  deriving DecidableEq, Repr, Inhabited

namespace MappingMarker

/-- The mapping that a marker asks for. -/
def kind : MappingMarker → MappingKind
  | table _ => .table
  | udt _ => .udt
  | accessor => .accessor

/-- The name that a marker gives. -/
def entityName? : MappingMarker → Option EntityName
  | table n => some n
  | udt n => some n
  | accessor => none

end MappingMarker

/-! ### Markers of members -/

/-- The name of a column or field, as far as it is given, and a codec for it. -/
structure ColumnName where
  name : Option String := none
  caseSensitive : Bool := false
  codec : Option Codec := none

/-- A marker of a member. -/
inductive PropertyMarker where
  | column (name : ColumnName)
  | field (name : ColumnName)
  | partitionKey (position : Int32)
  | clusteringColumn (position : Int32)
  | computed (expression : String)
  | transient
  | frozen
  | frozenKey
  | frozenValue

namespace PropertyMarker

/-- The name of a marker. -/
def kind : PropertyMarker → MarkerKind
  | column _ => .column
  | field _ => .field
  | partitionKey _ => .partitionKey
  | clusteringColumn _ => .clusteringColumn
  | computed _ => .computed
  | transient => .transient
  | frozen => .frozen
  | frozenKey => .frozenKey
  | frozenValue => .frozenValue

/-- Whether members of a class that is mapped in a certain way may have a marker: tables have
columns, user-defined types have fields, of which none is special, and accessors have neither. -/
def isAllowed : MappingKind → PropertyMarker → Bool
  | .table, field _ => false
  | .table, _ => true
  | .udt, field _ => true
  | .udt, transient => true
  | .udt, frozen => true
  | .udt, frozenKey => true
  | .udt, frozenValue => true
  | .udt, _ => false
  | .accessor, _ => false

end PropertyMarker

end WideColumn

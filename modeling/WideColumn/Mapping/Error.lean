import WideColumn.Mapping.ClassDecl

/-!
# Errors of mappings

* `WideColumn.MappingError`: why a class cannot be mapped;
* `WideColumn.PropertyError`: why a property of an entity cannot be read or written.
-/

namespace WideColumn

/-- Why a class cannot be mapped as asked for. -/
inductive MappingError where
  /-- The class does not have the marker of the mapping. -/
  | missingMapping (wanted : MarkerKind) (shape : ClassShape) (className : String)
  /-- The class has the marker of another mapping as well. -/
  | conflictingMapping (wanted found : MarkerKind) (shape : ClassShape) (className : String)
  /-- An accessor has to be an interface. -/
  | accessorOnConcreteClass (shape : ClassShape) (className : String)
  /-- Neither the class nor the settings name a keyspace. -/
  | missingKeyspace (marker : MarkerKind) (className : String)
  /-- A property has two markers that exclude each other. -/
  | conflictingMarkers (property : String) (first second : MarkerKind)
  /-- A computed property has no expression. -/
  | missingComputedExpression (property : String)
  /-- A property has a marker that the mapping has no use for. -/
  | markerNotAllowed (marker : MarkerKind) (property : String)
  /-- The positions of key properties are not `0`, `1`, and so on. -/
  | invalidKeyOrdering (marker : MarkerKind) (property : String) (found : Int32) (expected : Nat)
  /-- The codec of a property has nothing to do with the type of the property. -/
  | incompatibleCodec (property : String) (codecType propertyType : AppType)
  /-- A method of an accessor has no query. -/
  | missingQuery (className method : String)
  /-- A method of an accessor has parameters with and without names. -/
  | inconsistentParamNames (className method : String)
  deriving DecidableEq, Repr

/-- The wording of an error. -/
def MappingError.message : MappingError → String
  | .missingMapping wanted shape className =>
    wanted.text ++ " annotation was not found on " ++ shape.text ++ " " ++ className
  | .conflictingMapping wanted found shape className =>
    "Cannot have both " ++ wanted.text ++ " and " ++ found.text ++ " on " ++ shape.text ++ " " ++
      className
  | .accessorOnConcreteClass shape className =>
    "@Accessor annotation is only allowed on interfaces, got " ++ shape.text ++ " " ++ className
  | .missingKeyspace marker className =>
    "Missing keyspace for " ++ marker.text ++ " class " ++ className ++
      ": none declared and no default keyspace configured"
  | .conflictingMarkers property first second =>
    "Property '" ++ property ++ "' cannot be annotated with both " ++ first.text ++ " and " ++
      second.text
  | .missingComputedExpression property =>
    "Property '" ++ property ++
      "': attribute 'value' of annotation @Computed is mandatory for computed properties"
  | .markerNotAllowed marker property =>
    "Annotation " ++ marker.text ++ " is not allowed on property '" ++ property ++ "'"
  | .invalidKeyOrdering marker property found expected =>
    "Invalid ordering value " ++ Text.showInt found.toInt ++ " for annotation " ++ marker.text ++
      " of property '" ++ property ++ s!"', was expecting {expected}"
  | .incompatibleCodec property codecType propertyType =>
    "Custom codec for property '" ++ property ++ "' handles " ++ codecType.toText ++
      ", which is incompatible with the property type " ++ propertyType.toText
  | .missingQuery className method =>
    "Cannot create accessor for method " ++ className ++ "." ++ method ++
      ": missing @Query annotation"
  | .inconsistentParamNames className method =>
    "For method " ++ className ++ "." ++ method ++
      ", either all or none of the parameters must be named"

/-- The two directions of access. -/
inductive AccessOp where
  | read
  | write
  deriving DecidableEq, Repr, Inhabited

/-- The name of a direction. -/
def AccessOp.text : AccessOp → String
  | read => "read"
  | write => "write"

/-- A property of an entity cannot be read or written. -/
structure PropertyError where
  op : AccessOp
  property : String
  className : String
  cause : AccessError
  deriving DecidableEq, Repr

/-- The wording of an error. -/
def PropertyError.message (e : PropertyError) : String :=
  "Unable to " ++ e.op.text ++ " property '" ++ e.property ++ "' in " ++ e.className ++ ": " ++
    e.cause.message

end WideColumn

import WideColumn.AppType
import WideColumn.Mapping.Kind

/-!
# Events

What is noted down while types are resolved, descriptors are built and entities are stored. Nothing
depends on the notes; they are there to be read.

* `WideColumn.Event`: the events;
* `WideColumn.Event.line`: an event as a line of text, after its severity.
-/

namespace WideColumn

/-- Something worth a note. -/
inductive Event where
  /-- A registry is complete, with the given number of codecs. -/
  | registryBuilt (codecs : Nat)
  /-- A codec has been found for a column type. -/
  | resolved (column : ColumnType) (app : AppType)
  /-- A property has a codec of its own. -/
  | codecBound (className property : String) (column : ColumnType)
  /-- The descriptor of a table or user-defined type has been built. -/
  | built (kind : MappingKind) (className : String) (properties partitionKey clustering : Nat)
  /-- The descriptor of an accessor has been built. -/
  | accessorBuilt (className : String) (queries : Nat)
  /-- A descriptor becomes available to later requests. -/
  | published (kind : MappingKind) (className : String)
  /-- A descriptor is thrown away because another one is available by now. -/
  | discarded (kind : MappingKind) (className : String)
  /-- An entity is about to be stored. -/
  | saving (keyspace table : String) (columns : Nat)
  /-- No row has the key that was asked for. -/
  | noRow (keyspace table : String)
  /-- An entity is about to be removed. -/
  | deleting (keyspace table : String)
  deriving DecidableEq, Repr

namespace Event

/-- How important an event is. -/
def severity : Event → String
  | resolved _ _ => "TRACE"
  | _ => "DEBUG"

/-- What an event is described as. -/
def message : Event → String
  | registryBuilt codecs => s!"[codec] registry built with {codecs} scalar codecs"
  | resolved column app => "[codec] resolved " ++ column.toText ++ " -> " ++ app.toText
  | codecBound className property column =>
    "[mapping] " ++ className ++ "." ++ property ++ " bound to custom codec for " ++ column.toText
  | built kind className properties partitionKey clustering =>
    "[mapping] built " ++ kind.name ++ " descriptor for " ++ className ++
      s!" ({properties} properties, {partitionKey} partition key, {clustering} clustering)"
  | accessorBuilt className queries =>
    "[mapping] built accessor descriptor for " ++ className ++ s!" ({queries} queries)"
  | published kind className =>
    "[mapping] publishing " ++ kind.name ++ " descriptor for " ++ className
  | discarded kind className =>
    "[mapping] discarding duplicate " ++ kind.name ++ " descriptor for " ++ className
  | saving keyspace table columns =>
    "[mapper] save " ++ keyspace ++ "." ++ table ++ s!" ({columns} columns)"
  | noRow keyspace table => "[mapper] get " ++ keyspace ++ "." ++ table ++ ": no row"
  | deleting keyspace table => "[mapper] delete from " ++ keyspace ++ "." ++ table

/-- An event as a line of text. -/
def line (e : Event) : String :=
  e.severity ++ " " ++ e.message

end Event

end WideColumn

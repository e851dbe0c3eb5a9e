import WideColumn.ColumnType.Basic
import WideColumn.Text.Blank

/-!
# Server types

The server names the types of its columns by classes, each with a list of parameters. All of its
classes live in one package, and a class is known here by its short name, the part after the last
dot.

* `WideColumn.ServerType`: a class with its parameters, made by `WideColumn.ServerType.ofClass`;
* `WideColumn.ServerType.unwrapped`: the same type without the wrappers that say nothing about the
  values;
* `WideColumn.ColumnType.serverType`: the server's type for a column type;
* `WideColumn.ServerType.toChars`: the server's notation.
-/

namespace WideColumn

/-- A class of the server, by its short name, with its type parameters. -/
inductive ServerType where
  | node (className : String) (params : List ServerType)
  deriving Repr, Inhabited

namespace ServerType

/-- The package of all classes. -/
def package : String := "org.apache.cassandra.db.marshal."

/-- The short name of a class: what stands after the last dot, blanks around the whole aside. -/
def shortName (className : List Char) : List Char :=
  ((Text.trim className).reverse.takeWhile (· != '.')).reverse

/-- The type of a class, by its short or full name, with parameters. -/
def ofClass (className : String) (params : List ServerType) : ServerType :=
  node (String.ofList (shortName className.toList)) params

/-- The short name of the class. -/
def className : ServerType → String
  | node c _ => c

/-- The parameters of the class. -/
def params : ServerType → List ServerType
  | node _ ps => ps

/-- The full name of the class. -/
def qualifiedName (t : ServerType) : String :=
  package ++ t.className

@[simp] theorem className_node (c : String) (ps : List ServerType) : (node c ps).className = c := rfl

@[simp] theorem params_node (c : String) (ps : List ServerType) : (node c ps).params = ps := rfl

/-! ### Wrappers -/

/-- The classes whose single parameter is the type they stand for. -/
def wrappers : List String := ["ReversedType", "FrozenType"]

mutual

/-- The same type without its wrappers, at every level. A wrapper with other than one parameter is
a class like any other. -/
def unwrapped : ServerType → ServerType
  | node c [p] => if c ∈ wrappers then p.unwrapped else node c [p.unwrapped]
  | node c ps => node c (unwrappedAll ps)

/-- The parameters of a type without their wrappers. -/
def unwrappedAll : List ServerType → List ServerType
  | [] => []
  | p :: ps => p.unwrapped :: unwrappedAll ps

end

/-! ### Text -/

mutual

/-- The notation of a type: the full name of the class, with its parameters in parentheses. -/
def toChars : ServerType → List Char
  | node c [] => package.toList ++ c.toList
  | node c (p :: ps) =>
    package.toList ++ (c.toList ++ ('(' :: (p.toChars ++ (restChars ps ++ [')']))))

/-- Further parameters, each after a comma. -/
def restChars : List ServerType → List Char
  | [] => []
  | p :: ps => ',' :: (p.toChars ++ restChars ps)

end

/-- The text of a type. -/
def toText (t : ServerType) : String :=
  String.ofList t.toChars

end ServerType

/-! ### The classes of column types -/

/-- The class the server uses for a kind. The two names of the text kind share one. -/
def ScalarKind.serverClass : ScalarKind → String
  | ascii => "AsciiType"
  | bigint => "LongType"
  | blob => "BytesType"
  | boolean => "BooleanType"
  | counter => "CounterColumnType"
  | decimal => "DecimalType"
  | double => "DoubleType"
  | float => "FloatType"
  | inet => "InetAddressType"
  | int => "Int32Type"
  | text | varchar => "UTF8Type"
  | timestamp => "TimestampType"
  | uuid => "UUIDType"
  | varint => "IntegerType"
  | timeuuid => "TimeUUIDType"

/-- The class of a collection. -/
def CollectionKind.serverClass : CollectionKind → String
  | list => "ListType"
  | set => "SetType"
  | map => "MapType"

/-- The server's type for a column type. -/
def ColumnType.serverType : ColumnType → ServerType
  | scalar k => .node k.serverClass []
  | list e => .node CollectionKind.list.serverClass [e.serverType]
  | set e => .node CollectionKind.set.serverClass [e.serverType]
  | map k v => .node CollectionKind.map.serverClass [k.serverType, v.serverType]

end WideColumn

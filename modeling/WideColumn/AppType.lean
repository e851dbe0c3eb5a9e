import WideColumn.ColumnType.Basic

/-!
# Application types

The types that a program's values have, as far as columns care: twelve primitive types, collections
of types, classes that are stored as user-defined types, other types known by name, a type of all
values and a type of all numbers.

They are ordered: each type is below `any`, each numeric one below `number`, and collections are
ordered by their parts.

* `WideColumn.Primitive`, `WideColumn.AppType`: the types;
* `WideColumn.AppType.isSubtype`: the order;
* `WideColumn.AppType.isRelated`: comparability;
* `WideColumn.ScalarKind.appType`: the type of the values that a scalar column holds.
-/

namespace WideColumn

/-- The types of single values. -/
inductive Primitive where
  | string
  | bool
  | int32
  | int64
  | float32
  | float64
  | decimal
  | varint
  | bytes
  | address
  | instant
  | uuid
  deriving DecidableEq, Repr, Inhabited

namespace Primitive

/-- Whether the values are numbers. -/
def isNumeric : Primitive → Bool
  | int32 | int64 | float32 | float64 | decimal | varint => true
  | string | bool | bytes | address | instant | uuid => false

/-- The name of a primitive type. -/
def name : Primitive → String
  | string => "String"
  | bool => "bool"
  | int32 => "i32"
  | int64 => "i64"
  | float32 => "f32"
  | float64 => "f64"
  | decimal => "CqlDecimal"
  | varint => "BigInt"
  | bytes => "Blob"
  | address => "IpAddr"
  | instant => "DateTime<Utc>"
  | uuid => "Uuid"

end Primitive

/-- The type of a value in the program. -/
inductive AppType where
  /-- The type of all values. -/
  | any
  /-- The type of all numbers. -/
  | number
  /-- A type of single values. -/
  | primitive (p : Primitive)
  | list (element : AppType)
  | set (element : AppType)
  | map (key value : AppType)
  /-- A class stored as a user-defined type. -/
  | udt (name : String)
  /-- Any other type, known by its name. -/
  | foreign (name : String)
  deriving DecidableEq, Repr, Inhabited

namespace AppType

/-- Whether all values of the type are numbers. -/
def isNumeric : AppType → Bool
  | number => true
  | primitive p => p.isNumeric
  | _ => false

/-- Whether the type is one of collections. -/
def isCollection : AppType → Bool
  | list _ | set _ | map _ _ => true
  | _ => false

/-- Whether a value of the first type can stand where one of the second is expected. -/
def isSubtype : AppType → AppType → Bool
  | a, b =>
    a == b ||
    match a, b with
    | _, any => true
    | a, number => a.isNumeric
    | list a, list b => isSubtype a b
    | set a, set b => isSubtype a b
    | map k v, map k' v' => isSubtype k k' && isSubtype v v'
    | _, _ => false

/-- Whether one of two types is a subtype of the other. -/
def isRelated (a b : AppType) : Bool :=
  a.isSubtype b || b.isSubtype a

/-- The text of a type. -/
def toText : AppType → String
  | any => "Any"
  | number => "Number"
  | primitive p => p.name
  | list e => "List<" ++ e.toText ++ ">"
  | set e => "Set<" ++ e.toText ++ ">"
  | map k v => "Map<" ++ k.toText ++ ", " ++ v.toText ++ ">"
  | udt name => name
  | foreign name => name

end AppType

/-- The primitive type of the values in a scalar column. -/
def ScalarKind.primitive : ScalarKind → Primitive
  | ascii | text | varchar => .string
  | bigint | counter => .int64
  | blob => .bytes
  | boolean => .bool
  | decimal => .decimal
  | double => .float64
  | float => .float32
  | inet => .address
  | int => .int32
  | timestamp => .instant
  | uuid | timeuuid => .uuid
  | varint => .varint

/-- The type of the values in a scalar column. -/
def ScalarKind.appType (k : ScalarKind) : AppType :=
  .primitive k.primitive

/-- The type of the values in a column. -/
def ColumnType.appType : ColumnType → AppType
  | scalar k => k.appType
  | list e => .list e.appType
  | set e => .set e.appType
  | map k v => .map k.appType v.appType

end WideColumn

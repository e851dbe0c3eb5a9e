import WideColumn.Mapping.Property
import WideColumn.Text.Shape

/-!
# Looking at declarations

Declarations, members and properties as one line of text that shows all of their parts, for
diagnosis. Superclasses and interfaces are shown by name only, and of accessors only whether there
is one.

* `WideColumn.Inspect.record`, `WideColumn.Inspect.call`, `WideColumn.Inspect.listing`: the forms
  that such a text is made of;
* `WideColumn.ClassDecl.inspect`, `WideColumn.Member.inspect`, `WideColumn.Property.inspect`: the
  texts.
-/

namespace WideColumn

namespace Inspect

/-! ### Forms -/

/-- A character of a text in quotes: quotes, backslashes and characters without a shape are
escaped. -/
def escape (c : Char) : List Char :=
  if c = '"' then ['\\', '"']
  else if c = '\\' then ['\\', '\\']
  else if c = '\n' then ['\\', 'n']
  else if c = '\r' then ['\\', 'r']
  else if c = '\t' then ['\\', 't']
  else if c.toNat = 0 then ['\\', '0']
  else if Text.isShapeless c then
    "\\u\x7b".toList ++ Nat.toDigits 16 c.toNat ++ "\x7d".toList
  else [c]

/-- A text in quotes. -/
def quoted (s : String) : String :=
  String.ofList ('"' :: (s.toList.flatMap escape ++ ['"']))

/-- Parts with a comma between any two. -/
def commas (parts : List String) : String :=
  ", ".intercalate parts

/-- A name with parts in parentheses. -/
def call (name : String) (parts : List String) : String :=
  name ++ "(" ++ commas parts ++ ")"

/-- A name with named parts in braces. -/
def record (name : String) (parts : List (String × String)) : String :=
  name ++ " \x7b " ++ commas (parts.map fun p => p.1 ++ ": " ++ p.2) ++ " \x7d"

/-- Parts in brackets. -/
def listing (parts : List String) : String :=
  "[" ++ commas parts ++ "]"

/-- A part that may be missing. -/
def optional : Option String → String
  | none => "None"
  | some s => call "Some" [s]

/-- A truth value. -/
def truth (b : Bool) : String :=
  if b then "true" else "false"

end Inspect

open Inspect

/-! ### Types and codecs -/

/-- A kind in a text for diagnosis. -/
def ScalarKind.inspect : ScalarKind → String
  | ascii => "Ascii"
  | bigint => "BigInt"
  | blob => "Blob"
  | boolean => "Boolean"
  | counter => "Counter"
  | decimal => "Decimal"
  | double => "Double"
  | float => "Float"
  | int => "Int"
  | text => "Text"
  | timestamp => "Timestamp"
  | uuid => "Uuid"
  | varchar => "Varchar"
  | varint => "Varint"
  | timeuuid => "TimeUuid"
  | inet => "Inet"

/-- A column type in a text for diagnosis. -/
def ColumnType.inspect : ColumnType → String
  | scalar k => call "Scalar" [k.inspect]
  | list e => call "List" [e.inspect]
  | set e => call "Set" [e.inspect]
  | map k v => call "Map" [k.inspect, v.inspect]

/-- A primitive type in a text for diagnosis. -/
def Primitive.inspect : Primitive → String
  | string => "String"
  | bool => "Bool"
  | int32 => "I32"
  | int64 => "I64"
  | float32 => "F32"
  | float64 => "F64"
  | decimal => "Decimal"
  | varint => "Varint"
  | bytes => "Bytes"
  | address => "Inet"
  | instant => "Timestamp"
  | uuid => "Uuid"

/-- An application type in a text for diagnosis. -/
def AppType.inspect : AppType → String
  | any => "Any"
  | number => "Number"
  | primitive p => p.inspect
  | list e => call "List" [e.inspect]
  | set e => call "Set" [e.inspect]
  | map k v => call "Map" [k.inspect, v.inspect]
  | udt name => call "Udt" [quoted name]
  | foreign name => call "Opaque" [quoted name]

/-- A codec in a text for diagnosis. -/
def Codec.inspect : Codec → String
  | c@(scalar k) =>
    record "ScalarCodec"
      [("kind", k.inspect), ("wire", c.columnType.inspect), ("host", c.appType.inspect)]
  | c@(list e) =>
    record "ListCodec"
      [("element", e.inspect), ("wire", c.columnType.inspect), ("host", c.appType.inspect)]
  | c@(set e) =>
    record "SetCodec"
      [("element", e.inspect), ("wire", c.columnType.inspect), ("host", c.appType.inspect)]
  | c@(map k v) =>
    record "MapCodec"
      [("key", k.inspect), ("value", v.inspect), ("wire", c.columnType.inspect),
        ("host", c.appType.inspect)]
  | custom c =>
    record c.name [("wire", c.columnType.inspect), ("host", c.appType.inspect)]

/-! ### Markers -/

/-- The name of a table or user-defined type in a text for diagnosis. -/
def EntityName.inspect (n : EntityName) : String :=
  record "EntityName"
    [("keyspace", optional (n.keyspace.map quoted)), ("name", optional (n.name.map quoted)),
      ("case_sensitive_keyspace", truth n.caseSensitiveKeyspace),
      ("case_sensitive_name", truth n.caseSensitiveName)]

/-- A marker of a class in a text for diagnosis. -/
def MappingMarker.inspect : MappingMarker → String
  | table n => call "Table" [n.inspect]
  | udt n => call "Udt" [n.inspect]
  | accessor => "Accessor"

/-- The name of a column or field in a text for diagnosis. -/
def ColumnName.inspect (n : ColumnName) : String :=
  record "ColumnName"
    [("name", optional (n.name.map quoted)), ("case_sensitive", truth n.caseSensitive),
      ("codec", truth n.codec.isSome)]

/-- A marker of a member in a text for diagnosis. -/
def PropertyMarker.inspect : PropertyMarker → String
  | column n => call "Column" [n.inspect]
  | field n => call "Field" [n.inspect]
  | partitionKey n => call "PartitionKey" [Text.showInt n.toInt]
  | clusteringColumn n => call "ClusteringColumn" [Text.showInt n.toInt]
  | computed e => call "Computed" [quoted e]
  | transient => "Transient"
  | frozen => "Frozen"
  | frozenKey => "FrozenKey"
  | frozenValue => "FrozenValue"

/-! ### Declarations -/

/-- The form of a declaration in a text for diagnosis. -/
def ClassShape.inspect : ClassShape → String
  | concrete => "Class"
  | abstract => "AbstractClass"
  | interface => "Interface"

/-- The form of a member in a text for diagnosis. -/
def MemberOrigin.inspect : MemberOrigin → String
  | field => "Field"
  | getter => "Getter"
  | setter => "Setter"

/-- A member in a text for diagnosis. -/
def Member.inspect (m : Member) : String :=
  record "MemberDecl"
    [("property", quoted m.property), ("origin", m.origin.inspect),
      ("host_type", m.appType.inspect), ("markers", listing (m.markers.map (·.inspect))),
      ("reader", truth m.reader.isSome), ("writer", truth m.writer.isSome)]

/-- A parameter in a text for diagnosis. -/
def Param.inspect (p : Param) : String :=
  record "ParamDecl" [("name", optional (p.name.map quoted)), ("host_type", p.appType.inspect)]

/-- A method of an accessor in a text for diagnosis. -/
def Query.inspect (q : Query) : String :=
  record "QueryDecl"
    [("method", quoted q.method), ("query", optional (q.text.map quoted)),
      ("params", listing (q.params.map (·.inspect)))]

/-- An identity in a text for diagnosis, without what tells it from others of its sort. -/
def ClassId.inspect : ClassId → String
  | entityType _ => "Type(_)"
  | declaration _ => "Decl(_)"

/-- A declaration in a text for diagnosis. -/
def ClassDecl.inspect (d : ClassDecl) : String :=
  record "ClassDecl"
    [("id", d.id.inspect), ("name", quoted d.name), ("shape", d.shape.inspect),
      ("markers", listing (d.markers.map (·.inspect))),
      ("superclass", optional (d.superclass.map fun s => quoted s.name)),
      ("interfaces", listing (d.interfaces.map fun i => quoted i.name)),
      ("members", listing (d.members.map (·.inspect))),
      ("queries", listing (d.queries.map (·.inspect)))]

/-! ### Properties -/

/-- The part of a property in a text for diagnosis. -/
def PropertyRole.inspect : PropertyRole → String
  | regular => "Regular"
  | computed e => call "Computed" [quoted e]
  | transient => "Transient"
  | partitionKey n => call "PartitionKey" [Text.showInt n.toInt]
  | clusteringColumn n => call "ClusteringColumn" [Text.showInt n.toInt]

/-- What of a property is frozen in a text for diagnosis. -/
def Frozenness.inspect (f : Frozenness) : String :=
  record "Frozenness" [("whole", truth f.whole), ("key", truth f.key), ("value", truth f.value)]

/-- A property in a text for diagnosis. -/
def Property.inspect (p : Property) : String :=
  record "PropertyDescriptor"
    [("name", quoted p.name), ("column_name", quoted p.columnName),
      ("position", Text.showInt p.position.toInt), ("host_type", p.appType.inspect),
      ("role", p.role.inspect), ("custom_codec", optional (p.customCodec.map (·.inspect))),
      ("frozen", p.frozen.inspect)]

end WideColumn

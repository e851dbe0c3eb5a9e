import WideColumn.Text.Ascii

/-!
# Column types

What a column of a table may hold: a scalar of one of sixteen kinds, or a list, a set or a map of
further types, to any depth.

* `WideColumn.ScalarKind`: the kinds, with their number in the protocol, name and width;
* `WideColumn.CollectionKind`: the three collections;
* `WideColumn.ColumnType`: the types;
* `WideColumn.ColumnType.isEquivalent`: equality up to the two names of the text kind.
-/

namespace WideColumn

/-- The kinds of scalar columns, in the order of their protocol numbers. -/
inductive ScalarKind where
  | ascii
  | bigint
  | blob
  | boolean
  | counter
  | decimal
  | double
  | float
  | int
  | text
  | timestamp
  | uuid
  | varchar
  | varint
  | timeuuid
  | inet
  deriving DecidableEq, Repr, Inhabited

namespace ScalarKind

/-- Every kind, in the order of the protocol numbers. -/
def all : List ScalarKind :=
  [ascii, bigint, blob, boolean, counter, decimal, double, float, int, text, timestamp, uuid,
    varchar, varint, timeuuid, inet]

theorem mem_all (k : ScalarKind) : k ∈ all := by
  cases k <;> decide

/-- The number of a kind in the protocol. -/
def protocolId : ScalarKind → Nat
  | ascii => 1
  | bigint => 2
  | blob => 3
  | boolean => 4
  | counter => 5
  | decimal => 6
  | double => 7
  | float => 8
  | int => 9
  | text => 10
  | timestamp => 11
  | uuid => 12
  | varchar => 13
  | varint => 14
  | timeuuid => 15
  | inet => 16

/-- The name of a kind. -/
def name : ScalarKind → String
  | ascii => "ascii"
  | bigint => "bigint"
  | blob => "blob"
  | boolean => "boolean"
  | counter => "counter"
  | decimal => "decimal"
  | double => "double"
  | float => "float"
  | int => "int"
  | text => "text"
  | timestamp => "timestamp"
  | uuid => "uuid"
  | varchar => "varchar"
  | varint => "varint"
  | timeuuid => "timeuuid"
  | inet => "inet"

/-- The kind of a protocol number. -/
def ofProtocolId? (id : Nat) : Option ScalarKind :=
  all.find? fun k => k.protocolId == id

/-- The kind of a name, whatever the case of its letters. -/
def ofName? (word : List Char) : Option ScalarKind :=
  all.find? fun k => Text.sameIgnoringCase k.name.toList word

/-- How many bytes a value of the kind takes, if all take the same number. -/
def fixedWidth : ScalarKind → Option Nat
  | boolean => some 1
  | int | float => some 4
  | bigint | counter | double | timestamp => some 8
  | uuid | timeuuid => some 16
  | ascii | blob | decimal | inet | text | varchar | varint => none

/-- The main name of a kind that has two. -/
def canonical : ScalarKind → ScalarKind
  | varchar => text
  | k => k

@[simp] theorem canonical_canonical (k : ScalarKind) : k.canonical.canonical = k.canonical := by
  cases k <;> rfl

theorem ofProtocolId?_protocolId (k : ScalarKind) : ofProtocolId? k.protocolId = some k := by
  cases k <;> rfl

end ScalarKind

/-- The three ways to hold several values in one column. -/
inductive CollectionKind where
  | list
  | set
  | map
  deriving DecidableEq, Repr, Inhabited

/-- The name of a collection. -/
def CollectionKind.name : CollectionKind → String
  | list => "list"
  | set => "set"
  | map => "map"

/-- The type of a column. -/
inductive ColumnType where
  | scalar (kind : ScalarKind)
  | list (element : ColumnType)
  | set (element : ColumnType)
  | map (key value : ColumnType)
  deriving DecidableEq, Repr, Inhabited

namespace ColumnType

/-- The kind of a scalar type. -/
def scalarKind? : ColumnType → Option ScalarKind
  | scalar k => some k
  | _ => none

/-- The kind of a collection type. -/
def collectionKind? : ColumnType → Option CollectionKind
  | scalar _ => none
  | list _ => some .list
  | set _ => some .set
  | map _ _ => some .map

/-- Whether a column of the type holds several values. -/
def isCollection (t : ColumnType) : Bool :=
  t.collectionKind?.isSome

/-- The same type with the main name of every kind. -/
def normalized : ColumnType → ColumnType
  | scalar k => scalar k.canonical
  | list e => list e.normalized
  | set e => set e.normalized
  | map k v => map k.normalized v.normalized

/-- Equality up to the names of kinds that have two. -/
def isEquivalent (a b : ColumnType) : Bool :=
  a.normalized == b.normalized

/-- How many collections are nested in a type. -/
def depth : ColumnType → Nat
  | scalar _ => 0
  | list e => e.depth + 1
  | set e => e.depth + 1
  | map k v => max k.depth v.depth + 1

@[simp] theorem normalized_normalized (t : ColumnType) : t.normalized.normalized = t.normalized := by
  induction t with
  | scalar k => simp [normalized]
  | list e ih => simp [normalized, ih]
  | set e ih => simp [normalized, ih]
  | map k v ihk ihv => simp [normalized, ihk, ihv]

theorem isEquivalent_iff {a b : ColumnType} :
    a.isEquivalent b = true ↔ a.normalized = b.normalized := by
  simp [isEquivalent]

/-! ### Text -/

/-- The notation of a type: collections enclose the types of their parts in angle brackets. -/
def toChars : ColumnType → List Char
  | scalar k => k.name.toList
  | list e => "list<".toList ++ (e.toChars ++ ['>'])
  | set e => "set<".toList ++ (e.toChars ++ ['>'])
  | map k v => "map<".toList ++ (k.toChars ++ (", ".toList ++ (v.toChars ++ ['>'])))

/-- The text of a type. -/
def toText (t : ColumnType) : String :=
  String.ofList t.toChars

end ColumnType

end WideColumn

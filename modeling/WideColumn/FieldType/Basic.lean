import WideColumn.AppType
import WideColumn.FieldType.Insertion
import WideColumn.Value.Basic

/-!
# Field types

The types that the fields of an entity may have. They are richer than application types: a field
may be optional, and it may hold a set or a map in sorted form or in any order. What a field holds
is typed in turn.

* `WideColumn.FieldType`, `WideColumn.FieldType.Carrier`: the types and what belongs to them;
* `WideColumn.FieldType.appType`: the application type of a field;
* `WideColumn.FieldType.zero`: what a new field holds;
* `WideColumn.FieldType.compare`: the order of sorted sets and maps.
-/

namespace WideColumn

/-- The type of a field. -/
inductive FieldType where
  /-- A single value. -/
  | single (p : Primitive)
  /-- A value that may be missing. -/
  | option (inner : FieldType)
  | list (element : FieldType)
  /-- A set in increasing order. -/
  | sortedSet (element : FieldType)
  /-- A set in no particular order. -/
  | hashSet (element : FieldType)
  /-- A map in the order of its keys. -/
  | sortedMap (key value : FieldType)
  /-- A map in no particular order. -/
  | hashMap (key value : FieldType)
  deriving DecidableEq, Repr, Inhabited

/-- What belongs to a primitive type. -/
abbrev Primitive.Carrier : Primitive → Type
  | string => String
  | bool => Bool
  | int32 => Int32
  | int64 => Int64
  | float32 => Single
  | float64 => Double
  | decimal => Decimal
  | varint => Int
  | bytes => Bytes
  | address => Address
  | instant => Instant
  | uuid => Uuid

/-- What a field of the type holds. Sets hold each element once and maps each key. -/
abbrev FieldType.Carrier : FieldType → Type
  | single p => p.Carrier
  | option t => Option t.Carrier
  | list t => List t.Carrier
  | sortedSet t => List t.Carrier
  | hashSet t => List t.Carrier
  | sortedMap k v => List (k.Carrier × v.Carrier)
  | hashMap k v => List (k.Carrier × v.Carrier)

/-- What a new field of a primitive type holds. -/
def Primitive.zero : (p : Primitive) → p.Carrier
  | string => ""
  | bool => false
  | int32 => 0
  | int64 => 0
  | float32 => ⟨0⟩
  | float64 => ⟨0⟩
  | decimal => Decimal.zero
  | varint => (0 : Int)
  | bytes => ([] : Bytes)
  | address => Address.unspecified
  | instant => Instant.epoch
  | uuid => Uuid.nil

namespace FieldType

/-- The application type of a field. A field that may be empty has the type of its content. -/
def appType : FieldType → AppType
  | single p => .primitive p
  | option t => t.appType
  | list t => .list t.appType
  | sortedSet t => .set t.appType
  | hashSet t => .set t.appType
  | sortedMap k v => .map k.appType v.appType
  | hashMap k v => .map k.appType v.appType

/-- What a new field holds. -/
def zero : (t : FieldType) → t.Carrier
  | single p => p.zero
  | option _ => none
  | list _ => []
  | sortedSet _ => []
  | hashSet _ => []
  | sortedMap _ _ => []
  | hashMap _ _ => []

end FieldType

/-! ### Order -/

/-- Addresses of four bytes come first. -/
def Address.compare : Address → Address → Ordering
  | .v4 a, .v4 b => Ord.compare a.toNat b.toNat
  | .v4 _, .v6 _ => .lt
  | .v6 _, .v4 _ => .gt
  | .v6 a, .v6 b => Ord.compare a.toNat b.toNat

/-- Comparison within a primitive type. Texts compare by their code points, which is the order of
their bytes; numbers as numbers; floating-point words and decimals in an order that has no meaning
beyond telling them apart. -/
def Primitive.compare : (p : Primitive) → p.Carrier → p.Carrier → Ordering
  | string, a, b =>
    List.compareLex (fun c d : Char => Ord.compare c.toNat d.toNat) a.toList b.toList
  | bool, a, b => Ord.compare a.toNat b.toNat
  | int32, a, b => Ord.compare a.toInt b.toInt
  | int64, a, b => Ord.compare a.toInt b.toInt
  | float32, a, b => Ord.compare a.bits.toNat b.bits.toNat
  | float64, a, b => Ord.compare a.bits.toNat b.bits.toNat
  | decimal, a, b =>
    (Ord.compare a.unscaled b.unscaled).then (Ord.compare a.scale.toInt b.scale.toInt)
  | varint, a, b => Ord.compare (α := Int) a b
  | bytes, a, b => List.compareLex (fun c d : UInt8 => Ord.compare c.toNat d.toNat) a b
  | address, a, b => Address.compare a b
  | instant, a, b => (Ord.compare a.seconds b.seconds).then (Ord.compare a.nanos b.nanos)
  | uuid, a, b => Ord.compare a.word.toNat b.word.toNat

namespace FieldType

/-- Comparison of entries, by key first. -/
def compareEntries {α β : Type} (cmpKey : α → α → Ordering) (cmpValue : β → β → Ordering)
    (a b : α × β) : Ordering :=
  (cmpKey a.1 b.1).then (cmpValue a.2 b.2)

/-- Comparison within a type. A missing value comes first, and collections compare part by part. -/
def compare : (t : FieldType) → t.Carrier → t.Carrier → Ordering
  | single p, a, b => p.compare a b
  | option _, none, none => .eq
  | option _, none, some _ => .lt
  | option _, some _, none => .gt
  | option t, some a, some b => compare t a b
  | list t, a, b => List.compareLex (compare t) a b
  | sortedSet t, a, b => List.compareLex (compare t) a b
  | hashSet t, a, b => List.compareLex (compare t) a b
  | sortedMap k v, a, b => List.compareLex (compareEntries (compare k) (compare v)) a b
  | hashMap k v, a, b => List.compareLex (compareEntries (compare k) (compare v)) a b

end FieldType

end WideColumn

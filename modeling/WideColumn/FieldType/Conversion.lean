import WideColumn.FieldType.Basic

/-!
# Conversion of values

From the values that codecs make to what fields hold, and back. A null becomes what a new field
holds, so that only optional fields keep it apart from zero, the empty text and the like. Lists and
sets are taken for one another. What sets and maps hold twice is dropped.

* `WideColumn.ConversionError`: a value that is none of the type;
* `WideColumn.FieldType.toValue`: the value of what a field holds;
* `WideColumn.FieldType.ofValue`: what a field holds for a value.
-/

namespace WideColumn

/-- A value has not the form that a field needs. -/
structure ConversionError where
  /-- The application type of the field, or of the part that does not fit. -/
  expected : AppType
  /-- What was found instead. -/
  found : ValueKind
  deriving DecidableEq, Repr

/-- The wording of an error. -/
def ConversionError.message (e : ConversionError) : String :=
  "expected a value of type " ++ e.expected.toText ++ ", found " ++ e.found.name

namespace Primitive

/-- The value of what a primitive field holds. -/
def toValue : (p : Primitive) → p.Carrier → Value
  | string, x => .text x
  | bool, x => .boolean x
  | int32, x => .int x
  | int64, x => .bigint x
  | float32, x => .float x
  | float64, x => .double x
  | decimal, x => .decimal x
  | varint, x => .varint x
  | bytes, x => .blob x
  | address, x => .inet x
  | instant, x => .timestamp x
  | uuid, x => .uuid x

/-- What a primitive field holds for a value. -/
def ofValue : (p : Primitive) → Value → Except ConversionError p.Carrier
  | string, .text x => .ok x
  | bool, .boolean x => .ok x
  | int32, .int x => .ok x
  | int64, .bigint x => .ok x
  | float32, .float x => .ok x
  | float64, .double x => .ok x
  | decimal, .decimal x => .ok x
  | varint, .varint x => .ok x
  | bytes, .blob x => .ok x
  | address, .inet x => .ok x
  | instant, .timestamp x => .ok x
  | uuid, .uuid x => .ok x
  | p, .null => .ok p.zero
  | p, v => .error ⟨.primitive p, v.kind⟩

/-- A field keeps the value of what it holds. -/
theorem ofValue_toValue (p : Primitive) (x : p.Carrier) : p.ofValue (p.toValue x) = .ok x := by
  cases p <;> rfl

end Primitive

namespace FieldType

/-- The value of what a field holds. -/
def toValue : (t : FieldType) → t.Carrier → Value
  | single p, x => p.toValue x
  | option _, none => .null
  | option t, some x => toValue t x
  | list t, xs => .list (xs.map (toValue t))
  | sortedSet t, xs => .set (xs.map (toValue t))
  | hashSet t, xs => .set (xs.map (toValue t))
  | sortedMap k v, es => .map (es.map fun e => (toValue k e.1, toValue v e.2))
  | hashMap k v, es => .map (es.map fun e => (toValue k e.1, toValue v e.2))

/-- The elements of a value that is taken for a collection of the given type. -/
def elements (expected : AppType) : Value → Except ConversionError (List Value)
  | .list vs => .ok vs
  | .set vs => .ok vs
  | .null => .ok []
  | v => .error ⟨expected, v.kind⟩

/-- The entries of a value that is taken for a map of the given type. -/
def entries (expected : AppType) : Value → Except ConversionError (List (Value × Value))
  | .map es => .ok es
  | .null => .ok []
  | v => .error ⟨expected, v.kind⟩

/-- Entries with both parts converted, the key first. -/
def convertEntries {ε α β : Type} (key : Value → Except ε α) (value : Value → Except ε β)
    (es : List (Value × Value)) : Except ε (List (α × β)) :=
  es.mapM fun e => do
    let k ← key e.1
    let v ← value e.2
    return (k, v)

/-- What a field holds for a value. -/
def ofValue : (t : FieldType) → Value → Except ConversionError t.Carrier
  | single p, v => p.ofValue v
  | option t, v => if v.isNull then .ok none else do return some (← ofValue t v)
  | list t, v => do
    let vs ← elements (appType (list t)) v
    vs.mapM (ofValue t)
  | sortedSet t, v => do
    let vs ← elements (appType (sortedSet t)) v
    let xs ← vs.mapM (ofValue t)
    return Insertion.sorted (compare t) xs
  | hashSet t, v => do
    let vs ← elements (appType (hashSet t)) v
    let xs ← vs.mapM (ofValue t)
    return Insertion.distinct (compare t) xs
  | sortedMap k w, v => do
    let es ← entries (appType (sortedMap k w)) v
    let es ← convertEntries (ofValue k) (ofValue w) es
    return Insertion.sorted (fun a b => compare k a.1 b.1) es
  | hashMap k w, v => do
    let es ← entries (appType (hashMap k w)) v
    let es ← convertEntries (ofValue k) (ofValue w) es
    return Insertion.distinct (fun a b => compare k a.1 b.1) es

end FieldType

end WideColumn

import WideColumn.Codec.Basic
import WideColumn.ServerType.Reader
import WideColumn.Trace.Traced
import WideColumn.TypeError

/-!
# The codec registry

A registry holds at most one codec for each scalar kind, its own or any other. From these it makes
the codecs of all column types, and it knows which server types it has a column type for.

* `WideColumn.Registry`, `WideColumn.Registry.standard`, `WideColumn.Registry.empty`: registries;
* `WideColumn.Registry.Step`, `WideColumn.Registry.ofSteps`: how a registry is set up;
* `WideColumn.Registry.resolve`: the codec of a column type;
* `WideColumn.Registry.columnType`: the column type of a server type;
* `WideColumn.Registry.columnTypeFor`: the column type that holds the values of an application type;
* `WideColumn.Registry.acceptsFrom`, `WideColumn.Registry.yieldsTo`: which application types go with
  a kind.
-/

namespace WideColumn

/-- The codecs of the scalar kinds. -/
structure Registry where
  /-- The codec of a kind, if it has one. -/
  codec? : ScalarKind → Option Codec

namespace Registry

/-! ### Setting up -/

/-- No kind has a codec. -/
def empty : Registry := ⟨fun _ => none⟩

/-- Every kind has its own codec. -/
def standard : Registry := ⟨fun k => some (.scalar k)⟩

/-- A change to a registry that is being set up. -/
inductive Step where
  /-- The kind gets the codec, in place of any other. -/
  | bind (kind : ScalarKind) (codec : Codec)
  /-- The kind loses its codec. -/
  | without (kind : ScalarKind)

/-- The kind that a change concerns. -/
def Step.kind : Step → ScalarKind
  | bind k _ => k
  | without k => k

/-- The codec that a change leaves its kind with. -/
def Step.outcome : Step → Option Codec
  | bind _ c => some c
  | without _ => none

/-- The registry after a change. -/
def apply (r : Registry) (s : Step) : Registry :=
  ⟨fun k => if k = s.kind then s.outcome else r.codec? k⟩

/-- Whether a kind has a codec. -/
def isRegistered (r : Registry) (k : ScalarKind) : Bool :=
  (r.codec? k).isSome

/-- How many kinds have a codec. -/
def size (r : Registry) : Nat :=
  ScalarKind.all.countP r.isRegistered

/-- The registry that is set up by changes to another one. -/
def ofSteps {ε : Type} (base : Registry) (steps : List Step) : Traced ε Registry := do
  let r := steps.foldl apply base
  Traced.note (.registryBuilt r.size)
  return r

/-! ### Codecs of column types -/

/-- The codec that has been found for a column type. -/
def found {ε : Type} (t : ColumnType) (c : Codec) : Traced ε Codec := do
  Traced.note (.resolved t c.appType)
  return c

/-- The codec of a column type. -/
def resolve (r : Registry) : ColumnType → Traced TypeError Codec
  | .scalar k =>
    match r.codec? k with
    | some c => found (.scalar k) c
    | none => Traced.fail (.unregistered k)
  | .list e => do
    let ce ← r.resolve e
    found (.list e) (.list ce)
  | .set e => do
    let ce ← r.resolve e
    found (.set e) (.set ce)
  | .map k v => do
    let ck ← r.resolve k
    let cv ← r.resolve v
    found (.map k v) (.map ck cv)

@[simp] theorem result_found {ε : Type} (t : ColumnType) (c : Codec) :
    (found t c : Traced ε Codec).result = .ok c := rfl

/-- In the standard registry every column type has the codec made of the kinds' own. -/
theorem result_resolve_standard (t : ColumnType) :
    (standard.resolve t).result = .ok t.codec := by
  induction t with
  | scalar k => rfl
  | list e ih => simp [resolve, ih, Except.bind, ColumnType.codec]
  | set e ih => simp [resolve, ih, Except.bind, ColumnType.codec]
  | map k v ihk ihv => simp [resolve, ihk, ihv, Except.bind, ColumnType.codec]

/-! ### Column types of server types -/

/-- The class under which some servers still report timestamps. -/
def legacyTimestampClass : String := "DateType"

/-- The registered kind that a class stands for; the main name wins where two kinds share one. -/
def kindOfClass? (r : Registry) (className : String) : Option ScalarKind :=
  if className = legacyTimestampClass then
    if r.isRegistered .timestamp then some .timestamp else none
  else ScalarKind.all.find? fun k => r.isRegistered k && k.serverClass == className

/-- The error of a collection class with the wrong number of parameters. -/
def arityError (t : ServerType) (expected : Nat) : TypeError :=
  .malformed t.toText (.arity t.className expected t.params.length)

/-- The column type of a server type without wrappers. -/
def columnTypeUnwrapped (r : Registry) : ServerType → Except TypeError ColumnType
  | .node c ps =>
    if c = CollectionKind.list.serverClass then
      match ps with
      | [e] => do return .list (← r.columnTypeUnwrapped e)
      | ps => .error (arityError (.node c ps) 1)
    else if c = CollectionKind.set.serverClass then
      match ps with
      | [e] => do return .set (← r.columnTypeUnwrapped e)
      | ps => .error (arityError (.node c ps) 1)
    else if c = CollectionKind.map.serverClass then
      match ps with
      | [k, v] => do
        let k ← r.columnTypeUnwrapped k
        let v ← r.columnTypeUnwrapped v
        return .map k v
      | ps => .error (arityError (.node c ps) 2)
    else
      match r.kindOfClass? c with
      | some k => .ok (.scalar k)
      | none => .error (.unknownServerType (ServerType.node c ps).qualifiedName)

/-- The column type of a server type. -/
def columnType (r : Registry) (t : ServerType) : Except TypeError ColumnType :=
  r.columnTypeUnwrapped t.unwrapped

/-- The column type of a server type given as text. -/
def columnTypeOfText (r : Registry) (text : String) : Except TypeError ColumnType := do
  r.columnType (← ServerType.ofText text)

/-! ### Application types -/

/-- The type of the values that the codec of a kind takes and makes, or would if there were one. -/
def appType (r : Registry) (k : ScalarKind) : AppType :=
  match r.codec? k with
  | some c => c.appType
  | none => k.appType

/-- Whether values of an application type can be handed to the codec of a kind. -/
def acceptsFrom (r : Registry) (k : ScalarKind) (a : AppType) : Bool :=
  a.isSubtype (r.appType k)

/-- Whether the values that the codec of a kind makes fit an application type. -/
def yieldsTo (r : Registry) (k : ScalarKind) (a : AppType) : Bool :=
  (r.appType k).isSubtype a

/-- The kind of column that holds the values of a primitive type where nothing else is known. -/
def kindFor : Primitive → ScalarKind
  | .string => .text
  | .bool => .boolean
  | .int32 => .int
  | .int64 => .bigint
  | .float32 => .float
  | .float64 => .double
  | .decimal => .decimal
  | .varint => .varint
  | .bytes => .blob
  | .address => .inet
  | .instant => .timestamp
  | .uuid => .uuid

/-- The type of column that holds the values of an application type where nothing else is known. -/
def columnTypeFor : AppType → Except TypeError ColumnType
  | .primitive p => .ok (.scalar (kindFor p))
  | .list e => do return .list (← columnTypeFor e)
  | .set e => do return .set (← columnTypeFor e)
  | .map k v => do
    let k ← columnTypeFor k
    let v ← columnTypeFor v
    return .map k v
  | .any => .error (.unrepresentable .any)
  | .number => .error (.unrepresentable .number)
  | .udt name => .error (.unrepresentable (.udt name))
  | .foreign name => .error (.unrepresentable (.foreign name))

/-- The codec for the values of an application type. -/
def codecFor (r : Registry) (a : AppType) : Traced TypeError Codec := do
  let t ← Traced.ofExcept (columnTypeFor a)
  r.resolve t

end Registry

end WideColumn

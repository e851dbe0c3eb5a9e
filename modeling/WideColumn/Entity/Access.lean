import WideColumn.Entity.Basic

/-!
# Access to slots

A property of an entity is read and written through a slot. The slot may belong to a base that is
embedded in the entity: then the way to it leads through the embeddings in between. An embedding
that does not apply, because the entity is not one of the type that embeds, is passed over, so that
the base itself can be read and written in the same way.

* `WideColumn.AccessError`: why a property cannot be read or written;
* `WideColumn.SlotRef`: a slot of an entity type;
* `WideColumn.Route`: a slot behind embeddings, with `WideColumn.Route.read` and
  `WideColumn.Route.write`.
-/

namespace WideColumn

/-- Why a property cannot be read or written. -/
inductive AccessError where
  /-- The entity is not one of the type that has the slot. -/
  | wrongInstance (expected : String)
  /-- The slot cannot hold the value. -/
  | conversion (cause : ConversionError)
  /-- There is no slot to read from, or to write to. -/
  | unsupported
  deriving DecidableEq, Repr

/-- The wording of an error. -/
def AccessError.message : AccessError → String
  | .wrongInstance expected => "entity is not a " ++ expected
  | .conversion cause => cause.message
  | .unsupported => "property has no accessor for this direction"

/-- A slot of the entities of a type. -/
structure SlotRef where
  /-- The name of the entity type. -/
  owner : String
  /-- The name of the slot. -/
  slot : String
  deriving DecidableEq, Repr, Inhabited

namespace Layer

/-- The slot of a name. -/
def slot? (l : Layer) (name : String) : Option Slot :=
  l.slots.find? (·.name == name)

/-- The layer with something else in the slot of a name. -/
def put (l : Layer) (s : Slot) : Layer :=
  ⟨l.typeName, l.slots.map fun s' => if s'.name == s.name then s else s'⟩

end Layer

namespace SlotRef

/-- The slot of an entity, which has to be one of the type that has it. -/
def find (r : SlotRef) (e : Entity) : Except AccessError Slot :=
  if e.typeName = r.owner then
    match e.outer.slot? r.slot with
    | some s => .ok s
    | none => .error (.wrongInstance r.owner)
  else .error (.wrongInstance r.owner)

/-- The value in a slot of an entity. -/
def read (r : SlotRef) (e : Entity) : Except AccessError Value := do
  let s ← r.find e
  return s.value

/-- The entity with a value in one of its slots. -/
def write (r : SlotRef) (v : Value) (e : Entity) : Except AccessError Entity := do
  let s ← r.find e
  let x ← (s.type.ofValue v).mapError .conversion
  return ⟨e.outer.put ⟨s.name, s.type, x⟩, e.bases⟩

end SlotRef

/-- A slot and the way to it. -/
structure Route where
  /-- The types whose base leads on, the outermost first. -/
  embeddings : List String
  /-- The slot at the end. -/
  target : SlotRef
  deriving DecidableEq, Repr, Inhabited

namespace Route

/-- The base of an entity, if the entity is one of the given type. -/
def project? (embedding : String) (e : Entity) : Option Entity :=
  if e.typeName = embedding then e.base? else none

/-- The entity at the end of a way through embeddings. -/
def reach : (embeddings : List String) → Entity → Entity
  | [], e => e
  | t :: ts, e =>
    match project? t e with
    | some b => reach ts b
    | none => reach ts e

/-- The entity with a change made at the end of a way through embeddings. -/
def change {ε : Type} (f : Entity → Except ε Entity) :
    (embeddings : List String) → Entity → Except ε Entity
  | [], e => f e
  | t :: ts, e =>
    match project? t e with
    | some b => do return e.withBase (← change f ts b)
    | none => change f ts e

/-- The value in the slot at the end of a route. -/
def read (r : Route) (e : Entity) : Except AccessError Value :=
  r.target.read (reach r.embeddings e)

/-- The entity with a value in the slot at the end of a route. -/
def write (r : Route) (e : Entity) (v : Value) : Except AccessError Entity :=
  change (r.target.write v) r.embeddings e

end Route

end WideColumn

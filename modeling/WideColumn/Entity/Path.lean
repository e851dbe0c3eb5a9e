import WideColumn.Entity.Access

/-!
# Paths of slots

Slots of one name may occur in several layers of an entity. A path tells them apart: it has the
word `base` once for each step from the entity to the layer.

* `WideColumn.SlotPath`: a slot of a layer, with `WideColumn.SlotPath.toText` and
  `WideColumn.SlotPath.ofText`;
* `WideColumn.Entity.slots`: all slots by their paths;
* `WideColumn.Entity.changes`: those that do not hold what a new entity holds;
* `WideColumn.Entity.assign`: a value put into a slot.
-/

namespace WideColumn

/-- A slot of a layer. -/
structure SlotPath where
  /-- How far the layer is from the outermost one. -/
  depth : Nat
  /-- The name of the slot. -/
  name : String
  deriving DecidableEq, Repr, Inhabited

namespace SlotPath

/-- The text of a path. -/
def toText (p : SlotPath) : String :=
  ".".intercalate (List.replicate p.depth "base" ++ [p.name])

/-- The path of a text: what follows the last point is the name. -/
def ofText (s : String) : SlotPath :=
  let parts := s.splitOn "."
  ⟨parts.length - 1, parts.getLast?.getD ""⟩

end SlotPath

/-- Whether a slot holds something else than it does in a new entity. -/
def Slot.isChanged (s : Slot) : Bool :=
  s.type.compare s.held s.type.zero != .eq

namespace Entity

/-- The layers of an entity, the outermost first. -/
def layers (e : Entity) : List Layer :=
  e.outer :: e.bases

/-- All slots of an entity. -/
def slots (e : Entity) : List (SlotPath × Slot) :=
  e.layers.zipIdx.flatMap fun l => l.1.slots.map fun s => (⟨l.2, s.name⟩, s)

/-- The slots that hold something else than in a new entity. -/
def changes (e : Entity) : List (SlotPath × Slot) :=
  e.slots.filter (·.2.isChanged)

/-- A sequence of layers with a value in the slot of a path. There is no change if there is no such
slot. -/
def assignIn (p : SlotPath) (v : Value) : Nat → List Layer → Except ConversionError (List Layer)
  | _, [] => .ok []
  | 0, l :: ls =>
    match l.slot? p.name with
    | some s => do return l.put ⟨s.name, s.type, ← s.type.ofValue v⟩ :: ls
    | none => .ok (l :: ls)
  | depth + 1, l :: ls => do return l :: (← assignIn p v depth ls)

/-- The entity with a value in the slot of a path. -/
def assign (e : Entity) (p : SlotPath) (v : Value) : Except ConversionError Entity := do
  match ← assignIn p v p.depth e.layers with
  | [] => return e
  | o :: bs => return ⟨o, bs⟩

end Entity

end WideColumn

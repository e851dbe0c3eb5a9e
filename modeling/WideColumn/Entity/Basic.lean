import WideColumn.FieldType.Conversion

/-!
# Entities

The objects of a program that are stored in tables. An entity has slots, each of a field type, and
it may embed an entity of a base type as a whole, which may embed another one in turn. So an entity
is a sequence of layers: its own slots first, then those of its base, and so on.

* `WideColumn.EntityType`: the slots of an entity and of its bases;
* `WideColumn.Slot`, `WideColumn.Layer`, `WideColumn.Entity`: what they hold;
* `WideColumn.EntityType.new`: an entity in which every slot holds the zero of its type;
* `WideColumn.Entity.base?`: the embedded base.
-/

namespace WideColumn

/-- The slots that an entity has besides those of its bases. -/
structure LayerType where
  /-- The name of the entity type. -/
  name : String
  /-- The slots by name. -/
  fields : List (String × FieldType)
  deriving DecidableEq, Repr, Inhabited

/-- A type of entities. -/
structure EntityType where
  /-- The slots of its own. -/
  outer : LayerType
  /-- The slots of the bases, the nearest base first. -/
  bases : List LayerType
  deriving DecidableEq, Repr, Inhabited

/-- The name of an entity type. -/
def EntityType.name (t : EntityType) : String :=
  t.outer.name

/-- A slot with what it holds. -/
structure Slot where
  name : String
  type : FieldType
  held : type.Carrier

/-- The slots of an entity, or of one of its bases. -/
structure Layer where
  /-- The name of the entity type. -/
  typeName : String
  slots : List Slot

/-- An entity. -/
structure Entity where
  /-- The slots of its own. -/
  outer : Layer
  /-- The slots of the bases, the nearest base first. -/
  bases : List Layer

/-- The value of what a slot holds. -/
def Slot.value (s : Slot) : Value :=
  s.type.toValue s.held

/-- The slots of a new entity. -/
def LayerType.new (t : LayerType) : Layer :=
  ⟨t.name, t.fields.map fun f => ⟨f.1, f.2, f.2.zero⟩⟩

/-- A new entity. -/
def EntityType.new (t : EntityType) : Entity :=
  ⟨t.outer.new, t.bases.map LayerType.new⟩

namespace Entity

/-- The name of the type of an entity. -/
def typeName (e : Entity) : String :=
  e.outer.typeName

/-- The entity that is embedded in an entity. -/
def base? (e : Entity) : Option Entity :=
  match e.bases with
  | [] => none
  | b :: bs => some ⟨b, bs⟩

/-- The entity with another one embedded in it. -/
def withBase (e b : Entity) : Entity :=
  ⟨e.outer, b.outer :: b.bases⟩

@[simp] theorem base?_withBase (e b : Entity) : (e.withBase b).base? = some b := rfl

@[simp] theorem outer_withBase (e b : Entity) : (e.withBase b).outer = e.outer := rfl

theorem withBase_of_base? {e b : Entity} (h : e.base? = some b) : e.withBase b = e := by
  obtain ⟨o, bs⟩ := e
  cases bs with
  | nil => exact absurd h nofun
  | cons b' bs => cases h; rfl

end Entity

end WideColumn

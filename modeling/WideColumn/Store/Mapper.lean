import WideColumn.Error
import WideColumn.Mapping.Descriptor
import WideColumn.Registry

/-!
# Storing entities

A mapper stores the entities of one type in the table that their class is mapped to. Each property
is encoded by the codec that a marker asks for, or by the one that the registry has for its type. A
statement is made up completely before it is run, and each operation runs one at most.

* `WideColumn.Mapper`: the table and what is needed to use it;
* `WideColumn.Mapper.insertion`, `WideColumn.Mapper.selection`, `WideColumn.Mapper.deletion`: the
  statements;
* `WideColumn.Mapper.save`, `WideColumn.Mapper.get`, `WideColumn.Mapper.delete`: the operations.
-/

namespace WideColumn

/-- What stores the entities of a type. -/
structure Mapper where
  /-- The mapping of the class to a table. -/
  descriptor : Descriptor
  registry : Registry
  /-- The default of the entity type. What is fetched is put into it. -/
  initial : Entity

namespace Mapper

variable (m : Mapper)

/-- The keyspace, as it is written in statements. -/
def keyspace : String :=
  m.descriptor.keyspace.getD ""

/-- The table, as it is written in statements. -/
def table : String :=
  m.descriptor.name.getD ""

/-! ### Statements -/

/-- The codec of a property. -/
def codec (p : Property) : Traced Error Codec :=
  match p.customCodec with
  | some c => pure c
  | none => (m.registry.codecFor p.appType).mapError .type

/-- The cell for a value of a property; null has no bytes. -/
def cell (p : Property) (v : Value) : Traced Error Cell :=
  if v.isNull then pure none
  else do
    let c ← m.codec p
    let bs ← (Traced.ofExcept (c.encode v)).mapError .codec
    return some bs

/-- The columns of properties with the cells of an entity. -/
def bindEntity (e : Entity) : List Property → Traced Error (List BoundColumn)
  | [] => return []
  | p :: ps => do
    let v ← (Traced.ofExcept (p.get e)).mapError .property
    let cell ← m.cell p v
    let columns ← bindEntity e ps
    return ⟨p.columnName, cell⟩ :: columns

/-- The columns of properties with the cells of given values. -/
def bindValues : List (Property × Value) → Traced Error (List BoundColumn)
  | [] => return []
  | (p, v) :: pvs => do
    let cell ← m.cell p v
    let columns ← bindValues pvs
    return ⟨p.columnName, cell⟩ :: columns

/-- The key columns with the cells of a key, which has to have as many values. -/
def bindKey (key : List Value) : Traced Error (List BoundColumn) :=
  let expected := m.descriptor.keyLength
  if key.length = expected then m.bindValues (m.descriptor.primaryKey.zip key)
  else Traced.fail (.invalidPrimaryKey expected key.length)

/-- The properties that an insertion writes. -/
def written : List Property :=
  m.descriptor.mappedColumns.filter fun p => !p.isComputed

/-- The statement that stores an entity. -/
def insertion (e : Entity) : Traced Error Statement := do
  let columns ← m.bindEntity e m.written
  Traced.note (.saving m.keyspace m.table columns.length)
  return .insert m.keyspace m.table columns

/-- The statement that asks for the row of a key. -/
def selection (key : List Value) : Traced Error Statement := do
  let restrictions ← m.bindKey key
  return .select m.keyspace m.table (m.descriptor.mappedColumns.map (·.columnName)) restrictions

/-- The statement that removes the row of a key. -/
def deletion (key : List Value) : Traced Error Statement := do
  let restrictions ← m.bindKey key
  Traced.note (.deleting m.keyspace m.table)
  return .delete m.keyspace m.table restrictions

/-! ### Answers -/

/-- An entity after the cells of a row have been put into its properties. -/
def fill : List (Property × Cell) → Entity → Traced Error Entity
  | [], e => return e
  | (p, cell) :: pcs, e => do
    let v ← match cell with
      | none => pure Value.null
      | some bs => do
        let c ← m.codec p
        (Traced.ofExcept (c.decode bs)).mapError .codec
    let e ← (Traced.ofExcept (p.set e v)).mapError .property
    fill pcs e

/-- The entity of the first row of an answer: the default entity, with the cells of the row. -/
def received (rows : List Row) : Traced Error (Option Entity) :=
  let selected := m.descriptor.mappedColumns
  match rows with
  | [] => do
    Traced.note (.noRow m.keyspace m.table)
    return none
  | row :: _ =>
    if row.size = selected.length then do
      let e ← m.fill (selected.zip row.cells) m.initial
      return some e
    else Traced.fail (.session (.rowShape selected.length row.size))

/-! ### Operations -/

variable {σ α : Type}

/-- A statement that has been made up is run, and its answer is used; one that has not been made up
leaves the session alone. -/
def run (session : Session σ) (statement : Traced Error Statement)
    (use : List Row → Traced Error α) (s : σ) : Traced Error α × σ :=
  match statement with
  | ⟨events, .error e⟩ => (⟨events, .error e⟩, s)
  | ⟨events, .ok st⟩ =>
    let (answer, s) := session.execute st s
    ((((Traced.ofExcept answer).mapError .session) >>= use).after events, s)

/-- Stores an entity. -/
def save (session : Session σ) (e : Entity) (s : σ) : Traced Error Unit × σ :=
  run session (m.insertion e) (fun _ => pure ()) s

/-- Fetches the entity of a key, if there is one. -/
def get (session : Session σ) (key : List Value) (s : σ) : Traced Error (Option Entity) × σ :=
  run session (m.selection key) m.received s

/-- Removes the entity of a key. -/
def delete (session : Session σ) (key : List Value) (s : σ) : Traced Error Unit × σ :=
  run session (m.deletion key) (fun _ => pure ()) s

end Mapper

end WideColumn

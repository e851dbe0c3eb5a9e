import Mathlib
import WideColumn.Proofs.Entity.Route

/-!
# Copying from one entity to another

An entity has a type, which says what its layers and slots are called and what its slots can hold
(`WideColumn.Entity.type`). A route leads to slots of one type in all entities of a type, so what is
in a slot of one of them can be put into the same slot of another. This is how an entity is filled
with what has been stored, slot by slot, and after each slot the two have more in common.

* `WideColumn.Entity.Alike`: the names, and what the slots can hold, are the same;
* `WideColumn.Entity.alike_of_type_eq`: **entities of one type are alike**;
* `WideColumn.Route.exists_write_of_alike`: **a slot can be copied**, and nothing else is changed.
-/

namespace WideColumn

/-! ### Types of entities -/

namespace Layer

/-- The type of a layer. -/
def type (l : Layer) : LayerType :=
  ⟨l.typeName, l.slots.map fun s => (s.name, s.type)⟩

/-- The type tells which names there are. -/
theorem names_eq (l : Layer) : l.names = (l.type.name, l.type.fields.map (·.1)) := by
  rw [names, type, List.map_map]
  rfl

/-- It tells as well what a slot can hold. -/
theorem map_type_slot? (l : Layer) (name : String) :
    (l.slot? name).map Slot.type = (l.type.fields.find? fun f => f.1 == name).map (·.2) := by
  rw [slot?, type, List.find?_map, Option.map_map]
  rfl

end Layer

namespace Entity

/-- **The type of an entity.** -/
def type (e : Entity) : EntityType :=
  ⟨e.outer.type, e.bases.map Layer.type⟩

/-- **Entities with the same names, and with slots that can hold the same.** -/
structure Alike (e e' : Entity) : Prop where
  shape_eq : e.shape = e'.shape
  type_eq : ∀ p, (e.slot? p).map Slot.type = (e'.slot? p).map Slot.type

theorem Alike.symm {e e' : Entity} (h : e.Alike e') : e'.Alike e :=
  ⟨h.shape_eq.symm, fun p => (h.type_eq p).symm⟩

/-- **Entities of one type are alike**, whatever they hold. -/
theorem alike_of_type_eq {e e' : Entity} (h : e.type = e'.type) : e.Alike e' := by
  have hlayers : e.layers.map Layer.type = e'.layers.map Layer.type :=
    congrArg (fun t : EntityType => t.outer :: t.bases) h
  refine ⟨?_, fun p => ?_⟩
  · have hnames := congrArg (List.map fun t : LayerType => (t.name, t.fields.map (·.1))) hlayers
    simpa only [shape, List.map_map, Function.comp_def, ← Layer.names_eq] using hnames
  · have hlayer := congrArg (·[p.depth]?) hlayers
    simp only [List.getElem?_map] at hlayer
    rw [slot?, slot?]
    cases hl : e.layers[p.depth]? with
    | none =>
      rw [hl, Option.map_none, eq_comm, Option.map_eq_none_iff] at hlayer
      rw [hlayer]
    | some l =>
      rw [hl, Option.map_some, eq_comm, Option.map_eq_some_iff] at hlayer
      obtain ⟨l', hl', htype⟩ := hlayer
      rw [hl']
      exact (l.map_type_slot? p.name).trans (htype ▸ (l'.map_type_slot? p.name).symm)

end Entity

/-! ### Copying a slot -/

namespace Route

variable {e x : Entity} {r : Route} {s : Slot}

/-- A route leads to slots of one name and one type in entities that are alike. -/
theorem slot?_of_alike (h : x.Alike e) (hs : r.slot? e = some s) :
    ∃ held, r.slot? x = some ⟨s.name, s.type, held⟩ := by
  have hslot : r.slot? x = x.slot? (r.place e) := by
    rw [slot?, (crossed_congr h.shape_eq).2, if_pos (owner_of_slot? hs), place_congr h.shape_eq]
  have htype := h.type_eq (r.place e)
  rw [← hslot, slot?_place hs, Option.map_some, Option.map_eq_some_iff] at htype
  obtain ⟨⟨name, type, held⟩, hx, rfl⟩ := htype
  obtain rfl : name = s.name := (name_of_slot? hx).trans (name_of_slot? hs).symm
  exact ⟨held, hx⟩

/-- **A slot can be copied** from an entity to one that is like it, if the value of what it holds
can be turned into this again; nothing else is changed. -/
theorem exists_write_of_alike (h : x.Alike e) (hs : r.slot? e = some s)
    (hback : s.type.ofValue s.value = .ok s.held) :
    ∃ x', r.write x s.value = .ok x' ∧ x'.Alike e ∧
      ∀ p, x'.slot? p = if p = r.place e then e.slot? p else x.slot? p := by
  obtain ⟨held, hx⟩ := slot?_of_alike h hs
  obtain ⟨x', hx'⟩ : ∃ x', r.write x s.value = .ok x' :=
    ⟨_, write_eq_ok_iff.mpr ⟨⟨s.name, s.type, held⟩, s.held, hx, hback, rfl⟩⟩
  obtain ⟨s', y, hs', hy, hshape, -, hslots⟩ := slot?_of_write hx'
  obtain rfl : s' = ⟨s.name, s.type, held⟩ := Option.some.inj (hs'.symm.trans hx)
  obtain rfl : y = s.held := Except.ok.inj (hy.symm.trans hback)
  have hcopied : ∀ p, x'.slot? p = if p = r.place e then e.slot? p else x.slot? p := by
    intro p
    rw [hslots, place_congr h.shape_eq]
    by_cases hp : p = r.place e
    · rw [if_pos hp, if_pos hp, hp, slot?_place hs]
    · rw [if_neg hp, if_neg hp]
  refine ⟨x', hx', ⟨hshape.trans h.shape_eq, fun p => ?_⟩, hcopied⟩
  rw [hcopied]
  split_ifs
  · rfl
  · exact h.type_eq p

end Route

end WideColumn

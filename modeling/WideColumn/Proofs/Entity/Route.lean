import Mathlib
import WideColumn.Entity.Path
import WideColumn.Proofs.Outcome

/-!
# Where a route leads

A route names the types whose base leads on, and passes over those that do not apply. In one entity
this comes to one place, and this place depends on the types of the layers only: so many layers are
crossed (`WideColumn.Route.crossed`), and in the layer behind them the slot is looked for by its
name. Reading a route is looking at this place (`WideColumn.Route.read_eq_ok_iff`), writing one is
putting something there (`WideColumn.Route.write_eq_ok_iff`), and this changes no other place and
leaves all names as they are.

A route that is written *in place* works on the entity itself: it goes into a base and changes what
it finds there, and if it fails on its way then what has been changed stays changed. It does not
happen, since the last step that can fail comes before the only change
(`WideColumn.Route.ending_assign`).

* `WideColumn.Entity.slot?`, `WideColumn.Entity.put`: what is at a place, and a change there;
* `WideColumn.Entity.slot?_put`: **a change of a place changes no other one**;
* `WideColumn.Route.place`: the place that a route leads to;
* `WideColumn.Route.read_eq_ok_iff`, `WideColumn.Route.write_eq_ok_iff`: **a route leads to one
  place**, for reading and for writing;
* `WideColumn.Route.ending_assign`: **writing in place changes nothing if it fails.**
-/

namespace WideColumn

/-! ### Slots of a layer -/

namespace Layer

variable {l : Layer} {s : Slot} {name : String}

/-- The names of a layer: its type, and its slots. -/
def names (l : Layer) : String × List String :=
  (l.typeName, l.slots.map (·.name))

theorem name_of_slot? (h : l.slot? name = some s) : s.name = name :=
  eq_of_beq (List.find?_some h :)

/-- What is in the slot of a name after something has been put into one. -/
theorem slot?_put (l : Layer) (s : Slot) (name : String) :
    (l.put s).slot? name = if name = s.name then (l.slot? name).map fun _ => s else l.slot? name := by
  have hname : ∀ s' : Slot, ((if s'.name == s.name then s else s').name == name) =
      (s'.name == name) := by
    intro s'
    by_cases h : s'.name = s.name
    · rw [if_pos (beq_iff_eq.mpr h), h]
    · rw [if_neg (by simpa using h)]
  have hfind : (l.put s).slot? name =
      (l.slot? name).map fun s' => if s'.name == s.name then s else s' := by
    rw [slot?, put, List.find?_map, slot?]
    exact congrArg _ (congrArg (l.slots.find? ·) (funext hname))
  rw [hfind]
  cases hslot : l.slot? name with
  | none => rw [Option.map_none, Option.map_none, ite_self]
  | some s' =>
    rw [Option.map_some, Option.map_some, name_of_slot? hslot]
    by_cases h : name = s.name
    · rw [if_pos (beq_iff_eq.mpr h), if_pos h]
    · rw [if_neg (by simpa using h), if_neg h]

@[simp] theorem names_put (l : Layer) (s : Slot) : (l.put s).names = l.names := by
  rw [names, names, put, List.map_map]
  refine congrArg (l.typeName, ·) (List.map_congr_left fun s' _ => ?_)
  rw [Function.comp_apply]
  split_ifs with h
  · exact (eq_of_beq h).symm
  · rfl

end Layer

/-! ### Places of an entity -/

namespace Entity

variable {e e' b : Entity} {s : Slot}

/-- **The slot at a place** of an entity. -/
def slot? (e : Entity) (p : SlotPath) : Option Slot :=
  e.layers[p.depth]?.bind (·.slot? p.name)

/-- **The entity with something else in a slot**, so many layers behind the outermost one. -/
def put (e : Entity) : (depth : Nat) → Slot → Entity
  | 0, s => ⟨e.outer.put s, e.bases⟩
  | depth + 1, s => ⟨e.outer, e.bases.modify depth (·.put s)⟩

/-- The names of an entity: of the types of its layers, and of the slots of each. -/
def shape (e : Entity) : List (String × List String) :=
  e.layers.map Layer.names

theorem layers_put (e : Entity) (n : Nat) (s : Slot) :
    (e.put n s).layers = e.layers.modify n (·.put s) := by
  cases n with
  | zero => rfl
  | succ n => exact (List.modify_succ_cons ..).symm

/-- **A change of a place changes no other one.** -/
theorem slot?_put (e : Entity) (n : Nat) (s : Slot) (p : SlotPath) :
    (e.put n s).slot? p =
      if p = ⟨n, s.name⟩ then (e.slot? p).map fun _ => s else e.slot? p := by
  obtain ⟨depth, name⟩ := p
  rw [slot?, slot?, layers_put, List.getElem?_modify]
  cases e.layers[depth]? with
  | none => simp
  | some l =>
    by_cases hdepth : n = depth
    · simp [hdepth, Layer.slot?_put]
    · simp [hdepth, Ne.symm hdepth]

/-- No name is changed. -/
@[simp] theorem shape_put (e : Entity) (n : Nat) (s : Slot) : (e.put n s).shape = e.shape := by
  rw [shape, layers_put, shape]
  refine List.ext_getElem? fun i => ?_
  rw [List.getElem?_map, List.getElem?_map, List.getElem?_modify, Option.map_eq_map,
    Option.map_map]
  refine Option.map_congr fun l _ => ?_
  rw [Function.comp_apply]
  split_ifs
  · exact Layer.names_put l s
  · rfl

theorem layers_of_base? (h : e.base? = some b) : e.layers = e.outer :: b.layers := by
  rw [← withBase_of_base? h]
  rfl

theorem put_succ_of_base? (h : e.base? = some b) (n : Nat) (s : Slot) :
    e.put (n + 1) s = e.withBase (b.put n s) := by
  rw [← withBase_of_base? h]
  cases n with
  | zero => rfl
  | succ n => exact congrArg (Entity.mk e.outer) (List.modify_succ_cons ..)

/-- Entities of one shape have bases of one shape. -/
theorem base?_of_shape (h : e.shape = e'.shape) :
    e.base?.map shape = e'.base?.map shape := by
  obtain ⟨o, bs⟩ := e
  obtain ⟨o', bs'⟩ := e'
  have htail : bs.map Layer.names = bs'.map Layer.names := (List.cons.inj h).2
  cases bs with
  | nil =>
    rw [List.map_nil, eq_comm, List.map_eq_nil_iff] at htail
    rw [htail]
    rfl
  | cons b bs =>
    cases bs' with
    | nil => cases htail
    | cons b' bs' => exact congrArg some htail

theorem typeName_of_shape (h : e.shape = e'.shape) : e.typeName = e'.typeName :=
  congrArg Prod.fst (List.cons.inj h).1

end Entity

/-! ### The place of a route -/

namespace SlotRef

theorem find_eq_ok_iff {r : SlotRef} {e : Entity} {s : Slot} :
    r.find e = .ok s ↔ e.typeName = r.owner ∧ e.outer.slot? r.slot = some s := by
  rw [find]
  split_ifs with howner
  · rw [and_iff_right howner]
    cases e.outer.slot? r.slot with
    | none => simp
    | some s' => rw [Except.ok.injEq, Option.some.injEq]
  · exact iff_of_false (by simp) fun h => howner h.1

end SlotRef

namespace Route

variable {e e' b : Entity} {ts : List String} {r : Route} {s : Slot} {v : Value}

/-- **How many layers are crossed** on a way through embeddings. -/
def crossed : (embeddings : List String) → Entity → Nat
  | [], _ => 0
  | t :: ts, e =>
    match project? t e with
    | some b => crossed ts b + 1
    | none => crossed ts e

/-- **The place that a route leads to** in an entity. -/
def place (r : Route) (e : Entity) : SlotPath :=
  ⟨crossed r.embeddings e, r.target.slot⟩

/-- The slot that a route leads to, if there is one and it belongs to a layer of the right type. -/
def slot? (r : Route) (e : Entity) : Option Slot :=
  if (reach r.embeddings e).typeName = r.target.owner then e.slot? (r.place e) else none

theorem base?_of_project? {t : String} (h : project? t e = some b) : e.base? = some b := by
  rw [project?] at h
  split_ifs at h
  exact h

/-- What is left of an entity behind the layers that are crossed. -/
theorem layers_reach (ts : List String) (e : Entity) :
    (reach ts e).layers = e.layers.drop (crossed ts e) := by
  induction ts generalizing e with
  | nil => rfl
  | cons t ts ih =>
    rw [reach, crossed]
    cases h : project? t e with
    | none => exact ih e
    | some b =>
      dsimp only
      rw [ih b, Entity.layers_of_base? (base?_of_project? h), List.drop_succ_cons]

theorem outer_slot?_reach (ts : List String) (e : Entity) (name : String) :
    (reach ts e).outer.slot? name = e.slot? ⟨crossed ts e, name⟩ := by
  have hfirst : e.layers[crossed ts e]? = some (reach ts e).outer := by
    rw [← List.head?_drop, ← layers_reach]
    rfl
  rw [Entity.slot?, hfirst, Option.bind_some]

/-- Where a route leads to depends on the names of an entity only. -/
theorem crossed_congr (h : e.shape = e'.shape) :
    crossed ts e = crossed ts e' ∧ (reach ts e).typeName = (reach ts e').typeName := by
  induction ts generalizing e e' with
  | nil => exact ⟨rfl, Entity.typeName_of_shape h⟩
  | cons t ts ih =>
    have hbase := Entity.base?_of_shape h
    have hname := Entity.typeName_of_shape h
    rw [crossed, crossed, reach, reach, project?, project?, hname]
    by_cases htype : e'.typeName = t
    · rw [if_pos htype, if_pos htype]
      cases hb : e.base? with
      | none =>
        rw [hb, Option.map_none, eq_comm, Option.map_eq_none_iff] at hbase
        rw [hbase]
        exact ih h
      | some b =>
        rw [hb, Option.map_some, eq_comm, Option.map_eq_some_iff] at hbase
        obtain ⟨b', hb', hshape⟩ := hbase
        rw [hb']
        obtain ⟨hcrossed, hreach⟩ := ih hshape.symm
        exact ⟨congrArg (· + 1) hcrossed, hreach⟩
    · rw [if_neg htype, if_neg htype]
      exact ih h

/-- **The entity at the end of embeddings that apply one after the other**, the outermost first. -/
def descend? : (embeddings : List String) → Entity → Option Entity
  | [], e => some e
  | t :: ts, e => (project? t e).bind (descend? ts)

/-- Embeddings that all apply are all crossed. -/
theorem reach_of_descend? (h : descend? ts e = some b) :
    reach ts e = b ∧ crossed ts e = ts.length := by
  induction ts generalizing e with
  | nil => exact ⟨Option.some.inj h, rfl⟩
  | cons t ts ih =>
    obtain ⟨b', hb', hrest⟩ := Option.bind_eq_some_iff.mp h
    obtain ⟨hreach, hcrossed⟩ := ih hrest
    rw [reach, crossed, hb']
    exact ⟨hreach, congrArg (· + 1) hcrossed⟩

/-- **Reading a route is looking at the slot that it leads to.** -/
theorem find_reach_eq_ok_iff : r.target.find (reach r.embeddings e) = .ok s ↔
    r.slot? e = some s := by
  rw [SlotRef.find_eq_ok_iff, outer_slot?_reach, slot?, place]
  split_ifs with howner
  · exact and_iff_right howner
  · exact iff_of_false (fun h => howner h.1) (by simp)

theorem read_eq_ok_iff : r.read e = .ok v ↔ ∃ s, r.slot? e = some s ∧ s.value = v := by
  rw [read, SlotRef.read, Except.bind_eq_ok_iff]
  simp only [find_reach_eq_ok_iff, Except.pure_eq_ok, Except.ok.injEq]

/-- What is written at the end of a way is put into the layer there. -/
theorem change_write (r : SlotRef) (v : Value) (ts : List String) (e : Entity) :
    change (r.write v) ts e = (do
      let s ← r.find (reach ts e)
      let x ← (s.type.ofValue v).mapError .conversion
      return e.put (crossed ts e) ⟨s.name, s.type, x⟩) := by
  induction ts generalizing e with
  | nil => rfl
  | cons t ts ih =>
    rw [change, reach, crossed]
    cases h : project? t e with
    | none => exact ih e
    | some b =>
      dsimp only
      rw [ih b, bind_assoc]
      refine congrArg _ (funext fun s => ?_)
      rw [bind_assoc]
      refine congrArg _ (funext fun x => ?_)
      rw [pure_bind, Entity.put_succ_of_base? (base?_of_project? h)]

/-- **Writing a route is putting something into the slot that it leads to.** -/
theorem write_eq_ok_iff : r.write e v = .ok e' ↔ ∃ s x, r.slot? e = some s ∧
    s.type.ofValue v = .ok x ∧ e.put (r.place e).depth ⟨s.name, s.type, x⟩ = e' := by
  rw [write, change_write, Except.bind_eq_ok_iff]
  simp only [Except.bind_eq_ok_iff, find_reach_eq_ok_iff, Except.mapError_eq_ok_iff,
    Except.pure_eq_ok, Except.ok.injEq, exists_and_left]
  rfl

/-- The slot that a route leads to is the one at its place. -/
theorem slot?_place (h : r.slot? e = some s) : e.slot? (r.place e) = some s := by
  rw [slot?] at h
  split_ifs at h
  exact h

theorem owner_of_slot? (h : r.slot? e = some s) :
    (reach r.embeddings e).typeName = r.target.owner := by
  by_contra hne
  rw [slot?, if_neg hne] at h
  cases h

/-- Slots are found by their name. -/
theorem name_of_slot? (h : r.slot? e = some s) : s.name = r.target.slot := by
  have hplace := slot?_place h
  rw [Entity.slot?, Option.bind_eq_some_iff] at hplace
  obtain ⟨l, -, hs⟩ := hplace
  exact Layer.name_of_slot? hs

/-- A route leads to one place in all entities of a shape. -/
theorem place_congr (h : e.shape = e'.shape) : r.place e = r.place e' := by
  rw [place, place, (crossed_congr h).1]

/-- **What has been written is at the place of the route**, and nothing else has changed. -/
theorem slot?_of_write (h : r.write e v = .ok e') : ∃ s x, r.slot? e = some s ∧
    s.type.ofValue v = .ok x ∧ e'.shape = e.shape ∧
      r.slot? e' = some ⟨s.name, s.type, x⟩ ∧
      ∀ p, e'.slot? p = if p = r.place e then some ⟨s.name, s.type, x⟩ else e.slot? p := by
  obtain ⟨s, x, hs, hx, rfl⟩ := write_eq_ok_iff.mp h
  have hslot : e.slot? (r.place e) = some s := slot?_place hs
  have hplace : (⟨(r.place e).depth, s.name⟩ : SlotPath) = r.place e := by
    rw [name_of_slot? hs]
    rfl
  have hput : ∀ p, (e.put (r.place e).depth ⟨s.name, s.type, x⟩).slot? p =
      if p = r.place e then some ⟨s.name, s.type, x⟩ else e.slot? p := by
    intro p
    rw [Entity.slot?_put, hplace]
    by_cases hp : p = r.place e
    · rw [if_pos hp, if_pos hp, hp, hslot, Option.map_some]
    · rw [if_neg hp, if_neg hp]
  have hshape : (e.put (r.place e).depth ⟨s.name, s.type, x⟩).shape = e.shape :=
    Entity.shape_put ..
  refine ⟨s, x, hs, hx, hshape, ?_, hput⟩
  rw [slot?, (crossed_congr hshape).2, if_pos (owner_of_slot? hs), place_congr hshape, hput,
    if_pos rfl]

end Route

/-! ### Writing in place -/

namespace Entity

/-- **A computation that works on an entity itself.** If it fails, then what it has changed so far
stays changed. -/
abbrev Update (ε : Type) := ExceptT ε (StateM Entity)

namespace Update

variable {ε α : Type}

/-- How a computation ends, and the entity at its end. -/
def ending (x : Update ε α) (e : Entity) : Except ε α × Entity :=
  (ExceptT.run x).run e

theorem ending_get_bind (f : Entity → Update ε α) (e : Entity) :
    ending (get >>= f) e = (f e).ending e := rfl

theorem ending_error_bind {β : Type} (err : ε) (f : β → Update ε α) (e : Entity) :
    ending (liftM (Except.error err : Except ε β) >>= f) e = (.error err, e) := rfl

theorem ending_ok_bind {β : Type} (b : β) (f : β → Update ε α) (e : Entity) :
    ending (liftM (Except.ok b : Except ε β) >>= f) e = (f b).ending e := rfl

theorem ending_modify (f : Entity → Entity) (e : Entity) :
    ending (modify f : Update ε PUnit) e = (.ok (), f e) := rfl

end Update

/-- The entity after a change of all or nothing: the new one, or the one from before with the
error. -/
def outcome {ε : Type} (e : Entity) : Except ε Entity → Except ε Unit × Entity
  | .ok e' => (.ok (), e')
  | .error err => (.error err, e)

/-- A computation that works on the base of an entity: this stays embedded, whatever becomes of
it. -/
def inBase {ε : Type} (b : Entity) (x : Update ε Unit) : Update ε Unit :=
  ExceptT.mk do
    let e ← get
    set (e.withBase (x.ending b).2)
    return (x.ending b).1

theorem ending_inBase {ε : Type} (b : Entity) (x : Update ε Unit) (e : Entity) :
    (inBase b x).ending e = ((x.ending b).1, e.withBase (x.ending b).2) := rfl

end Entity

namespace SlotRef

/-- A value is put into a slot in place, once it has been converted. -/
def assign (r : SlotRef) (v : Value) : Entity.Update AccessError Unit := do
  let s ← r.find (← get)
  let x ← (s.type.ofValue v).mapError AccessError.conversion
  modify fun e => ⟨e.outer.put ⟨s.name, s.type, x⟩, e.bases⟩

theorem ending_assign (r : SlotRef) (v : Value) (e : Entity) :
    (r.assign v).ending e = e.outcome (r.write v e) := by
  rw [assign, write, Entity.Update.ending_get_bind]
  cases hs : r.find e with
  | error err => exact Entity.Update.ending_error_bind ..
  | ok s =>
    rw [Entity.Update.ending_ok_bind]
    change _ = e.outcome ((s.type.ofValue v).mapError AccessError.conversion >>= _)
    cases (s.type.ofValue v).mapError AccessError.conversion with
    | error err => exact Entity.Update.ending_error_bind ..
    | ok x => exact Entity.Update.ending_modify ..

end SlotRef

namespace Route

/-- The base is gone into, as far as the embeddings apply, and something is done there. -/
def assignBehind {ε : Type} (x : Entity.Update ε Unit) :
    (embeddings : List String) → Entity.Update ε Unit
  | [] => x
  | t :: ts => do
    match project? t (← get) with
    | some b => Entity.inBase b (assignBehind x ts)
    | none => assignBehind x ts

/-- A value is put in place into the slot at the end of a route. -/
def assign (r : Route) (v : Value) : Entity.Update AccessError Unit :=
  assignBehind (r.target.assign v) r.embeddings

/-- **Writing in place changes nothing if it fails**, and otherwise what is to be changed. -/
theorem ending_assign (r : Route) (v : Value) (e : Entity) :
    (r.assign v).ending e = e.outcome (r.write e v) := by
  obtain ⟨ts, target⟩ := r
  change (assignBehind (target.assign v) ts).ending e = e.outcome (change (target.write v) ts e)
  induction ts generalizing e with
  | nil => exact target.ending_assign v e
  | cons t ts ih =>
    rw [assignBehind, change, Entity.Update.ending_get_bind]
    cases h : project? t e with
    | none => exact ih e
    | some b =>
      dsimp only
      rw [Entity.ending_inBase, ih b]
      cases change (target.write v) ts b with
      | error err =>
        -- the base is put back as it was
        exact congrArg (Except.error err, ·) (Entity.withBase_of_base? (base?_of_project? h))
      | ok b' => rfl

end Route

end WideColumn

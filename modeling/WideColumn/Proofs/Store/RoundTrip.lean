import Mathlib
import WideColumn.Proofs.Entity.Copy
import WideColumn.Proofs.FieldType.Conversion
import WideColumn.Proofs.Mapping.Property
import WideColumn.Proofs.Store.Binding
import WideColumn.Samples.Accounts

/-!
# What is saved can be fetched

An entity that is saved is read slot by slot, each value is written into a cell, and the cells are
bound to columns. On the way back the cells come in the order in which they have been asked for, and
each of them is read and put into its slot of the default entity, whatever this slot holds. So three
things come together: the codec that is found for a field reads what it writes, the field takes its
own value back, and a slot of one entity can be copied to another.

For a single property this is a statement about its cell (`WideColumn.Mapper.content_of_cell`). For
an entity it is an induction on the cells of the row, in which the entity that is being filled comes
to have more and more in common with the one that has been saved (`WideColumn.Mapper.fill_eq_ok`).

* `WideColumn.Slot.IsPlain`: nothing of what the slot holds is lost in a column;
* `WideColumn.Mapper.StoresSlots`: **each stored property is a slot of its own kind**;
* `WideColumn.Mapper.isTooLarge_of_cell`: why something cannot be saved;
* `WideColumn.Mapper.save_then_get`: **what has been saved can be fetched.**
-/

namespace WideColumn

open Framing

/-! ### Entities of which nothing is lost -/

/-- **Nothing of what a slot holds is lost in a column**: it is something that the slot can hold, no
part of a collection is missing, and instants are of whole milliseconds. -/
structure Slot.IsPlain (s : Slot) : Prop where
  proper : s.type.IsProper s.held
  complete : ¬Value.Inside .null s.value
  whole : ∀ i, Value.Occurs (.timestamp i) s.value → i.IsWhole

/-- Nothing of what an entity holds is lost, whatever the slot. -/
def Entity.IsPlain (e : Entity) : Prop :=
  ∀ l ∈ e.layers, ∀ s ∈ l.slots, s.IsPlain

theorem Entity.IsPlain.of_slot? {e : Entity} {path : SlotPath} {s : Slot} (h : e.IsPlain)
    (hs : e.slot? path = some s) : s.IsPlain := by
  obtain ⟨l, hl, hs⟩ := Option.bind_eq_some_iff.mp hs
  exact h l (List.mem_of_getElem? hl) s (List.mem_of_find?_eq_some hs)

namespace Slot.IsPlain

variable {s : Slot} {bs : Bytes}

/-- Of a single value nothing is lost, unless it is an instant. -/
theorem of_single (name : String) {p : Primitive} (hp : p ≠ .instant) (x : p.Carrier) :
    Slot.IsPlain ⟨name, .single p, x⟩ where
  proper := trivial
  complete := Value.not_inside_of_parts_eq_nil (p.parts_toValue x)
  whole i hi := by
    rcases Value.occurs_iff.mp hi with hi | hi
    · cases p <;> contradiction
    · exact absurd hi (Value.not_inside_of_parts_eq_nil (p.parts_toValue x))

/-- Nothing is lost of what is missing. -/
theorem of_none (name : String) (t : FieldType) : Slot.IsPlain ⟨name, .option t, none⟩ where
  proper := trivial
  complete := Value.not_inside_of_parts_eq_nil rfl
  whole i hi := by
    rcases Value.occurs_iff.mp hi with hi | hi
    · cases hi
    · exact absurd hi (Value.not_inside_of_parts_eq_nil rfl)

/-- What is not missing is as it would be without the option. -/
theorem of_some {name : String} {t : FieldType} {x : t.Carrier} (h : Slot.IsPlain ⟨name, t, x⟩) :
    Slot.IsPlain ⟨name, .option t, some x⟩ :=
  ⟨h.proper, h.complete, h.whole⟩

/-- What the slot holds comes back from its value. -/
theorem ofValue_value (h : s.IsPlain) (hflat : s.type.IsFlat) :
    s.type.ofValue s.value = .ok s.held :=
  FieldType.ofValue_toValue hflat h.proper h.complete

/-- Its value comes back from the bytes. -/
theorem decode_of_encode (h : s.IsPlain) (hbs : s.type.columnType.codec.encode s.value = .ok bs) :
    s.type.columnType.codec.decode bs = .ok s.value := by
  rw [ColumnType.decode_of_encode hbs fun i hi => (h.whole i hi).isStorable]
  exact congrArg Except.ok (FieldType.stored_toValue h.whole)

/-- **Its value can be written unless it is too large**, and then this is what the error says. -/
theorem isTooLarge_of_encode {err : CodecError} (h : s.IsPlain) (hne : s.value ≠ .null)
    (herr : s.type.columnType.codec.encode s.value = .error err) :
    err.IsTooLarge ∧ s.value.IsOversized := by
  have hnone : ¬s.type.HasNone s.held := FieldType.not_hasNone_of_not_inside h.complete hne
  refine ⟨FieldType.failsBySize_encode_toValue hnone err herr, ?_⟩
  -- if it were not, the value would conform to the column and could be written
  by_contra hsize
  have hconforms := FieldType.conforms_toValue hnone hsize
  obtain ⟨bs, hbs⟩ := (ColumnType.exists_encode_iff _ _).mpr hconforms
  have hok : s.type.columnType.codec.encode s.value = .ok bs := hbs
  rw [herr] at hok
  cases hok

end Slot.IsPlain

/-! ### Properties that are kept in a slot -/

/-- **A property that is kept in a slot** of an entity: it is read from there and written there, and
is of the type that goes with what the slot can hold. Its codec is the one that belongs to this
type. -/
structure Property.IsKept (p : Property) (e : Entity) (r : Route) (s : Slot) : Prop where
  reader : p.reader = some r
  writer : p.writer = some r
  slot : r.slot? e = some s
  appType : s.type.appType = p.appType
  flat : s.type.IsFlat
  codec : p.customCodec = none
  stored : p.isComputed = false

namespace Mapper

variable {m : Mapper} {p : Property} {r : Route} {s : Slot} {e x : Entity} {cell : Cell}
  {err : Error}

/-- **A mapper that stores slots**: each stored property is kept in a slot, and columns are told
apart by their names. Two properties may be kept in one slot, which is then stored twice. -/
structure StoresSlots (m : Mapper) : Prop where
  registry : m.registry = .standard
  isKept : ∀ p ∈ m.descriptor.mappedColumns, ∃ r s, p.IsKept m.initial r s
  nodup : (m.descriptor.mappedColumns.map (·.columnName)).Nodup

/-- The places of the slots that are stored. -/
def IsStored (m : Mapper) (path : SlotPath) : Prop :=
  ∃ p ∈ m.descriptor.mappedColumns, ∃ r, p.reader = some r ∧ r.place m.initial = path

/-- **An entity with what another one holds in the slots that are stored**, and otherwise with what the
default entity holds. -/
structure Restores (m : Mapper) (e e' : Entity) : Prop where
  shape_eq : e'.shape = e.shape
  slot?_of_isStored : ∀ path, m.IsStored path → e'.slot? path = e.slot? path
  slot?_of_not_isStored : ∀ path, ¬m.IsStored path → e'.slot? path = m.initial.slot? path

/-- All stored properties are written. -/
theorem StoresSlots.written_eq (hm : m.StoresSlots) : m.written = m.descriptor.mappedColumns := by
  refine List.filter_eq_self.mpr fun p hp => ?_
  obtain ⟨r, s, hkept⟩ := hm.isKept p hp
  rw [hkept.stored]
  rfl

/-- What is kept in a slot of the default entity is kept in this slot of any other one. -/
theorem StoresSlots.exists_isKept (hm : m.StoresSlots) (hp : p ∈ m.descriptor.mappedColumns)
    (htype : e.type = m.initial.type) : ∃ r s, p.IsKept e r s := by
  obtain ⟨r, s, hkept⟩ := hm.isKept p hp
  have halike : e.Alike m.initial := Entity.alike_of_type_eq htype
  obtain ⟨held, hslot⟩ := Route.slot?_of_alike halike hkept.slot
  exact ⟨r, ⟨s.name, s.type, held⟩, { hkept with slot := hslot }⟩

/-! ### One property -/

/-- The codec of a property that is kept in a slot. -/
theorem result_codec_of_isKept (hm : m.StoresSlots) (h : p.IsKept e r s) :
    (m.codec p).result = .ok s.type.columnType.codec := by
  rw [Mapper.codec, h.codec, hm.registry, ← h.appType]
  dsimp only
  rw [Traced.result_mapError, s.type.result_codecFor_appType]
  rfl

/-- Its value is that of what the slot holds. -/
theorem get_of_isKept (h : p.IsKept e r s) : p.get e = .ok s.value :=
  Property.get_eq_ok_iff.mpr ⟨r, h.reader, Route.read_eq_ok_iff.mpr ⟨s, h.slot, rfl⟩⟩

/-- **The cell of what a slot holds has its value.** -/
theorem content_of_cell (hm : m.StoresSlots) (h : p.IsKept e r s) (hs : s.IsPlain)
    (hcell : (m.cell p s.value).result = .ok cell) : (m.content p cell).result = .ok s.value := by
  have hcodec := result_codec_of_isKept hm h
  rcases result_cell_eq_ok_iff.mp hcell with ⟨hnull, rfl⟩ | ⟨-, c, hc, bs, hbs, rfl⟩
  · -- a null has no bytes, and no bytes stand for a null
    rw [hnull]
    rfl
  · obtain rfl := Except.ok.inj (hc.symm.trans hcodec)
    refine Traced.result_bind_eq_ok_iff.mpr ⟨_, hcodec, ?_⟩
    rw [Traced.result_mapError, Traced.result_ofExcept, hs.decode_of_encode hbs]
    rfl

/-- **If what a slot holds has no cell then it is too large**, and the error says so. -/
theorem isTooLarge_of_cell (hm : m.StoresSlots) (h : p.IsKept e r s) (hs : s.IsPlain)
    (hcell : (m.cell p s.value).result = .error err) :
    ∃ cause : CodecError, cause.IsTooLarge ∧ .codec cause = err ∧ s.value.IsOversized := by
  have hcodec := result_codec_of_isKept hm h
  obtain ⟨hne, hfails⟩ := result_cell_eq_error_iff.mp hcell
  rcases hfails with hfails | ⟨c, hc, cause, hcause, rfl⟩
  · -- there is a codec
    rw [hcodec] at hfails
    cases hfails
  · obtain rfl := Except.ok.inj (hc.symm.trans hcodec)
    obtain ⟨hlarge, hsize⟩ := hs.isTooLarge_of_encode hne hcause
    exact ⟨cause, hlarge, rfl, hsize⟩

/-! ### All properties -/

/-- **A cell that gives a property what an entity holds**, whatever was there before. -/
def Refills (m : Mapper) (e : Entity) (p : Property) (cell : Cell) : Prop :=
  ∃ r s, p.IsKept e r s ∧ s.IsPlain ∧ (m.content p cell).result = .ok s.value

/-- **An entity is filled with what another one holds**, cell by cell: the slots that belong to a
cell come from the other entity, and the rest is left as it is. -/
theorem fill_eq_ok {pcs : List (Property × Cell)} (h : ∀ pc ∈ pcs, m.Refills e pc.1 pc.2)
    (hx : x.Alike e) :
    ∃ e', (m.fill pcs x).result = .ok e' ∧ e'.Alike e ∧ ∀ path,
      ((∃ pc ∈ pcs, ∃ r, pc.1.reader = some r ∧ r.place e = path) → e'.slot? path = e.slot? path) ∧
      ((¬∃ pc ∈ pcs, ∃ r, pc.1.reader = some r ∧ r.place e = path) →
        e'.slot? path = x.slot? path) := by
  induction pcs generalizing x with
  | nil => exact ⟨x, rfl, hx, fun path => ⟨by simp, fun _ => rfl⟩⟩
  | cons pc pcs ih =>
    -- the first cell is copied, and what it leaves is like the other entity as well
    obtain ⟨hfirst, hrest⟩ := List.forall_mem_cons.mp h
    obtain ⟨r, s, hkept, hs, hcontent⟩ := hfirst
    obtain ⟨y, hwrite, hy, hslots⟩ :=
      Route.exists_write_of_alike hx hkept.slot (hs.ofValue_value hkept.flat)
    obtain ⟨e', hfill, halike, he'⟩ := ih hrest hy
    have hset : pc.1.set x s.value = .ok y :=
      Property.set_eq_ok_iff.mpr ⟨r, hkept.writer, hwrite⟩
    refine ⟨e', result_fill_cons_eq_ok_iff.mpr ⟨_, hcontent, y, hset, hfill⟩, halike, ?_⟩
    intro path
    obtain ⟨hwritten, hleft⟩ := he' path
    have hplace : (∃ r', pc.1.reader = some r' ∧ r'.place e = path) ↔ path = r.place e := by
      rw [hkept.reader]
      simp [eq_comm]
    simp only [List.exists_mem_cons_iff, hplace]
    by_cases hmem : ∃ pc ∈ pcs, ∃ r, pc.1.reader = some r ∧ r.place e = path
    · -- what a later cell writes counts
      exact ⟨fun _ => hwritten hmem, fun hnot => absurd (Or.inr hmem) hnot⟩
    · rw [hleft hmem, hslots]
      constructor
      · intro hpath
        rw [if_pos (hpath.resolve_right hmem)]
      · intro hpath
        rw [if_neg fun h => hpath (Or.inl h)]

variable {columns : List BoundColumn}

/-- **What has been bound to a name fills the property again**, wherever it stands: the names are
different, so a name tells which property a column has been made of. -/
theorem StoresSlots.refills (hm : m.StoresSlots) (htype : e.type = m.initial.type)
    (hplain : e.IsPlain)
    (hcolumns : List.Forall₂ (m.Binds e) m.descriptor.mappedColumns columns)
    (hp : p ∈ m.descriptor.mappedColumns) (hcell : ⟨p.columnName, cell⟩ ∈ columns) :
    m.Refills e p cell := by
  -- the column has been made of a property, and this one is the only one of its column name
  obtain ⟨q, hq, hname, v, hv, hbound⟩ := hcolumns.exists_mem_left hcell
  obtain rfl : p = q := List.inj_on_of_nodup_map hm.nodup hp hq hname
  obtain ⟨r, s, hkept⟩ := hm.exists_isKept hp htype
  have hs : s.IsPlain := hplain.of_slot? (Route.slot?_place hkept.slot)
  obtain rfl := Except.ok.inj (hv.symm.trans (get_of_isKept hkept))
  exact ⟨r, s, hkept, hs, content_of_cell hm hkept hs hbound⟩

/-- **An answer with what has been bound gives the entity back.** -/
theorem StoresSlots.received (hm : m.StoresSlots) (htype : e.type = m.initial.type)
    (hplain : e.IsPlain)
    (hcolumns : List.Forall₂ (m.Binds e) m.descriptor.mappedColumns columns) {row : Row}
    (hrow : List.Forall₂ (fun p cell => ⟨p.columnName, cell⟩ ∈ columns)
      m.descriptor.mappedColumns row.cells) (rows : List Row) :
    ∃ e', (m.received (row :: rows)).result = .ok (some e') ∧ m.Restores e e' := by
  have halike : m.initial.Alike e := Entity.alike_of_type_eq htype.symm
  have hrefills : ∀ pc ∈ m.descriptor.mappedColumns.zip row.cells, m.Refills e pc.1 pc.2 := by
    intro pc hpc
    have hp : pc.1 ∈ m.descriptor.mappedColumns := (List.of_mem_zip hpc).1
    exact hm.refills htype hplain hcolumns hp (List.forall₂_zip hrow hpc)
  obtain ⟨e', hfill, halike', he'⟩ := fill_eq_ok hrefills halike
  refine ⟨e', ?_, ?_⟩
  · have hsize : row.size = m.descriptor.mappedColumns.length := hrow.length_eq.symm
    rw [Mapper.received, if_pos hsize]
    exact Traced.result_bind_eq_ok_iff.mpr ⟨e', hfill, rfl⟩
  · have hstored : ∀ path, m.IsStored path ↔
        ∃ pc ∈ m.descriptor.mappedColumns.zip row.cells,
          ∃ r, pc.1.reader = some r ∧ r.place e = path := by
      intro path
      constructor
      · rintro ⟨p, hp, r, hreader, hplace⟩
        rw [← List.map_fst_zip hrow.length_eq.le] at hp
        obtain ⟨pc, hpc, rfl⟩ := List.mem_map.mp hp
        exact ⟨pc, hpc, r, hreader, (Route.place_congr halike.shape_eq).symm.trans hplace⟩
      · rintro ⟨pc, hpc, r, hreader, hplace⟩
        exact ⟨pc.1, (List.of_mem_zip hpc).1, r, hreader,
          (Route.place_congr halike.shape_eq).trans hplace⟩
    constructor
    · exact halike'.shape_eq
    · intro path hpath
      exact (he' path).1 ((hstored path).mp hpath)
    · intro path hpath
      exact (he' path).2 (mt (hstored path).mpr hpath)

/-! ### Saving and fetching -/

/-- **An entity that cannot be saved is too large**, in one of the slots that are stored. -/
theorem StoresSlots.isTooLarge (hm : m.StoresSlots) (htype : e.type = m.initial.type)
    (hplain : e.IsPlain) (herr : (m.insertion e).result = .error err) :
    (∃ n, maxLength < n ∧ .codec (.invalidData (.partTooLarge n)) = err) ∧
      ∃ path s, m.IsStored path ∧ e.slot? path = some s ∧ s.value.IsOversized := by
  rw [result_insertion_eq_error_iff, hm.written_eq] at herr
  obtain ⟨p, hp, hfails⟩ := exists_of_bindEntity_eq_error herr
  obtain ⟨r, s, hkept⟩ := hm.exists_isKept hp htype
  have hslot : e.slot? (r.place e) = some s := Route.slot?_place hkept.slot
  have hget : p.get e = .ok s.value := get_of_isKept hkept
  rcases hfails with ⟨cause, hcause, -⟩ | ⟨v, hv, hcell⟩
  · -- the slot can be read, so what cannot be made up is the cell
    rw [hget] at hcause
    cases hcause
  · obtain rfl := Except.ok.inj (hv.symm.trans hget)
    obtain ⟨cause, ⟨n, hn, rfl⟩, rfl, hsize⟩ :=
      isTooLarge_of_cell hm hkept (hplain.of_slot? hslot) hcell
    refine ⟨⟨n, hn, rfl⟩, r.place e, s, ?_, hslot, hsize⟩
    have halike : m.initial.Alike e := Entity.alike_of_type_eq htype.symm
    exact ⟨p, hp, r, hkept.reader, Route.place_congr halike.shape_eq⟩

/-- **What has been saved can be fetched.** Either saving an entity fails because of its size, and
the session is not asked; or one insertion is executed, and whenever a session answers the selection
of a key with a row in which each column has the cell that was bound to its name, the entity that is
fetched holds the same in all slots that are stored, and what the default entity holds in the others.
The default may be any entity of the type. -/
theorem save_then_get (hm : m.StoresSlots) (htype : e.type = m.initial.type) (hplain : e.IsPlain)
    {σ : Type} (session : Session σ) (log : List Statement) (s : σ) :
    (∃ n, maxLength < n ∧
        (m.save session.recording e (log, s)).1.result =
          .error (.codec (.invalidData (.partTooLarge n))) ∧
        (m.save session.recording e (log, s)).2 = (log, s) ∧
        ∃ path slot, m.IsStored path ∧ e.slot? path = some slot ∧ slot.value.IsOversized) ∨
      ∃ columns,
        (m.save session.recording e (log, s)).2 =
          (log ++ [.insert m.keyspace m.table columns],
            (session.execute (.insert m.keyspace m.table columns) s).2) ∧
        ∀ {τ : Type} (session' : Session τ) (s' : τ) (key : List Value) (names : List String)
          (restrictions : List BoundColumn) (row : Row) (rows : List Row),
          (m.selection key).result = .ok (.select m.keyspace m.table names restrictions) →
          (session'.execute (.select m.keyspace m.table names restrictions) s').1 =
            .ok (row :: rows) →
          List.Forall₂ (fun name cell => ⟨name, cell⟩ ∈ columns) names row.cells →
          ∃ e', (m.get session' key s').1.result = .ok (some e') ∧ m.Restores e e' := by
  cases hinsertion : (m.insertion e).result with
  | error err =>
    obtain ⟨⟨n, hn, rfl⟩, hlarge⟩ := hm.isTooLarge htype hplain hinsertion
    obtain ⟨hresult, hstate⟩ :=
      run_of_error hinsertion session.recording (fun _ => pure ()) (log, s)
    exact Or.inl ⟨n, hn, hresult, hstate, hlarge⟩
  | ok st =>
    obtain ⟨columns, hcolumns, rfl⟩ := result_insertion_eq_ok_iff.mp hinsertion
    rw [hm.written_eq] at hcolumns
    refine Or.inr ⟨columns, ?_, ?_⟩
    · exact (run_of_ok hinsertion session.recording (fun _ => pure ()) (log, s)).2
    · intro τ session' s' key names restrictions row rows hselection hanswer hrow
      obtain ⟨restrictions', -, hstatement⟩ := result_selection_eq_ok_iff.mp hselection
      obtain ⟨-, -, rfl, rfl⟩ := Statement.select.inj hstatement
      obtain ⟨e', hreceived, hrestores⟩ :=
        hm.received htype hplain hcolumns (List.forall₂_map_left_iff.mp hrow) rows
      refine ⟨e', ?_, hrestores⟩
      rw [Mapper.get, (run_of_ok hselection session' m.received s').1, hanswer]
      exact hreceived

section Accounts

open Samples

/-- The fields of accounts are kept in the slots of their names. -/
theorem isKept_accountProperty {name column : String} {type : FieldType} {role : PropertyRole}
    {held : type.Carrier} (hslot : newAccount.slot? ⟨0, name⟩ = some ⟨name, type, held⟩)
    (hflat : type.IsFlat) (hrole : role.isComputed = false) :
    (accountProperty name column type role).IsKept newAccount ⟨[], "Account", name⟩
      ⟨name, type, held⟩ where
  reader := rfl
  writer := rfl
  slot := hslot
  appType := rfl
  flat := hflat
  codec := rfl
  stored := hrole

theorem mappedColumns_accountMapper : accountMapper.descriptor.mappedColumns =
    [accountProperty "tenant" "tenant" string (.partitionKey 0),
      accountProperty "id" "id" int32 (.clusteringColumn 0),
      accountProperty "email" "contact_email" (.option string) .regular,
      accountProperty "tags" "tags" (.sortedSet string) .regular,
      accountProperty "seen" "seen" (.option (.single .instant)) .regular] := rfl

theorem storesSlots_accountMapper : accountMapper.StoresSlots where
  registry := rfl
  isKept := by
    rw [mappedColumns_accountMapper]
    simp only [List.forall_mem_cons, List.not_mem_nil, false_imp_iff, implies_true, and_true]
    exact ⟨⟨_, _, isKept_accountProperty rfl trivial rfl⟩,
      ⟨_, _, isKept_accountProperty rfl trivial rfl⟩,
      ⟨_, _, isKept_accountProperty rfl trivial rfl⟩,
      ⟨_, _, isKept_accountProperty rfl trivial rfl⟩,
      ⟨_, _, isKept_accountProperty rfl trivial rfl⟩⟩
  nodup := by decide

/-- Nothing is lost of the tags of an account. -/
theorem isPlain_tags : Slot.IsPlain ⟨"tags", .sortedSet string, ["admin", "billing"]⟩ := by
  have htag : ∀ w, Value.Inside w (.set [.text "admin", .text "billing"]) →
      w = .text "admin" ∨ w = .text "billing" := by
    have hnone : ∀ w t, ¬Value.Inside w (.text t) := fun w t =>
      Value.not_inside_of_parts_eq_nil rfl
    simp [Value.inside_set, Value.occurs_iff, hnone]
  refine ⟨⟨by decide, fun x hx => trivial⟩, fun h => ?_, fun i hi => ?_⟩
  · rcases htag _ h with h | h <;> cases h
  · rcases Value.occurs_iff.mp hi with h | h
    · cases h
    · rcases htag _ h with h | h <;> cases h

theorem isPlain_unseenAccount : unseenAccount.IsPlain := by
  intro l hl
  obtain rfl := List.mem_singleton.mp hl
  simp only [unseenAccount, List.forall_mem_cons, List.not_mem_nil, false_imp_iff, implies_true,
    and_true]
  exact ⟨.of_single _ (by decide) _, .of_single _ (by decide) _,
    .of_some (.of_single _ (by decide) _), isPlain_tags, .of_none _ _,
    .of_single _ (by decide) _⟩

/-- An account is saved and fetched by its key. It has not been seen, other than the default account,
and its scratch pad is that of the default account. -/
theorem save_then_get_account :
    (Descriptor.build accounts .table {}).result = .ok accountMapper.descriptor ∧
      accountMapper.StoresSlots ∧ unseenAccount.type = newAccount.type ∧ unseenAccount.IsPlain ∧
      ∃ columns e',
        (accountMapper.save Session.memory.recording unseenAccount ([], [])).2 =
          ([.insert "crm" "accounts" columns], [columns]) ∧
        (accountMapper.get Session.memory [.text "acme", .int 7] [columns]).1.result =
          .ok (some e') ∧
        e'.slot? ⟨0, "tags"⟩ = unseenAccount.slot? ⟨0, "tags"⟩ ∧
        e'.slot? ⟨0, "seen"⟩ = some ⟨"seen", .option (.single .instant), none⟩ ∧
        e'.slot? ⟨0, "scratch"⟩ = some ⟨"scratch", string, "blank"⟩ := by
  have htype : unseenAccount.type = accountMapper.initial.type := rfl
  let columns : List BoundColumn :=
    [⟨"tenant", some [97, 99, 109, 101]⟩, ⟨"id", some [0, 0, 0, 7]⟩,
      ⟨"contact_email", some [111, 112, 115]⟩,
      ⟨"tags", some [0, 0, 0, 2, 0, 0, 0, 5, 97, 100, 109, 105, 110, 0, 0, 0, 7, 98, 105, 108, 108,
        105, 110, 103]⟩,
      ⟨"seen", none⟩]
  have hsave : (accountMapper.save Session.memory.recording unseenAccount ([], [])).2 =
      ([.insert "crm" "accounts" columns], [columns]) := rfl
  rcases save_then_get storesSlots_accountMapper htype isPlain_unseenAccount Session.memory [] []
    with ⟨n, -, -, hstate, -⟩ | ⟨columns', hstate, hget⟩
  · rw [hsave] at hstate
    cases congrArg Prod.fst hstate
  · rw [hsave] at hstate
    obtain rfl : columns = columns' := (List.cons.inj (congrArg Prod.snd hstate)).1
    obtain ⟨e', he', hrestores⟩ := hget Session.memory [columns] [.text "acme", .int 7]
      ["tenant", "id", "contact_email", "tags", "seen"] (columns.take 2) ⟨columns.map (·.cell)⟩ []
      rfl rfl (by simp [columns])
    have htags : accountMapper.IsStored ⟨0, "tags"⟩ :=
      ⟨_, List.mem_of_getElem? (i := 3) rfl, ⟨[], "Account", "tags"⟩, rfl, rfl⟩
    have hseen : accountMapper.IsStored ⟨0, "seen"⟩ :=
      ⟨_, List.mem_of_getElem? (i := 4) rfl, ⟨[], "Account", "seen"⟩, rfl, rfl⟩
    have hlost : ¬accountMapper.IsStored ⟨0, "scratch"⟩ := by
      rintro ⟨p, hp, r, hr, hplace⟩
      have hname : r.target.slot = "scratch" := congrArg SlotPath.name hplace
      rw [mappedColumns_accountMapper] at hp
      simp only [List.mem_cons, List.not_mem_nil, or_false] at hp
      rcases hp with rfl | rfl | rfl | rfl | rfl <;> cases hr <;> contradiction
    exact ⟨result_build_accounts, storesSlots_accountMapper, htype, isPlain_unseenAccount, columns,
      e', hsave, he', hrestores.slot?_of_isStored _ htags, hrestores.slot?_of_isStored _ hseen,
      hrestores.slot?_of_not_isStored _ hlost⟩

end Accounts

end Mapper

end WideColumn

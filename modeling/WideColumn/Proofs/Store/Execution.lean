import Mathlib
import WideColumn.Proofs.Store.Key

/-!
# All or nothing

A statement is made up completely before it is run. So whatever goes wrong with a property or with a
part of a key, the session has not been asked for anything, and what it is asked for is a whole
statement, once: with a column for every property that is written, or a restriction for every part
of the key. What is made of the answer comes after that, and only the first row of it counts.

* `WideColumn.Mapper.CanWrite`, `WideColumn.Mapper.CanBind`: what a statement needs;
* `WideColumn.RunsOnce`: an operation that runs one statement if it can, and else none;
* `WideColumn.Mapper.runsOnce_run`: **what is made up first is run at most once**;
* `WideColumn.Mapper.IsAllOrNothing`: what the operations of a mapper do to a session;
* `WideColumn.Mapper.isAllOrNothing_of_build`: **the operations on every table are all or nothing**.
-/

namespace WideColumn

/-- **An operation runs one statement if it can, and else none.** Whether it can does not depend on
the session, and neither does the statement. -/
structure RunsOnce {α : Type} (operation : (σ : Type) → Session σ → σ → Traced Error α × σ)
    (possible : Prop) (isProper : Statement → Prop) : Prop where
  /-- If something is in its way then it fails, and the session is left alone. -/
  none_of_not : ¬possible → ∃ err, ∀ (σ : Type) (session : Session σ) (s : σ),
    (operation σ session s).1.result = .error err ∧ (operation σ session s).2 = s
  /-- Otherwise a statement of the proper form is run, and none besides it. -/
  one_of : possible → ∃ st, isProper st ∧ ∀ (σ : Type) (session : Session σ) (s : σ),
    (operation σ session s).2 = (session.execute st s).2 ∧
      ∀ log, (operation _ session.recording (log, s)).2.1 = log ++ [st]

namespace Mapper

variable {m : Mapper} {p : Property} {v : Value} {e : Entity} {key : List Value}

/-! ### Running what has been made up -/

/-- **What is made up first is run at most once.** -/
theorem runsOnce_run {α : Type} {statement : Traced Error Statement}
    {use : List Row → Traced Error α} {possible : Prop} {isProper : Statement → Prop}
    (hpossible : (∃ st, statement.result = .ok st) ↔ possible)
    (hproper : ∀ st, statement.result = .ok st → isProper st) :
    RunsOnce (fun _ session => run session statement use) possible isProper where
  none_of_not h := by
    -- the statement is made up without the session, so the error is the same for all of them
    cases hstatement : statement.result with
    | ok st => exact absurd (hpossible.mp ⟨st, hstatement⟩) h
    | error err => exact ⟨err, fun σ session s => run_of_error hstatement session use s⟩
  one_of h := by
    obtain ⟨st, hst⟩ := hpossible.mpr h
    exact ⟨st, hproper st hst, fun σ session s =>
      ⟨(run_of_ok hst session use s).2, fun log => run_recording_iff.mpr hst⟩⟩

/-! ### What a statement needs -/

/-- **A value of a property can be written**: it is null, or there is a codec that writes it. -/
def CanWrite (m : Mapper) (p : Property) (v : Value) : Prop :=
  v = .null ∨ ∃ c, (m.codec p).result = .ok c ∧ ∃ bs, c.encode v = .ok bs

/-- **A key can be bound**: it has as many values as it should, and each of them can be written. -/
def CanBind (m : Mapper) (key : List Value) : Prop :=
  key.length = m.descriptor.keyLength ∧
    ∀ pv ∈ m.descriptor.primaryKey.zip key, m.CanWrite pv.1 pv.2

/-- **The restriction for a part of a key**: its cell is that of the value. -/
def Restricts (m : Mapper) (pv : Property × Value) (r : BoundColumn) : Prop :=
  r.name = pv.1.columnName ∧ (m.cell pv.1 pv.2).result = .ok r.cell

theorem exists_cell_iff : (∃ cell, (m.cell p v).result = .ok cell) ↔ m.CanWrite p v := by
  simp only [result_cell_eq_ok_iff, CanWrite]
  constructor
  · rintro ⟨cell, ⟨hv, -⟩ | ⟨-, c, hc, bs, hbs, -⟩⟩
    · exact Or.inl hv
    · exact Or.inr ⟨c, hc, bs, hbs⟩
  · intro h
    by_cases hv : v = .null
    · exact ⟨none, Or.inl ⟨hv, rfl⟩⟩
    · obtain ⟨c, hc, bs, hbs⟩ := h.resolve_left hv
      exact ⟨some bs, Or.inr ⟨hv, c, hc, bs, hbs, rfl⟩⟩

/-- What is written of an entity: the properties that are stored and not computed. -/
theorem written_eq (m : Mapper) :
    m.written = m.descriptor.properties.filter fun p => !p.isTransient && !p.isComputed := by
  rw [written, Descriptor.mappedColumns, List.filter_filter]
  exact List.filter_congr fun p _ => Bool.and_comm ..

/-- An insertion can be made up if every property that is written can be read, and what has been
read can be written. -/
theorem exists_insertion_iff : (∃ st, (m.insertion e).result = .ok st) ↔
    ∀ p ∈ m.written, ∃ v, p.get e = .ok v ∧ m.CanWrite p v := by
  have hcolumn : ∀ p, (∃ column, m.Binds e p column) ↔ ∃ v, p.get e = .ok v ∧ m.CanWrite p v := by
    intro p
    simp only [← exists_cell_iff]
    constructor
    · rintro ⟨column, -, v, hv, hcell⟩
      exact ⟨v, hv, column.cell, hcell⟩
    · rintro ⟨v, hv, cell, hcell⟩
      exact ⟨⟨p.columnName, cell⟩, rfl, v, hv, hcell⟩
  simp only [← hcolumn, ← List.exists_forall₂_iff, result_insertion_eq_ok_iff]
  constructor
  · rintro ⟨st, columns, hcolumns, -⟩
    exact ⟨columns, hcolumns.flip⟩
  · rintro ⟨columns, hcolumns⟩
    exact ⟨_, columns, hcolumns.flip, rfl⟩

/-- **The restrictions stand for the parts of a key place by place.** -/
theorem result_bindValues_eq_ok_iff {pvs : List (Property × Value)} {rs : List BoundColumn} :
    (m.bindValues pvs).result = .ok rs ↔ List.Forall₂ m.Restricts pvs rs := by
  induction pvs generalizing rs with
  | nil => rw [bindValues, Traced.result_pure_eq_ok_iff, List.forall₂_nil_left_iff, eq_comm]
  | cons pv pvs ih =>
    obtain ⟨p, v⟩ := pv
    simp only [result_bindValues_cons_eq_ok_iff, ih, List.forall₂_cons_left_iff]
    constructor
    · rintro ⟨cell, hcell, rs, hrs, rfl⟩
      exact ⟨_, rs, ⟨rfl, hcell⟩, hrs, rfl⟩
    · rintro ⟨⟨_, cell⟩, rs, ⟨rfl, hcell⟩, hrs, rfl⟩
      exact ⟨cell, hcell, rs, hrs, rfl⟩

theorem exists_bindKey_iff : (∃ rs, (m.bindKey key).result = .ok rs) ↔ m.CanBind key := by
  have hrestriction : ∀ pv : Property × Value,
      (∃ r, m.Restricts pv r) ↔ m.CanWrite pv.1 pv.2 := by
    intro pv
    rw [← exists_cell_iff]
    exact ⟨fun ⟨r, hr⟩ => ⟨r.cell, hr.2⟩, fun ⟨cell, hcell⟩ => ⟨⟨_, cell⟩, rfl, hcell⟩⟩
  simp only [result_bindKey_eq_ok_iff, result_bindValues_eq_ok_iff, CanBind, ← hrestriction,
    ← List.exists_forall₂_iff, exists_and_left]
  refine and_congr_right fun _ => exists_congr fun rs => ?_
  exact ⟨List.Forall₂.flip, List.Forall₂.flip⟩

/-- **A statement about the row of a key** is run once if the key can be bound, and else none is. -/
theorem runsOnce_run_of_bindKey {α : Type} {statement : Traced Error Statement}
    {use : List Row → Traced Error α} {make : List BoundColumn → Statement}
    (h : ∀ st, statement.result = .ok st ↔
      ∃ rs, (m.bindKey key).result = .ok rs ∧ make rs = st) :
    RunsOnce (fun _ session => run session statement use) (m.CanBind key) fun st =>
      ∃ rs, make rs = st ∧ List.Forall₂ m.Restricts (m.descriptor.primaryKey.zip key) rs := by
  refine runsOnce_run ?_ fun st hst => ?_
  · rw [← exists_bindKey_iff]
    constructor
    · rintro ⟨st, hst⟩
      obtain ⟨rs, hrs, -⟩ := (h st).mp hst
      exact ⟨rs, hrs⟩
    · rintro ⟨rs, hrs⟩
      exact ⟨_, (h _).mpr ⟨rs, hrs, rfl⟩⟩
  · obtain ⟨rs, hrs, hmake⟩ := (h st).mp hst
    exact ⟨rs, hmake, result_bindValues_eq_ok_iff.mp (result_bindKey_eq_ok_iff.mp hrs).2⟩

/-- A key with another number of values is refused before any of them is looked at. -/
theorem bindKey_of_length_ne (h : key.length ≠ m.descriptor.keyLength) : m.bindKey key =
    Traced.fail (.invalidPrimaryKey m.descriptor.keyLength key.length) := by
  rw [bindKey, if_neg h]

/-! ### What is made of the answer -/

/-- **An entity is made from the first row**, and only if this has a cell for each column. -/
theorem result_received_eq_some_iff {rows : List Row} :
    (m.received rows).result = .ok (some e) ↔ ∃ row rest, rows = row :: rest ∧
      row.size = m.descriptor.mappedColumns.length ∧
      (m.fill (m.descriptor.mappedColumns.zip row.cells) m.initial).result = .ok e := by
  cases rows with
  | nil => exact iff_of_false nofun (by rintro ⟨row, rest, h, -⟩; cases h)
  | cons row rest =>
    rw [received]
    split_ifs with hsize
    · simp only [Traced.result_bind_eq_ok_iff, Traced.result_pure_eq_ok_iff, Option.some.injEq,
        exists_eq_right, List.cons.injEq]
      constructor
      · intro hfill
        exact ⟨row, rest, ⟨rfl, rfl⟩, hsize, hfill⟩
      · rintro ⟨_, _, ⟨rfl, rfl⟩, -, hfill⟩
        exact hfill
    · refine iff_of_false nofun ?_
      rintro ⟨row', rest', h, hrow, -⟩
      cases h
      exact hsize hrow

/-! ### The operations -/

/-- **What the operations of a mapper do to a session.** -/
structure IsAllOrNothing (m : Mapper) : Prop where
  /-- No property is met twice among those of the table. -/
  nodup_names : (m.descriptor.properties.map (·.name)).Nodup
  /-- The key has as many parts as it should have values. -/
  keyLength : m.descriptor.primaryKey.length = m.descriptor.keyLength
  /-- Saving needs every property that is stored and not computed to be read and written. The
  insertion has a column for each of them, in the order of the table. -/
  save : ∀ e, RunsOnce (fun _ session => m.save session e)
    (∀ p ∈ m.descriptor.properties, ¬p.isTransient → ¬p.isComputed →
      ∃ v, p.get e = .ok v ∧ m.CanWrite p v)
    fun st => ∃ columns, .insert m.keyspace m.table columns = st ∧
      List.Forall₂ (m.Binds e)
        (m.descriptor.properties.filter fun p => !p.isTransient && !p.isComputed) columns
  /-- Fetching needs a key that can be bound. The selection asks for the column of each property
  that is stored, in the order of the table. -/
  get : ∀ key, RunsOnce (fun _ session => m.get session key) (m.CanBind key) fun st =>
    ∃ restrictions, .select m.keyspace m.table
        ((m.descriptor.properties.filter fun p => !p.isTransient).map (·.columnName))
        restrictions = st ∧
      List.Forall₂ m.Restricts (m.descriptor.primaryKey.zip key) restrictions
  /-- So does removing. -/
  delete : ∀ key, RunsOnce (fun _ session => m.delete session key) (m.CanBind key) fun st =>
    ∃ restrictions, .delete m.keyspace m.table restrictions = st ∧
      List.Forall₂ m.Restricts (m.descriptor.primaryKey.zip key) restrictions
  /-- A key with another number of values is refused for this, before any of them is looked at. -/
  invalidPrimaryKey : ∀ key : List Value, key.length ≠ m.descriptor.keyLength →
    ∀ (σ : Type) (session : Session σ) (s : σ),
      m.get session key s =
        (Traced.fail (.invalidPrimaryKey m.descriptor.keyLength key.length), s) ∧
      m.delete session key s =
        (Traced.fail (.invalidPrimaryKey m.descriptor.keyLength key.length), s)
  /-- An entity is made from the first row of the answer, if this has a cell for each column, by
  putting each cell into the property of this column. -/
  entity : ∀ (key : List Value) (σ : Type) (session : Session σ) (s : σ) (e : Entity),
    (m.get session key s).1.result = .ok (some e) ↔
      ∃ st row rest, (m.selection key).result = .ok st ∧
        (session.execute st s).1 = .ok (row :: rest) ∧
        row.size = m.descriptor.mappedColumns.length ∧
        (m.fill (m.descriptor.mappedColumns.zip row.cells) m.initial).result = .ok e

theorem result_get_eq_some_iff {σ : Type} {session : Session σ} {s : σ} :
    (m.get session key s).1.result = .ok (some e) ↔
      ∃ st row rest, (m.selection key).result = .ok st ∧
        (session.execute st s).1 = .ok (row :: rest) ∧
        row.size = m.descriptor.mappedColumns.length ∧
        (m.fill (m.descriptor.mappedColumns.zip row.cells) m.initial).result = .ok e := by
  rw [get]
  cases hselection : (m.selection key).result with
  | error err =>
    rw [(run_of_error hselection session m.received s).1]
    exact iff_of_false nofun (by rintro ⟨st, row, rest, hst, -⟩; cases hst)
  | ok st =>
    rw [(run_of_ok hselection session m.received s).1]
    change ((session.execute st s).1.mapError .session >>= fun rows => (m.received rows).result) =
      .ok (some e) ↔ _
    simp only [Except.bind_eq_ok_iff, Except.mapError_eq_ok_iff, result_received_eq_some_iff]
    constructor
    · rintro ⟨rows, hrows, row, rest, rfl, hsize, hfill⟩
      exact ⟨st, row, rest, rfl, hrows, hsize, hfill⟩
    · rintro ⟨st', row, rest, hst, hrows, hsize, hfill⟩
      cases hst
      exact ⟨_, hrows, row, rest, rfl, hsize, hfill⟩

/-- **The operations on every table are all or nothing**: a statement is run, once and as a whole,
or else nothing is asked of the session. -/
theorem isAllOrNothing_of_build {d : ClassDecl} {config : Config}
    (h : (Descriptor.build d .table config).result = .ok m.descriptor) : m.IsAllOrNothing where
  nodup_names := (Descriptor.isWellFormed_of_build (by decide) h).1.nodup_names
  keyLength := (Descriptor.hasOrderedKey_of_build h).keyLength
  save e := by
    refine runsOnce_run (exists_insertion_iff.trans ?_) fun st hst => ?_
    · simp [written_eq]
    · obtain ⟨columns, hcolumns, hinsert⟩ := result_insertion_eq_ok_iff.mp hst
      exact ⟨columns, hinsert, m.written_eq ▸ hcolumns⟩
  get key := runsOnce_run_of_bindKey fun _ => result_selection_eq_ok_iff
  delete key := runsOnce_run_of_bindKey fun _ => result_deletion_eq_ok_iff
  invalidPrimaryKey key hkey σ session s := by
    rw [Mapper.get, Mapper.delete, selection, deletion, bindKey_of_length_ne hkey]
    exact ⟨rfl, rfl⟩
  entity key σ session s e := result_get_eq_some_iff

open Samples in
/-- An account is written in one statement. With a word for its number, or without a number, nothing
is asked of the session. -/
theorem isAllOrNothing_account :
    (Descriptor.build accounts .table {}).result = .ok accountMapper.descriptor ∧
      accountMapper.IsAllOrNothing ∧
      (∃ st, (accountMapper.save Session.memory.recording unseenAccount ([], [])).2.1 = [st]) ∧
      (accountMapper.get Session.memory.recording [.text "acme", .text "seven"] ([], [])).2 =
        ([], []) ∧
      accountMapper.delete Session.memory.recording [.text "acme"] ([], []) =
        (Traced.fail (.invalidPrimaryKey 2 1), [], []) := by
  have hall := isAllOrNothing_of_build result_build_accounts
  refine ⟨result_build_accounts, hall, ?_, ?_,
    (hall.invalidPrimaryKey [.text "acme"] (by decide) _ _ _).2⟩
  · by_contra hnone
    have hnot := fun h => hnone (((hall.save unseenAccount).one_of h).imp fun st hst =>
      (hst.2 _ Session.memory []).2 [])
    obtain ⟨err, herr⟩ := (hall.save unseenAccount).none_of_not hnot
    have hsave : (accountMapper.save Session.memory unseenAccount []).1.result = .ok () := rfl
    rw [(herr _ Session.memory []).1] at hsave
    cases hsave
  · have hrefused : ¬accountMapper.CanBind [.text "acme", .text "seven"] := by
      rw [← exists_bindKey_iff]
      rintro ⟨rs, hrs⟩
      cases hrs
    obtain ⟨err, herr⟩ := (hall.get [.text "acme", .text "seven"]).none_of_not hrefused
    exact (herr _ Session.memory.recording ([], [])).2

end Mapper

end WideColumn

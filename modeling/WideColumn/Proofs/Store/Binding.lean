import Mathlib
import WideColumn.Proofs.Outcome
import WideColumn.Proofs.Pairing
import WideColumn.Samples.Accounts

/-!
# How statements are made up and run

An operation makes up a statement and runs it. What comes before the statement can fail, and then
the session is left alone; what comes after it cannot undo that it was run.

The columns of a statement are made up one by one, each of them from one property, and so is an
entity from the cells of a row. So the columns stand place by place for the properties
(`WideColumn.Mapper.result_bindEntity_eq_ok_iff`), and if they cannot be made up then there is one
of them that cannot (`WideColumn.Mapper.exists_of_bindEntity_eq_error`).

* `WideColumn.Mapper.run_of_ok`, `WideColumn.Mapper.run_of_error`,
  `WideColumn.Mapper.run_recording_iff`: **a statement is run exactly if it has been made up**;
* `WideColumn.Mapper.result_cell_eq_ok_iff`, `WideColumn.Mapper.result_cell_eq_error_iff`: the cell of
  a value;
* `WideColumn.Mapper.Binds`: the column of a property, with what is in the entity;
* `WideColumn.Mapper.content`: the value of a cell.
-/

namespace WideColumn

namespace Mapper

variable {m : Mapper} {p : Property} {e : Entity} {v : Value} {cell : Cell} {err : Error}

/-! ### Running statements -/

section Run

variable {σ α : Type} {statement : Traced Error Statement} {st : Statement}

/-- A statement that has not been made up leaves the session alone. -/
theorem run_of_error (h : statement.result = .error err) (session : Session σ)
    (use : List Row → Traced Error α) (s : σ) :
    (run session statement use s).1.result = .error err ∧ (run session statement use s).2 = s := by
  obtain ⟨events, result⟩ := statement
  obtain rfl : result = .error err := h
  exact ⟨rfl, rfl⟩

/-- **A statement that has been made up is run**, and what is made of the answer does not matter to
the session. -/
theorem run_of_ok (h : statement.result = .ok st) (session : Session σ)
    (use : List Row → Traced Error α) (s : σ) :
    (run session statement use s).1.result =
        ((session.execute st s).1.mapError .session).bind (fun rows => (use rows).result) ∧
      (run session statement use s).2 = (session.execute st s).2 := by
  obtain ⟨events, result⟩ := statement
  obtain rfl : result = .ok st := h
  refine ⟨?_, rfl⟩
  exact Traced.result_bind ((Traced.ofExcept (session.execute st s).1).mapError .session) use

/-- **The statement that is seen to be run** is the one that has been made up. -/
theorem run_recording_iff {session : Session σ} {use : List Row → Traced Error α}
    {log : List Statement} {s : σ} :
    (run session.recording statement use (log, s)).2.1 = log ++ [st] ↔
      statement.result = .ok st := by
  cases hstatement : statement.result with
  | error err =>
    rw [(run_of_error hstatement session.recording use (log, s)).2]
    exact iff_of_false (fun h => by simp at h) nofun
  | ok st' =>
    rw [(run_of_ok hstatement session.recording use (log, s)).2]
    change log ++ [st'] = log ++ [st] ↔ _
    rw [List.append_cancel_left_eq, List.singleton_inj, Except.ok.injEq]

end Run

/-! ### Cells -/

/-- **The cell of a value**: none for a null, and otherwise what the codec writes. -/
theorem result_cell_eq_ok_iff : (m.cell p v).result = .ok cell ↔
    v = .null ∧ none = cell ∨
      v ≠ .null ∧ ∃ c, (m.codec p).result = .ok c ∧ ∃ bs, c.encode v = .ok bs ∧ some bs = cell := by
  rw [Mapper.cell]
  by_cases hv : v.isNull = true
  · have hnull : v = .null := Value.isNull_iff.mp hv
    rw [if_pos hv, Traced.result_pure_eq_ok_iff, and_iff_right hnull]
    exact (or_iff_left fun h => h.1 hnull).symm
  · have hne : v ≠ .null := mt Value.isNull_iff.mpr hv
    rw [if_neg hv, and_iff_right hne, or_iff_right fun h => hne h.1]
    simp only [Traced.result_bind_eq_ok_iff, Traced.result_mapError, Traced.result_ofExcept,
      Except.mapError_eq_ok_iff, Traced.result_pure_eq_ok_iff]

/-- Why a value has no cell: there is no codec, or the codec cannot write it. -/
theorem result_cell_eq_error_iff : (m.cell p v).result = .error err ↔
    v ≠ .null ∧ ((m.codec p).result = .error err ∨
      ∃ c, (m.codec p).result = .ok c ∧ ∃ cause, c.encode v = .error cause ∧
        .codec cause = err) := by
  rw [Mapper.cell]
  by_cases hv : v.isNull = true
  · have hnull : v = .null := Value.isNull_iff.mp hv
    rw [if_pos hv]
    exact iff_of_false (by simp) fun h => h.1 hnull
  · have hne : v ≠ .null := mt Value.isNull_iff.mpr hv
    rw [if_neg hv, and_iff_right hne]
    simp only [Traced.result_bind_eq_error_iff, Traced.result_mapError, Traced.result_ofExcept,
      Except.mapError_eq_error_iff, Traced.result_pure, reduceCtorEq, and_false, exists_false,
      or_false]

/-- The value of a cell, as it is put into a property. -/
def content (m : Mapper) (p : Property) : Cell → Traced Error Value
  | none => pure .null
  | some bs => do
    let c ← m.codec p
    (Traced.ofExcept (c.decode bs)).mapError .codec

/-- An entity is filled cell by cell. -/
theorem result_fill_cons_eq_ok_iff {pcs : List (Property × Cell)} {e' : Entity} :
    (m.fill ((p, cell) :: pcs) e).result = .ok e' ↔ ∃ v, (m.content p cell).result = .ok v ∧
      ∃ e₁, p.set e v = .ok e₁ ∧ (m.fill pcs e₁).result = .ok e' := by
  cases cell with
  | none =>
    rw [fill, content]
    simp only [Traced.result_bind_eq_ok_iff, Traced.result_mapError, Traced.result_ofExcept,
      Except.mapError_eq_ok_iff, Traced.result_pure_eq_ok_iff]
  | some bs =>
    rw [fill, content]
    simp only [Traced.result_bind_eq_ok_iff, Traced.result_mapError, Traced.result_ofExcept,
      Except.mapError_eq_ok_iff]
    constructor
    · rintro ⟨c, hc, v, hv, hset⟩
      exact ⟨v, ⟨c, hc, hv⟩, hset⟩
    · rintro ⟨v, ⟨c, hc, hv⟩, hset⟩
      exact ⟨c, hc, v, hv, hset⟩

/-! ### Columns -/

/-- **The column of a property**: its cell is that of the value in the entity. -/
def Binds (m : Mapper) (e : Entity) (p : Property) (column : BoundColumn) : Prop :=
  column.name = p.columnName ∧ ∃ v, p.get e = .ok v ∧ (m.cell p v).result = .ok column.cell

/-- **The columns stand for the properties place by place.** -/
theorem result_bindEntity_eq_ok_iff {ps : List Property} {columns : List BoundColumn} :
    (m.bindEntity e ps).result = .ok columns ↔ List.Forall₂ (m.Binds e) ps columns := by
  induction ps generalizing columns with
  | nil =>
    rw [bindEntity, Traced.result_pure_eq_ok_iff, List.forall₂_nil_left_iff, eq_comm]
  | cons p ps ih =>
    simp only [bindEntity, Traced.result_bind_eq_ok_iff, Traced.result_mapError,
      Traced.result_ofExcept, Except.mapError_eq_ok_iff, Traced.result_pure_eq_ok_iff, ih,
      List.forall₂_cons_left_iff]
    constructor
    · rintro ⟨v, hv, cell, hcell, columns, hcolumns, rfl⟩
      exact ⟨_, columns, ⟨rfl, v, hv, hcell⟩, hcolumns, rfl⟩
    · rintro ⟨⟨_, cell⟩, columns, ⟨rfl, v, hv, hcell⟩, hcolumns, rfl⟩
      exact ⟨v, hv, cell, hcell, columns, hcolumns, rfl⟩

/-- **If the columns cannot be made up then one of them cannot.** -/
theorem exists_of_bindEntity_eq_error {ps : List Property}
    (h : (m.bindEntity e ps).result = .error err) :
    ∃ p ∈ ps, (∃ cause, p.get e = .error cause ∧ .property cause = err) ∨
      ∃ v, p.get e = .ok v ∧ (m.cell p v).result = .error err := by
  induction ps with
  | nil => cases h
  | cons p ps ih =>
    simp only [bindEntity, Traced.result_bind_eq_error_iff, Traced.result_mapError,
      Traced.result_ofExcept, Except.mapError_eq_error_iff, Except.mapError_eq_ok_iff,
      Traced.result_pure, reduceCtorEq, and_false, exists_false, or_false] at h
    rcases h with hget | ⟨v, hv, hcell | ⟨cell, -, hrest⟩⟩
    · exact ⟨p, List.mem_cons_self, Or.inl hget⟩
    · exact ⟨p, List.mem_cons_self, Or.inr ⟨v, hv, hcell⟩⟩
    · obtain ⟨q, hq, hfails⟩ := ih hrest
      exact ⟨q, List.mem_cons_of_mem p hq, hfails⟩

/-! ### Statements -/

/-- The insertion of an entity writes the columns of the properties that are written. -/
theorem result_insertion_eq_ok_iff {st : Statement} : (m.insertion e).result = .ok st ↔
    ∃ columns, List.Forall₂ (m.Binds e) m.written columns ∧
      .insert m.keyspace m.table columns = st := by
  simp only [insertion, Traced.result_bind_eq_ok_iff, result_bindEntity_eq_ok_iff,
    Traced.result_note, Traced.result_pure_eq_ok_iff, true_and, exists_const]

theorem result_insertion_eq_error_iff : (m.insertion e).result = .error err ↔
    (m.bindEntity e m.written).result = .error err := by
  simp only [insertion, Traced.result_bind_eq_error_iff, Traced.result_note, Traced.result_pure,
    reduceCtorEq, and_false, exists_false, or_false]

/-- The selection of a key asks for all stored columns. -/
theorem result_selection_eq_ok_iff {key : List Value} {st : Statement} :
    (m.selection key).result = .ok st ↔ ∃ restrictions, (m.bindKey key).result = .ok restrictions ∧
      .select m.keyspace m.table (m.descriptor.mappedColumns.map (·.columnName)) restrictions =
        st := by
  simp only [selection, Traced.result_bind_eq_ok_iff, Traced.result_pure_eq_ok_iff]

/-- The deletion of a key is about the same row. -/
theorem result_deletion_eq_ok_iff {key : List Value} {st : Statement} :
    (m.deletion key).result = .ok st ↔ ∃ restrictions, (m.bindKey key).result = .ok restrictions ∧
      .delete m.keyspace m.table restrictions = st := by
  simp only [deletion, Traced.result_bind_eq_ok_iff, Traced.result_note,
    Traced.result_pure_eq_ok_iff, true_and, exists_const]

end Mapper

/-- The table of accounts is the one that their class is mapped to. -/
theorem Samples.result_build_accounts :
    (Descriptor.build accounts .table {}).result = .ok accountMapper.descriptor := by
  cbv

end WideColumn

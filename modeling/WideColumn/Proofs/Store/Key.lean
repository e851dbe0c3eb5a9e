import Mathlib
import WideColumn.Proofs.AppType.Column
import WideColumn.Proofs.Codec.Kept
import WideColumn.Proofs.Mapping.Descriptor
import WideColumn.Proofs.Store.Binding
import WideColumn.Samples.Accounts

/-!
# The row of a key

An insertion goes through the properties in the order of their declaration, and writes those of the
key among them. Fetching and removing go through the key, part by part and in the order of its
positions, and are given values for it. Both make the column of a property from its value in the same
way, so the row that has been written is the row that is found, if the key is that of the entity.

Whether two keys lead to one row is a question about bytes. A part of a key is not told apart from
another value of which bytes keep the same (`WideColumn.Property.kept`), and from no other; null is
told apart from every value, also from those that take no bytes.

* `WideColumn.Descriptor.HasOrderedKey`: the key of a table, as its properties declare it;
* `WideColumn.Mapper.bindKey_of_binds`: **the key of an entity is bound as the entity is**;
* `WideColumn.Mapper.cell_inj`, `WideColumn.Mapper.bindKey_inj`: which keys have one row;
* `WideColumn.Mapper.one_row_for_each_key`: **all operations lead to the row of the key, and different
  keys to different rows**.
-/

namespace WideColumn

/-! ### The key of a table -/

/-- **The key of a table**: the properties of the partition key and then the clustering columns, those
that are declared as such and each part in the order of the positions, which are `0`, `1`, and so
on. -/
structure Descriptor.HasOrderedKey (desc : Descriptor) : Prop where
  partition : desc.partitionKey.Perm (desc.properties.filter (·.isPartitionKey))
  clustering : desc.clusteringColumns.Perm (desc.properties.filter (·.isClusteringColumn))
  partition_positions : desc.partitionKey.map (·.position.toInt) =
    (List.range desc.partitionKey.length).map (↑)
  clustering_positions : desc.clusteringColumns.map (·.position.toInt) =
    (List.range desc.clusteringColumns.length).map (↑)
  keyLength : desc.primaryKey.length = desc.keyLength

namespace Descriptor

variable {d : ClassDecl} {config : Config} {desc : Descriptor} {p : Property}

/-- **The key of every table is in order.** -/
theorem hasOrderedKey_of_build (h : (build d .table config).result = .ok desc) :
    desc.HasOrderedKey := by
  obtain ⟨-, -, partition, clustering, keyspace, hpartition, hclustering, -, rfl⟩ :=
    (result_build_eq_ok_iff (by decide)).mp h
  exact {
    partition := filterMap_perm_of_orderedKey hpartition
    clustering := filterMap_perm_of_orderedKey hclustering
    partition_positions := positions_of_orderedKey hpartition
    clustering_positions := positions_of_orderedKey hclustering
    keyLength := by
      rw [primaryKey, List.length_append]
      exact congrArg₂ _ (isKey_of_orderedKey hpartition).length_filterMap
        (isKey_of_orderedKey hclustering).length_filterMap }

/-- What is part of a key is stored, and not computed. -/
theorem HasOrderedKey.mem_stored (h : desc.HasOrderedKey) (hp : p ∈ desc.primaryKey) :
    p ∈ desc.mappedColumns ∧ ¬p.isComputed := by
  have hkey : p ∈ desc.properties ∧ (p.isPartitionKey ∨ p.isClusteringColumn) := by
    rcases List.mem_append.mp hp with hp | hp
    · have := List.mem_filter.mp (h.partition.mem_iff.mp hp)
      exact ⟨this.1, .inl this.2⟩
    · have := List.mem_filter.mp (h.clustering.mem_iff.mp hp)
      exact ⟨this.1, .inr this.2⟩
  obtain ⟨hmem, hkey⟩ := hkey
  change p.role.isPartitionKey ∨ p.role.isClusteringColumn at hkey
  have hrole : ¬p.role.isTransient ∧ ¬p.role.isComputed := by
    cases hrole : p.role with
    | partitionKey | clusteringColumn => exact ⟨nofun, nofun⟩
    | _ => simp [hrole, PropertyRole.isPartitionKey, PropertyRole.isClusteringColumn] at hkey
  refine ⟨List.mem_filter.mpr ⟨hmem, ?_⟩, hrole.2⟩
  rw [Bool.not_eq_true']
  exact Bool.eq_false_iff.mpr hrole.1

end Descriptor

/-! ### The parts of a key -/

/-- **What bytes keep of a value of a property**, where there is a column type for it. -/
def Property.kept (p : Property) (v : Value) : Value :=
  match Registry.columnTypeFor p.appType with
  | .ok t => t.kept v
  | .error _ => v

theorem Property.kept_eq_null_iff {p : Property} {v : Value} : p.kept v = .null ↔ v = .null := by
  rw [Property.kept]
  split
  · exact ColumnType.kept_eq_null_iff
  · exact Iff.rfl

namespace Mapper

variable {m : Mapper} {p : Property} {ps : List Property} {e : Entity} {key key' : List Value}
  {columns restrictions restrictions' : List BoundColumn}

/-! ### Keys that are bound -/

/-- The columns of values, one by one. -/
theorem result_bindValues_cons_eq_ok_iff {v : Value} {pvs : List (Property × Value)} :
    (m.bindValues ((p, v) :: pvs)).result = .ok columns ↔
      ∃ cell, (m.cell p v).result = .ok cell ∧ ∃ rest, (m.bindValues pvs).result = .ok rest ∧
        ⟨p.columnName, cell⟩ :: rest = columns := by
  simp only [bindValues, Traced.result_bind_eq_ok_iff, Traced.result_pure_eq_ok_iff]

/-- A key is bound if it has as many values as it should, and then part by part. -/
theorem result_bindKey_eq_ok_iff : (m.bindKey key).result = .ok restrictions ↔
    key.length = m.descriptor.keyLength ∧
      (m.bindValues (m.descriptor.primaryKey.zip key)).result = .ok restrictions := by
  rw [bindKey]
  split_ifs with h
  · exact (and_iff_right h).symm
  · exact iff_of_false nofun fun hkey => h hkey.1

/-- Values that an entity has for properties are bound as the entity is. -/
theorem bindValues_of_binds (h : List.Forall₂ (m.Binds e) ps restrictions)
    (hkey : List.Forall₂ (fun p v => p.get e = .ok v) ps key) :
    (m.bindValues (ps.zip key)).result = .ok restrictions := by
  induction h generalizing key with
  | nil => rfl
  | @cons p column ps columns hcolumn _ ih =>
    cases hkey with
    | cons hv hkey =>
      obtain ⟨hname, v, hv', hcell⟩ := hcolumn
      obtain rfl := Except.ok.inj (hv'.symm.trans hv)
      rw [List.zip_cons_cons, result_bindValues_cons_eq_ok_iff]
      exact ⟨column.cell, hcell, columns, ih hkey, by rw [← hname]⟩

/-- **The key of an entity is bound as the entity is**: what is written for its properties is what
the row is looked for with. -/
theorem bindKey_of_binds (hm : m.descriptor.HasOrderedKey)
    (h : List.Forall₂ (m.Binds e) m.written columns) :
    ∃ key restrictions, List.Forall₂ (fun p v => p.get e = .ok v) m.descriptor.primaryKey key ∧
      List.Forall₂ (fun p r => (p, r) ∈ m.written.zip columns) m.descriptor.primaryKey
        restrictions ∧ (m.bindKey key).result = .ok restrictions := by
  -- what is part of the key is written, so it has a column
  have hwritten : ∀ p ∈ m.descriptor.primaryKey, ∃ r, (p, r) ∈ m.written.zip columns := by
    intro p hp
    have hp : p ∈ m.written := by
      obtain ⟨hstored, hcomputed⟩ := hm.mem_stored hp
      exact List.mem_filter.mpr ⟨hstored, by simpa using hcomputed⟩
    rw [← List.map_fst_zip h.length_eq.le] at hp
    obtain ⟨pr, hpr, rfl⟩ := List.mem_map.mp hp
    exact ⟨pr.2, hpr⟩
  obtain ⟨restrictions, hrestrictions⟩ := List.exists_forall₂_iff.mpr hwritten
  have hbinds : List.Forall₂ (m.Binds e) m.descriptor.primaryKey restrictions :=
    hrestrictions.flip.imp fun _ _ hpr => List.forall₂_zip h hpr
  have hvalues : ∀ p ∈ m.descriptor.primaryKey, ∃ v, p.get e = .ok v :=
    hbinds.forall_mem_left fun p r hbinds => hbinds.2.imp fun v hv => hv.1
  obtain ⟨key, hkey⟩ := List.exists_forall₂_iff.mpr hvalues
  refine ⟨key, restrictions, hkey.flip, hrestrictions.flip, result_bindKey_eq_ok_iff.mpr ⟨?_, ?_⟩⟩
  · rw [hkey.length_eq, hm.keyLength]
  · exact bindValues_of_binds hbinds hkey.flip

/-! ### Keys with one row -/

variable {v w : Value} {cell cell' : Cell} {c : Codec}

/-- The codec of a property is the one of its column type, in the standard registry. -/
theorem exists_columnTypeFor_of_codec (hregistry : m.registry = .standard)
    (hp : p.customCodec = none) (h : (m.codec p).result = .ok c) :
    ∃ t, Registry.columnTypeFor p.appType = .ok t ∧ t.codec = c := by
  rw [codec, hp, hregistry, Traced.result_mapError, Except.mapError_eq_ok_iff,
    Registry.result_codecFor_standard] at h
  exact Except.map_eq_ok_iff.mp h

/-- **Cells are equal** exactly if the same is kept of the values; null is told apart from all
others. -/
theorem cell_inj (hregistry : m.registry = .standard) (hp : p.customCodec = none)
    (hv : (m.cell p v).result = .ok cell) (hw : (m.cell p w).result = .ok cell') :
    cell = cell' ↔ p.kept v = p.kept w := by
  have hnull : p.kept .null = .null := Property.kept_eq_null_iff.mpr rfl
  rcases result_cell_eq_ok_iff.mp hv with ⟨rfl, rfl⟩ | ⟨hvnull, c, hc, bs, hbs, rfl⟩
  · rcases result_cell_eq_ok_iff.mp hw with ⟨rfl, rfl⟩ | ⟨hwnull, c, hc, bs, hbs, rfl⟩
    · exact iff_of_true rfl rfl
    · refine iff_of_false nofun fun h => hwnull ?_
      exact Property.kept_eq_null_iff.mp (h.symm.trans hnull)
  · rcases result_cell_eq_ok_iff.mp hw with ⟨rfl, rfl⟩ | ⟨hwnull, c', hc', bs', hbs', rfl⟩
    · refine iff_of_false nofun fun h => hvnull ?_
      exact Property.kept_eq_null_iff.mp (h.trans hnull)
    · -- both values are written by the codec of one column type
      obtain rfl := Except.ok.inj (hc.symm.trans hc')
      obtain ⟨t, ht, rfl⟩ := exists_columnTypeFor_of_codec hregistry hp hc
      rw [Option.some.injEq, ColumnType.encode_inj hbs hbs', Property.kept, Property.kept, ht]

/-- Values for the same properties are bound to the same columns exactly if the same is kept of
them, one by one. -/
theorem bindValues_inj (hregistry : m.registry = .standard) (hps : ∀ p ∈ ps, p.customCodec = none)
    (hkey : key.length = ps.length) (hkey' : key'.length = ps.length)
    (h : (m.bindValues (ps.zip key)).result = .ok restrictions)
    (h' : (m.bindValues (ps.zip key')).result = .ok restrictions') :
    restrictions = restrictions' ↔
      List.zipWith Property.kept ps key = List.zipWith Property.kept ps key' := by
  induction ps generalizing key key' restrictions restrictions' with
  | nil =>
    rw [List.zip_nil_left, bindValues, Traced.result_pure_eq_ok_iff] at h h'
    exact iff_of_true (h.symm.trans h') rfl
  | cons p ps ih =>
    obtain ⟨v, key, rfl⟩ := List.exists_cons_of_length_eq_add_one hkey
    obtain ⟨w, key', rfl⟩ := List.exists_cons_of_length_eq_add_one hkey'
    obtain ⟨hp, hps⟩ := List.forall_mem_cons.mp hps
    obtain ⟨cell, hcell, rest, hrest, rfl⟩ := result_bindValues_cons_eq_ok_iff.mp h
    obtain ⟨cell', hcell', rest', hrest', rfl⟩ := result_bindValues_cons_eq_ok_iff.mp h'
    have hheads := cell_inj hregistry hp hcell hcell'
    have htails := ih hps (Nat.succ.inj hkey) (Nat.succ.inj hkey') hrest hrest'
    rw [List.cons.injEq, BoundColumn.mk.injEq, and_iff_right rfl, hheads, htails,
      List.zipWith_cons_cons, List.zipWith_cons_cons, List.cons.injEq]

/-- **Keys are bound to one row** exactly if the same is kept of their parts. -/
theorem bindKey_inj (hm : m.descriptor.HasOrderedKey) (hregistry : m.registry = .standard)
    (hcustom : ∀ p ∈ m.descriptor.primaryKey, p.customCodec = none)
    (h : (m.bindKey key).result = .ok restrictions)
    (h' : (m.bindKey key').result = .ok restrictions') :
    restrictions = restrictions' ↔
      List.zipWith Property.kept m.descriptor.primaryKey key =
        List.zipWith Property.kept m.descriptor.primaryKey key' := by
  obtain ⟨hlength, h⟩ := result_bindKey_eq_ok_iff.mp h
  obtain ⟨hlength', h'⟩ := result_bindKey_eq_ok_iff.mp h'
  rw [← hm.keyLength] at hlength hlength'
  exact bindValues_inj hregistry hcustom hlength hlength' h h'

/-! ### All operations -/

/-- **One row for each key.** The key of a table is in the order of its positions. Whenever saving an
entity runs an insertion, fetching and removing by the key of this entity are restricted to the very
columns that have been inserted for the properties of the key. And in the standard registry, where no
part of the key has a codec of its own, keys that can be bound lead to one row exactly if bytes keep
the same of them, part by part. -/
theorem one_row_for_each_key {d : ClassDecl} {config : Config}
    (h : (Descriptor.build d .table config).result = .ok m.descriptor) :
    m.descriptor.HasOrderedKey ∧
    (∀ {σ : Type} (session : Session σ) (log : List Statement) (s : σ) (e : Entity)
        (keyspace table : String) (columns : List BoundColumn),
      (m.save session.recording e (log, s)).2.1 = log ++ [.insert keyspace table columns] →
      ∃ key restrictions, List.Forall₂ (fun p v => p.get e = .ok v) m.descriptor.primaryKey key ∧
        List.Forall₂ (fun p r => (p, r) ∈ m.written.zip columns) m.descriptor.primaryKey
          restrictions ∧
        ∀ {τ : Type} (session' : Session τ) (log' : List Statement) (s' : τ),
          (m.get session'.recording key (log', s')).2.1 = log' ++ [.select keyspace table
            (m.descriptor.mappedColumns.map (·.columnName)) restrictions] ∧
          (m.delete session'.recording key (log', s')).2.1 =
            log' ++ [.delete keyspace table restrictions]) ∧
    (m.registry = .standard → (∀ p ∈ m.descriptor.primaryKey, p.customCodec = none) →
      ∀ key key' restrictions restrictions', (m.bindKey key).result = .ok restrictions →
        (m.bindKey key').result = .ok restrictions' →
        (restrictions = restrictions' ↔
          List.zipWith Property.kept m.descriptor.primaryKey key =
            List.zipWith Property.kept m.descriptor.primaryKey key')) := by
  have hm : m.descriptor.HasOrderedKey := Descriptor.hasOrderedKey_of_build h
  refine ⟨hm, ?_, fun hregistry hcustom key key' restrictions restrictions' hbind hbind' =>
    bindKey_inj hm hregistry hcustom hbind hbind'⟩
  intro σ session log s e keyspace table columns hsave
  obtain ⟨columns', hcolumns, hinsert⟩ := result_insertion_eq_ok_iff.mp (run_recording_iff.mp hsave)
  obtain ⟨rfl, rfl, rfl⟩ := Statement.insert.inj hinsert
  obtain ⟨key, restrictions, hkey, hrestrictions, hbind⟩ := bindKey_of_binds hm hcolumns
  refine ⟨key, restrictions, hkey, hrestrictions, fun session' log' s' => ⟨?_, ?_⟩⟩
  · exact run_recording_iff.mpr (result_selection_eq_ok_iff.mpr ⟨restrictions, hbind, rfl⟩)
  · exact run_recording_iff.mpr (result_deletion_eq_ok_iff.mpr ⟨restrictions, hbind, rfl⟩)

open Samples in
/-- The row of an account is found and removed by its tenant and its number; another number leads to
another row. -/
theorem one_row_for_each_key_account :
    (Descriptor.build accounts .table {}).result = .ok accountMapper.descriptor ∧
      ∃ columns restrictions,
        (accountMapper.save Session.memory.recording unseenAccount ([], [])).2.1 =
          [.insert "crm" "accounts" columns] ∧
        (accountMapper.get Session.memory.recording [.text "acme", .int 7] ([], [])).2.1 =
          [.select "crm" "accounts" ["tenant", "id", "contact_email", "tags", "seen"]
            restrictions] ∧
        (accountMapper.delete Session.memory.recording [.text "acme", .int 7] ([], [])).2.1 =
          [.delete "crm" "accounts" restrictions] ∧
        (∀ r ∈ restrictions, r ∈ columns) ∧
        (accountMapper.bindKey [.text "acme", .int 8]).result ≠ .ok restrictions := by
  let columns : List BoundColumn :=
    [⟨"tenant", some [97, 99, 109, 101]⟩, ⟨"id", some [0, 0, 0, 7]⟩,
      ⟨"contact_email", some [111, 112, 115]⟩,
      ⟨"tags", some [0, 0, 0, 2, 0, 0, 0, 5, 97, 100, 109, 105, 110, 0, 0, 0, 7, 98, 105, 108, 108,
        105, 110, 103]⟩,
      ⟨"seen", none⟩]
  have hsave : (accountMapper.save Session.memory.recording unseenAccount ([], [])).2.1 =
      [] ++ [.insert "crm" "accounts" columns] := rfl
  obtain ⟨-, hrow, hdistinct⟩ := one_row_for_each_key result_build_accounts
  obtain ⟨key, restrictions, hkey, hrestrictions, hoperations⟩ := hrow _ _ _ _ _ _ _ hsave
  obtain rfl : key = [.text "acme", .int 7] := by
    have hget : List.Forall₂ (fun p v => p.get unseenAccount = .ok v)
        accountMapper.descriptor.primaryKey [.text "acme", .int 7] := .cons rfl (.cons rfl .nil)
    exact List.right_unique_forall₂' (fun _ _ _ hv hw => Except.ok.inj (hv.symm.trans hw)) hkey hget
  obtain ⟨hselect, hdelete⟩ := hoperations Session.memory [] []
  have hcolumns : ∀ r ∈ restrictions, r ∈ columns :=
    hrestrictions.forall_mem_right fun _ _ hmem => (List.of_mem_zip hmem).2
  refine ⟨result_build_accounts, columns, restrictions, hsave, hselect, hdelete, hcolumns,
    fun hother => ?_⟩
  obtain ⟨restrictions', hbind, hstatement⟩ :=
    result_deletion_eq_ok_iff.mp (run_recording_iff.mp hdelete)
  obtain ⟨-, -, rfl⟩ := Statement.delete.inj hstatement
  have hcustom : ∀ p ∈ accountMapper.descriptor.primaryKey, p.customCodec = none := by
    change ∀ p ∈ [_, _], _
    simp [accountProperty]
  have hkept : [Value.text "acme", .int 7] = [.text "acme", .int 8] :=
    (hdistinct rfl hcustom _ _ _ _ hbind hother).mp rfl
  simp at hkept

end Mapper

end WideColumn

import Mathlib
import WideColumn.Proofs.Registry.ServerType

/-!
# Application types and their columns

Two tables lead from one side to the other: the kind of column for each primitive type, and the
primitive type of the values of each kind. They are not inverse to each other, since several kinds
hold values of one type. But whoever starts from an application type gets back to it, whatever the
nesting: the codec that is found is for values of this type.

There is no codec if somewhere in the type there is one that no column is for, and the first such
type from the left is what the error names.

* `WideColumn.AppType.leaves`: the types in an application type that are not collections;
* `WideColumn.AppType.lacksColumn`: the types that no column is for;
* `WideColumn.Registry.columnTypeFor_of_find?`: the type that is reported;
* `WideColumn.Registry.exists_columnTypeFor`: **the column type leads back**;
* `WideColumn.Registry.codecFor_leads_back`: the same of codecs, and of every column type.
-/

namespace WideColumn

namespace AppType

/-- **The types in a type that are not collections**, from left to right. -/
def leaves : AppType → List AppType
  | list e => e.leaves
  | set e => e.leaves
  | map k v => k.leaves ++ v.leaves
  | a => [a]

/-- **No kind of column is for the values of the type**: they may be any values or any numbers, or
they are those of a class. -/
def lacksColumn : AppType → Bool
  | any | number | udt _ | foreign _ => true
  | primitive _ | list _ | set _ | map _ _ => false

end AppType

/-- The values of a column are made of primitive ones. -/
theorem ColumnType.leaves_appType (t : ColumnType) :
    t.appType.leaves = t.leaves.map ScalarKind.appType := by
  induction t with
  | scalar k => rfl
  | list e ih | set e ih => exact ih
  | map k v ihk ihv => rw [appType, AppType.leaves, ihk, ihv, leaves, List.map_append]

namespace Registry

open AppType (lacksColumn)

variable {a b : AppType}

/-! ### The column type of an application type -/

/-- The column for the values of a primitive type holds such values. -/
theorem primitive_kindFor (p : Primitive) : (kindFor p).primitive = p := by
  cases p <;> rfl

/-- **The column type leads back** to the application type it was found for. -/
theorem exists_columnTypeFor (h : a.leaves.find? lacksColumn = none) :
    ∃ t, columnTypeFor a = .ok t ∧ t.appType = a := by
  induction a with
  | any | number | udt name | foreign name =>
    exact absurd rfl (List.find?_eq_none.mp h _ (List.mem_singleton_self _))
  | primitive p => exact ⟨_, rfl, congrArg AppType.primitive (primitive_kindFor p)⟩
  | list e ih =>
    obtain ⟨t, ht, rfl⟩ := ih h
    exact ⟨.list t, Except.bind_eq_ok_iff.mpr ⟨t, ht, rfl⟩, rfl⟩
  | set e ih =>
    obtain ⟨t, ht, rfl⟩ := ih h
    exact ⟨.set t, Except.bind_eq_ok_iff.mpr ⟨t, ht, rfl⟩, rfl⟩
  | map k v ihk ihv =>
    rw [AppType.leaves, List.find?_append, Option.or_eq_none_iff] at h
    obtain ⟨t, ht, rfl⟩ := ihk h.1
    obtain ⟨u, hu, rfl⟩ := ihv h.2
    refine ⟨.map t u, Except.bind_eq_ok_iff.mpr ⟨t, ht, ?_⟩, rfl⟩
    exact Except.bind_eq_ok_iff.mpr ⟨u, hu, rfl⟩

/-- **The type that is reported** is the first one that no column is for. -/
theorem columnTypeFor_of_find? (h : a.leaves.find? lacksColumn = some b) :
    columnTypeFor a = .error (.unrepresentable b) := by
  induction a with
  | any | number | udt name | foreign name =>
    obtain rfl := List.mem_singleton.mp (List.mem_of_find?_eq_some h)
    rfl
  | primitive p =>
    obtain rfl := List.mem_singleton.mp (List.mem_of_find?_eq_some h)
    exact absurd (List.find?_some h) Bool.false_ne_true
  | list e ih | set e ih =>
    rw [columnTypeFor, ih h]
    rfl
  | map k v ihk ihv =>
    rw [AppType.leaves, List.find?_append, Option.or_eq_some_iff] at h
    rcases h with hk | ⟨hk, hv⟩
    · rw [columnTypeFor, ihk hk]
      rfl
    · -- the key has a column type, so the value is looked at
      obtain ⟨t, ht, -⟩ := exists_columnTypeFor hk
      rw [columnTypeFor, ht, ihv hv]
      rfl

theorem exists_columnTypeFor_iff :
    (∃ t, columnTypeFor a = .ok t) ↔ a.leaves.find? lacksColumn = none :=
  Except.exists_eq_ok_iff_of_obstacle (fun _ => columnTypeFor_of_find?) fun h =>
    (exists_columnTypeFor h).imp fun _ => And.left

theorem columnTypeFor_eq_error_iff {e : TypeError} :
    columnTypeFor a = .error e ↔
      ∃ b, a.leaves.find? lacksColumn = some b ∧ .unrepresentable b = e :=
  Except.eq_error_iff_of_obstacle (fun _ => columnTypeFor_of_find?) exists_columnTypeFor_iff.mpr

theorem appType_of_columnTypeFor {t : ColumnType} (h : columnTypeFor a = .ok t) :
    t.appType = a := by
  obtain ⟨u, hu, happ⟩ := exists_columnTypeFor (exists_columnTypeFor_iff.mp ⟨t, h⟩)
  rwa [Except.ok.inj (h.symm.trans hu)]

/-- There is a column type for the values of every column, and they are of the same application type
as its own. -/
theorem exists_columnTypeFor_appType (t : ColumnType) :
    ∃ u, columnTypeFor t.appType = .ok u ∧ u.appType = t.appType := by
  refine exists_columnTypeFor ?_
  rw [t.leaves_appType, List.find?_eq_none]
  intro b hb
  obtain ⟨k, -, rfl⟩ := List.mem_map.mp hb
  exact Bool.false_ne_true

/-! ### The codec of an application type -/

/-- In the standard registry every column type that is found has a codec. -/
theorem result_codecFor_standard (a : AppType) :
    (standard.codecFor a).result = (columnTypeFor a).map ColumnType.codec := by
  rw [codecFor, Traced.result_bind, Traced.result_ofExcept]
  cases columnTypeFor a with
  | error e => rfl
  | ok t => exact result_resolve_standard t

theorem exists_codecFor_standard_iff :
    (∃ c, (standard.codecFor a).result = .ok c) ↔ ∃ t, columnTypeFor a = .ok t := by
  rw [result_codecFor_standard]
  cases columnTypeFor a <;> simp [Except.map]

theorem codecFor_standard_eq_error_iff {e : TypeError} :
    (standard.codecFor a).result = .error e ↔ columnTypeFor a = .error e := by
  rw [result_codecFor_standard]
  cases columnTypeFor a <;> simp [Except.map]

/-- **Application types lead to columns and back.** In the standard registry there is a codec for an
application type exactly if there are columns for each type in it that is not a collection, and else
the first one from the left that no column is for is reported. The codec is that of the column type
that goes with the application type, and it is for values of this application type. Whoever starts
from a column type need not get back to it, but to one whose values have the same application
type. -/
theorem codecFor_leads_back (a : AppType) :
    ((∃ c, (standard.codecFor a).result = .ok c) ↔ ∀ b ∈ a.leaves, b.lacksColumn = false) ∧
      (∀ e, (standard.codecFor a).result = .error e ↔
        ∃ b, a.leaves.find? lacksColumn = some b ∧ .unrepresentable b = e) ∧
      (∀ c, (standard.codecFor a).result = .ok c ↔
        ∃ t, columnTypeFor a = .ok t ∧ (standard.resolve t).result = .ok c ∧
          c.columnType = t ∧ c.appType = a) ∧
      ∀ t : ColumnType, ∃ c u d, (standard.resolve t).result = .ok c ∧
        columnTypeFor c.appType = .ok u ∧ (standard.resolve u).result = .ok d ∧
        d.appType = c.appType := by
  refine ⟨?_, fun e => ?_, fun c => ?_, fun t => ?_⟩
  · rw [exists_codecFor_standard_iff, exists_columnTypeFor_iff, List.find?_eq_none]
    simp only [Bool.not_eq_true]
  · rw [codecFor_standard_eq_error_iff, columnTypeFor_eq_error_iff]
  · simp only [result_codecFor_standard, Except.map_eq_ok_iff, result_resolve_standard,
      Except.ok.injEq]
    refine exists_congr fun t => and_congr_right fun ht => ⟨?_, And.left⟩
    rintro rfl
    exact ⟨rfl, t.columnType_codec, t.appType_codec.trans (appType_of_columnTypeFor ht)⟩
  · obtain ⟨u, hu, happ⟩ := exists_columnTypeFor_appType t
    refine ⟨t.codec, u, u.codec, result_resolve_standard t, ?_, result_resolve_standard u, ?_⟩
    · rw [t.appType_codec, hu]
    · rw [t.appType_codec, u.appType_codec, happ]

end Registry

end WideColumn

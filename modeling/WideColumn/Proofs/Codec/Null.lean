import Mathlib
import WideColumn.Proofs.Codec.Collection
import WideColumn.Proofs.Codec.Scalar
import WideColumn.Proofs.Pairing
import WideColumn.Proofs.Value.Part
import WideColumn.Registry

/-!
# Nulls in collections

A collection with a null in it is not written, and the reader of collections refuses a part with a
negative length, which would stand for one. It passes on a part of length *zero*, however, and the
codecs of most scalar kinds take no bytes for a null. So a null can come out of a collection, and
the value cannot be written again.

Which bytes do this can be said without decoding them: those in which, at some depth, there is an
empty part of a kind that has no value of length zero (`WideColumn.ColumnType.HidesNull`). Empty
parts of the other kinds are empty texts or blobs, and empty parts that are collections are empty
collections.

* `WideColumn.ColumnType.decode_eq_ok_null_iff`: which bytes are a null on their own;
* `WideColumn.ColumnType.inside_null_iff`: **which bytes have a null inside them**;
* `WideColumn.Registry.inside_null_iff_hidesNull`: the same of the codec that a program finds;
* `WideColumn.Registry.not_forall_not_inside_null`: there are such bytes.
-/

namespace WideColumn

open Framing

namespace ColumnType

/-- **The bytes of a null**: none, of a kind whose values all take some. -/
def IsNull (t : ColumnType) (bs : Bytes) : Prop :=
  bs = [] ∧ ∃ k : ScalarKind, t = .scalar k ∧ k.allowsEmpty = false

/-- **Bytes with a null inside**: one of the parts is that of a null, or has one inside. -/
def HidesNull : ColumnType → Bytes → Prop
  | scalar _, _ => False
  | list e, bs => ∃ parts, IsDivided bs parts.length parts ∧
    ∃ part ∈ parts, e.IsNull part ∨ e.HidesNull part
  | set e, bs => ∃ parts, IsDivided bs parts.length parts ∧
    ∃ part ∈ parts, e.IsNull part ∨ e.HidesNull part
  | map k u, bs => ∃ pairs, IsDivided bs pairs.length (alternating pairs) ∧
    ∃ p ∈ pairs, (k.IsNull p.1 ∨ k.HidesNull p.1) ∨ (u.IsNull p.2 ∨ u.HidesNull p.2)

variable {t : ColumnType} {v : Value} {bs : Bytes}

/-- Collections are never null, and a scalar is if it has no bytes where it needs some. -/
theorem decode_eq_ok_null_iff : t.codec.decode bs = .ok .null ↔ t.IsNull bs := by
  constructor
  · intro h
    cases t with
    | scalar k =>
      rcases ScalarKind.decode_eq_ok_iff.mp h with ⟨hbs, hempty, -⟩ | hform
      · exact ⟨hbs, k, rfl, hempty⟩
      · exact absurd rfl hform.ne_null
    | list e =>
      obtain ⟨vs, -, hv⟩ := Codec.decode_list_eq_ok_iff.mp h
      exact absurd hv nofun
    | set e =>
      obtain ⟨vs, -, hv⟩ := Codec.decode_set_eq_ok_iff.mp h
      exact absurd hv nofun
    | map k u =>
      obtain ⟨es, -, hv⟩ := Codec.decode_map_eq_ok_iff.mp h
      exact absurd hv nofun
  · rintro ⟨hbs, k, rfl, hempty⟩
    exact ScalarKind.decode_eq_ok_iff.mpr (Or.inl ⟨hbs, hempty, rfl⟩)

/-- A value is null or has a null inside if its bytes do. -/
theorem occurs_null_iff (hinside : Value.Inside .null v ↔ t.HidesNull bs)
    (h : t.codec.decode bs = .ok v) : t.IsNull bs ∨ t.HidesNull bs ↔ Value.Occurs .null v := by
  rw [Value.occurs_iff, hinside, ← decode_eq_ok_null_iff, h, Except.ok.injEq, eq_comm]

/-- The elements of a list or set have a null among them or inside them if its parts do. -/
theorem exists_occurs_null_iff {e : ColumnType} {vs : List Value}
    (ih : ∀ {bs v}, e.codec.decode bs = .ok v → (Value.Inside .null v ↔ e.HidesNull bs))
    (hvs : IsElements e.codec.decode bs vs) :
    (∃ v ∈ vs, Value.Occurs .null v) ↔ ∃ parts, IsDivided bs parts.length parts ∧
      ∃ part ∈ parts, e.IsNull part ∨ e.HidesNull part := by
  obtain ⟨parts, hdivided, hvs⟩ := hvs
  rw [← hvs.exists_mem_iff fun part v h => occurs_null_iff (ih h) h]
  constructor
  · intro hnull
    exact ⟨parts, hdivided, hnull⟩
  · -- another division would do as well, if there were one
    rintro ⟨parts', hdivided', hnull⟩
    exact hdivided.unique hdivided' ▸ hnull

/-- **A decoded value has a null inside exactly if its bytes have one**, that is an empty part in a
place where only a null is empty. -/
theorem inside_null_iff (h : t.codec.decode bs = .ok v) :
    Value.Inside .null v ↔ t.HidesNull bs := by
  induction t generalizing bs v with
  | scalar k =>
    refine iff_of_false (Value.not_inside_of_parts_eq_nil ?_) id
    rcases ScalarKind.decode_eq_ok_iff.mp h with ⟨-, -, rfl⟩ | hform
    · rfl
    · exact hform.parts_eq_nil
  | list e ih =>
    obtain ⟨vs, hvs, rfl⟩ := Codec.decode_list_eq_ok_iff.mp h
    exact Value.inside_list.trans (exists_occurs_null_iff ih hvs)
  | set e ih =>
    obtain ⟨vs, hvs, rfl⟩ := Codec.decode_set_eq_ok_iff.mp h
    exact Value.inside_set.trans (exists_occurs_null_iff ih hvs)
  | map k u ihk ihu =>
    obtain ⟨es, ⟨pairs, hdivided, hes⟩, rfl⟩ := Codec.decode_map_eq_ok_iff.mp h
    rw [Value.inside_map, ← hes.exists_mem_iff fun p e h =>
      or_congr (occurs_null_iff (ihk h.1) h.1) (occurs_null_iff (ihu h.2) h.2)]
    constructor
    · intro hnull
      exact ⟨pairs, hdivided, hnull⟩
    · rintro ⟨pairs', hdivided', hnull⟩
      exact hdivided.unique_pairs hdivided' ▸ hnull

end ColumnType

namespace Registry

/-- **When a null comes out of a collection**: exactly if the bytes hold, at some depth, an empty
part of a kind that has no value of length zero. -/
theorem inside_null_iff_hidesNull {t : ColumnType} {c : Codec} {bs : Bytes} {v : Value}
    (hc : (standard.resolve t).result = .ok c) (h : c.decode bs = .ok v) :
    Value.Inside .null v ↔ t.HidesNull bs := by
  obtain rfl := Except.ok.inj (hc.symm.trans (result_resolve_standard t))
  exact ColumnType.inside_null_iff h

/-- A list of one number, of which there are no bytes. -/
theorem inside_null_iff_hidesNull_list :
    let t : ColumnType := .list (.scalar .int)
    let bs : Bytes := [0, 0, 0, 1, 0, 0, 0, 0]
    (standard.resolve t).result = .ok t.codec ∧ t.codec.decode bs = .ok (.list [.null]) ∧
      (Value.Inside .null (.list [.null]) ↔ t.HidesNull bs) := by
  intro t bs
  have hc : (standard.resolve t).result = .ok t.codec := result_resolve_standard t
  have hdecode : t.codec.decode bs = .ok (.list [.null]) := by
    simp only [t, bs]
    rfl
  exact ⟨hc, hdecode, inside_null_iff_hidesNull hc hdecode⟩

/-- **Nulls do come out of collections.** -/
theorem not_forall_not_inside_null : ¬∀ (t : ColumnType) (c : Codec) (bs : Bytes) (v : Value),
    (standard.resolve t).result = .ok c → c.decode bs = .ok v → ¬Value.Inside .null v := by
  intro hnever
  have hdecode : (ColumnType.list (.scalar .int)).codec.decode [0, 0, 0, 1, 0, 0, 0, 0] =
    .ok (.list [.null]) := rfl
  refine hnever _ _ _ _ (result_resolve_standard _) hdecode ?_
  exact Value.inside_list.mpr ⟨.null, List.mem_singleton_self _, Value.Occurs.refl _⟩

end Registry

end WideColumn

import Mathlib
import WideColumn.Proofs.Codec.Collection
import WideColumn.Proofs.Codec.Scalar
import WideColumn.Proofs.Pairing
import WideColumn.Proofs.Value.Part
import WideColumn.Registry

/-!
# What is written can be read

A value that is encoded comes back when its bytes are decoded, up to what bytes do not keep
(`WideColumn.ColumnType.stored`): a set does not remember that it was given as a list, and an instant
keeps its milliseconds only.

The proof goes down the column type. A collection is encoded into a frame, a frame is divided in one
way, and each part is the encoding of the value in its place; no bytes never stand for a collection
here, as the count is always written. At a scalar the value has one of the formats in
`WideColumn.ScalarKind.Form`, which is what decoding looks for.

* `WideColumn.ColumnType.decode_of_encode`: the codec of a column type reads what it writes;
* `WideColumn.Registry.decode_eq_stored_of_encode`: **so does the codec that a program finds.**
-/

namespace WideColumn

/-- **What becomes of a value in a column**: a set given as a list becomes a set, and an instant is
the one of its milliseconds, at any depth. -/
def ColumnType.stored : ColumnType → Value → Value
  | scalar _, v => v.rounded
  | list e, .list vs => .list (vs.map e.stored)
  | set e, .set vs => .set (vs.map e.stored)
  | set e, .list vs => .set (vs.map e.stored)
  | map k u, .map es => .map (es.map fun e => (k.stored e.1, u.stored e.2))
  | _, v => v

namespace ColumnType

variable {t : ColumnType} {v : Value} {bs : Bytes}

/-- **The parts of a frame are decoded** if each is the encoding of the value in its place. -/
theorem isElements_of_isFrame {e : ColumnType} {parts : List Bytes} {vs : List Value}
    (hframe : Framing.IsFrame bs parts.length parts)
    (hparts : List.Forall₂ (fun part v => e.codec.decode part = .ok (e.stored v)) parts vs) :
    Framing.IsElements e.codec.decode bs (vs.map e.stored) :=
  ⟨parts, Or.inr hframe, List.forall₂_map_right_iff.mpr hparts⟩

/-- **What is written can be read**, if every instant in it can be given back. -/
theorem decode_of_encode (h : t.codec.encode v = .ok bs)
    (hv : ∀ i, Value.Occurs (.timestamp i) v → i.IsStorable) :
    t.codec.decode bs = .ok (t.stored v) := by
  induction t generalizing v bs with
  | scalar k =>
    have hform := ScalarKind.form_of_encode h fun i hi => hv i (hi ▸ Value.Occurs.refl _)
    exact ScalarKind.decode_eq_ok_iff.mpr (Or.inr hform)
  | list e ih =>
    obtain ⟨vs, ⟨parts, hframe, hvs⟩, rfl⟩ := Codec.encode_list_eq_ok_iff.mp h
    refine Codec.decode_list_eq_ok_iff.mpr ⟨_, isElements_of_isFrame hframe ?_, rfl⟩
    exact hvs.imp_of_mem fun _ _ _ hmem hencode =>
      ih hencode.2 fun i hi => hv i (hi.of_mem_parts hmem)
  | set e ih =>
    -- given as a set or as a list, it is the same frame
    obtain ⟨vs, ⟨parts, hframe, hvs⟩, rfl | rfl⟩ := Codec.encode_set_eq_ok_iff.mp h
    · refine Codec.decode_set_eq_ok_iff.mpr ⟨_, isElements_of_isFrame hframe ?_, rfl⟩
      exact hvs.imp_of_mem fun _ _ _ hmem hencode =>
        ih hencode.2 fun i hi => hv i (hi.of_mem_parts hmem)
    · refine Codec.decode_set_eq_ok_iff.mpr ⟨_, isElements_of_isFrame hframe ?_, rfl⟩
      exact hvs.imp_of_mem fun _ _ _ hmem hencode =>
        ih hencode.2 fun i hi => hv i (hi.of_mem_parts hmem)
  | map k u ihk ihu =>
    obtain ⟨es, ⟨pairs, hframe, hes⟩, rfl⟩ := Codec.encode_map_eq_ok_iff.mp h
    refine Codec.decode_map_eq_ok_iff.mpr ⟨_, ⟨pairs, Or.inr hframe, ?_⟩, rfl⟩
    refine List.forall₂_map_right_iff.mpr (hes.imp_of_mem fun _ _ _ hmem hencode => ⟨?_, ?_⟩)
    · exact ihk hencode.1.2 fun i hi => hv i (hi.of_mem_parts (Value.fst_mem_parts hmem))
    · exact ihu hencode.2.2 fun i hi => hv i (hi.of_mem_parts (Value.snd_mem_parts hmem))

end ColumnType

namespace Registry

/-- **What the codec of a column type writes it can read**, whatever is nested in what: if every
instant in a value has a count of milliseconds that can be given back, the value is decoded from its
bytes as it is stored. -/
theorem decode_eq_stored_of_encode {t : ColumnType} {c : Codec} {v : Value} {bs : Bytes}
    (hc : (standard.resolve t).result = .ok c) (h : c.encode v = .ok bs)
    (hv : ∀ i, Value.Occurs (.timestamp i) v → i.IsStorable) :
    c.decode bs = .ok (t.stored v) := by
  obtain rfl := Except.ok.inj (hc.symm.trans (result_resolve_standard t))
  exact ColumnType.decode_of_encode h hv

/-- A list of one set, which is given as a list of one instant, half a millisecond too late. -/
theorem decode_eq_stored_of_encode_late :
    let t : ColumnType := .list (.set (.scalar .timestamp))
    let late : Instant := { seconds := 0, nanos := 1500000 }
    let v : Value := .list [.list [.timestamp late]]
    let bs : Bytes := [0, 0, 0, 1, 0, 0, 0, 16, 0, 0, 0, 1, 0, 0, 0, 8, 0, 0, 0, 0, 0, 0, 0, 1]
    (standard.resolve t).result = .ok t.codec ∧ t.codec.encode v = .ok bs ∧
      (∀ i, Value.Occurs (.timestamp i) v → i.IsStorable) ∧
      t.codec.decode bs = .ok (t.stored v) := by
  intro t late v bs
  have hc : (standard.resolve t).result = .ok t.codec := result_resolve_standard t
  have hencode : t.codec.encode v = .ok bs := by
    simp only [t, late, v, bs]
    rfl
  have hv : ∀ i, Value.Occurs (.timestamp i) v → i.IsStorable := by
    intro i hi
    have hnone : ¬Value.Inside (.timestamp i) (.timestamp late) :=
      Value.not_inside_of_parts_eq_nil rfl
    have hlate : i = late := by
      simpa [v, Value.occurs_iff, Value.inside_list, hnone] using hi
    rw [hlate, Instant.IsStorable]
    decide
  exact ⟨hc, hencode, hv, decode_eq_stored_of_encode hc hencode hv⟩

end Registry

end WideColumn

import Mathlib
import WideColumn.Proofs.Codec.Collection
import WideColumn.Proofs.Codec.Scalar
import WideColumn.Proofs.Pairing

/-!
# What bytes keep of a value

Two values that are written to a column may have the same bytes, and there are two reasons for this
only: a set can be given as a list, and of an instant nothing but its milliseconds is written. Once
these differences are removed (`WideColumn.ColumnType.kept`), bytes and values determine each other.

This does not follow from what reading gives back, as instants in the last leap second of the range
can be written and not read. So the bytes of two values are compared directly, down the column type:
the frame of a collection is divided in one way, and in each place there are the bytes of a part.

* `WideColumn.ColumnType.kept`: what bytes keep;
* `WideColumn.ScalarKind.encode_inj`, `WideColumn.ColumnType.encode_inj`: **values have the same bytes
  exactly if the same is kept of them**.
-/

namespace WideColumn

/-- **What bytes keep of a value** of the column type: the elements of a set, even if they are given
as a list, and the count of milliseconds of an instant, at any depth. -/
def ColumnType.kept : ColumnType → Value → Value
  | scalar _, .timestamp t => .varint t.millis
  | list e, .list vs => .list (vs.map e.kept)
  | set e, .set vs => .set (vs.map e.kept)
  | set e, .list vs => .set (vs.map e.kept)
  | map k u, .map es => .map (es.map fun e => (k.kept e.1, u.kept e.2))
  | _, v => v

/-! ### Scalars -/

namespace ScalarKind

variable {k : ScalarKind} {v w : Value} {bs cs : Bytes}

/-- **What is written of an instant**: its milliseconds, as a word. -/
theorem encode_timestamp_eq_ok_iff : timestamp.encode v = .ok bs ↔
    ∃ t : Instant, Bytes.ofNat 8 (Int64.ofInt t.millis).toUInt64.toNat = bs ∧ .timestamp t = v := by
  cases v <;> simp [encode]

/-- Every other scalar is written as it is. -/
theorem form_of_encode_of_ne (hk : k ≠ .timestamp) (h : k.encode v = .ok bs) :
    Form k bs v ∧ (ColumnType.scalar k).kept v = v := by
  have hv : ∀ t, v ≠ .timestamp t := by
    rintro t rfl
    cases k <;> first | exact hk rfl | cases h
  have hform := form_of_encode h fun t ht => absurd ht (hv t)
  cases v with
  | timestamp t => exact absurd rfl (hv t)
  | _ => exact ⟨hform, rfl⟩

/-- **Scalars have the same bytes** exactly if they are equal, or instants of one millisecond. -/
theorem encode_inj (hv : k.encode v = .ok bs) (hw : k.encode w = .ok cs) :
    bs = cs ↔ (ColumnType.scalar k).kept v = (ColumnType.scalar k).kept w := by
  rcases eq_or_ne k .timestamp with rfl | hk
  · obtain ⟨t, rfl, rfl⟩ := encode_timestamp_eq_ok_iff.mp hv
    obtain ⟨u, rfl, rfl⟩ := encode_timestamp_eq_ok_iff.mp hw
    rw [ColumnType.kept, ColumnType.kept, Value.varint.injEq]
    constructor
    · intro h
      have hword : Int64.ofInt t.millis = Int64.ofInt u.millis :=
        Bytes.Numbering.int64.eq_of_ofNat_toNat_eq h
      rw [← t.toInt_ofInt_millis, hword, u.toInt_ofInt_millis]
    · intro h
      rw [h]
  · obtain ⟨hformv, hkeptv⟩ := form_of_encode_of_ne hk hv
    obtain ⟨hformw, hkeptw⟩ := form_of_encode_of_ne hk hw
    rw [hkeptv, hkeptw]
    constructor
    · rintro rfl
      exact hformv.unique hformw
    · rintro rfl
      exact Except.ok.inj (hv.symm.trans hw)

end ScalarKind

/-! ### All columns -/

namespace ColumnType

variable {t : ColumnType} {v w : Value} {bs cs : Bytes}

/-- No value is kept as null. -/
theorem kept_eq_null_iff : t.kept v = .null ↔ v = .null := by
  cases t <;> cases v <;> simp [kept]

/-- Frames are equal exactly if their parts are. -/
theorem isFrame_inj {ps qs : List Bytes} (hps : Framing.IsFrame bs ps.length ps)
    (hqs : Framing.IsFrame cs qs.length qs) : bs = cs ↔ ps = qs := by
  constructor
  · rintro rfl
    exact Framing.IsDivided.unique (.inr hps) (.inr hqs)
  · rintro rfl
    rw [← hps.frame_eq, hqs.frame_eq]

/-- **The elements of two sequences are the same for bytes** exactly if their frames are equal. -/
theorem elements_inj {e : ColumnType} {vs ws : List Value} {ps qs : List Bytes}
    (ih : ∀ {v w : Value} {bs cs : Bytes}, e.codec.encode v = .ok bs → e.codec.encode w = .ok cs →
      (bs = cs ↔ e.kept v = e.kept w))
    (hps : Framing.IsFrame bs ps.length ps) (hqs : Framing.IsFrame cs qs.length qs)
    (hvs : List.Forall₂ (fun part v => v ≠ .null ∧ e.codec.encode v = .ok part) ps vs)
    (hws : List.Forall₂ (fun part w => w ≠ .null ∧ e.codec.encode w = .ok part) qs ws) :
    bs = cs ↔ vs.map e.kept = ws.map e.kept := by
  rw [isFrame_inj hps hqs, hvs.eq_iff_map_eq hws fun v p w q hv hw => ih hv.2 hw.2]

/-- **Values have the same bytes** exactly if the same is kept of them. -/
theorem encode_inj (hv : t.codec.encode v = .ok bs) (hw : t.codec.encode w = .ok cs) :
    bs = cs ↔ t.kept v = t.kept w := by
  induction t generalizing v w bs cs with
  | scalar k => exact ScalarKind.encode_inj hv hw
  | list e ih =>
    obtain ⟨vs, ⟨ps, hps, hvs⟩, rfl⟩ := Codec.encode_list_eq_ok_iff.mp hv
    obtain ⟨ws, ⟨qs, hqs, hws⟩, rfl⟩ := Codec.encode_list_eq_ok_iff.mp hw
    rw [elements_inj ih hps hqs hvs hws, kept, kept, Value.list.injEq]
  | set e ih =>
    obtain ⟨vs, ⟨ps, hps, hvs⟩, hv⟩ := Codec.encode_set_eq_ok_iff.mp hv
    obtain ⟨ws, ⟨qs, hqs, hws⟩, hw⟩ := Codec.encode_set_eq_ok_iff.mp hw
    -- given as a set or as a list, the elements are kept as a set
    have hvkept : (set e).kept v = .set (vs.map e.kept) := by
      rcases hv with rfl | rfl <;> rfl
    have hwkept : (set e).kept w = .set (ws.map e.kept) := by
      rcases hw with rfl | rfl <;> rfl
    rw [elements_inj ih hps hqs hvs hws, hvkept, hwkept, Value.set.injEq]
  | map k u ihk ihu =>
    obtain ⟨es, ⟨ps, hps, hes⟩, rfl⟩ := Codec.encode_map_eq_ok_iff.mp hv
    obtain ⟨es', ⟨qs, hqs, hes'⟩, rfl⟩ := Codec.encode_map_eq_ok_iff.mp hw
    have hpairs : bs = cs ↔ ps = qs := by
      constructor
      · rintro rfl
        exact Framing.IsDivided.unique_pairs (.inr hps) (.inr hqs)
      · rintro rfl
        rw [← hps.frame_eq, hqs.frame_eq]
    rw [hpairs, kept, kept, Value.map.injEq]
    refine hes.eq_iff_map_eq hes' fun e p e' q he he' => ?_
    rw [Prod.ext_iff, ihk he.1.2 he'.1.2, ihu he.2.2 he'.2.2, Prod.mk.injEq]

end ColumnType

end WideColumn

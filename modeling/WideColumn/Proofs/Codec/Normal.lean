import Mathlib
import WideColumn.Proofs.Codec.Collection
import WideColumn.Proofs.Codec.Scalar
import WideColumn.Proofs.Pairing
import WideColumn.Proofs.Value.Part
import WideColumn.Registry

/-!
# Writing again what was read

The same value can be read from many bytes: a boolean is true in 255 ways, an integer may repeat
its sign, and an empty collection may come without a count. Writing the value chooses one of them,
its normal form (`WideColumn.Codec.IsNormal`).

A normal form can be longer than what was read: where an empty collection was a part of no bytes,
its count takes four, and a decimal without digits gets one. But a part has four bytes for its
length, and so nothing grows to more than twice its length and four bytes
(`WideColumn.Framing.IsDivided.exists_isFrame`). That bound can be carried up the column type, and
keeps all lengths sayable if what was read is shorter than `2 ^ 29` bytes.

* `WideColumn.ColumnType.exists_isNormal`: **what was read can be written, and read again**;
* `WideColumn.ColumnType.encode_of_decode_of_encode`: **what was written is normal**;
* `WideColumn.Registry.exists_normal_form`: both, of the codec that a program finds.
-/

namespace WideColumn

namespace Framing

/-! ### Growth -/

variable {bs : Bytes} {count : Nat} {parts parts' : List Bytes}

theorem IsDivided.count_le (h : IsDivided bs count parts) : count ≤ maxLength := by
  rcases h with ⟨-, rfl, -⟩ | hframe
  · exact Nat.zero_le _
  · exact hframe.count_le

theorem IsDivided.length_flatMap_le (h : IsDivided bs count parts) :
    (parts.flatMap framed).length ≤ bs.length := by
  rcases h with ⟨-, -, rfl⟩ | hframe
  · exact Nat.zero_le _
  · rw [← hframe.frame_eq, length_frame]
    exact Nat.le_add_left _ _

theorem IsDivided.length_le (h : IsDivided bs count parts) {part : Bytes} (hpart : part ∈ parts) :
    part.length ≤ bs.length := by
  refine le_trans ?_ h.length_flatMap_le
  have hsum := List.le_sum_of_mem (List.mem_map_of_mem (f := fun p => (framed p).length) hpart)
  rw [← List.length_flatMap] at hsum
  refine le_trans ?_ hsum
  rw [framed, List.length_append]
  exact Nat.le_add_left _ _

/-- The length of a part counts twice, and so do the four bytes in front of it. -/
theorem length_flatMap_le_of_forall₂
    (h : List.Forall₂ (fun p q : Bytes => q.length ≤ 2 * p.length + 4) parts parts') :
    (parts'.flatMap framed).length ≤ 2 * (parts.flatMap framed).length := by
  induction h with
  | nil => exact le_rfl
  | cons hpq _ ih =>
    simp only [List.flatMap_cons, List.length_append, framed, Bytes.length_ofNat] at ih ⊢
    omega

/-- **The bound on growth is carried up**: if it holds of each part, the parts make a frame again,
and it holds of the frame. -/
theorem IsDivided.exists_isFrame (h : IsDivided bs count parts) (hbs : bs.length < 2 ^ 29)
    (hparts : List.Forall₂ (fun p q : Bytes => q.length ≤ 2 * p.length + 4) parts parts') :
    ∃ cs, IsFrame cs count parts' ∧ cs.length ≤ 2 * bs.length + 4 := by
  refine ⟨frame count parts', ⟨rfl, h.count_le, ?_⟩, ?_⟩
  · refine (hparts.imp_of_mem fun p hp q _ hq => ?_).forall_mem_right fun _ _ => id
    have hlength := h.length_le hp
    unfold maxLength
    omega
  · have hgrowth := length_flatMap_le_of_forall₂ hparts
    have hlength := h.length_flatMap_le
    rw [length_frame]
    omega

end Framing

/-- **The normal form of a value**: the bytes that are written for it, if it is read from them. -/
def Codec.IsNormal (c : Codec) (v : Value) (bs : Bytes) : Prop :=
  c.encode v = .ok bs ∧ c.decode bs = .ok v

namespace ColumnType

open Framing

variable {t : ColumnType} {v w : Value} {bs : Bytes}

/-! ### What was read can be written -/

/-- The elements of a list or set have a frame of normal forms if each has one. -/
theorem exists_normal_elements {e : ColumnType} {vs : List Value}
    (ih : ∀ {bs v}, bs.length < 2 ^ 29 → e.codec.decode bs = .ok v → ¬Value.Occurs .null v →
      ∃ cs, e.codec.IsNormal v cs ∧ cs.length ≤ 2 * bs.length + 4)
    (hbs : bs.length < 2 ^ 29) (hvs : IsElements e.codec.decode bs vs)
    (hnull : ∀ v ∈ vs, ¬Value.Occurs .null v) :
    ∃ cs parts, IsFrame cs parts.length parts ∧
      List.Forall₂ (fun part v => v ≠ .null ∧ e.codec.IsNormal v part) parts vs ∧
      cs.length ≤ 2 * bs.length + 4 := by
  obtain ⟨parts, hdivided, hvs⟩ := hvs
  have hnormal : List.Forall₂ (fun p v => ∃ q, (v ≠ .null ∧ e.codec.IsNormal v q) ∧
      q.length ≤ 2 * p.length + 4) parts vs := by
    refine hvs.imp_of_mem fun part hpart v hv hdecode => ?_
    have hlength := hdivided.length_le hpart
    obtain ⟨q, hq, hgrowth⟩ := ih (hlength.trans_lt hbs) hdecode (hnull v hv)
    exact ⟨q, ⟨Value.ne_of_not_occurs (hnull v hv), hq⟩, hgrowth⟩
  -- the new parts are gathered first, as their frame is known to exist only for all of them
  obtain ⟨parts', hvs', hgrowth⟩ := hnormal.exists_list
  obtain ⟨cs, hframe, hlength⟩ := hdivided.exists_isFrame hbs hgrowth
  rw [hgrowth.length_eq] at hframe
  exact ⟨cs, parts', hframe, hvs', hlength⟩

/-- The entries of a map have a frame of normal forms if each key and each value has one. -/
theorem exists_normal_entries {k u : ColumnType} {es : List (Value × Value)}
    (ihk : ∀ {bs v}, bs.length < 2 ^ 29 → k.codec.decode bs = .ok v → ¬Value.Occurs .null v →
      ∃ cs, k.codec.IsNormal v cs ∧ cs.length ≤ 2 * bs.length + 4)
    (ihu : ∀ {bs v}, bs.length < 2 ^ 29 → u.codec.decode bs = .ok v → ¬Value.Occurs .null v →
      ∃ cs, u.codec.IsNormal v cs ∧ cs.length ≤ 2 * bs.length + 4)
    (hbs : bs.length < 2 ^ 29) (hes : IsEntries k.codec.decode u.codec.decode bs es)
    (hnull : ∀ e ∈ es, ¬Value.Occurs .null e.1 ∧ ¬Value.Occurs .null e.2) :
    ∃ cs pairs, IsFrame cs pairs.length (alternating pairs) ∧
      List.Forall₂ (fun p e => (e.1 ≠ .null ∧ k.codec.IsNormal e.1 p.1) ∧
        e.2 ≠ .null ∧ u.codec.IsNormal e.2 p.2) pairs es ∧
      cs.length ≤ 2 * bs.length + 4 := by
  obtain ⟨pairs, hdivided, hes⟩ := hes
  have hlengths := forall_mem_alternating.mp fun _ => hdivided.length_le
  have hnormal : List.Forall₂ (fun p e => ∃ q : Bytes × Bytes,
      ((e.1 ≠ .null ∧ k.codec.IsNormal e.1 q.1) ∧ e.2 ≠ .null ∧ u.codec.IsNormal e.2 q.2) ∧
      q.1.length ≤ 2 * p.1.length + 4 ∧ q.2.length ≤ 2 * p.2.length + 4) pairs es := by
    refine hes.imp_of_mem fun p hp e he hdecode => ?_
    obtain ⟨hfst, hsnd⟩ := hlengths p hp
    obtain ⟨hk, hu⟩ := hnull e he
    obtain ⟨key, hkey, hkeyGrowth⟩ := ihk (hfst.trans_lt hbs) hdecode.1 hk
    obtain ⟨value, hvalue, hvalueGrowth⟩ := ihu (hsnd.trans_lt hbs) hdecode.2 hu
    exact ⟨(key, value), ⟨⟨Value.ne_of_not_occurs hk, hkey⟩, Value.ne_of_not_occurs hu, hvalue⟩,
      hkeyGrowth, hvalueGrowth⟩
  obtain ⟨pairs', hes', hgrowth⟩ := hnormal.exists_list
  obtain ⟨cs, hframe, hlength⟩ := hdivided.exists_isFrame hbs (forall₂_alternating hgrowth)
  rw [hgrowth.length_eq] at hframe
  exact ⟨cs, pairs', hframe, hes', hlength⟩

/-- **What was read can be written, and is read again**, if no null is met on the way. -/
theorem exists_isNormal (hbs : bs.length < 2 ^ 29) (h : t.codec.decode bs = .ok v)
    (hnull : ¬Value.Occurs .null v) :
    ∃ cs, t.codec.IsNormal v cs ∧ cs.length ≤ 2 * bs.length + 4 := by
  induction t generalizing v bs with
  | scalar k =>
    rcases ScalarKind.decode_eq_ok_iff.mp h with ⟨-, -, rfl⟩ | hform
    · exact absurd (Value.Occurs.refl _) hnull
    · obtain ⟨cs, hencode, hform', hlength⟩ := hform.exists_encode
      refine ⟨cs, ⟨hencode, ScalarKind.decode_eq_ok_iff.mpr (Or.inr hform')⟩, ?_⟩
      omega
  | list e ih =>
    obtain ⟨vs, hvs, rfl⟩ := Codec.decode_list_eq_ok_iff.mp h
    obtain ⟨cs, parts, hframe, hvs', hlength⟩ := exists_normal_elements ih hbs hvs
      fun v hv hocc => hnull (hocc.of_mem_parts hv)
    refine ⟨cs, ⟨?_, ?_⟩, hlength⟩
    · exact Codec.encode_list_eq_ok_iff.mpr
        ⟨vs, ⟨parts, hframe, hvs'.imp fun _ _ h => ⟨h.1, h.2.1⟩⟩, rfl⟩
    · exact Codec.decode_list_eq_ok_iff.mpr
        ⟨vs, ⟨parts, Or.inr hframe, hvs'.imp fun _ _ h => h.2.2⟩, rfl⟩
  | set e ih =>
    obtain ⟨vs, hvs, rfl⟩ := Codec.decode_set_eq_ok_iff.mp h
    obtain ⟨cs, parts, hframe, hvs', hlength⟩ := exists_normal_elements ih hbs hvs
      fun v hv hocc => hnull (hocc.of_mem_parts hv)
    refine ⟨cs, ⟨?_, ?_⟩, hlength⟩
    · exact Codec.encode_set_eq_ok_iff.mpr
        ⟨vs, ⟨parts, hframe, hvs'.imp fun _ _ h => ⟨h.1, h.2.1⟩⟩, Or.inl rfl⟩
    · exact Codec.decode_set_eq_ok_iff.mpr
        ⟨vs, ⟨parts, Or.inr hframe, hvs'.imp fun _ _ h => h.2.2⟩, rfl⟩
  | map k u ihk ihu =>
    obtain ⟨es, hes, rfl⟩ := Codec.decode_map_eq_ok_iff.mp h
    obtain ⟨cs, pairs, hframe, hes', hlength⟩ := exists_normal_entries ihk ihu hbs hes
      fun e he => ⟨fun hocc => hnull (hocc.of_mem_parts (Value.fst_mem_parts he)),
        fun hocc => hnull (hocc.of_mem_parts (Value.snd_mem_parts he))⟩
    refine ⟨cs, ⟨?_, ?_⟩, hlength⟩
    · exact Codec.encode_map_eq_ok_iff.mpr
        ⟨es, ⟨pairs, hframe, hes'.imp fun _ _ h => ⟨⟨h.1.1, h.1.2.1⟩, h.2.1, h.2.2.1⟩⟩, rfl⟩
    · exact Codec.decode_map_eq_ok_iff.mpr
        ⟨es, ⟨pairs, Or.inr hframe, hes'.imp fun _ _ h => ⟨h.1.2.2, h.2.2.2⟩⟩, rfl⟩

/-! ### What was written is normal -/

/-- Null is not written by the codec of any column type. -/
theorem ne_null_of_encode (h : t.codec.encode v = .ok bs) : v ≠ .null := by
  rintro rfl
  cases t with
  | _ => simp [codec, Codec.encode] at h

/-- If the parts of a list or set are what some values are written as, then they are what the
elements are written as that are read from them. -/
theorem encode_elements {e : ColumnType} {vs ws : List Value} {parts : List Bytes}
    (ih : ∀ {bs v w}, e.codec.encode w = .ok bs → e.codec.decode bs = .ok v →
      e.codec.encode v = .ok bs)
    (hframe : IsFrame bs parts.length parts)
    (hws : List.Forall₂ (fun part w => w ≠ .null ∧ e.codec.encode w = .ok part) parts ws)
    (hvs : IsElements e.codec.decode bs vs) :
    List.Forall₂ (fun part v => v ≠ .null ∧ e.codec.encode v = .ok part) parts vs := by
  obtain ⟨parts', hdivided, hvs⟩ := hvs
  -- the reader finds the parts that were written, so it decodes them and not others
  obtain rfl := hdivided.unique (Or.inr hframe)
  have hwritten : ∀ part ∈ parts', ∃ w, e.codec.encode w = .ok part :=
    hws.forall_mem_left fun _ w hw => ⟨w, hw.2⟩
  refine hvs.imp_of_mem fun part hpart v _ hdecode => ?_
  obtain ⟨w, hw⟩ := hwritten part hpart
  have hencode := ih hw hdecode
  exact ⟨ne_null_of_encode hencode, hencode⟩

/-- **What was written is written again** for the value that is read from it. -/
theorem encode_of_decode_of_encode (hw : t.codec.encode w = .ok bs)
    (hv : t.codec.decode bs = .ok v) : t.codec.encode v = .ok bs := by
  induction t generalizing v w bs with
  | scalar k =>
    rcases ScalarKind.decode_eq_ok_iff.mp hv with ⟨hbs, hempty, -⟩ | hform
    · exact absurd hbs (ScalarKind.encode_ne_nil hw hempty)
    · exact ScalarKind.encode_of_form_of_encode hw hform
  | list e ih =>
    obtain ⟨ws, ⟨parts, hframe, hws⟩, -⟩ := Codec.encode_list_eq_ok_iff.mp hw
    obtain ⟨vs, hvs, rfl⟩ := Codec.decode_list_eq_ok_iff.mp hv
    exact Codec.encode_list_eq_ok_iff.mpr
      ⟨vs, ⟨parts, hframe, encode_elements ih hframe hws hvs⟩, rfl⟩
  | set e ih =>
    obtain ⟨ws, ⟨parts, hframe, hws⟩, -⟩ := Codec.encode_set_eq_ok_iff.mp hw
    obtain ⟨vs, hvs, rfl⟩ := Codec.decode_set_eq_ok_iff.mp hv
    exact Codec.encode_set_eq_ok_iff.mpr
      ⟨vs, ⟨parts, hframe, encode_elements ih hframe hws hvs⟩, Or.inl rfl⟩
  | map k u ihk ihu =>
    obtain ⟨fs, ⟨pairs, hframe, hfs⟩, -⟩ := Codec.encode_map_eq_ok_iff.mp hw
    obtain ⟨es, ⟨pairs', hdivided, hes⟩, rfl⟩ := Codec.decode_map_eq_ok_iff.mp hv
    obtain rfl := hdivided.unique_pairs (Or.inr hframe)
    have hwritten : ∀ p ∈ pairs', ∃ f : Value × Value,
        k.codec.encode f.1 = .ok p.1 ∧ u.codec.encode f.2 = .ok p.2 :=
      hfs.forall_mem_left fun _ f hf => ⟨f, hf.1.2, hf.2.2⟩
    refine Codec.encode_map_eq_ok_iff.mpr ⟨es, ⟨pairs', hframe, ?_⟩, rfl⟩
    refine hes.imp_of_mem fun p hp e _ hdecode => ?_
    obtain ⟨f, hk, hu⟩ := hwritten p hp
    have hkey := ihk hk hdecode.1
    have hvalue := ihu hu hdecode.2
    exact ⟨⟨ne_null_of_encode hkey, hkey⟩, ne_null_of_encode hvalue, hvalue⟩

end ColumnType

namespace Registry

/-- **Writing what was read gives a normal form**: if fewer than `2 ^ 29` bytes are read as a value
without a null, then it can be written, what is written is read as the same value, and it is what was
read if that had been written for any value. -/
theorem exists_normal_form {t : ColumnType} {c : Codec} {bs : Bytes} {v : Value}
    (hc : (standard.resolve t).result = .ok c) (hbs : bs.length < 2 ^ 29)
    (h : c.decode bs = .ok v) (hnull : ¬Value.Occurs .null v) :
    ∃ cs, c.encode v = .ok cs ∧ c.decode cs = .ok v ∧ ∀ w, c.encode w = .ok bs → cs = bs := by
  obtain rfl := Except.ok.inj (hc.symm.trans (result_resolve_standard t))
  obtain ⟨cs, ⟨hencode, hdecode⟩, -⟩ := ColumnType.exists_isNormal hbs h hnull
  refine ⟨cs, hencode, hdecode, fun w hw => ?_⟩
  exact Except.ok.inj (hencode.symm.trans (ColumnType.encode_of_decode_of_encode hw h))

/-- A set of one list without bytes, which is an empty list; written again it is longer. -/
theorem exists_normal_form_longer :
    let t : ColumnType := .set (.list (.scalar .varint))
    let bs : Bytes := [0, 0, 0, 1, 0, 0, 0, 0]
    let v : Value := .set [.list []]
    (standard.resolve t).result = .ok t.codec ∧ bs.length < 2 ^ 29 ∧
      t.codec.decode bs = .ok v ∧ ¬Value.Occurs .null v ∧
      ∃ cs, t.codec.encode v = .ok cs ∧ t.codec.decode cs = .ok v ∧
        ∀ w, t.codec.encode w = .ok bs → cs = bs := by
  intro t bs v
  have hc : (standard.resolve t).result = .ok t.codec := result_resolve_standard t
  have hbs : bs.length < 2 ^ 29 := by
    simp [bs]
  have hdecode : t.codec.decode bs = .ok v := by
    simp only [t, bs, v]
    rfl
  have hnull : ¬Value.Occurs .null v := by
    simp [v, Value.occurs_iff, Value.inside_list, Value.inside_set]
  exact ⟨hc, hbs, hdecode, hnull, exists_normal_form hc hbs hdecode hnull⟩

end Registry

end WideColumn

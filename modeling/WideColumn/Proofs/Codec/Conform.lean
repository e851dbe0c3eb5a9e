import Mathlib
import WideColumn.FieldType.Conversion
import WideColumn.Proofs.Codec.Collection
import WideColumn.Proofs.Codec.Scalar
import WideColumn.Proofs.Pairing
import WideColumn.Proofs.Value.Part
import WideColumn.Registry

/-!
# Which values can be written

Whether a value is one of a column type can be said without writing it: a scalar is of the sort that
belongs to its kind, and the parts of a collection are of the types of the parts and none of them is
null (`WideColumn.ColumnType.Conforms`). Lists and sets are not alike here, as a set may be given as
a list but no list as a set.

One condition is not about the form of the value. A count or a length is written in four bytes with
the sign bit free, so a collection can be too large (`WideColumn.Value.IsOversized`). What its parts
take is known beforehand (`WideColumn.Value.encodedLength`), and it depends on the value alone,
whatever the column type.

* `WideColumn.ScalarKind.exists_encode_iff`: the scalars that can be written;
* `WideColumn.ColumnType.isMeasured_encode`: the bytes that are written are as many as foreseen;
* `WideColumn.ColumnType.exists_encode_iff`: **what can be written is what conforms**;
* `WideColumn.ColumnType.Conforms.exists_of_occurs`: whatever is in a value that conforms conforms
  to a type as well, so there is no null in it and nothing too large;
* `WideColumn.Registry.exists_encode_iff_conforms`: all this, of the codec that a program finds.
-/

namespace WideColumn

open Framing

/-! ### How many bytes a value takes -/

namespace Value

mutual

/-- **How many bytes a value takes**, if it can be written. The count of a collection takes four. -/
def encodedLength : Value → Nat
  | null => 0
  | boolean _ => 1
  | int _ => 4
  | bigint _ => 8
  | float _ => 4
  | double _ => 8
  | text s => TypeText.byteLength s.toList
  | blob bs => bs.length
  | decimal d => 4 + Bytes.signedWidth d.unscaled
  | varint n => Bytes.signedWidth n
  | inet (.v4 _) => 4
  | inet (.v6 _) => 16
  | timestamp _ => 8
  | uuid _ => 16
  | list vs => 4 + partsLength vs
  | set vs => 4 + partsLength vs
  | map es => 4 + entriesLength es

/-- How many bytes elements take, with four in front of each for its length. -/
def partsLength : List Value → Nat
  | [] => 0
  | v :: vs => (4 + v.encodedLength) + partsLength vs

/-- How many bytes entries take, with four in front of each key and each value. -/
def entriesLength : List (Value × Value) → Nat
  | [] => 0
  | e :: es => (4 + e.1.encodedLength) + (4 + e.2.encodedLength) + entriesLength es

end

/-- How many elements, or entries, a collection has. -/
def count : Value → Nat
  | list vs => vs.length
  | set vs => vs.length
  | map es => es.length
  | _ => 0

/-- **A value is too large to be written**: somewhere in it there is a collection with more
elements, or with an element of more bytes, than can be said. -/
def IsOversized (v : Value) : Prop :=
  ∃ w, Occurs w v ∧ (maxLength < w.count ∨ ∃ p ∈ w.parts, maxLength < p.encodedLength)

end Value

/-! ### Conformity -/

/-- The sort of the values of a primitive type. -/
def Primitive.valueKind : Primitive → ValueKind
  | string => .text
  | bool => .boolean
  | int32 => .int
  | int64 => .bigint
  | float32 => .float
  | float64 => .double
  | decimal => .decimal
  | varint => .varint
  | bytes => .blob
  | address => .inet
  | instant => .timestamp
  | uuid => .uuid

/-- What two of the kinds ask of a value beyond its sort. -/
def ScalarKind.Admits : ScalarKind → Value → Prop
  | ascii, .text s => s.toList.all Text.isAscii
  | timeuuid, .uuid u => u.version = 1
  | _, _ => True

/-- **A value of a scalar kind**: it is of the sort that belongs to the kind, an `ascii` text has no
other characters, and a `timeuuid` was made from the time. -/
structure ScalarKind.Holds (k : ScalarKind) (v : Value) : Prop where
  kind_eq : v.kind = k.primitive.valueKind
  admits : k.Admits v

/-- **A value that can be part of a collection**, if values of the part's type are those with the
given property. -/
structure Value.IsPart (P : Value → Prop) (v : Value) : Prop where
  ne_null : v ≠ .null
  conforms : P v
  length_le : v.encodedLength ≤ maxLength

/-- **A value of a column type.** -/
def ColumnType.Conforms : ColumnType → Value → Prop
  | scalar k, v => k.Holds v
  | list e, .list vs => vs.length ≤ maxLength ∧ ∀ v ∈ vs, v.IsPart e.Conforms
  | set e, .set vs => vs.length ≤ maxLength ∧ ∀ v ∈ vs, v.IsPart e.Conforms
  | set e, .list vs => vs.length ≤ maxLength ∧ ∀ v ∈ vs, v.IsPart e.Conforms
  | map k u, .map es =>
    es.length ≤ maxLength ∧ ∀ e ∈ es, e.1.IsPart k.Conforms ∧ e.2.IsPart u.Conforms
  | _, _ => False

/-! ### Scalars -/

theorem Utf8.length_encode (cs : List Char) :
    (Utf8.encode cs).length = TypeText.byteLength cs := by
  induction cs with
  | nil => rfl
  | cons c cs ih =>
    rw [encode_cons, List.length_append, String.length_utf8EncodeChar, TypeText.byteLength_cons, ih]

/-- **The values of a sort are those of the primitive type that it belongs to.** -/
theorem Primitive.exists_toValue {p : Primitive} {v : Value} (h : v.kind = p.valueKind) :
    ∃ x, p.toValue x = v := by
  -- the tables of sorts and of values are compared entry by entry
  cases p <;> cases v <;> first | exact ⟨_, rfl⟩ | cases h

theorem Primitive.parts_toValue (p : Primitive) (x : p.Carrier) : (p.toValue x).parts = [] := by
  cases p <;> rfl

theorem Primitive.toValue_ne_null (p : Primitive) (x : p.Carrier) : p.toValue x ≠ .null := by
  cases p <;> simp [toValue]

theorem Primitive.count_toValue (p : Primitive) (x : p.Carrier) : (p.toValue x).count = 0 := by
  cases p <;> rfl

namespace ScalarKind

variable {k : ScalarKind} {v : Value} {bs : Bytes}

/-- What is written is of the kind. -/
theorem holds_of_encode (h : k.encode v = .ok bs) : k.Holds v := by
  revert h
  fun_cases encode k v with
  | case1 | case3 | case19 | case21 =>
    -- a null, a text that is not ASCII, an identifier of another version, a value of another sort
    intro h
    cases h
  | case2 s hs => exact fun _ => ⟨rfl, hs⟩
  | case18 u hu => exact fun _ => ⟨rfl, beq_iff_eq.mp hu⟩
  | _ => exact fun _ => ⟨rfl, trivial⟩

/-- What is of the kind is written. -/
theorem Holds.exists_encode (h : k.Holds v) : ∃ bs, k.encode v = .ok bs := by
  obtain ⟨x, rfl⟩ := Primitive.exists_toValue h.kind_eq
  -- all that is left to ask for is what the two narrower kinds ask for
  cases k with
  | ascii => exact ⟨_, if_pos h.admits⟩
  | timeuuid => exact ⟨_, if_pos (beq_iff_eq.mpr h.admits)⟩
  | inet => cases x <;> exact ⟨_, rfl⟩
  | _ => exact ⟨_, rfl⟩

theorem exists_encode_iff : (∃ bs, k.encode v = .ok bs) ↔ k.Holds v := by
  constructor
  · rintro ⟨bs, h⟩
    exact holds_of_encode h
  · exact Holds.exists_encode

/-- The bytes of a scalar are as many as foreseen. -/
theorem length_encode (h : k.encode v = .ok bs) : bs.length = v.encodedLength := by
  revert h
  fun_cases encode k v with
  | case1 | case3 | case19 | case21 =>
    intro h
    cases h
  | case2 | case4 | case5 =>
    intro h
    rw [← Except.ok.inj h]
    exact Utf8.length_encode _
  | case10 d =>
    intro h
    rw [← Except.ok.inj h, List.length_append, Bytes.length_ofNat, Bytes.length_ofInt]
    rfl
  | _ =>
    intro h
    rw [← Except.ok.inj h]
    simp [Value.encodedLength]

theorem Holds.ne_null (h : k.Holds v) : v ≠ .null := by
  obtain ⟨x, rfl⟩ := Primitive.exists_toValue h.kind_eq
  exact Primitive.toValue_ne_null _ x

theorem Holds.parts_eq_nil (h : k.Holds v) : v.parts = [] := by
  obtain ⟨x, rfl⟩ := Primitive.exists_toValue h.kind_eq
  exact Primitive.parts_toValue _ x

theorem Holds.count_eq_zero (h : k.Holds v) : v.count = 0 := by
  obtain ⟨x, rfl⟩ := Primitive.exists_toValue h.kind_eq
  exact Primitive.count_toValue _ x

end ScalarKind

/-! ### Collections -/

namespace Framing

variable {α : Type} {kind : CollectionKind}
  {encode encodeKey encodeValue : Value → Except CodecError Bytes}

/-- **Items can be written** if there are not too many of them and each can be written. -/
theorem exists_writeWhole_iff {writeItem : α → Except CodecError Bytes} {as : List α} :
    (∃ bs, writeWhole writeItem as = .ok bs) ↔
      as.length ≤ maxLength ∧ ∀ a ∈ as, ∃ item, writeItem a = .ok item := by
  have hitem (a : α) (bs : Bytes) :
      writeItem a = .ok bs ↔ ∃ item, writeItem a = .ok item ∧ item = bs := by simp
  simp only [writeWhole_eq_ok_iff hitem, ← List.exists_forall₂_iff]
  constructor
  · rintro ⟨bs, hcount, items, hitems, -⟩
    exact ⟨hcount, items, hitems⟩
  · rintro ⟨hcount, items, hitems⟩
    exact ⟨_, hcount, items, hitems, rfl⟩

/-- The length of items, with the four bytes of their count. -/
theorem length_writeWhole {writeItem : α → Except CodecError Bytes} {length : α → Nat}
    (hitem : ∀ {a item}, writeItem a = .ok item → item.length = length a) {as : List α} {bs : Bytes}
    (h : writeWhole writeItem as = .ok bs) : bs.length = 4 + (as.map length).sum := by
  have hmany {as : List α} {bs : Bytes} (h : writeMany writeItem as = .ok bs) :
      bs.length = (as.map length).sum := by
    induction as generalizing bs with
    | nil =>
      rw [← Except.ok.inj h]
      rfl
    | cons a as ih =>
      obtain ⟨item, hfirst, hrest⟩ := Except.bind_eq_ok_iff.mp h
      obtain ⟨items, hmany, hresult⟩ := Except.bind_eq_ok_iff.mp hrest
      rw [← Except.ok.inj hresult, List.length_append, hitem hfirst, ih hmany]
      rfl
  obtain ⟨count, hcount, hrest⟩ := Except.bind_eq_ok_iff.mp h
  obtain ⟨items, hitems, hresult⟩ := Except.bind_eq_ok_iff.mp hrest
  obtain ⟨-, rfl⟩ := writeLength_eq_ok_iff.mp hcount
  rw [← Except.ok.inj hresult, List.length_append, Bytes.length_ofNat, hmany hitems]

/-- The bytes that are written for a value are as many as foreseen. -/
def IsMeasured (encode : Value → Except CodecError Bytes) : Prop :=
  ∀ {v bs}, encode v = .ok bs → bs.length = v.encodedLength

/-- **A part can be written** if it is not null, can be encoded, and is not too long. -/
theorem exists_writePart_iff {P : Value → Prop} (hlength : IsMeasured encode)
    (hP : ∀ v, (∃ bs, encode v = .ok bs) ↔ P v) {v : Value} :
    (∃ bs, writePart kind encode v = .ok bs) ↔ v.IsPart P := by
  simp only [writePart_eq_ok_iff]
  constructor
  · rintro ⟨bs, part, ⟨hmax, hne, hencode⟩, -⟩
    exact ⟨hne, (hP v).mp ⟨part, hencode⟩, hlength hencode ▸ hmax⟩
  · rintro ⟨hne, hv, hmax⟩
    obtain ⟨part, hencode⟩ := (hP v).mpr hv
    exact ⟨_, part, ⟨hlength hencode ▸ hmax, hne, hencode⟩, rfl⟩

theorem length_writePart (hlength : IsMeasured encode) {v : Value} {bs : Bytes}
    (h : writePart kind encode v = .ok bs) : bs.length = 4 + v.encodedLength := by
  obtain ⟨part, ⟨-, -, hencode⟩, rfl⟩ := writePart_eq_ok_iff.mp h
  rw [framed, List.length_append, Bytes.length_ofNat, hlength hencode]

theorem exists_writePair_iff {e : Value × Value} :
    (∃ bs, writePair encodeKey encodeValue e = .ok bs) ↔
      (∃ bs, writePart .map encodeKey e.1 = .ok bs) ∧
        ∃ bs, writePart .map encodeValue e.2 = .ok bs := by
  simp only [writePair, Except.bind_eq_ok_iff]
  constructor
  · rintro ⟨bs, key, hkey, value, hvalue, -⟩
    exact ⟨⟨key, hkey⟩, value, hvalue⟩
  · rintro ⟨⟨key, hkey⟩, value, hvalue⟩
    exact ⟨_, key, hkey, value, hvalue, rfl⟩

theorem length_writePair (hkey : IsMeasured encodeKey) (hvalue : IsMeasured encodeValue)
    {e : Value × Value} {bs : Bytes} (h : writePair encodeKey encodeValue e = .ok bs) :
    bs.length = (4 + e.1.encodedLength) + (4 + e.2.encodedLength) := by
  obtain ⟨key, hk, hrest⟩ := Except.bind_eq_ok_iff.mp h
  obtain ⟨value, hv, hresult⟩ := Except.bind_eq_ok_iff.mp hrest
  rw [← Except.ok.inj hresult, List.length_append, length_writePart hkey hk,
    length_writePart hvalue hv]

end Framing

namespace Value

theorem partsLength_eq_sum (vs : List Value) :
    partsLength vs = (vs.map fun v => 4 + v.encodedLength).sum := by
  induction vs with
  | nil => rfl
  | cons v vs ih => rw [partsLength, ih, List.map_cons, List.sum_cons]

theorem entriesLength_eq_sum (es : List (Value × Value)) : entriesLength es =
    (es.map fun e => (4 + e.1.encodedLength) + (4 + e.2.encodedLength)).sum := by
  induction es with
  | nil => rfl
  | cons e es ih => rw [entriesLength, ih, List.map_cons, List.sum_cons]

end Value

namespace ColumnType

variable {t : ColumnType} {v : Value}

/-- **The bytes of a value are as many as foreseen**, whatever the column type. -/
theorem isMeasured_encode (t : ColumnType) : IsMeasured t.codec.encode := by
  intro v bs h
  induction t generalizing v bs with
  | scalar k => exact ScalarKind.length_encode h
  | list e ih =>
    cases v with
    | list vs =>
      rw [Value.encodedLength, Value.partsLength_eq_sum]
      exact length_writeWhole (length_writePart ih) ((writeElements_eq_writeWhole ..).symm.trans h)
    | _ => cases h
  | set e ih =>
    cases v with
    | list vs | set vs =>
      rw [Value.encodedLength, Value.partsLength_eq_sum]
      exact length_writeWhole (length_writePart ih) ((writeElements_eq_writeWhole ..).symm.trans h)
    | _ => cases h
  | map k u ihk ihu =>
    cases v with
    | map es =>
      rw [Value.encodedLength, Value.entriesLength_eq_sum]
      exact length_writeWhole (length_writePair ihk ihu)
        ((writeEntries_eq_writeWhole ..).symm.trans h)
    | _ => cases h

/-- Elements can be written if there are not too many and each can be part of a collection. -/
theorem exists_writeElements_iff {kind : CollectionKind} {e : ColumnType} {vs : List Value}
    (ih : ∀ v, (∃ bs, e.codec.encode v = .ok bs) ↔ e.Conforms v) :
    (∃ bs, writeElements kind e.codec.encode vs = .ok bs) ↔
      vs.length ≤ maxLength ∧ ∀ v ∈ vs, v.IsPart e.Conforms := by
  rw [writeElements_eq_writeWhole, exists_writeWhole_iff]
  simp only [exists_writePart_iff e.isMeasured_encode ih]

/-- **What can be written is what conforms.** -/
theorem exists_encode_iff (t : ColumnType) (v : Value) :
    (∃ bs, t.codec.encode v = .ok bs) ↔ t.Conforms v := by
  -- what is not of the sort of the type is refused, and does not conform by definition
  have hmismatch {e : CodecError} : ¬∃ bs : Bytes, Except.error e = .ok bs := by simp
  induction t generalizing v with
  | scalar k => exact ScalarKind.exists_encode_iff
  | list e ih =>
    cases v with
    | list vs => exact exists_writeElements_iff ih
    | _ => exact iff_of_false hmismatch id
  | set e ih =>
    cases v with
    | list vs | set vs => exact exists_writeElements_iff ih
    | _ => exact iff_of_false hmismatch id
  | map k u ihk ihu =>
    cases v with
    | map es =>
      change (∃ bs, writeEntries k.codec.encode u.codec.encode es = .ok bs) ↔ _
      rw [writeEntries_eq_writeWhole, exists_writeWhole_iff]
      simp only [exists_writePair_iff, exists_writePart_iff k.isMeasured_encode ihk,
        exists_writePart_iff u.isMeasured_encode ihu]
      rfl
    | _ => exact iff_of_false hmismatch id

/-- Whether a value conforms can be found out by writing it. -/
instance (t : ColumnType) (v : Value) : Decidable (t.Conforms v) :=
  decidable_of_iff ((t.codec.encode v).toOption.isSome = true) <| by
    rw [← t.exists_encode_iff v]
    cases t.codec.encode v <;> simp [Except.toOption]

example : (ColumnType.set (.scalar .int)).Conforms (.list [.int 1, .int 1]) := by decide

example : ¬(ColumnType.list (.scalar .int)).Conforms (.set [.int 1]) := by decide

/-! ### What is in a value that conforms -/

/-- The parts of what conforms can be parts. -/
theorem Conforms.exists_isPart (h : t.Conforms v) {p : Value} (hp : p ∈ v.parts) :
    ∃ s : ColumnType, p.IsPart s.Conforms := by
  cases t with
  | scalar k =>
    rw [ScalarKind.Holds.parts_eq_nil h] at hp
    exact absurd hp List.not_mem_nil
  | list e =>
    cases v with
    | list vs => exact ⟨e, h.2 p hp⟩
    | _ => exact h.elim
  | set e =>
    cases v with
    | list vs | set vs => exact ⟨e, h.2 p hp⟩
    | _ => exact h.elim
  | map k u =>
    cases v with
    | map es =>
      obtain ⟨e, he, hp⟩ := List.mem_flatMap.mp hp
      rcases List.mem_pair.mp hp with rfl | rfl
      · exact ⟨k, (h.2 e he).1⟩
      · exact ⟨u, (h.2 e he).2⟩
    | _ => exact h.elim

/-- **Whatever is in a value that conforms conforms to some type**, at any depth. -/
theorem Conforms.exists_of_occurs (h : t.Conforms v) {w : Value} (hw : Value.Occurs w v) :
    ∃ s : ColumnType, s.Conforms w := by
  -- the way to the inner value is gone from the outside, part by part, and the type with it
  induction hw generalizing t with
  | refl => exact ⟨t, h⟩
  | tail _ hp ih =>
    obtain ⟨s, hs⟩ := h.exists_isPart hp
    exact ih hs.conforms

theorem Conforms.ne_null (h : t.Conforms v) : v ≠ .null := by
  cases t with
  | scalar k => exact ScalarKind.Holds.ne_null h
  | _ =>
    rintro rfl
    exact h

theorem Conforms.count_le (h : t.Conforms v) : v.count ≤ maxLength := by
  cases t with
  | scalar k =>
    rw [ScalarKind.Holds.count_eq_zero h]
    exact Nat.zero_le _
  | list e =>
    cases v with
    | list vs => exact h.1
    | _ => exact h.elim
  | set e =>
    cases v with
    | list vs | set vs => exact h.1
    | _ => exact h.elim
  | map k u =>
    cases v with
    | map es => exact h.1
    | _ => exact h.elim

/-- **Nothing conforms that has a null in it.** -/
theorem Conforms.not_occurs_null (h : t.Conforms v) : ¬Value.Occurs .null v := by
  intro hocc
  obtain ⟨s, hs⟩ := h.exists_of_occurs hocc
  exact hs.ne_null rfl

/-- **Nothing conforms that is too large.** -/
theorem Conforms.not_isOversized (h : t.Conforms v) : ¬v.IsOversized := by
  rintro ⟨w, hocc, hlarge⟩
  -- the collection that is too large would conform itself
  obtain ⟨s, hs⟩ := h.exists_of_occurs hocc
  rcases hlarge with hcount | ⟨p, hp, hlength⟩
  · exact absurd hs.count_le (Nat.not_le.mpr hcount)
  · obtain ⟨r, hr⟩ := hs.exists_isPart hp
    exact absurd hr.length_le (Nat.not_le.mpr hlength)

end ColumnType

namespace Registry

/-- **The codec of a column type takes the values of the type and no others**: every column type has
one, and it writes a value exactly if the value conforms, in as many bytes as foreseen; so it writes
nothing that has a null in it. -/
theorem exists_encode_iff_conforms (t : ColumnType) :
    ∃ c, (standard.resolve t).result = .ok c ∧ ∀ v,
      ((∃ bs, c.encode v = .ok bs) ↔ t.Conforms v) ∧
      (∀ bs, c.encode v = .ok bs → bs.length = v.encodedLength) ∧
      (Value.Occurs .null v → ∃ e, c.encode v = .error e) := by
  refine ⟨t.codec, result_resolve_standard t, fun v => ⟨t.exists_encode_iff v, ?_, ?_⟩⟩
  · intro bs h
    exact t.isMeasured_encode h
  · intro hnull
    cases h : t.codec.encode v with
    | error e => exact ⟨e, rfl⟩
    | ok bs => exact absurd hnull ((t.exists_encode_iff v).mp ⟨bs, h⟩).not_occurs_null

end Registry

end WideColumn

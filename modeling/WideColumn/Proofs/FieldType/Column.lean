import Mathlib
import WideColumn.FieldType.Conversion
import WideColumn.Proofs.AppType.Column
import WideColumn.Proofs.Codec.Collection
import WideColumn.Proofs.Codec.Conform
import WideColumn.Proofs.Codec.Scalar
import WideColumn.Proofs.Pairing
import WideColumn.Proofs.Value.Part
import WideColumn.Registry

/-!
# Fields and their columns

A program that keeps a field in a column of the type that goes with it uses three tables that know
nothing of one another: the application type of the field, the kind of column for each primitive
type, and the values that the codec of each kind makes and takes. They agree, whatever the type of
the field.

What comes out of the column always fits the field, be it null: outside an optional field a null
stands for the zero value. On the way in there are two obstacles and no more. An optional part may
be missing (`WideColumn.FieldType.HasNone`), and a collection may be too large to be written
(`WideColumn.Value.IsOversized`); then this is what the error says, and not that the codec cannot
handle the value.

* `WideColumn.FieldType.columnType`: the column type of a field;
* `WideColumn.FieldType.exists_ofValue_of_decode`: **what is read fits**;
* `WideColumn.FieldType.conforms_toValue_iff`: **what can be written**;
* `WideColumn.FieldType.failsBySize_encode_toValue`: why something else cannot;
* `WideColumn.Registry.codecFor_fits`: all this, of the codec that a program finds for a field.
-/

namespace WideColumn

open Framing

/-! ### The column type of a field -/

namespace FieldType

/-- **The type of the column that holds a field.** Whether the field may be empty, and whether its
sets and maps are sorted, makes no difference. -/
def columnType : FieldType → ColumnType
  | single p => .scalar (Registry.kindFor p)
  | option t => t.columnType
  | list t => .list t.columnType
  | sortedSet t => .set t.columnType
  | hashSet t => .set t.columnType
  | sortedMap k u => .map k.columnType u.columnType
  | hashMap k u => .map k.columnType u.columnType

theorem columnTypeFor_appType (t : FieldType) :
    Registry.columnTypeFor t.appType = .ok t.columnType := by
  induction t with
  | single p => rfl
  | option t ih => exact ih
  | list t ih | sortedSet t ih | hashSet t ih =>
    rw [appType, Registry.columnTypeFor, ih]
    rfl
  | sortedMap k u ihk ihu | hashMap k u ihk ihu =>
    rw [appType, Registry.columnTypeFor, ihk, ihu]
    rfl

/-- The codec that is found for a field is that of its column type. -/
theorem result_codecFor_appType (t : FieldType) :
    (Registry.standard.codecFor t.appType).result = .ok t.columnType.codec := by
  rw [Registry.result_codecFor_standard, columnTypeFor_appType, Except.map]

end FieldType

/-! ### Reading -/

/-- A value that has a form is of the sort that belongs to the kind. -/
theorem ScalarKind.Form.kind_eq {k : ScalarKind} {bs : Bytes} {v : Value} (h : Form k bs v) :
    v.kind = k.primitive.valueKind := by
  cases h <;> rfl

/-- A field takes the values of its sort, and null for its zero value. -/
theorem Primitive.exists_ofValue {p : Primitive} {v : Value}
    (h : v = .null ∨ v.kind = p.valueKind) : ∃ x, p.ofValue v = .ok x := by
  rcases h with rfl | hkind
  · cases p <;> exact ⟨_, rfl⟩
  · obtain ⟨x, rfl⟩ := exists_toValue hkind
    exact ⟨x, ofValue_toValue p x⟩

namespace FieldType

/-- Entries can be converted if each key and each value can. -/
theorem exists_convertEntries {α β : Type} {key : Value → Except ConversionError α}
    {value : Value → Except ConversionError β} {es : List (Value × Value)}
    (h : ∀ e ∈ es, (∃ x, key e.1 = .ok x) ∧ ∃ y, value e.2 = .ok y) :
    ∃ xs, convertEntries key value es = .ok xs := by
  refine List.exists_mapM_iff.mpr fun e he => ?_
  obtain ⟨⟨x, hx⟩, y, hy⟩ := h e he
  exact ⟨(x, y), Except.bind_eq_ok_iff.mpr ⟨x, hx, Except.bind_eq_ok_iff.mpr ⟨y, hy, rfl⟩⟩⟩

/-- **What is read from the column of a field fits the field.** -/
theorem exists_ofValue_of_decode {t : FieldType} {bs : Bytes} {v : Value}
    (h : t.columnType.codec.decode bs = .ok v) : ∃ x, t.ofValue v = .ok x := by
  induction t generalizing bs v with
  | single p =>
    -- a scalar is read as null or in its form, and the form fixes the sort
    refine Primitive.exists_ofValue ?_
    rcases ScalarKind.decode_eq_ok_iff.mp h with ⟨-, -, hnull⟩ | hform
    · exact Or.inl hnull
    · exact Or.inr (hform.kind_eq.trans (congrArg _ (Registry.primitive_kindFor p)))
  | option t ih =>
    -- the column does not know that the field may be empty
    rw [ofValue]
    split_ifs with hnull
    · exact ⟨none, rfl⟩
    · obtain ⟨x, hx⟩ := ih h
      exact ⟨some x, Except.bind_eq_ok_iff.mpr ⟨x, hx, rfl⟩⟩
  | list t ih =>
    obtain ⟨vs, ⟨parts, -, hvs⟩, rfl⟩ := Codec.decode_list_eq_ok_iff.mp h
    exact List.exists_mapM_iff.mpr (hvs.forall_mem_right fun _ _ => ih)
  | sortedSet t ih | hashSet t ih =>
    obtain ⟨vs, ⟨parts, -, hvs⟩, rfl⟩ := Codec.decode_set_eq_ok_iff.mp h
    obtain ⟨xs, hxs⟩ := List.exists_mapM_iff.mpr (hvs.forall_mem_right fun _ _ => ih)
    exact ⟨_, Except.bind_eq_ok_iff.mpr ⟨vs, rfl, Except.bind_eq_ok_iff.mpr ⟨xs, hxs, rfl⟩⟩⟩
  | sortedMap k u ihk ihu | hashMap k u ihk ihu =>
    obtain ⟨es, ⟨pairs, -, hes⟩, rfl⟩ := Codec.decode_map_eq_ok_iff.mp h
    obtain ⟨xs, hxs⟩ := exists_convertEntries
      (hes.forall_mem_right fun _ _ hdecode => ⟨ihk hdecode.1, ihu hdecode.2⟩)
    exact ⟨_, Except.bind_eq_ok_iff.mpr ⟨es, rfl, Except.bind_eq_ok_iff.mpr ⟨xs, hxs, rfl⟩⟩⟩

end FieldType

/-! ### Missing parts and parts that are too large -/

/-- **An optional part is missing**, or the whole is. -/
def FieldType.HasNone : (t : FieldType) → t.Carrier → Prop
  | single _, _ => False
  | option _, none => True
  | option t, some x => HasNone t x
  | list t, xs => ∃ x ∈ xs, HasNone t x
  | sortedSet t, xs => ∃ x ∈ xs, HasNone t x
  | hashSet t, xs => ∃ x ∈ xs, HasNone t x
  | sortedMap k u, es => ∃ e ∈ es, HasNone k e.1 ∨ HasNone u e.2
  | hashMap k u, es => ∃ e ∈ es, HasNone k e.1 ∨ HasNone u e.2

namespace Value

variable {v p : Value}

theorem count_le_of_not_isOversized (h : ¬v.IsOversized) : v.count ≤ maxLength :=
  Nat.not_lt.mp fun hcount => h ⟨v, Occurs.refl v, Or.inl hcount⟩

theorem length_le_of_not_isOversized (h : ¬v.IsOversized) (hp : p ∈ v.parts) :
    p.encodedLength ≤ maxLength :=
  Nat.not_lt.mp fun hlength => h ⟨v, Occurs.refl v, Or.inr ⟨p, hp, hlength⟩⟩

theorem not_isOversized_of_mem_parts (h : ¬v.IsOversized) (hp : p ∈ v.parts) :
    ¬p.IsOversized := by
  rintro ⟨w, hw, hlarge⟩
  exact h ⟨w, hw.of_mem_parts hp, hlarge⟩

/-- A part of a value that is not too large can be part of a collection if it conforms. -/
theorem isPart_of_not_isOversized (h : ¬v.IsOversized) (hp : p ∈ v.parts) {t : ColumnType}
    (ht : ¬p.IsOversized → t.Conforms p) : p.IsPart t.Conforms := by
  have hconforms := ht (not_isOversized_of_mem_parts h hp)
  exact ⟨hconforms.ne_null, hconforms, length_le_of_not_isOversized h hp⟩

end Value

/-! ### What can be written -/

namespace FieldType

/-- A missing part is a null in the value. -/
theorem occurs_null_of_hasNone {t : FieldType} {x : t.Carrier} (h : t.HasNone x) :
    Value.Occurs .null (t.toValue x) := by
  have hmem {t : FieldType} {xs : List t.Carrier} {x : t.Carrier} (hx : x ∈ xs) :
      t.toValue x ∈ xs.map t.toValue := List.mem_map_of_mem hx
  induction t with
  | single p => exact h.elim
  | option t ih =>
    cases x with
    | none => exact Value.Occurs.refl _
    | some x => exact ih h
  | list t ih | sortedSet t ih | hashSet t ih =>
    obtain ⟨x, hx, hnone⟩ := h
    exact (ih hnone).of_mem_parts (hmem hx)
  | sortedMap k u ihk ihu | hashMap k u ihk ihu =>
    obtain ⟨e, he, hnone⟩ := h
    have he' : (k.toValue e.1, u.toValue e.2) ∈
        List.map (fun e => (k.toValue e.1, u.toValue e.2)) x := List.mem_map_of_mem he
    rcases hnone with hnone | hnone
    · exact (ihk hnone).of_mem_parts (Value.fst_mem_parts he')
    · exact (ihu hnone).of_mem_parts (Value.snd_mem_parts he')

theorem conforms_single (p : Primitive) (x : p.Carrier) :
    (single p).columnType.Conforms (p.toValue x) := by
  cases p <;> exact ⟨rfl, trivial⟩

/-- A field of which nothing is missing has a value of its column type, if that is not too large. -/
theorem conforms_toValue {t : FieldType} {x : t.Carrier} (hnone : ¬t.HasNone x)
    (hsize : ¬(t.toValue x).IsOversized) : t.columnType.Conforms (t.toValue x) := by
  induction t with
  | single p => exact conforms_single p x
  | option t ih =>
    cases x with
    | none => exact absurd trivial hnone
    | some x => exact ih hnone hsize
  | list t ih | sortedSet t ih | hashSet t ih =>
    refine ⟨Value.count_le_of_not_isOversized hsize, fun v hv => ?_⟩
    refine Value.isPart_of_not_isOversized hsize hv fun hsize' => ?_
    obtain ⟨x, hx, rfl⟩ := List.mem_map.mp hv
    exact ih (fun h => hnone ⟨x, hx, h⟩) hsize'
  | sortedMap k u ihk ihu | hashMap k u ihk ihu =>
    refine ⟨Value.count_le_of_not_isOversized hsize, fun p hp => ?_⟩
    have hfst := Value.isPart_of_not_isOversized hsize (Value.fst_mem_parts hp) (t := k.columnType)
    have hsnd := Value.isPart_of_not_isOversized hsize (Value.snd_mem_parts hp) (t := u.columnType)
    obtain ⟨e, he, rfl⟩ := List.mem_map.mp hp
    exact ⟨hfst (ihk fun h => hnone ⟨e, he, Or.inl h⟩), hsnd (ihu fun h => hnone ⟨e, he, Or.inr h⟩)⟩

/-- **What can be written**: a field of which nothing is missing, and which is not too large. -/
theorem conforms_toValue_iff {t : FieldType} {x : t.Carrier} :
    t.columnType.Conforms (t.toValue x) ↔ ¬t.HasNone x ∧ ¬(t.toValue x).IsOversized := by
  constructor
  · intro h
    exact ⟨fun hnone => h.not_occurs_null (occurs_null_of_hasNone hnone), h.not_isOversized⟩
  · rintro ⟨hnone, hsize⟩
    exact conforms_toValue hnone hsize

end FieldType

/-! ### Why something cannot be written -/

/-- The error says that a collection is too large, or an element of one, and it is. -/
def CodecError.IsTooLarge (e : CodecError) : Prop :=
  ∃ n, maxLength < n ∧ e = .invalidData (.partTooLarge n)

namespace Framing

variable {α β : Type}

/-- **A result that can only fail by size.** -/
def FailsBySize (r : Except CodecError α) : Prop :=
  ∀ e, r = .error e → e.IsTooLarge

theorem failsBySize_ok (a : α) : FailsBySize (.ok a : Except CodecError α) := by
  intro e h
  cases h

/-- Steps that can only fail by size make a computation that can. -/
theorem FailsBySize.bind {r : Except CodecError α} {f : α → Except CodecError β}
    (hr : FailsBySize r) (hf : ∀ a, r = .ok a → FailsBySize (f a)) : FailsBySize (r >>= f) := by
  cases r with
  | error e => exact fun e' h => hr e' (congrArg Except.error (Except.error.inj h))
  | ok a => exact hf a rfl

theorem failsBySize_writeLength (n : Nat) : FailsBySize (writeLength n) := by
  intro e h
  rw [writeLength] at h
  split_ifs at h with hn
  exact ⟨n, Nat.not_le.mp hn, (Except.error.inj h).symm⟩

theorem failsBySize_writePart {kind : CollectionKind} {encode : Value → Except CodecError Bytes}
    {v : Value} (hne : v ≠ .null) (h : FailsBySize (encode v)) :
    FailsBySize (writePart kind encode v) := by
  rw [writePart, if_neg (mt Value.isNull_iff.mp hne)]
  exact h.bind fun bs _ => (failsBySize_writeLength _).bind fun length _ => failsBySize_ok _

theorem failsBySize_writePair {encodeKey encodeValue : Value → Except CodecError Bytes}
    {e : Value × Value} (hkey : FailsBySize (writePart .map encodeKey e.1))
    (hvalue : FailsBySize (writePart .map encodeValue e.2)) :
    FailsBySize (writePair encodeKey encodeValue e) :=
  hkey.bind fun _ _ => hvalue.bind fun _ _ => failsBySize_ok _

/-- A collection can only fail by size if each item can. -/
theorem failsBySize_writeWhole {writeItem : α → Except CodecError Bytes} {as : List α}
    (hitem : ∀ a ∈ as, FailsBySize (writeItem a)) : FailsBySize (writeWhole writeItem as) := by
  have hmany : FailsBySize (writeMany writeItem as) := by
    induction as with
    | nil => exact failsBySize_ok _
    | cons a as ih =>
      obtain ⟨hfirst, hrest⟩ := List.forall_mem_cons.mp hitem
      exact hfirst.bind fun _ _ => (ih hrest).bind fun _ _ => failsBySize_ok _
  exact (failsBySize_writeLength _).bind fun _ _ => hmany.bind fun _ _ => failsBySize_ok _

theorem failsBySize_writeElements {kind : CollectionKind}
    {encode : Value → Except CodecError Bytes} {vs : List Value}
    (h : ∀ v ∈ vs, FailsBySize (writePart kind encode v)) :
    FailsBySize (writeElements kind encode vs) := by
  rw [writeElements_eq_writeWhole]
  exact failsBySize_writeWhole h

theorem failsBySize_writeEntries {encodeKey encodeValue : Value → Except CodecError Bytes}
    {es : List (Value × Value)} (h : ∀ e ∈ es,
      FailsBySize (writePart .map encodeKey e.1) ∧ FailsBySize (writePart .map encodeValue e.2)) :
    FailsBySize (writeEntries encodeKey encodeValue es) := by
  rw [writeEntries_eq_writeWhole]
  exact failsBySize_writeWhole fun e he => failsBySize_writePair (h e he).1 (h e he).2

end Framing

namespace FieldType

theorem toValue_ne_null {t : FieldType} {x : t.Carrier} (h : ¬t.HasNone x) :
    t.toValue x ≠ .null := by
  induction t with
  | single p => exact Primitive.toValue_ne_null p x
  | option t ih =>
    cases x with
    | none => exact absurd trivial h
    | some x => exact ih h
  | _ => simp [toValue]

/-- **Where nothing is missing, nothing but size is in the way.** -/
theorem failsBySize_encode_toValue {t : FieldType} {x : t.Carrier} (h : ¬t.HasNone x) :
    FailsBySize (t.columnType.codec.encode (t.toValue x)) := by
  have hpart {kind : CollectionKind} {t : FieldType} {x : t.Carrier} (h : ¬t.HasNone x)
      (ih : ¬t.HasNone x → FailsBySize (t.columnType.codec.encode (t.toValue x))) :
      FailsBySize (writePart kind t.columnType.codec.encode (t.toValue x)) :=
    failsBySize_writePart (toValue_ne_null h) (ih h)
  induction t with
  | single p =>
    -- a scalar has no size to fail by
    obtain ⟨bs, hbs⟩ := (ColumnType.exists_encode_iff _ _).mpr (conforms_single p x)
    rw [toValue, hbs]
    exact failsBySize_ok bs
  | option t ih =>
    cases x with
    | none => exact absurd trivial h
    | some x => exact ih h
  | list t ih | sortedSet t ih | hashSet t ih =>
    refine failsBySize_writeElements (List.forall_mem_map.mpr fun x hx => ?_)
    exact hpart (fun hnone => h ⟨x, hx, hnone⟩) ih
  | sortedMap k u ihk ihu | hashMap k u ihk ihu =>
    refine failsBySize_writeEntries (List.forall_mem_map.mpr fun e he => ⟨?_, ?_⟩)
    · exact hpart (fun hnone => h ⟨e, he, Or.inl hnone⟩) ihk
    · exact hpart (fun hnone => h ⟨e, he, Or.inr hnone⟩) ihu

end FieldType

namespace Registry

/-- **Codecs and fields fit together**: for a field of any type there is a codec. Whatever it reads
fits the field, and whatever the field holds it writes, unless something is missing or too large;
if nothing is missing, no other error is met. -/
theorem codecFor_fits (t : FieldType) :
    ∃ c, (standard.codecFor t.appType).result = .ok c ∧
      (∀ bs v, c.decode bs = .ok v → ∃ x, t.ofValue v = .ok x) ∧
      ∀ x, ((∃ bs, c.encode (t.toValue x) = .ok bs) ↔
          ¬t.HasNone x ∧ ¬(t.toValue x).IsOversized) ∧
        (¬t.HasNone x → ∀ e, c.encode (t.toValue x) = .error e → e.IsTooLarge) := by
  refine ⟨t.columnType.codec, t.result_codecFor_appType, ?_, fun x => ⟨?_, ?_⟩⟩
  · intro bs v h
    exact FieldType.exists_ofValue_of_decode h
  · rw [ColumnType.exists_encode_iff, FieldType.conforms_toValue_iff]
  · intro hnone
    exact FieldType.failsBySize_encode_toValue hnone

end Registry

end WideColumn

import Mathlib
import WideColumn.Proofs.Codec.Frame
import WideColumn.Proofs.Codec.Scalar
import WideColumn.Proofs.Outcome
import WideColumn.Proofs.Registry.ServerType
import WideColumn.Registry

/-!
# The two names of the text kind

A column of text can be declared under either of two names, and a server tells only one of them. So
a program may hold the codec of another type than the one that was declared. It makes no difference:
both codecs read the same, and they write the same or report the same error, which names the type in
the spelling of the codec where it names one.

An error in its main spelling is `WideColumn.CodecError.normalized`. The codec of a type and that of
the type in its main spelling are then related by an equation, and as the framing of collections
only hands the errors of its parts on, the equation goes through it
(`WideColumn.Framing.normalizing_writeWhole`).

* `WideColumn.CodecError.normalized_eq_iff`: what a spelling can change;
* `WideColumn.ColumnType.decode_normalized`, `WideColumn.ColumnType.encode_normalized`: **the codec
  of a type in its main spelling**;
* `WideColumn.Codec.Interchangeable`: two codecs of which a program may use either;
* `WideColumn.Registry.interchangeable_of_isEquivalent`: the codecs of equivalent types, and the one
  that is found by way of the server type.
-/

namespace WideColumn

/-! ### The spelling of errors -/

namespace CodecError

/-- **An error in its main spelling**: it names its type, if any, by the main names of kinds. -/
def normalized : CodecError → CodecError
  | typeMismatch t found => typeMismatch t.normalized found
  | e => e

/-- **The spelling is all that two errors can differ in** if they are the same in their main
spelling. -/
theorem normalized_eq_iff {e f : CodecError} : e.normalized = f.normalized ↔
    e = f ∨ ∃ s t found, e = .typeMismatch s found ∧ f = .typeMismatch t found ∧
      s.isEquivalent t := by
  constructor
  · intro h
    cases e with
    | typeMismatch s found =>
      cases f with
      | typeMismatch t found' =>
        obtain ⟨hst, rfl⟩ := typeMismatch.inj h
        exact Or.inr ⟨s, t, found, rfl, rfl, ColumnType.isEquivalent_iff.mpr hst⟩
      | _ => cases h
    | _ =>
      cases f with
      | typeMismatch t found' => cases h
      | _ => exact Or.inl h
  · rintro (rfl | ⟨s, t, found, rfl, rfl, hst⟩)
    · rfl
    · rw [normalized, normalized, ColumnType.isEquivalent_iff.mp hst]

/-- Two results are the same in the main spelling of their errors if they are the same, or if both
are refusals of a value for its type. -/
theorem eq_or_of_mapError_normalized {α : Type} {x y : Except CodecError α}
    (h : x.mapError normalized = y.mapError normalized) :
    x = y ∨ ∃ s t found, x = .error (.typeMismatch s found) ∧ y = .error (.typeMismatch t found) ∧
      s.isEquivalent t := by
  cases x with
  | ok a =>
    cases y with
    | ok b => exact Or.inl (congrArg Except.ok (Except.ok.inj h))
    | error f => cases h
  | error e =>
    cases y with
    | ok b => cases h
    | error f =>
      rcases normalized_eq_iff.mp (Except.error.inj h) with rfl | ⟨s, t, found, rfl, rfl, hst⟩
      · exact Or.inl rfl
      · exact Or.inr ⟨s, t, found, rfl, rfl, hst⟩

end CodecError

namespace Framing

variable {α : Type} {encode encodeKey encodeValue : Value → Except CodecError Bytes}

/-- A writer whose errors are in their main spelling. -/
def normalizing (writeItem : α → Except CodecError Bytes) : α → Except CodecError Bytes :=
  fun a => (writeItem a).mapError CodecError.normalized

theorem mapError_writeLength (n : Nat) :
    (writeLength n).mapError CodecError.normalized = writeLength n := by
  rw [writeLength]
  split_ifs <;> rfl

theorem normalizing_writePart (kind : CollectionKind) :
    normalizing (writePart kind encode) = writePart kind (normalizing encode) := by
  funext v
  rw [normalizing, writePart, writePart]
  split_ifs with hnull
  · rfl
  · simp only [Except.mapError_bind, mapError_writeLength]
    rfl

theorem normalizing_writePair : normalizing (writePair encodeKey encodeValue) =
    writePair (normalizing encodeKey) (normalizing encodeValue) := by
  funext e
  rw [normalizing, writePair, writePair, ← normalizing_writePart, ← normalizing_writePart]
  simp only [Except.mapError_bind]
  rfl

/-- **The framing hands the errors of the items on.** -/
theorem normalizing_writeWhole (writeItem : α → Except CodecError Bytes) :
    normalizing (writeWhole writeItem) = writeWhole (normalizing writeItem) := by
  have hmany (as : List α) : (writeMany writeItem as).mapError CodecError.normalized =
      writeMany (normalizing writeItem) as := by
    induction as with
    | nil => rfl
    | cons a as ih =>
      rw [writeMany, writeMany, ← ih]
      simp only [Except.mapError_bind]
      rfl
  funext as
  rw [normalizing, writeWhole, writeWhole, ← hmany]
  simp only [Except.mapError_bind, mapError_writeLength]
  rfl

theorem normalizing_writeElements (kind : CollectionKind) :
    normalizing (writeElements kind encode) = writeElements kind (normalizing encode) := by
  rw [funext (writeElements_eq_writeWhole kind encode), normalizing_writeWhole,
    normalizing_writePart, ← funext (writeElements_eq_writeWhole kind _)]

theorem normalizing_writeEntries : normalizing (writeEntries encodeKey encodeValue) =
    writeEntries (normalizing encodeKey) (normalizing encodeValue) := by
  rw [funext (writeEntries_eq_writeWhole encodeKey encodeValue), normalizing_writeWhole,
    normalizing_writePair, ← funext (writeEntries_eq_writeWhole _ _)]

end Framing

open Framing

/-! ### Codecs in their main spelling -/

namespace ScalarKind

theorem canonical_eq_self {k : ScalarKind} (h : k ≠ .varchar) : k.canonical = k := by
  cases k with
  | varchar => exact absurd rfl h
  | _ => rfl

theorem decode_canonical (k : ScalarKind) : k.canonical.decode = k.decode := by
  cases k <;> rfl

theorem encode_canonical (k : ScalarKind) : k.canonical.encode = normalizing k.encode := by
  funext v
  by_cases hk : k = .varchar
  · -- the two kinds write the same texts, and refuse everything else
    rw [hk]
    cases v with
    | inet a => cases a <;> rfl
    | _ => rfl
  · rw [canonical_eq_self hk, normalizing]
    fun_cases encode k v with
    | case21 =>
      -- the only error of a kind that names a type
      rw [Except.mapError, CodecError.normalized, ColumnType.normalized, canonical_eq_self hk]
    | _ => rfl

end ScalarKind

namespace ColumnType

/-- **Under the main names of kinds the same is read.** -/
theorem decode_normalized (t : ColumnType) : t.normalized.codec.decode = t.codec.decode := by
  -- an equation of functions, as a collection reads its parts with the reader as a whole
  induction t with
  | scalar k => exact k.decode_canonical
  | list e ih =>
    funext bs
    exact congrArg (fun decode => (readElements .list decode bs).map Value.list) ih
  | set e ih =>
    funext bs
    exact congrArg (fun decode => (readElements .set decode bs).map Value.set) ih
  | map k u ihk ihu =>
    funext bs
    exact congrArg₂ (fun key value => (readEntries key value bs).map Value.map) ihk ihu

/-- The error of a value that is no collection names the whole type. -/
theorem mismatch_normalized (t : ColumnType) (v : Value) :
    t.normalized.codec.mismatch v = (t.codec.mismatch v).normalized := by
  rw [Codec.mismatch, Codec.mismatch, columnType_codec, columnType_codec, CodecError.normalized]

/-- **Under the main names of kinds the same is written**, and an error is the same in its main
spelling. -/
theorem encode_normalized (t : ColumnType) :
    t.normalized.codec.encode = normalizing t.codec.encode := by
  induction t with
  | scalar k => exact k.encode_canonical
  | list e ih =>
    have helements : writeElements .list e.normalized.codec.encode =
        normalizing (writeElements .list e.codec.encode) := by
      rw [ih, normalizing_writeElements]
    funext v
    cases v with
    | list vs => exact congrFun helements vs
    | _ => exact congrArg Except.error (mismatch_normalized (.list e) _)
  | set e ih =>
    have helements : writeElements .set e.normalized.codec.encode =
        normalizing (writeElements .set e.codec.encode) := by
      rw [ih, normalizing_writeElements]
    funext v
    cases v with
    | list vs | set vs => exact congrFun helements vs
    | _ => exact congrArg Except.error (mismatch_normalized (.set e) _)
  | map k u ihk ihu =>
    have hentries : writeEntries k.normalized.codec.encode u.normalized.codec.encode =
        normalizing (writeEntries k.codec.encode u.codec.encode) := by
      rw [ihk, ihu, normalizing_writeEntries]
    funext v
    cases v with
    | map es => exact congrFun hentries es
    | _ => exact congrArg Except.error (mismatch_normalized (.map k u) _)

end ColumnType

/-! ### Interchangeable codecs -/

/-- **A program may use either of two codecs**: they read the same, and they write the same, except
that where both refuse a value for its type they may name the type in different spellings. -/
structure Codec.Interchangeable (c d : Codec) : Prop where
  decode_eq : ∀ bs, c.decode bs = d.decode bs
  encode_eq_or : ∀ v, c.encode v = d.encode v ∨ ∃ s t found,
    c.encode v = .error (.typeMismatch s found) ∧ d.encode v = .error (.typeMismatch t found) ∧
      s.isEquivalent t

/-- **The codecs of equivalent types are interchangeable.** -/
theorem ColumnType.interchangeable_codec {a b : ColumnType} (h : a.isEquivalent b) :
    a.codec.Interchangeable b.codec := by
  have hnormalized := isEquivalent_iff.mp h
  constructor
  · intro bs
    rw [← a.decode_normalized, hnormalized, b.decode_normalized]
  · intro v
    have hencode : normalizing a.codec.encode v = normalizing b.codec.encode v := by
      rw [← a.encode_normalized, hnormalized, b.encode_normalized]
    exact CodecError.eq_or_of_mapError_normalized hencode

namespace Registry

/-- **The name of the text kind makes no difference.** Equivalent types have interchangeable codecs;
and the codec that is found by way of a type's server type can be used instead of the type's own. -/
theorem interchangeable_of_isEquivalent {a b : ColumnType} (h : a.isEquivalent b) :
    ∃ c d, (standard.resolve a).result = .ok c ∧ (standard.resolve b).result = .ok d ∧
      c.Interchangeable d ∧
      ∃ s e, standard.columnType a.serverType = .ok s ∧ (standard.resolve s).result = .ok e ∧
        e.Interchangeable c := by
  refine ⟨a.codec, b.codec, result_resolve_standard a, result_resolve_standard b,
    ColumnType.interchangeable_codec h, a.normalized, a.normalized.codec,
    columnType_serverType_standard a, result_resolve_standard _, ?_⟩
  exact ColumnType.interchangeable_codec (ColumnType.isEquivalent_iff.mpr a.normalized_normalized)

/-- Names may differ in several places. -/
theorem interchangeable_of_isEquivalent_map :
    ColumnType.isEquivalent (.map (.scalar .varchar) (.list (.scalar .text)))
      (.map (.scalar .text) (.list (.scalar .varchar))) = true ∧
    ∃ c d,
      (standard.resolve (.map (.scalar .varchar) (.list (.scalar .text)))).result = .ok c ∧
      (standard.resolve (.map (.scalar .text) (.list (.scalar .varchar)))).result = .ok d ∧
      c.Interchangeable d ∧
      ∃ s e, standard.columnType
          (ColumnType.map (.scalar .varchar) (.list (.scalar .text))).serverType = .ok s ∧
        (standard.resolve s).result = .ok e ∧ e.Interchangeable c := by
  have h : ColumnType.isEquivalent (.map (.scalar .varchar) (.list (.scalar .text)))
      (.map (.scalar .text) (.list (.scalar .varchar))) = true := by decide
  exact ⟨h, interchangeable_of_isEquivalent h⟩

end Registry

end WideColumn

import Mathlib
import WideColumn.Codec.Basic
import WideColumn.Proofs.Codec.Frame

/-!
# Damaged collections

The bytes of a collection do not survive damage at their end unnoticed: if some are missing the
decoder runs out of bytes, and if there are too many it says how many. It is never the decoder of a
part that finds out, and never a shorter collection that is decoded.

The reason is that each reader knows from the bytes it has seen how many more it needs. It makes no
use of bytes beyond these, and without one of them it does not get to a result but out of bytes
(`WideColumn.Framing.SelfDelimiting`). Reading one thing after another is of this kind if reading
each of them is, so it is enough to look at the single step that takes bytes off the buffer. Where a
cut falls does not matter: in the count, in a length, in a part, or between two of these.

* `WideColumn.Framing.OutOfBytes`: the bytes have ended too early;
* `WideColumn.Framing.SelfDelimiting`: readers that know where they end;
* `WideColumn.Codec.decode_damaged`: **cut or extended bytes of a collection are told as such.**
-/

namespace WideColumn

namespace Framing

variable {α β : Type}

/-! ### Running out of bytes -/

/-- **The bytes ended too early**: fewer were available than needed. -/
def OutOfBytes (x : Except CodecError α) : Prop :=
  ∃ needed available, available < needed ∧ x = .error (.bufferTooSmall needed available)

theorem OutOfBytes.bind {x : Except CodecError α} (h : OutOfBytes x)
    (f : α → Except CodecError β) : OutOfBytes (x >>= f) := by
  obtain ⟨needed, available, hlt, rfl⟩ := h
  exact ⟨needed, available, hlt, rfl⟩

theorem OutOfBytes.map {x : Except CodecError α} (h : OutOfBytes x) (f : α → β) :
    OutOfBytes (x.map f) := by
  obtain ⟨needed, available, hlt, rfl⟩ := h
  exact ⟨needed, available, hlt, rfl⟩

/-! ### Readers that know where they end -/

/-- **A reader that knows where it ends**: what it has read stands for the same whatever follows,
and with less than that it runs out of bytes. -/
def SelfDelimiting (f : Bytes → Except CodecError (α × Bytes)) : Prop :=
  ∀ bs rest a, f bs = .ok (a, rest) →
    ∃ used, used ++ rest = bs ∧ (∀ tail, f (used ++ tail) = .ok (a, tail)) ∧
      ∀ cut, cut <+: used → cut ≠ used → OutOfBytes (f cut)

theorem selfDelimiting_pure (a : α) : SelfDelimiting fun bs => pure (a, bs) := by
  intro bs rest b h
  cases h
  refine ⟨[], rfl, fun _ => rfl, fun cut hcut hne => ?_⟩
  exact absurd (List.prefix_nil.mp hcut) hne

theorem selfDelimiting_error (e : CodecError) :
    SelfDelimiting (α := α) fun _ => .error e := by
  intro bs rest a h
  cases h

/-- What takes no bytes may come in between. -/
theorem selfDelimiting_lift (x : Except CodecError α) :
    SelfDelimiting fun bs => x >>= fun a => pure (a, bs) := by
  cases x with
  | error e => exact selfDelimiting_error e
  | ok a => exact selfDelimiting_pure a

/-- **Of two readers one after the other, each knows where it ends, and so do both.** A cut falls
either in what the first one reads or in what the second one does. -/
theorem SelfDelimiting.bind {f : Bytes → Except CodecError (α × Bytes)}
    {g : α → Bytes → Except CodecError (β × Bytes)} (hf : SelfDelimiting f)
    (hg : ∀ a, SelfDelimiting (g a)) : SelfDelimiting fun bs => f bs >>= fun p => g p.1 p.2 := by
  intro bs rest b h
  obtain ⟨⟨a, mid⟩, hfirst, hsecond⟩ := Except.bind_eq_ok_iff.mp h
  obtain ⟨us, rfl, hftail, hfcut⟩ := hf _ _ _ hfirst
  obtain ⟨ws, rfl, hgtail, hgcut⟩ := hg a _ _ _ hsecond
  refine ⟨us ++ ws, List.append_assoc _ _ _, fun tail => ?_, fun cut hcut hne => ?_⟩
  · rw [List.append_assoc]
    exact Except.bind_eq_ok_iff.mpr ⟨(a, ws ++ tail), hftail _, hgtail tail⟩
  · by_cases hus : us <+: cut
    · obtain ⟨ds, rfl⟩ := hus
      have hds : ds <+: ws := (List.prefix_append_right_inj us).mp hcut
      have hshort : OutOfBytes (g a ds) :=
        hgcut ds hds fun h => hne (congrArg (us ++ ·) h)
      simp only [hftail ds]
      exact hshort
    · have hcutus : cut <+: us :=
        (List.prefix_or_prefix_of_prefix hcut (List.prefix_append us ws)).resolve_right hus
      have hshort : OutOfBytes (f cut) := hfcut cut hcutus fun h => hus (h ▸ List.prefix_rfl)
      exact hshort.bind _

/-- Of two readers, either may be the one. -/
theorem SelfDelimiting.ite {p : Prop} [Decidable p] {f g : Bytes → Except CodecError (α × Bytes)}
    (hf : SelfDelimiting f) (hg : SelfDelimiting g) :
    SelfDelimiting fun bs => if p then f bs else g bs := by
  by_cases hp : p
  · simpa only [if_pos hp] using hf
  · simpa only [if_neg hp] using hg

/-! ### Every reader of a collection knows where it ends -/

/-- **Where bytes are taken off the buffer**, they are all needed. -/
theorem selfDelimiting_readBytes (n : Nat) : SelfDelimiting (readBytes n) := by
  intro bs rest part h
  obtain ⟨rfl, rfl⟩ := readBytes_eq_ok_iff.mp h
  refine ⟨part, rfl, fun tail => readBytes_eq_ok_iff.mpr ⟨rfl, rfl⟩, fun cut hcut hne => ?_⟩
  have hlt : cut.length < part.length :=
    lt_of_le_of_ne hcut.length_le fun h => hne (hcut.eq_of_length h)
  exact ⟨part.length, cut.length, hlt, if_neg (Nat.not_le_of_lt hlt)⟩

theorem selfDelimiting_readInt : SelfDelimiting readInt :=
  (selfDelimiting_readBytes 4).bind
    (g := fun word bs => pure ((UInt32.ofNat (Bytes.toNat word)).toInt32, bs)) fun _ =>
      selfDelimiting_pure _

theorem selfDelimiting_readCount : SelfDelimiting readCount :=
  selfDelimiting_readInt.bind (g := fun (n : Int32) bs => if n.toInt < 0 then
    .error (.invalidData (.negativeCount n)) else pure (n.toInt.toNat, bs)) fun _ =>
      (selfDelimiting_error _).ite (selfDelimiting_pure _)

variable {kind : CollectionKind}

/-- A part is decoded when all of its bytes are there. -/
theorem selfDelimiting_readPart (decode : Bytes → Except CodecError α) :
    SelfDelimiting (readPart kind decode) :=
  selfDelimiting_readInt.bind (g := fun (length : Int32) bs => if length.toInt < 0 then
    .error (.nullElement kind) else readBytes length.toInt.toNat bs >>= fun p =>
      decode p.1 >>= fun a => pure (a, p.2)) fun _ => (selfDelimiting_error _).ite <|
    (selfDelimiting_readBytes _).bind (g := fun part bs => decode part >>= fun a => pure (a, bs))
      fun part => selfDelimiting_lift (decode part)

theorem selfDelimiting_readPair (decodeKey : Bytes → Except CodecError α)
    (decodeValue : Bytes → Except CodecError β) :
    SelfDelimiting (readPair decodeKey decodeValue) :=
  (selfDelimiting_readPart decodeKey).bind fun _ =>
    (selfDelimiting_readPart decodeValue).bind fun _ => selfDelimiting_pure _

variable {readItem : Bytes → Except CodecError (α × Bytes)}

theorem selfDelimiting_readMany (hitem : SelfDelimiting readItem) (count : Nat) :
    SelfDelimiting (readMany readItem count) := by
  induction count with
  | zero => exact selfDelimiting_pure []
  | succ count ih => exact hitem.bind fun _ => ih.bind fun _ => selfDelimiting_pure _

/-! ### Whole collections -/

/-- The items of a collection, as many as the count in front of them says. -/
def readCounted (readItem : Bytes → Except CodecError (α × Bytes)) (bs : Bytes) :
    Except CodecError (List α × Bytes) :=
  readCount bs >>= fun p => readMany readItem p.1 p.2

theorem selfDelimiting_readCounted (hitem : SelfDelimiting readItem) :
    SelfDelimiting (readCounted readItem) :=
  selfDelimiting_readCount.bind (selfDelimiting_readMany hitem)

/-- Bytes are a whole collection if nothing follows its items. -/
theorem readWhole_eq_bind {bs : Bytes} (hne : bs ≠ []) : readWhole kind readItem bs =
    readCounted readItem bs >>= fun p => readEnd kind p.2 >>= fun _ => pure p.1 := by
  rw [readWhole, if_neg (by simpa using hne)]
  exact (bind_assoc ..).symm

/-- **Whole collections** have an end by their count, so that missing bytes and bytes behind it are
noticed. -/
theorem SelfDelimiting.readWhole_damaged (hitem : SelfDelimiting readItem) {bs : Bytes}
    {as : List α} (hne : bs ≠ []) (h : readWhole kind readItem bs = .ok as) :
    (∀ cut, cut <+: bs → cut ≠ [] → cut ≠ bs → OutOfBytes (readWhole kind readItem cut)) ∧
      ∀ extra, extra ≠ [] →
        readWhole kind readItem (bs ++ extra) = .error (.trailingBytes kind extra.length) := by
  rw [readWhole_eq_bind hne] at h
  obtain ⟨⟨as, rest⟩, hread, hresult⟩ := Except.bind_eq_ok_iff.mp h
  obtain ⟨_, hend, -⟩ := Except.bind_eq_ok_iff.mp hresult
  obtain rfl := readEnd_eq_ok_iff.mp hend
  obtain ⟨used, hused, htail, hcut⟩ := selfDelimiting_readCounted hitem _ _ _ hread
  obtain rfl : used = bs := by rw [← hused, List.append_nil]
  refine ⟨fun cut hprefix hcutne hstrict => ?_, fun extra hextra => ?_⟩
  · rw [readWhole_eq_bind hcutne]
    exact (hcut cut hprefix hstrict).bind _
  · have hend : readEnd kind extra = .error (.trailingBytes kind extra.length) :=
      if_neg (by simpa using hextra)
    rw [readWhole_eq_bind (List.append_ne_nil_of_left_ne_nil hne extra), htail extra]
    exact congrArg (· >>= fun _ => pure as) hend

end Framing

open Framing

namespace Codec

/-- The collection a codec is for, if it is made from those of its parts. -/
def collectionKind? : Codec → Option CollectionKind
  | list _ => some .list
  | set _ => some .set
  | map _ _ => some .map
  | scalar _ | custom _ => none

/-- A codec of a collection reads as many items as there are, and makes a value of them. -/
theorem exists_decode_eq_map {c : Codec} {kind : CollectionKind}
    (h : c.collectionKind? = some kind) : ∃ (α : Type)
      (readItem : Bytes → Except CodecError (α × Bytes)) (make : List α → Value),
      SelfDelimiting readItem ∧ ∀ bs, c.decode bs = (readWhole kind readItem bs).map make := by
  cases c with
  | list e =>
    cases h
    refine ⟨Value, readPart .list e.decode, .list, selfDelimiting_readPart _, fun bs => ?_⟩
    rw [decode, readElements_eq_readWhole]
  | set e =>
    cases h
    refine ⟨Value, readPart .set e.decode, .set, selfDelimiting_readPart _, fun bs => ?_⟩
    rw [decode, readElements_eq_readWhole]
  | map k v =>
    cases h
    refine ⟨Value × Value, readPair k.decode v.decode, .map, selfDelimiting_readPair _ _,
      fun bs => ?_⟩
    rw [decode, readEntries_eq_readWhole]
  | scalar _ | custom _ => cases h

/-- **Damage to the bytes of a collection is told as what it is**, whatever the codecs of its parts
are: where bytes are missing at the end the decoder runs out of them, and where bytes have been
added it says how many, and to what kind of collection. -/
theorem decode_damaged {c : Codec} {kind : CollectionKind} (hkind : c.collectionKind? = some kind)
    {bs : Bytes} (hne : bs ≠ []) {v : Value} (h : c.decode bs = .ok v) :
    (∀ cut, cut <+: bs → cut ≠ [] → cut ≠ bs → ∃ needed available, available < needed ∧
      c.decode cut = .error (.bufferTooSmall needed available)) ∧
    ∀ extra, extra ≠ [] →
      c.decode (bs ++ extra) = .error (.trailingBytes kind extra.length) := by
  obtain ⟨α, readItem, make, hitem, hdecode⟩ := exists_decode_eq_map hkind
  rw [hdecode] at h
  obtain ⟨as, has, -⟩ := Except.map_eq_ok_iff.mp h
  obtain ⟨hcut, hextra⟩ := hitem.readWhole_damaged hne has
  refine ⟨fun cut hprefix hcutne hstrict => ?_, fun extra hextrane => ?_⟩
  · rw [hdecode]
    exact (hcut cut hprefix hcutne hstrict).map make
  · rw [hdecode, hextra extra hextrane]
    rfl

/-- A map from one truth value to a list of one, without the value of its entry, and with two more
bytes. -/
theorem decode_damaged_map_of_lists :
    (∃ needed available, available < needed ∧
      (map (.scalar .boolean) (.list (.scalar .boolean))).decode [0, 0, 0, 1, 0, 0, 0, 1, 1] =
        .error (.bufferTooSmall needed available)) ∧
    (map (.scalar .boolean) (.list (.scalar .boolean))).decode
      ([0, 0, 0, 1, 0, 0, 0, 1, 1, 0, 0, 0, 9, 0, 0, 0, 1, 0, 0, 0, 1, 1] ++ [0, 0]) =
        .error (.trailingBytes .map 2) := by
  have hwhole : (map (.scalar .boolean) (.list (.scalar .boolean))).decode
      [0, 0, 0, 1, 0, 0, 0, 1, 1, 0, 0, 0, 9, 0, 0, 0, 1, 0, 0, 0, 1, 1] =
        .ok (.map [(.boolean true, .list [.boolean true])]) := by rfl
  obtain ⟨hcut, hextra⟩ := decode_damaged rfl (by decide) hwhole
  exact ⟨hcut _ (by decide) (by decide) (by decide), hextra [0, 0] (by decide)⟩

end Codec

end WideColumn

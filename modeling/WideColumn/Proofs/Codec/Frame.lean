import Mathlib
import WideColumn.Codec.Framing
import WideColumn.Proofs.Bytes.Word
import WideColumn.Proofs.Outcome

/-!
# What a framed collection is

The readers of collections go through the bytes and take off what they understand; here the same is
said at one glance. A collection is framed as the word of its count and then its parts, each behind
the word of its length (`WideColumn.Framing.frame`), and nothing after them.

A list, or a set, has one part for each element, a map has two for each entry. Both are sequences
of items that are read one behind the other, and both readers are
`WideColumn.Framing.readWhole`, with the reader of an item as a parameter; so one induction over
the count serves for both. In the same way both writers are `WideColumn.Framing.writeWhole`.

* `WideColumn.Framing.readElements_eq_ok_iff`, `WideColumn.Framing.readEntries_eq_ok_iff`: **the
  readers accept the framed collections and no other bytes** but the empty ones;
* `WideColumn.Framing.writeElements_eq_ok_iff`, `WideColumn.Framing.writeEntries_eq_ok_iff`: the
  writers succeed if each part can be written and every length can be said, and then they frame.
-/

namespace WideColumn

namespace Framing

/-! ### Frames -/

/-- A part behind its length. -/
def framed (part : Bytes) : Bytes :=
  Bytes.ofNat 4 part.length ++ part

/-- A count and parts, each behind its length. -/
def frame (count : Nat) (parts : List Bytes) : Bytes :=
  Bytes.ofNat 4 count ++ parts.flatMap framed

theorem length_frame (count : Nat) (parts : List Bytes) :
    (frame count parts).length = 4 + (parts.flatMap framed).length := by
  rw [frame, List.length_append, Bytes.length_ofNat]

/-- The parts of entries: each key before its value. -/
def alternating (pairs : List (Bytes × Bytes)) : List Bytes :=
  pairs.flatMap fun p => [p.1, p.2]

theorem flatMap_framed_alternating (pairs : List (Bytes × Bytes)) :
    (alternating pairs).flatMap framed = pairs.flatMap fun p => framed p.1 ++ framed p.2 := by
  rw [alternating, List.flatMap_assoc]
  simp

variable {α β ι : Type}

/-- Bytes are a frame if what they say about lengths can be said. -/
structure IsFrame (bs : Bytes) (count : Nat) (parts : List Bytes) : Prop where
  frame_eq : frame count parts = bs
  count_le : count ≤ maxLength
  length_le : ∀ part ∈ parts, part.length ≤ maxLength

/-- **The bytes of a collection**: a frame, or no bytes for a collection without parts. -/
def IsDivided (bs : Bytes) (count : Nat) (parts : List Bytes) : Prop :=
  (bs = [] ∧ count = 0 ∧ parts = []) ∨ IsFrame bs count parts

/-- **The bytes of a list or set**: there is a part for each element, which is decoded to it. -/
def IsElements (decode : Bytes → Except CodecError α) (bs : Bytes) (as : List α) : Prop :=
  ∃ parts, IsDivided bs parts.length parts ∧
    List.Forall₂ (fun part a => decode part = .ok a) parts as

/-- **The bytes of a map**: there are two parts for each entry, one for its key and one for its
value. -/
def IsEntries (decodeKey : Bytes → Except CodecError α) (decodeValue : Bytes → Except CodecError β)
    (bs : Bytes) (es : List (α × β)) : Prop :=
  ∃ pairs, IsDivided bs pairs.length (alternating pairs) ∧
    List.Forall₂ (fun p e => decodeKey p.1 = .ok e.1 ∧ decodeValue p.2 = .ok e.2) pairs es

theorem forall_mem_alternating {P : Bytes → Prop} {pairs : List (Bytes × Bytes)} :
    (∀ part ∈ alternating pairs, P part) ↔ ∀ p ∈ pairs, P p.1 ∧ P p.2 := by
  rw [alternating, List.forall_mem_flatMap]
  simp

theorem forall₂_alternating {R : Bytes → Bytes → Prop} {pairs pairs' : List (Bytes × Bytes)}
    (h : List.Forall₂ (fun p q => R p.1 q.1 ∧ R p.2 q.2) pairs pairs') :
    List.Forall₂ R (alternating pairs) (alternating pairs') := by
  induction h with
  | nil => exact .nil
  | cons hpq _ ih =>
    simp only [alternating, List.flatMap_cons]
    exact .cons hpq.1 (.cons hpq.2 ih)

/-! ### Reading words -/

theorem readBytes_eq_ok_iff {n : Nat} {bs part rest : Bytes} :
    readBytes n bs = .ok (part, rest) ↔ part.length = n ∧ part ++ rest = bs := by
  rw [readBytes]
  constructor
  · intro h
    split_ifs at h with hn
    obtain ⟨rfl, rfl⟩ := Prod.mk.inj (Except.ok.inj h)
    exact ⟨List.length_take_of_le hn, List.take_append_drop n bs⟩
  · rintro ⟨rfl, rfl⟩
    rw [if_pos (by simp), List.take_left, List.drop_left]

theorem readInt_eq_ok_iff {bs rest : Bytes} {n : Int32} :
    readInt bs = .ok (n, rest) ↔ ∃ word : Bytes, word.length = 4 ∧ word ++ rest = bs ∧
      (UInt32.ofNat (Bytes.toNat word)).toInt32 = n := by
  rw [readInt, Except.bind_eq_ok_iff]
  constructor
  · rintro ⟨⟨word, rest'⟩, hread, hresult⟩
    obtain ⟨hn, rfl⟩ := Prod.mk.inj (Except.ok.inj hresult)
    obtain ⟨hword, hbs⟩ := readBytes_eq_ok_iff.mp hread
    exact ⟨word, hword, hbs, hn⟩
  · rintro ⟨word, hword, hbs, rfl⟩
    exact ⟨(word, rest), readBytes_eq_ok_iff.mpr ⟨hword, hbs⟩, rfl⟩

/-- **A word that is read as a number which is not negative is the word of that number.** -/
theorem readInt_toNat_iff {bs rest : Bytes} {n : Nat} :
    (∃ word, readInt bs = .ok (word, rest) ∧ ¬word.toInt < 0 ∧ word.toInt.toNat = n) ↔
      n ≤ maxLength ∧ Bytes.ofNat 4 n ++ rest = bs := by
  have hmax : n ≤ maxLength ↔ n < 2 ^ 31 := by
    unfold maxLength
    omega
  rw [hmax]
  constructor
  · rintro ⟨word, hread, hsign, hn⟩
    obtain ⟨w, hw, rfl, rfl⟩ := readInt_eq_ok_iff.mp hread
    obtain ⟨hlt, rfl⟩ := (Bytes.toInt_word_eq_iff hw (n := n)).mp (by omega)
    exact ⟨hlt, rfl⟩
  · rintro ⟨hlt, rfl⟩
    have hword := Bytes.length_ofNat 4 n
    have hn := (Bytes.toInt_word_eq_iff hword).mpr ⟨hlt, rfl⟩
    refine ⟨_, readInt_eq_ok_iff.mpr ⟨_, hword, rfl, rfl⟩, ?_, ?_⟩
    · rw [hn]
      omega
    · rw [hn, Int.toNat_natCast]

theorem readCount_eq_ok_iff {bs rest : Bytes} {n : Nat} :
    readCount bs = .ok (n, rest) ↔ n ≤ maxLength ∧ Bytes.ofNat 4 n ++ rest = bs := by
  rw [← readInt_toNat_iff, readCount, Except.bind_eq_ok_iff]
  constructor
  · rintro ⟨⟨word, rest'⟩, hread, hresult⟩
    simp only at hresult
    split_ifs at hresult with hsign
    obtain ⟨hn, rfl⟩ := Prod.mk.inj (Except.ok.inj hresult)
    exact ⟨word, hread, hsign, hn⟩
  · rintro ⟨word, hread, hsign, rfl⟩
    exact ⟨(word, rest), hread, if_neg hsign⟩

/-- **A part is read if it stands behind its length** and can be decoded. -/
theorem readPart_eq_ok_iff {kind : CollectionKind} {decode : Bytes → Except CodecError α}
    {bs rest : Bytes} {a : α} :
    readPart kind decode bs = .ok (a, rest) ↔
      ∃ part, (part.length ≤ maxLength ∧ decode part = .ok a) ∧ framed part ++ rest = bs := by
  rw [readPart, Except.bind_eq_ok_iff]
  constructor
  · rintro ⟨⟨word, tail⟩, hread, hresult⟩
    simp only at hresult
    split_ifs at hresult with hsign
    obtain ⟨⟨part, rest'⟩, hbytes, hpart⟩ := Except.bind_eq_ok_iff.mp hresult
    obtain ⟨b, hdecode, hb⟩ := Except.bind_eq_ok_iff.mp hpart
    obtain ⟨rfl, rfl⟩ := Prod.mk.inj (Except.ok.inj hb)
    obtain ⟨hlength, rfl⟩ := readBytes_eq_ok_iff.mp hbytes
    obtain ⟨hmax, rfl⟩ := readInt_toNat_iff.mp ⟨word, hread, hsign, hlength.symm⟩
    refine ⟨part, ⟨hmax, hdecode⟩, ?_⟩
    rw [framed, List.append_assoc]
  · rintro ⟨part, ⟨hmax, hdecode⟩, rfl⟩
    rw [framed, List.append_assoc]
    obtain ⟨word, hread, hsign, hlength⟩ := readInt_toNat_iff.mpr ⟨hmax, rfl⟩
    refine ⟨(word, part ++ rest), hread, (if_neg hsign).trans ?_⟩
    exact Except.bind_eq_ok_iff.mpr ⟨(part, rest),
      readBytes_eq_ok_iff.mpr ⟨hlength.symm, rfl⟩, Except.bind_eq_ok_iff.mpr ⟨a, hdecode, rfl⟩⟩

theorem readEnd_eq_ok_iff {kind : CollectionKind} {bs : Bytes} :
    readEnd kind bs = .ok () ↔ bs = [] := by
  rw [readEnd]
  constructor
  · intro h
    split_ifs at h with hbs
    exact List.isEmpty_iff.mp hbs
  · rintro rfl
    rfl

/-! ### Reading items -/

/-- A given number of items, one behind the other. -/
def readMany (readItem : Bytes → Except CodecError (α × Bytes)) :
    (count : Nat) → Bytes → Except CodecError (List α × Bytes)
  | 0, bs => return ([], bs)
  | count + 1, bs => do
    let (a, bs) ← readItem bs
    let (as, bs) ← readMany readItem count bs
    return (a :: as, bs)

/-- A count, as many items, and nothing after them; or no bytes. -/
def readWhole (kind : CollectionKind) (readItem : Bytes → Except CodecError (α × Bytes))
    (bs : Bytes) : Except CodecError (List α) :=
  if bs.isEmpty then .ok []
  else do
    let (count, rest) ← readCount bs
    let (as, rest) ← readMany readItem count rest
    readEnd kind rest
    return as

/-- A key and its value. -/
def readPair (decodeKey : Bytes → Except CodecError α) (decodeValue : Bytes → Except CodecError β)
    (bs : Bytes) : Except CodecError ((α × β) × Bytes) := do
  let (k, bs) ← readPart .map decodeKey bs
  let (v, bs) ← readPart .map decodeValue bs
  return ((k, v), bs)

theorem readElements_eq_readWhole (kind : CollectionKind) (decode : Bytes → Except CodecError α)
    (bs : Bytes) : readElements kind decode bs = readWhole kind (readPart kind decode) bs := by
  have hmany (count : Nat) (cs : Bytes) :
      readParts kind decode count cs = readMany (readPart kind decode) count cs := by
    induction count generalizing cs with
    | zero => rfl
    | succ count ih => simp only [readParts, readMany, ih]
  unfold readElements readWhole
  simp only [hmany]

theorem readEntries_eq_readWhole (decodeKey : Bytes → Except CodecError α)
    (decodeValue : Bytes → Except CodecError β) (bs : Bytes) :
    readEntries decodeKey decodeValue bs = readWhole .map (readPair decodeKey decodeValue) bs := by
  have hmany (count : Nat) (cs : Bytes) : readPairs decodeKey decodeValue count cs =
      readMany (readPair decodeKey decodeValue) count cs := by
    induction count generalizing cs with
    | zero => rfl
    | succ count ih =>
      simp only [readPairs, readMany, readPair, bind_assoc, pure_bind, ih]
  unfold readEntries readWhole
  simp only [hmany]

/-- **Items are read one by one**: if an item `i` that is read as `a` takes the bytes `write i`,
then so do many. -/
theorem readMany_eq_ok_iff {readItem : Bytes → Except CodecError (α × Bytes)} {R : ι → α → Prop}
    {write : ι → Bytes} (hitem : ∀ bs rest a, readItem bs = .ok (a, rest) ↔
      ∃ i, R i a ∧ write i ++ rest = bs) {count : Nat} {bs rest : Bytes} {as : List α} :
    readMany readItem count bs = .ok (as, rest) ↔
      ∃ is, as.length = count ∧ List.Forall₂ R is as ∧ is.flatMap write ++ rest = bs := by
  induction count generalizing bs as with
  | zero =>
    constructor
    · intro h
      obtain ⟨rfl, rfl⟩ := Prod.mk.inj (Except.ok.inj h)
      exact ⟨[], rfl, .nil, rfl⟩
    · rintro ⟨is, hlength, his, rfl⟩
      obtain rfl := List.length_eq_zero_iff.mp hlength
      cases his
      rfl
  | succ count ih =>
    rw [readMany, Except.bind_eq_ok_iff]
    constructor
    · rintro ⟨⟨a, tail⟩, hread, hresult⟩
      obtain ⟨⟨as', rest'⟩, hmany, hresult⟩ := Except.bind_eq_ok_iff.mp hresult
      obtain ⟨rfl, rfl⟩ := Prod.mk.inj (Except.ok.inj hresult)
      obtain ⟨i, hi, rfl⟩ := (hitem _ _ _).mp hread
      obtain ⟨is, rfl, his, rfl⟩ := ih.mp hmany
      exact ⟨i :: is, rfl, .cons hi his, List.append_assoc _ _ _⟩
    · rintro ⟨is, hlength, his, rfl⟩
      cases his with
      | nil => exact absurd hlength nofun
      | @cons i a is as hi his =>
        rw [List.flatMap_cons, List.append_assoc]
        refine ⟨(a, is.flatMap write ++ rest), (hitem _ _ _).mpr ⟨i, hi, rfl⟩, ?_⟩
        exact Except.bind_eq_ok_iff.mpr
          ⟨(as, rest), ih.mpr ⟨is, Nat.succ.inj hlength, his, rfl⟩, rfl⟩

/-- The bytes that are read as a whole collection. -/
theorem readWhole_eq_ok_iff {kind : CollectionKind}
    {readItem : Bytes → Except CodecError (α × Bytes)} {R : ι → α → Prop} {write : ι → Bytes}
    (hitem : ∀ bs rest a, readItem bs = .ok (a, rest) ↔ ∃ i, R i a ∧ write i ++ rest = bs)
    {bs : Bytes} {as : List α} :
    readWhole kind readItem bs = .ok as ↔ (bs = [] ∧ as = []) ∨
      ∃ is, bs = Bytes.ofNat 4 as.length ++ is.flatMap write ∧ as.length ≤ maxLength ∧
        List.Forall₂ R is as := by
  rw [readWhole]
  constructor
  · intro h
    split_ifs at h with hbs
    · exact Or.inl ⟨List.isEmpty_iff.mp hbs, (Except.ok.inj h).symm⟩
    · obtain ⟨⟨count, rest⟩, hcount, hresult⟩ := Except.bind_eq_ok_iff.mp h
      obtain ⟨⟨as', rest'⟩, hmany, hresult⟩ := Except.bind_eq_ok_iff.mp hresult
      obtain ⟨_, hend, hresult⟩ := Except.bind_eq_ok_iff.mp hresult
      obtain rfl := Except.ok.inj hresult
      obtain rfl := readEnd_eq_ok_iff.mp hend
      obtain ⟨is, rfl, his, rfl⟩ := (readMany_eq_ok_iff hitem).mp hmany
      obtain ⟨hmax, rfl⟩ := readCount_eq_ok_iff.mp hcount
      refine Or.inr ⟨is, ?_, hmax, his⟩
      rw [List.append_nil]
  · rintro (⟨rfl, rfl⟩ | ⟨is, rfl, hmax, his⟩)
    · rfl
    · have hne : ¬(Bytes.ofNat 4 as.length ++ is.flatMap write).isEmpty = true := by
        intro hempty
        have := congrArg List.length (List.isEmpty_iff.mp hempty)
        simp at this
      rw [if_neg hne]
      refine Except.bind_eq_ok_iff.mpr
        ⟨(as.length, is.flatMap write), readCount_eq_ok_iff.mpr ⟨hmax, rfl⟩, ?_⟩
      refine Except.bind_eq_ok_iff.mpr
        ⟨(as, []), (readMany_eq_ok_iff hitem).mpr ⟨is, rfl, his, List.append_nil _⟩, ?_⟩
      exact Except.bind_eq_ok_iff.mpr ⟨(), readEnd_eq_ok_iff.mpr rfl, rfl⟩

theorem readPair_eq_ok_iff {decodeKey : Bytes → Except CodecError α}
    {decodeValue : Bytes → Except CodecError β} {bs rest : Bytes} {e : α × β} :
    readPair decodeKey decodeValue bs = .ok (e, rest) ↔
      ∃ p : Bytes × Bytes, ((p.1.length ≤ maxLength ∧ p.2.length ≤ maxLength) ∧
        decodeKey p.1 = .ok e.1 ∧ decodeValue p.2 = .ok e.2) ∧
        framed p.1 ++ framed p.2 ++ rest = bs := by
  rw [readPair, Except.bind_eq_ok_iff]
  constructor
  · rintro ⟨⟨k, tail⟩, hkey, hresult⟩
    obtain ⟨⟨v, rest'⟩, hvalue, hresult⟩ := Except.bind_eq_ok_iff.mp hresult
    obtain ⟨rfl, rfl⟩ := Prod.mk.inj (Except.ok.inj hresult)
    obtain ⟨key, hk, rfl⟩ := readPart_eq_ok_iff.mp hkey
    obtain ⟨value, hv, rfl⟩ := readPart_eq_ok_iff.mp hvalue
    exact ⟨(key, value), ⟨⟨hk.1, hv.1⟩, hk.2, hv.2⟩, List.append_assoc _ _ _⟩
  · rintro ⟨⟨key, value⟩, ⟨⟨hkmax, hvmax⟩, hk, hv⟩, rfl⟩
    refine ⟨(e.1, framed value ++ rest),
      readPart_eq_ok_iff.mpr ⟨key, ⟨hkmax, hk⟩, (List.append_assoc _ _ _).symm⟩, ?_⟩
    exact Except.bind_eq_ok_iff.mpr
      ⟨(e.2, rest), readPart_eq_ok_iff.mpr ⟨value, ⟨hvmax, hv⟩, rfl⟩, rfl⟩

/-! ### Reading collections -/

/-- **The reader of a list or set accepts its bytes and no others.** -/
theorem readElements_eq_ok_iff {kind : CollectionKind} {decode : Bytes → Except CodecError α}
    {bs : Bytes} {as : List α} :
    readElements kind decode bs = .ok as ↔ IsElements decode bs as := by
  rw [readElements_eq_readWhole, readWhole_eq_ok_iff fun _ _ _ => readPart_eq_ok_iff]
  simp only [List.forall₂_and_left]
  constructor
  · rintro (⟨rfl, rfl⟩ | ⟨parts, rfl, hcount, hparts, has⟩)
    · exact ⟨[], Or.inl ⟨rfl, rfl, rfl⟩, .nil⟩
    · rw [← has.length_eq] at hcount ⊢
      exact ⟨parts, Or.inr ⟨rfl, hcount, hparts⟩, has⟩
  · rintro ⟨parts, ⟨rfl, -, rfl⟩ | ⟨rfl, hcount, hparts⟩, has⟩
    · exact Or.inl ⟨rfl, List.forall₂_nil_left_iff.mp has⟩
    · rw [has.length_eq] at hcount ⊢
      exact Or.inr ⟨parts, rfl, hcount, hparts, has⟩

/-- **The reader of a map accepts its bytes and no others.** -/
theorem readEntries_eq_ok_iff {decodeKey : Bytes → Except CodecError α}
    {decodeValue : Bytes → Except CodecError β} {bs : Bytes} {es : List (α × β)} :
    readEntries decodeKey decodeValue bs = .ok es ↔ IsEntries decodeKey decodeValue bs es := by
  rw [readEntries_eq_readWhole, readWhole_eq_ok_iff fun _ _ _ => readPair_eq_ok_iff]
  simp only [List.forall₂_and_left, ← flatMap_framed_alternating]
  constructor
  · rintro (⟨rfl, rfl⟩ | ⟨pairs, rfl, hcount, hpairs, hes⟩)
    · exact ⟨[], Or.inl ⟨rfl, rfl, rfl⟩, .nil⟩
    · rw [← hes.length_eq] at hcount ⊢
      exact ⟨pairs, Or.inr ⟨rfl, hcount, forall_mem_alternating.mpr hpairs⟩, hes⟩
  · rintro ⟨pairs, ⟨rfl, hnil, -⟩ | ⟨rfl, hcount, hparts⟩, hes⟩
    · obtain rfl := List.length_eq_zero_iff.mp hnil
      exact Or.inl ⟨rfl, List.forall₂_nil_left_iff.mp hes⟩
    · rw [hes.length_eq] at hcount ⊢
      exact Or.inr ⟨pairs, rfl, hcount, forall_mem_alternating.mp hparts, hes⟩

/-! ### A collection is divided in one way -/

/-- **Bytes are divided into parts in one way**: as the reader does that leaves each part as it
is. -/
theorem IsDivided.unique {bs : Bytes} {ps qs : List Bytes} (hps : IsDivided bs ps.length ps)
    (hqs : IsDivided bs qs.length qs) : ps = qs := by
  have hread {parts : List Bytes} (h : IsDivided bs parts.length parts) :
      readElements .list .ok bs = .ok parts :=
    readElements_eq_ok_iff.mpr ⟨parts, h, List.forall₂_same.mpr fun _ _ => rfl⟩
  exact Except.ok.inj ((hread hps).symm.trans (hread hqs))

/-- **Bytes are divided into pairs of parts in one way.** -/
theorem IsDivided.unique_pairs {bs : Bytes} {ps qs : List (Bytes × Bytes)}
    (hps : IsDivided bs ps.length (alternating ps))
    (hqs : IsDivided bs qs.length (alternating qs)) : ps = qs := by
  have hread {pairs : List (Bytes × Bytes)} (h : IsDivided bs pairs.length (alternating pairs)) :
      readEntries .ok .ok bs = .ok pairs :=
    readEntries_eq_ok_iff.mpr ⟨pairs, h, List.forall₂_same.mpr fun _ _ => ⟨rfl, rfl⟩⟩
  exact Except.ok.inj ((hread hps).symm.trans (hread hqs))

/-! ### Writing -/

/-- Items, one behind the other. -/
def writeMany (writeItem : α → Except CodecError Bytes) : List α → Except CodecError Bytes
  | [] => return []
  | a :: as => do
    let item ← writeItem a
    let items ← writeMany writeItem as
    return item ++ items

/-- The count of the items, and the items. -/
def writeWhole (writeItem : α → Except CodecError Bytes) (as : List α) :
    Except CodecError Bytes := do
  let count ← writeLength as.length
  let items ← writeMany writeItem as
  return count ++ items

/-- A key and its value. -/
def writePair (encodeKey encodeValue : Value → Except CodecError Bytes) (e : Value × Value) :
    Except CodecError Bytes := do
  let key ← writePart .map encodeKey e.1
  let value ← writePart .map encodeValue e.2
  return key ++ value

theorem writeElements_eq_writeWhole (kind : CollectionKind)
    (encode : Value → Except CodecError Bytes) (vs : List Value) :
    writeElements kind encode vs = writeWhole (writePart kind encode) vs := by
  have hmany : writeParts kind encode vs = writeMany (writePart kind encode) vs := by
    induction vs with
    | nil => rfl
    | cons v vs ih => simp only [writeParts, writeMany, ih]
  rw [writeElements, writeWhole, hmany]

theorem writeEntries_eq_writeWhole (encodeKey encodeValue : Value → Except CodecError Bytes)
    (es : List (Value × Value)) :
    writeEntries encodeKey encodeValue es = writeWhole (writePair encodeKey encodeValue) es := by
  have hmany : writePairs encodeKey encodeValue es =
      writeMany (writePair encodeKey encodeValue) es := by
    induction es with
    | nil => rfl
    | cons e es ih =>
      simp only [writePairs, writeMany, writePair, bind_assoc, pure_bind, List.append_assoc, ih]
  rw [writeEntries, writeWhole, hmany]

theorem writeLength_eq_ok_iff {n : Nat} {bs : Bytes} :
    writeLength n = .ok bs ↔ n ≤ maxLength ∧ Bytes.ofNat 4 n = bs := by
  rw [writeLength]
  split_ifs with hn
  · simp [hn]
  · simp [hn]

/-- **A part is written if its length can be said**, and null never is. -/
theorem writePart_eq_ok_iff {kind : CollectionKind} {encode : Value → Except CodecError Bytes}
    {v : Value} {bs : Bytes} :
    writePart kind encode v = .ok bs ↔ ∃ part, (part.length ≤ maxLength ∧
      v ≠ .null ∧ encode v = .ok part) ∧ framed part = bs := by
  rw [writePart]
  constructor
  · intro h
    split_ifs at h with hnull
    obtain ⟨part, hencode, hresult⟩ := Except.bind_eq_ok_iff.mp h
    obtain ⟨length, hlength, hresult⟩ := Except.bind_eq_ok_iff.mp hresult
    obtain ⟨hmax, rfl⟩ := writeLength_eq_ok_iff.mp hlength
    exact ⟨part, ⟨hmax, mt Value.isNull_iff.mpr hnull, hencode⟩, Except.ok.inj hresult⟩
  · rintro ⟨part, ⟨hmax, hne, hencode⟩, rfl⟩
    rw [if_neg (mt Value.isNull_iff.mp hne)]
    refine Except.bind_eq_ok_iff.mpr ⟨part, hencode, ?_⟩
    exact Except.bind_eq_ok_iff.mpr ⟨_, writeLength_eq_ok_iff.mpr ⟨hmax, rfl⟩, rfl⟩

theorem writePair_eq_ok_iff {encodeKey encodeValue : Value → Except CodecError Bytes}
    {e : Value × Value} {bs : Bytes} :
    writePair encodeKey encodeValue e = .ok bs ↔
      ∃ p : Bytes × Bytes, ((p.1.length ≤ maxLength ∧ p.2.length ≤ maxLength) ∧
        (e.1 ≠ .null ∧ encodeKey e.1 = .ok p.1) ∧ e.2 ≠ .null ∧ encodeValue e.2 = .ok p.2) ∧
        framed p.1 ++ framed p.2 = bs := by
  rw [writePair, Except.bind_eq_ok_iff]
  constructor
  · rintro ⟨_, hkey, hresult⟩
    obtain ⟨_, hvalue, hresult⟩ := Except.bind_eq_ok_iff.mp hresult
    obtain ⟨key, hk, rfl⟩ := writePart_eq_ok_iff.mp hkey
    obtain ⟨value, hv, rfl⟩ := writePart_eq_ok_iff.mp hvalue
    exact ⟨(key, value), ⟨⟨hk.1, hv.1⟩, hk.2, hv.2⟩, Except.ok.inj hresult⟩
  · rintro ⟨⟨key, value⟩, ⟨⟨hkmax, hvmax⟩, hk, hv⟩, rfl⟩
    refine ⟨_, writePart_eq_ok_iff.mpr ⟨key, ⟨hkmax, hk⟩, rfl⟩, ?_⟩
    exact Except.bind_eq_ok_iff.mpr
      ⟨_, writePart_eq_ok_iff.mpr ⟨value, ⟨hvmax, hv⟩, rfl⟩, rfl⟩

/-- **Items are written one by one.** -/
theorem writeMany_eq_ok_iff {writeItem : α → Except CodecError Bytes} {R : ι → α → Prop}
    {write : ι → Bytes} (hitem : ∀ a bs, writeItem a = .ok bs ↔ ∃ i, R i a ∧ write i = bs)
    {as : List α} {bs : Bytes} :
    writeMany writeItem as = .ok bs ↔ ∃ is, List.Forall₂ R is as ∧ is.flatMap write = bs := by
  induction as generalizing bs with
  | nil =>
    constructor
    · intro h
      exact ⟨[], .nil, Except.ok.inj h⟩
    · rintro ⟨is, his, rfl⟩
      cases his
      rfl
  | cons a as ih =>
    rw [writeMany, Except.bind_eq_ok_iff]
    constructor
    · rintro ⟨item, hfirst, hresult⟩
      obtain ⟨items, hmany, hresult⟩ := Except.bind_eq_ok_iff.mp hresult
      obtain ⟨i, hi, rfl⟩ := (hitem _ _).mp hfirst
      obtain ⟨is, his, rfl⟩ := ih.mp hmany
      exact ⟨i :: is, .cons hi his, Except.ok.inj hresult⟩
    · rintro ⟨is, his, rfl⟩
      cases his with
      | @cons i a is as hi his =>
        refine ⟨_, (hitem _ _).mpr ⟨i, hi, rfl⟩, ?_⟩
        exact Except.bind_eq_ok_iff.mpr ⟨_, ih.mpr ⟨is, his, rfl⟩, rfl⟩

/-- The bytes that are written for a whole collection. -/
theorem writeWhole_eq_ok_iff {writeItem : α → Except CodecError Bytes} {R : ι → α → Prop}
    {write : ι → Bytes} (hitem : ∀ a bs, writeItem a = .ok bs ↔ ∃ i, R i a ∧ write i = bs)
    {as : List α} {bs : Bytes} :
    writeWhole writeItem as = .ok bs ↔ as.length ≤ maxLength ∧
      ∃ is, List.Forall₂ R is as ∧ Bytes.ofNat 4 as.length ++ is.flatMap write = bs := by
  rw [writeWhole, Except.bind_eq_ok_iff]
  constructor
  · rintro ⟨count, hcount, hresult⟩
    obtain ⟨items, hmany, hresult⟩ := Except.bind_eq_ok_iff.mp hresult
    obtain ⟨hmax, rfl⟩ := writeLength_eq_ok_iff.mp hcount
    obtain ⟨is, his, rfl⟩ := (writeMany_eq_ok_iff hitem).mp hmany
    exact ⟨hmax, is, his, Except.ok.inj hresult⟩
  · rintro ⟨hmax, is, his, rfl⟩
    refine ⟨_, writeLength_eq_ok_iff.mpr ⟨hmax, rfl⟩, ?_⟩
    exact Except.bind_eq_ok_iff.mpr ⟨_, (writeMany_eq_ok_iff hitem).mpr ⟨is, his, rfl⟩, rfl⟩

/-- **The writer of a list or set** frames the parts of its elements, none of which is null. -/
theorem writeElements_eq_ok_iff {kind : CollectionKind}
    {encode : Value → Except CodecError Bytes} {vs : List Value} {bs : Bytes} :
    writeElements kind encode vs = .ok bs ↔ ∃ parts, IsFrame bs parts.length parts ∧
      List.Forall₂ (fun part v => v ≠ .null ∧ encode v = .ok part) parts vs := by
  rw [writeElements_eq_writeWhole, writeWhole_eq_ok_iff fun _ _ => writePart_eq_ok_iff]
  simp only [List.forall₂_and_left]
  constructor
  · rintro ⟨hcount, parts, ⟨hparts, hvs⟩, rfl⟩
    rw [← hvs.length_eq] at hcount ⊢
    exact ⟨parts, ⟨rfl, hcount, hparts⟩, hvs⟩
  · rintro ⟨parts, ⟨rfl, hcount, hparts⟩, hvs⟩
    rw [hvs.length_eq] at hcount ⊢
    exact ⟨hcount, parts, ⟨hparts, hvs⟩, rfl⟩

/-- **The writer of a map** frames the parts of its entries, in which nothing is null. -/
theorem writeEntries_eq_ok_iff {encodeKey encodeValue : Value → Except CodecError Bytes}
    {es : List (Value × Value)} {bs : Bytes} :
    writeEntries encodeKey encodeValue es = .ok bs ↔
      ∃ pairs, IsFrame bs pairs.length (alternating pairs) ∧
        List.Forall₂ (fun p e => (e.1 ≠ .null ∧ encodeKey e.1 = .ok p.1) ∧
          e.2 ≠ .null ∧ encodeValue e.2 = .ok p.2) pairs es := by
  rw [writeEntries_eq_writeWhole, writeWhole_eq_ok_iff fun _ _ => writePair_eq_ok_iff]
  simp only [List.forall₂_and_left, ← flatMap_framed_alternating]
  constructor
  · rintro ⟨hcount, pairs, ⟨hpairs, hes⟩, rfl⟩
    rw [← hes.length_eq] at hcount ⊢
    exact ⟨pairs, ⟨rfl, hcount, forall_mem_alternating.mpr hpairs⟩, hes⟩
  · rintro ⟨pairs, ⟨rfl, hcount, hparts⟩, hes⟩
    rw [hes.length_eq] at hcount ⊢
    exact ⟨hcount, pairs, ⟨forall_mem_alternating.mp hparts, hes⟩, rfl⟩

end Framing

end WideColumn

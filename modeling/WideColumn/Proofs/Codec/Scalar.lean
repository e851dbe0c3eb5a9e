import Mathlib
import WideColumn.Codec.Scalar
import WideColumn.Proofs.Bytes.Signed
import WideColumn.Proofs.Bytes.Word
import WideColumn.Proofs.Outcome
import WideColumn.Proofs.Text.Utf8
import WideColumn.Proofs.Value.Instant
import WideColumn.Proofs.Value.Part

/-!
# The forms of scalar values

`WideColumn.ScalarKind.Form` lists, kind by kind, which bytes hold which value, without saying how
they are read or written. The reader follows the list exactly, but for the bytes it takes for null
(`WideColumn.ScalarKind.decode_eq_ok_iff`), so whatever it is asked later can be answered from the
list. Two of its entries are not one to one: a boolean is true in 255 ways, and digits in front of
an integer may repeat its sign.

* `WideColumn.ScalarKind.form_of_decode`, `WideColumn.ScalarKind.Form.decode`: what is read has a
  form, and what has a form is read;
* `WideColumn.ScalarKind.form_of_encode`: what is written is a form of the value, with instants cut
  to whole milliseconds;
* `WideColumn.ScalarKind.Form.exists_encode`: a value that has a form can be written, and takes at
  most one byte more than that form.
-/

namespace WideColumn

namespace ScalarKind

/-- **The forms of values**: the bytes, of a column of the kind, that hold the value. -/
inductive Form : ScalarKind → Bytes → Value → Prop
  | ascii {s : String} (h : s.toList.all Text.isAscii) : Form ascii (Utf8.encode s.toList) (.text s)
  | text (s : String) : Form text (Utf8.encode s.toList) (.text s)
  | varchar (s : String) : Form varchar (Utf8.encode s.toList) (.text s)
  | blob (bs : Bytes) : Form blob bs (.blob bs)
  | boolean {n : Nat} (h : n < 256) : Form boolean (Bytes.ofNat 1 n) (.boolean (n != 0))
  | int (n : Int32) : Form int (Bytes.ofNat 4 n.toUInt32.toNat) (.int n)
  | bigint (n : Int64) : Form bigint (Bytes.ofNat 8 n.toUInt64.toNat) (.bigint n)
  | counter (n : Int64) : Form counter (Bytes.ofNat 8 n.toUInt64.toNat) (.bigint n)
  | float (x : Single) : Form float (Bytes.ofNat 4 x.bits.toNat) (.float x)
  | double (x : Double) : Form double (Bytes.ofNat 8 x.bits.toNat) (.double x)
  | varint {bs : Bytes} (h : bs ≠ []) : Form varint bs (.varint (Bytes.toInt bs))
  | decimal (scale : Int32) (bs : Bytes) :
      Form decimal (Bytes.ofNat 4 scale.toUInt32.toNat ++ bs) (.decimal ⟨Bytes.toInt bs, scale⟩)
  | inet4 (word : BitVec 32) : Form inet (Bytes.ofNat 4 word.toNat) (.inet (.v4 word))
  | inet6 (word : BitVec 128) : Form inet (Bytes.ofNat 16 word.toNat) (.inet (.v6 word))
  | timestamp {n : Int64} {t : Instant} (h : Instant.ofMillis? n.toInt = some t) :
      Form timestamp (Bytes.ofNat 8 n.toUInt64.toNat) (.timestamp t)
  | uuid (u : Uuid) : Form uuid (Bytes.ofNat 16 u.word.toNat) (.uuid u)
  | timeuuid {u : Uuid} (h : u.isTimeBased) : Form timeuuid (Bytes.ofNat 16 u.word.toNat) (.uuid u)

/-! ### Reading words -/

/-- Bytes of the right count are a word, and no others are. -/
theorem word_eq_ok_iff {k : ScalarKind} {width n : Nat} {bs : Bytes} :
    k.word width bs = .ok n ↔ n < 256 ^ width ∧ Bytes.ofNat width n = bs := by
  rw [word]
  constructor
  · intro h
    split_ifs at h with hwidth
    have hn : Bytes.toNat bs = n := Except.ok.inj h
    have hlt := Bytes.toNat_lt bs
    rw [hwidth, hn] at hlt
    exact ⟨hlt, (Bytes.ofNat_eq_iff hlt).mpr ⟨hwidth, hn⟩⟩
  · rintro ⟨hlt, rfl⟩
    rw [if_pos (Bytes.length_ofNat width n), Bytes.toNat_ofNat_of_lt hlt]

/-- Reading a value of a type that is numbered by the words. -/
theorem word_bind_eq_ok_iff {α : Type} {k : ScalarKind} {width : Nat}
    (N : Bytes.Numbering α width) (make : α → Value) {bs : Bytes} {v : Value} :
    (k.word width bs >>= fun n => pure (make (N.ofNat n))) = Except.ok v ↔
      ∃ x, Bytes.ofNat width (N.toNat x) = bs ∧ make x = v := by
  rw [Except.bind_eq_ok_iff]
  constructor
  · rintro ⟨n, hword, hv⟩
    obtain ⟨hn, rfl⟩ := word_eq_ok_iff.mp hword
    refine ⟨N.ofNat n, ?_, Except.ok.inj hv⟩
    rw [N.toNat_ofNat n hn]
  · rintro ⟨x, rfl, rfl⟩
    refine ⟨N.toNat x, word_eq_ok_iff.mpr ⟨N.toNat_lt x, rfl⟩, ?_⟩
    rw [N.ofNat_toNat]
    rfl

/-! ### Reading, format by format -/

theorem decodeText_eq_ok_iff {bs : Bytes} {v : Value} :
    decodeText bs = .ok v ↔ ∃ s : String, Utf8.encode s.toList = bs ∧ .text s = v := by
  rw [decodeText]
  constructor
  · intro h
    split at h
    · rename_i cs hcs
      refine ⟨String.ofList cs, ?_, Except.ok.inj h⟩
      rw [String.toList_ofList, Utf8.encode_of_decode hcs]
    · exact absurd h nofun
  · rintro ⟨s, rfl, rfl⟩
    rw [Utf8.decode_encode]
    simp only [String.ofList_toList]

/-- ASCII texts are read as any text is. -/
theorem decodeAscii_eq_ok_iff {bs : Bytes} {v : Value} :
    decodeAscii bs = .ok v ↔
      ∃ s : String, s.toList.all Text.isAscii ∧ Utf8.encode s.toList = bs ∧ .text s = v := by
  have hread (hbs : ∀ b ∈ bs, b.toNat < 128) := Utf8.decode_of_forall_lt hbs
  unfold decodeAscii
  simp only [List.all_eq_true, decide_eq_true_eq, Text.isAscii]
  constructor
  · intro h
    split_ifs at h with hbs
    refine ⟨_, ?_, ?_, Except.ok.inj h⟩
    · intro c hc
      rw [String.toList_ofList] at hc
      obtain ⟨b, hb, rfl⟩ := List.mem_map.mp hc
      have hb' := hbs b hb
      have hvalid : b.toNat.isValidChar := Or.inl (by omega)
      rw [Char.ofNat, dif_pos hvalid]
      exact hb'
    · rw [String.toList_ofList, Utf8.encode_of_decode (hread hbs)]
  · rintro ⟨s, hs, rfl, rfl⟩
    have hbs : ∀ b ∈ Utf8.encode s.toList, b.toNat < 128 := fun b => Utf8.lt_of_mem_encode hs
    have hchars := (Utf8.decode_encode s.toList).symm.trans (Utf8.decode_of_forall_lt hbs)
    rw [if_pos hbs, ← Except.ok.inj hchars, String.ofList_toList]

theorem decodeDecimal_eq_ok_iff {bs : Bytes} {v : Value} :
    decodeDecimal bs = .ok v ↔ ∃ (scale : Int32) (cs : Bytes),
      Bytes.ofNat 4 scale.toUInt32.toNat ++ cs = bs ∧ .decimal ⟨Bytes.toInt cs, scale⟩ = v := by
  rw [decodeDecimal]
  constructor
  · intro h
    split_ifs at h with hbs
    have hlength : (bs.take 4).length = 4 := by
      rw [List.length_take]
      omega
    refine ⟨_, bs.drop 4, ?_, Except.ok.inj h⟩
    exact (congrArg (· ++ bs.drop 4) (Bytes.Numbering.int32.ofNat_toNat_eq hlength)).trans
      (List.take_append_drop 4 bs)
  · rintro ⟨scale, cs, rfl, rfl⟩
    have hscale := Bytes.Numbering.int32.ofNat_toNat_ofNat scale
    have hlength := Bytes.length_ofNat 4 scale.toUInt32.toNat
    rw [if_neg (by simp), List.take_left' hlength, List.drop_left' hlength]
    exact congrArg (fun scale => Except.ok (Value.decimal ⟨Bytes.toInt cs, scale⟩)) hscale

theorem decodeAddress_eq_ok_iff {bs : Bytes} {v : Value} :
    decodeAddress bs = .ok v ↔
      (∃ word : BitVec 32, Bytes.ofNat 4 word.toNat = bs ∧ .inet (.v4 word) = v) ∨
      ∃ word : BitVec 128, Bytes.ofNat 16 word.toNat = bs ∧ .inet (.v6 word) = v := by
  rw [decodeAddress]
  constructor
  · intro h
    split_ifs at h with h4 h16
    · exact Or.inl ⟨_, Bytes.Numbering.address4.ofNat_toNat_eq h4, Except.ok.inj h⟩
    · exact Or.inr ⟨_, Bytes.Numbering.address16.ofNat_toNat_eq h16,
        Except.ok.inj h⟩
  · rintro (⟨word, rfl, rfl⟩ | ⟨word, rfl, rfl⟩)
    · rw [if_pos (Bytes.length_ofNat _ _)]
      exact congrArg (fun word => Except.ok (Value.inet (.v4 word)))
        (Bytes.Numbering.address4.ofNat_toNat_ofNat word)
    · rw [if_neg (by simp), if_pos (Bytes.length_ofNat _ _)]
      exact congrArg (fun word => Except.ok (Value.inet (.v6 word)))
        (Bytes.Numbering.address16.ofNat_toNat_ofNat word)

theorem decodeInstant_eq_ok_iff {bs : Bytes} {v : Value} :
    decodeInstant bs = .ok v ↔ ∃ (n : Int64) (t : Instant), Instant.ofMillis? n.toInt = some t ∧
      Bytes.ofNat 8 n.toUInt64.toNat = bs ∧ .timestamp t = v := by
  rw [decodeInstant]
  constructor
  · intro h
    obtain ⟨m, hword, hresult⟩ := Except.bind_eq_ok_iff.mp h
    obtain ⟨hm, rfl⟩ := word_eq_ok_iff.mp hword
    simp only at hresult
    split at hresult
    · rename_i t ht
      exact ⟨_, t, ht, congrArg _ (Bytes.Numbering.int64.toNat_ofNat m hm),
        Except.ok.inj hresult⟩
    · exact absurd hresult nofun
  · rintro ⟨n, t, ht, rfl, rfl⟩
    refine Except.bind_eq_ok_iff.mpr
      ⟨_, word_eq_ok_iff.mpr ⟨n.toUInt64.toNat_lt, rfl⟩, ?_⟩
    simp only [UInt64.ofNat_toNat, Int64.toInt64_toUInt64, ht]
    rfl

theorem decodeTimeUuid_eq_ok_iff {bs : Bytes} {v : Value} :
    decodeTimeUuid bs = .ok v ↔
      ∃ u : Uuid, u.isTimeBased ∧ Bytes.ofNat 16 u.word.toNat = bs ∧ .uuid u = v := by
  rw [decodeTimeUuid]
  constructor
  · intro h
    obtain ⟨m, hword, hresult⟩ := Except.bind_eq_ok_iff.mp h
    obtain ⟨hm, rfl⟩ := word_eq_ok_iff.mp hword
    simp only at hresult
    split_ifs at hresult with hu
    exact ⟨_, hu, congrArg _ (Bytes.Numbering.uuid.toNat_ofNat m hm),
      Except.ok.inj hresult⟩
  · rintro ⟨u, hu, rfl, rfl⟩
    refine Except.bind_eq_ok_iff.mpr ⟨_, word_eq_ok_iff.mpr ⟨u.word.isLt, rfl⟩, ?_⟩
    simp only [BitVec.ofNat_toNat, BitVec.setWidth_eq, hu, if_true]
    rfl

/-! ### Reading -/

/-- A form of a kind that has no value of length zero is not empty. -/
theorem Form.ne_nil {k : ScalarKind} {bs : Bytes} {v : Value} (h : Form k bs v)
    (hk : k.allowsEmpty = false) : bs ≠ [] := by
  refine List.length_pos_iff.mp ?_
  cases h with
  | ascii | text | varchar | blob => exact absurd hk nofun
  | varint h => exact List.length_pos_iff.mpr h
  | _ => simp

/-- The test for null fails unless there are no bytes and the kind needs some. -/
theorem not_isEmpty_and_iff {k : ScalarKind} {bs : Bytes} :
    ¬(bs.isEmpty && !k.allowsEmpty) = true ↔ ¬(bs = [] ∧ k.allowsEmpty = false) := by
  rw [Bool.and_eq_true, Bool.not_eq_true', List.isEmpty_iff]

/-- **What is read has a form**, where the bytes are not taken for null. -/
theorem form_of_decode {k : ScalarKind} {bs : Bytes} {v : Value} (h : k.decode bs = .ok v)
    (hnull : ¬(bs = [] ∧ k.allowsEmpty = false)) : Form k bs v := by
  rw [decode.eq_def, if_neg (not_isEmpty_and_iff.mpr hnull)] at h
  cases k with
  | ascii =>
    obtain ⟨s, hs, rfl, rfl⟩ := decodeAscii_eq_ok_iff.mp h
    exact .ascii hs
  | text =>
    obtain ⟨s, rfl, rfl⟩ := decodeText_eq_ok_iff.mp h
    exact .text s
  | varchar =>
    obtain ⟨s, rfl, rfl⟩ := decodeText_eq_ok_iff.mp h
    exact .varchar s
  | blob =>
    rw [← Except.ok.inj h]
    exact .blob bs
  | boolean =>
    obtain ⟨n, hword, hv⟩ := Except.bind_eq_ok_iff.mp h
    obtain ⟨hn, rfl⟩ := word_eq_ok_iff.mp hword
    rw [← Except.ok.inj hv]
    exact .boolean hn
  | int =>
    obtain ⟨n, rfl, rfl⟩ := (word_bind_eq_ok_iff .int32 Value.int).mp h
    exact .int n
  | bigint =>
    obtain ⟨n, rfl, rfl⟩ := (word_bind_eq_ok_iff .int64 Value.bigint).mp h
    exact .bigint n
  | counter =>
    obtain ⟨n, rfl, rfl⟩ := (word_bind_eq_ok_iff .int64 Value.bigint).mp h
    exact .counter n
  | float =>
    obtain ⟨x, rfl, rfl⟩ := (word_bind_eq_ok_iff .single Value.float).mp h
    exact .float x
  | double =>
    obtain ⟨x, rfl, rfl⟩ := (word_bind_eq_ok_iff .double Value.double).mp h
    exact .double x
  | uuid =>
    obtain ⟨u, rfl, rfl⟩ := (word_bind_eq_ok_iff .uuid Value.uuid).mp h
    exact .uuid u
  | varint =>
    rw [← Except.ok.inj h]
    exact .varint fun hbs => hnull ⟨hbs, rfl⟩
  | decimal =>
    obtain ⟨scale, cs, rfl, rfl⟩ := decodeDecimal_eq_ok_iff.mp h
    exact .decimal scale cs
  | inet =>
    rcases decodeAddress_eq_ok_iff.mp h with ⟨word, rfl, rfl⟩ | ⟨word, rfl, rfl⟩
    · exact .inet4 word
    · exact .inet6 word
  | timestamp =>
    obtain ⟨n, t, ht, rfl, rfl⟩ := decodeInstant_eq_ok_iff.mp h
    exact .timestamp ht
  | timeuuid =>
    obtain ⟨u, hu, rfl, rfl⟩ := decodeTimeUuid_eq_ok_iff.mp h
    exact .timeuuid hu

/-- **What has a form is read.** -/
theorem Form.decode {k : ScalarKind} {bs : Bytes} {v : Value} (h : Form k bs v) :
    k.decode bs = .ok v := by
  have hnull : ¬(bs = [] ∧ k.allowsEmpty = false) := by
    rintro ⟨hbs, hk⟩
    exact h.ne_nil hk hbs
  rw [decode.eq_def, if_neg (not_isEmpty_and_iff.mpr hnull)]
  cases h with
  | ascii hs => exact decodeAscii_eq_ok_iff.mpr ⟨_, hs, rfl, rfl⟩
  | text s => exact decodeText_eq_ok_iff.mpr ⟨s, rfl, rfl⟩
  | varchar s => exact decodeText_eq_ok_iff.mpr ⟨s, rfl, rfl⟩
  | blob => rfl
  | boolean hn => exact Except.bind_eq_ok_iff.mpr ⟨_, word_eq_ok_iff.mpr ⟨hn, rfl⟩, rfl⟩
  | int n => exact (word_bind_eq_ok_iff .int32 Value.int).mpr ⟨n, rfl, rfl⟩
  | bigint n => exact (word_bind_eq_ok_iff .int64 Value.bigint).mpr ⟨n, rfl, rfl⟩
  | counter n => exact (word_bind_eq_ok_iff .int64 Value.bigint).mpr ⟨n, rfl, rfl⟩
  | float x => exact (word_bind_eq_ok_iff .single Value.float).mpr ⟨x, rfl, rfl⟩
  | double x => exact (word_bind_eq_ok_iff .double Value.double).mpr ⟨x, rfl, rfl⟩
  | uuid u => exact (word_bind_eq_ok_iff .uuid Value.uuid).mpr ⟨u, rfl, rfl⟩
  | varint => rfl
  | decimal scale cs => exact decodeDecimal_eq_ok_iff.mpr ⟨scale, cs, rfl, rfl⟩
  | inet4 word => exact decodeAddress_eq_ok_iff.mpr (Or.inl ⟨word, rfl, rfl⟩)
  | inet6 word => exact decodeAddress_eq_ok_iff.mpr (Or.inr ⟨word, rfl, rfl⟩)
  | timestamp ht => exact decodeInstant_eq_ok_iff.mpr ⟨_, _, ht, rfl, rfl⟩
  | timeuuid hu => exact decodeTimeUuid_eq_ok_iff.mpr ⟨_, hu, rfl, rfl⟩

/-- **The reader follows the list of forms**, but takes no bytes for null in the kinds that have no
form of length zero. -/
theorem decode_eq_ok_iff {k : ScalarKind} {bs : Bytes} {v : Value} :
    k.decode bs = .ok v ↔ (bs = [] ∧ k.allowsEmpty = false ∧ v = .null) ∨ Form k bs v := by
  by_cases hnull : bs = [] ∧ k.allowsEmpty = false
  · obtain ⟨rfl, hk⟩ := hnull
    have hread : k.decode [] = .ok .null := by
      rw [decode.eq_def, if_pos]
      rw [hk]
      rfl
    rw [hread]
    constructor
    · intro hv
      exact Or.inl ⟨rfl, hk, (Except.ok.inj hv).symm⟩
    · rintro (⟨-, -, rfl⟩ | hform)
      · rfl
      · exact absurd rfl (hform.ne_nil hk)
  · constructor
    · intro h
      exact Or.inr (form_of_decode h hnull)
    · rintro (⟨hbs, hk, -⟩ | hform)
      · exact absurd ⟨hbs, hk⟩ hnull
      · exact hform.decode

/-- No form holds null. -/
theorem Form.ne_null {k : ScalarKind} {bs : Bytes} {v : Value} (h : Form k bs v) : v ≠ .null := by
  cases h <;> exact nofun

/-- No form holds a collection. -/
theorem Form.parts_eq_nil {k : ScalarKind} {bs : Bytes} {v : Value} (h : Form k bs v) :
    v.parts = [] := by
  cases h <;> rfl

/-- A form holds one value only. -/
theorem Form.unique {k : ScalarKind} {bs : Bytes} {v w : Value} (hv : Form k bs v)
    (hw : Form k bs w) : v = w := by
  exact Except.ok.inj (hv.decode.symm.trans hw.decode)

end ScalarKind

/-- A scalar as a column gives it back: instants are cut to whole milliseconds. -/
def Value.rounded : Value → Value
  | .timestamp t => .timestamp t.stored
  | v => v

namespace ScalarKind

/-! ### Writing -/

/-- Null is never written. -/
@[simp] theorem encode_null (k : ScalarKind) : k.encode .null = .error .nullValue := by
  cases k <;> rfl

/-- The part of an instant that is cut off is not written. -/
theorem encode_rounded (k : ScalarKind) (v : Value) : k.encode v.rounded = k.encode v := by
  cases v with
  | timestamp t => cases k <;> simp only [Value.rounded, encode, Value.kind, Instant.millis_stored]
  | _ => rfl

/-- A result of writing is right if it is an error or a form of the value. -/
def IsFormOf (k : ScalarKind) (v : Value) : Except CodecError Bytes → Prop
  | .ok bs => Form k bs v
  | .error _ => True

/-- What the writer gives, branch by branch. -/
theorem isFormOf_encode (k : ScalarKind) (v : Value)
    (hv : ∀ t, v = .timestamp t → t.IsStorable) : IsFormOf k v.rounded (k.encode v) := by
  fun_cases encode k v with
  | case1 => trivial
  | case2 s hs => exact .ascii hs
  | case3 => trivial
  | case4 s => exact .text s
  | case5 s => exact .varchar s
  | case6 n => exact .bigint n
  | case7 n => exact .counter n
  | case8 cs => exact .blob cs
  | case9 b =>
    cases b with
    | false => exact .boolean (n := 0) (by decide)
    | true => exact .boolean (n := 1) (by decide)
  | case10 d =>
    have hform := Form.decimal d.scale (Bytes.ofInt d.unscaled)
    rw [Bytes.toInt_ofInt] at hform
    exact hform
  | case11 x => exact .double x
  | case12 x => exact .float x
  | case13 word => exact .inet4 word
  | case14 word => exact .inet6 word
  | case15 n => exact .int n
  | case16 t =>
    -- the only place where something is cut off, and where the range matters
    refine .timestamp ?_
    rw [Instant.toInt_ofInt_millis, (hv t rfl).ofMillis?_millis]
  | case17 u => exact .uuid u
  | case18 u hu => exact .timeuuid hu
  | case19 => trivial
  | case20 n =>
    have hform := Form.varint (Bytes.ofInt_ne_nil n)
    rw [Bytes.toInt_ofInt] at hform
    exact hform
  | case21 => trivial

/-- **What is written is a form** of the value that a column gives back. -/
theorem form_of_encode {k : ScalarKind} {v : Value} {bs : Bytes} (h : k.encode v = .ok bs)
    (hv : ∀ t, v = .timestamp t → t.IsStorable) : Form k bs v.rounded := by
  have hform := isFormOf_encode k v hv
  rwa [h] at hform

/-- **What has a form can be written**, and takes at most a byte more than the form. -/
theorem exists_encode_of_form {k : ScalarKind} {bs : Bytes} {v : Value} (h : Form k bs v) :
    ∃ cs, k.encode v = .ok cs ∧ cs.length ≤ bs.length + 1 := by
  cases h with
  | ascii hs => exact ⟨_, if_pos hs, Nat.le_succ _⟩
  | boolean hn => exact ⟨_, rfl, by simp⟩
  | varint hbs => exact ⟨_, rfl, (Bytes.length_ofInt_toInt_le hbs).trans (Nat.le_succ _)⟩
  | decimal scale cs =>
    have hdigits : (Bytes.ofInt (Bytes.toInt cs)).length ≤ cs.length + 1 := by
      rcases eq_or_ne cs [] with rfl | hcs
      · exact Nat.le_refl 1
      · exact (Bytes.length_ofInt_toInt_le hcs).trans (Nat.le_succ _)
    refine ⟨_, rfl, ?_⟩
    rw [List.length_append, List.length_append, Bytes.length_ofNat]
    exact Nat.add_le_add_left hdigits 4
  | @timestamp n t ht =>
    refine ⟨_, rfl, ?_⟩
    rw [Bytes.length_ofNat, Bytes.length_ofNat]
    exact Nat.le_succ 8
  | timeuuid hu => exact ⟨_, if_pos hu, Nat.le_succ _⟩
  | _ => exact ⟨_, rfl, Nat.le_succ _⟩

/-- An instant that was written and could be read back is within the range. -/
theorem isStorable_of_form {k : ScalarKind} {t : Instant} {bs : Bytes} {v : Value}
    (h : k.encode (.timestamp t) = .ok bs) (hform : Form k bs v) : t.IsStorable := by
  obtain rfl : k = .timestamp := by
    cases k <;> first | rfl | exact absurd h nofun
  -- the bytes of the form are kept apart, so that only words are compared
  generalize hbs : bs = cs at hform
  cases hform with
  | @timestamp n u hu =>
    have hn : Int64.ofInt t.millis = n :=
      Bytes.Numbering.int64.eq_of_ofNat_toNat_eq ((Except.ok.inj h).trans hbs)
    rw [← hn, Instant.toInt_ofInt_millis] at hu
    exact Instant.mem_range_of_ofMillis? hu

/-- A kind whose values all take bytes writes some. -/
theorem encode_ne_nil {k : ScalarKind} {v : Value} {bs : Bytes} (h : k.encode v = .ok bs)
    (hk : k.allowsEmpty = false) : bs ≠ [] := by
  by_cases hv : ∃ t, v = .timestamp t
  · obtain ⟨t, rfl⟩ := hv
    cases k with
    | timestamp =>
      -- an instant out of range has no form, but takes its eight bytes
      rw [← Except.ok.inj h]
      exact List.ne_nil_of_length_pos (by simp)
    | _ => exact absurd h nofun
  · exact (form_of_encode h fun t ht => absurd ⟨t, ht⟩ hv).ne_nil hk

/-- **What was written is written again** for the value that is read back. -/
theorem encode_of_form_of_encode {k : ScalarKind} {bs : Bytes} {v w : Value}
    (hw : k.encode w = .ok bs) (hv : Form k bs v) : k.encode v = .ok bs := by
  have hform : Form k bs w.rounded := by
    refine form_of_encode hw ?_
    rintro t rfl
    exact isStorable_of_form hw hv
  rw [hv.unique hform, encode_rounded, hw]

/-- A value that has a form is given back as it is. -/
theorem Form.rounded_eq {k : ScalarKind} {bs : Bytes} {v : Value} (h : Form k bs v) :
    v.rounded = v := by
  cases h with
  | timestamp ht => rw [Value.rounded, Instant.stored_of_ofMillis? ht]
  | _ => rfl

/-- An instant that has a form is within the range. -/
theorem Form.isStorable {k : ScalarKind} {bs : Bytes} {t : Instant}
    (h : Form k bs (.timestamp t)) : t.IsStorable := by
  cases h with
  | timestamp ht => exact Instant.isStorable_of_ofMillis? ht

/-- **What has a form is written in a form that holds it**, and that is at most a byte longer. -/
theorem Form.exists_encode {k : ScalarKind} {bs : Bytes} {v : Value} (h : Form k bs v) :
    ∃ cs, k.encode v = .ok cs ∧ Form k cs v ∧ cs.length ≤ bs.length + 1 := by
  obtain ⟨cs, hencode, hlength⟩ := exists_encode_of_form h
  have hform : Form k cs v.rounded := by
    refine form_of_encode hencode ?_
    rintro t rfl
    exact h.isStorable
  exact ⟨cs, hencode, h.rounded_eq ▸ hform, hlength⟩

end ScalarKind

end WideColumn

import Mathlib
import WideColumn.Proofs.Outcome
import WideColumn.Text.Utf8

/-!
# UTF-8 is read as it is written

A code point is spelled by one to four bytes, and the bounds on the number it stands for are what
keeps a spelling unique: a number too small for its count of bytes is overlong, and surrogates and
numbers past the last code point are no characters. `WideColumn.Utf8.Spells` says so without a
machine. The writer produces spellings and the reader accepts nothing else, although it never looks
at a whole number: it narrows the range of the second byte instead. Main statements:

* `WideColumn.Utf8.decode_encode`: what was written is read back;
* `WideColumn.Utf8.encode_of_decode`: what is read was written so, there being no second form.
-/

namespace WideColumn

namespace Utf8

/-- A byte that goes on with a character. -/
def IsTail (b : UInt8) : Prop := 0x80 ≤ b.toNat ∧ b.toNat ≤ 0xBF

/-- **The spelling of a code point**, by how many bytes it has. -/
inductive Spells : List UInt8 → Nat → Prop
  /-- A byte below 128 stands for itself. -/
  | one {a : UInt8} {n : Nat} (hn : n = a.toNat) (ha : a.toNat < 0x80) : Spells [a] n
  /-- Two bytes hold eleven bits. -/
  | two {a b : UInt8} {n : Nat} (hn : n = (a.toNat - 0xC0) * 64 + (b.toNat - 0x80))
      (ha : 0xC0 ≤ a.toNat ∧ a.toNat < 0xE0) (hb : IsTail b) (hlow : 0x80 ≤ n) : Spells [a, b] n
  /-- Three bytes hold sixteen bits. -/
  | three {a b c : UInt8} {n : Nat}
      (hn : n = ((a.toNat - 0xE0) * 64 + (b.toNat - 0x80)) * 64 + (c.toNat - 0x80))
      (ha : 0xE0 ≤ a.toNat ∧ a.toNat < 0xF0) (hb : IsTail b) (hc : IsTail c) (hlow : 0x800 ≤ n)
      (hsurrogate : n < 0xD800 ∨ 0xDFFF < n) : Spells [a, b, c] n
  /-- Four bytes hold twenty-one bits. -/
  | four {a b c d : UInt8} {n : Nat}
      (hn : n = (((a.toNat - 0xF0) * 64 + (b.toNat - 0x80)) * 64 + (c.toNat - 0x80)) * 64
        + (d.toNat - 0x80))
      (ha : 0xF0 ≤ a.toNat ∧ a.toNat < 0xF8) (hb : IsTail b) (hc : IsTail c) (hd : IsTail d)
      (hlow : 0x10000 ≤ n) (hhigh : n < 0x110000) : Spells [a, b, c, d] n

/-! ### Writing -/

/-- Only the numbers of characters have a spelling. -/
theorem Spells.isValidChar {s : List UInt8} {n : Nat} (h : Spells s n) : n.isValidChar := by
  unfold Nat.isValidChar
  cases h with
  | one hn ha => omega
  | two hn ha hb hlow => unfold IsTail at hb; omega
  | three hn ha hb hc hlow hsurrogate => unfold IsTail at hb hc; omega
  | four hn ha hb hc hd hlow hhigh => omega

/-- **A character is written as its spelling.** -/
theorem spells_utf8EncodeChar (c : Char) : Spells (String.utf8EncodeChar c) c.toNat := by
  have hvalid : c.toNat < 0xD800 ∨ 0xDFFF < c.toNat ∧ c.toNat < 0x110000 := c.valid
  have hbyte {m : Nat} (hm : m < 256) : (UInt8.ofNat m).toNat = m := by
    rw [UInt8.toNat_ofNat']
    omega
  change Spells (String.utf8EncodeChar c) c.val.toNat
  change c.val.toNat < 0xD800 ∨ 0xDFFF < c.val.toNat ∧ c.val.toNat < 0x110000 at hvalid
  unfold String.utf8EncodeChar
  generalize c.val.toNat = v at hvalid ⊢
  simp only
  split_ifs with h1 h2 h3
  · exact .one (by rw [hbyte (by omega)]) (by rw [hbyte (by omega)]; omega)
  · refine .two ?_ ?_ ?_ (by omega)
    all_goals simp only [IsTail, hbyte (show v / 64 % 32 + 0xC0 < 256 by omega),
      hbyte (show v % 64 + 0x80 < 256 by omega)]
    all_goals omega
  · refine .three ?_ ?_ ?_ ?_ (by omega) (by omega)
    all_goals simp only [IsTail, hbyte (show v / 4096 % 16 + 0xE0 < 256 by omega),
      hbyte (show v / 64 % 64 + 0x80 < 256 by omega), hbyte (show v % 64 + 0x80 < 256 by omega)]
    all_goals omega
  · refine .four ?_ ?_ ?_ ?_ ?_ (by omega) (by omega)
    all_goals simp only [IsTail, hbyte (show v / 262144 % 8 + 0xF0 < 256 by omega),
      hbyte (show v / 4096 % 64 + 0x80 < 256 by omega),
      hbyte (show v / 64 % 64 + 0x80 < 256 by omega), hbyte (show v % 64 + 0x80 < 256 by omega)]
    all_goals omega

/-- **A number has one spelling only.** -/
theorem Spells.unique {s t : List UInt8} {n : Nat} (hs : Spells s n) (ht : Spells t n) :
    s = t := by
  have hbyte {x y : UInt8} (hxy : x.toNat = y.toNat) : x = y := UInt8.toNat_inj.mp hxy
  -- Spellings of different lengths belong to disjoint ranges of numbers.
  cases hs with
  | @one a _ hn ha =>
    cases ht with
    | @one a' _ hn' ha' => rw [hbyte (hn.symm.trans hn')]
    | two hn' ha' hb' hlow' => omega
    | three hn' ha' hb' hc' hlow' => omega
    | four hn' ha' hb' hc' hd' hlow' => omega
  | @two a b _ hn ha hb hlow =>
    unfold IsTail at hb
    cases ht with
    | one hn' ha' => omega
    | @two a' b' _ hn' ha' hb' hlow' =>
      unfold IsTail at hb'
      rw [hbyte (show a.toNat = a'.toNat by omega), hbyte (show b.toNat = b'.toNat by omega)]
    | three hn' ha' hb' hc' hlow' => omega
    | four hn' ha' hb' hc' hd' hlow' => omega
  | @three a b c _ hn ha hb hc hlow =>
    unfold IsTail at hb hc
    cases ht with
    | one hn' ha' => omega
    | two hn' ha' hb' hlow' => unfold IsTail at hb'; omega
    | @three a' b' c' _ hn' ha' hb' hc' hlow' =>
      unfold IsTail at hb' hc'
      rw [hbyte (show a.toNat = a'.toNat by omega), hbyte (show b.toNat = b'.toNat by omega),
        hbyte (show c.toNat = c'.toNat by omega)]
    | four hn' ha' hb' hc' hd' hlow' => omega
  | @four a b c d _ hn ha hb hc hd hlow =>
    unfold IsTail at hb hc hd
    cases ht with
    | one hn' ha' => omega
    | two hn' ha' hb' hlow' => unfold IsTail at hb'; omega
    | three hn' ha' hb' hc' hlow' => unfold IsTail at hb' hc'; omega
    | @four a' b' c' d' _ hn' ha' hb' hc' hd' hlow' =>
      unfold IsTail at hb' hc' hd'
      rw [hbyte (show a.toNat = a'.toNat by omega), hbyte (show b.toNat = b'.toNat by omega),
        hbyte (show c.toNat = c'.toNat by omega), hbyte (show d.toNat = d'.toNat by omega)]

/-- A spelling is what its character is written as. -/
theorem Spells.eq_utf8EncodeChar {s : List UInt8} {n : Nat} (h : Spells s n) :
    s = String.utf8EncodeChar (Char.ofNat n) := by
  have hn : (Char.ofNat n).toNat = n := by
    rw [Char.ofNat, dif_pos h.isValidChar]
    rfl
  refine h.unique ?_
  have := spells_utf8EncodeChar (Char.ofNat n)
  rwa [hn] at this

/-! ### Reading -/

theorem ofLead_two {b : Nat} (h : 0xC2 ≤ b ∧ b ≤ 0xDF) :
    Begun.ofLead b = some ⟨1, 1, 0x80, 0xBF, b - 0xC0⟩ := by
  rw [Begun.ofLead, if_pos h]

/-- The second of three bytes is kept from spelling a number too small, or a surrogate. -/
theorem ofLead_three {b : Nat} (h : 0xE0 ≤ b ∧ b < 0xF0) :
    Begun.ofLead b = some ⟨1, 2, if b = 0xE0 then 0xA0 else 0x80,
      if b = 0xED then 0x9F else 0xBF, b - 0xE0⟩ := by
  unfold Begun.ofLead
  split_ifs <;> first | omega | (subst b; rfl) | rfl

/-- The second of four bytes is kept from spelling a number too small, or past the last one. -/
theorem ofLead_four {b : Nat} (h : 0xF0 ≤ b ∧ b < 0xF5) :
    Begun.ofLead b = some ⟨1, 3, if b = 0xF0 then 0x90 else 0x80,
      if b = 0xF4 then 0x8F else 0xBF, b - 0xF0⟩ := by
  unfold Begun.ofLead
  split_ifs <;> first | omega | (subst b; rfl) | rfl

/-- Only the three ranges above begin a character. -/
theorem ofLead_eq_some {b : Nat} {p : Begun} (h : Begun.ofLead b = some p) :
    (0xC2 ≤ b ∧ b ≤ 0xDF) ∨ (0xE0 ≤ b ∧ b < 0xF0) ∨ (0xF0 ≤ b ∧ b < 0xF5) := by
  by_contra hnot
  unfold Begun.ofLead at h
  split_ifs at h <;> omega

/-- A byte in the expected range, with more to come after it. -/
theorem decodeFrom_some_of_more {index : Nat} {p : Begun} {b : UInt8} {bs : List UInt8}
    (hb : p.low ≤ b.toNat ∧ b.toNat ≤ p.high) (hmore : 2 ≤ p.owed) :
    decodeFrom index (some p) (b :: bs) = decodeFrom index (some (p.extend b.toNat)) bs := by
  have howed : (p.extend b.toNat).owed ≠ 0 := by
    change p.owed - 1 ≠ 0
    omega
  rw [decodeFrom, if_pos hb]
  exact if_neg howed

/-- The last byte of a character, in the expected range. -/
theorem decodeFrom_some_of_last {index : Nat} {p : Begun} {b : UInt8} {bs : List UInt8}
    (hb : p.low ≤ b.toNat ∧ b.toNat ≤ p.high) (hlast : p.owed = 1) :
    decodeFrom index (some p) (b :: bs) =
      (decodeFrom (index + (p.taken + 1)) none bs).map
        (Char.ofNat (p.code * 64 + (b.toNat - 0x80)) :: ·) := by
  have howed : (p.extend b.toNat).owed = 0 := by
    change p.owed - 1 = 0
    omega
  rw [decodeFrom, if_pos hb]
  exact if_pos howed

/-- The first of several bytes. -/
theorem decodeFrom_none_of_lead {index : Nat} {p : Begun} {b : UInt8} {bs : List UInt8}
    (hb : 0x80 ≤ b.toNat) (hp : Begun.ofLead b.toNat = some p) :
    decodeFrom index none (b :: bs) = decodeFrom index (some p) bs := by
  rw [decodeFrom, if_neg (by omega), hp]

/-- **A spelling in front of other bytes is read as its character.** -/
theorem decodeFrom_spells {s : List UInt8} {n : Nat} (h : Spells s n) (index : Nat)
    (bs : List UInt8) :
    ∃ next, decodeFrom index none (s ++ bs) = (decodeFrom next none bs).map (Char.ofNat n :: ·) := by
  cases h with
  | @one a _ hn ha =>
    refine ⟨index + 1, ?_⟩
    rw [List.singleton_append, decodeFrom, if_pos ha, hn]
  | @two a b _ hn ha hb hlow =>
    refine ⟨index + 2, ?_⟩
    unfold IsTail at hb
    change decodeFrom index none (a :: b :: bs) = _
    rw [decodeFrom_none_of_lead (by omega) (ofLead_two (by omega)),
      decodeFrom_some_of_last (by omega) rfl, hn]
  | @three a b c _ hn ha hb hc hlow hsurrogate =>
    refine ⟨index + 3, ?_⟩
    unfold IsTail at hb hc
    have hsecond : (if a.toNat = 0xE0 then 0xA0 else 0x80) ≤ b.toNat ∧
        b.toNat ≤ if a.toNat = 0xED then 0x9F else 0xBF := by
      constructor <;> split_ifs <;> omega
    change decodeFrom index none (a :: b :: c :: bs) = _
    rw [decodeFrom_none_of_lead (by omega) (ofLead_three (by omega)),
      decodeFrom_some_of_more hsecond le_rfl, decodeFrom_some_of_last hc rfl, hn]
    rfl
  | @four a b c d _ hn ha hb hc hd hlow hhigh =>
    refine ⟨index + 4, ?_⟩
    unfold IsTail at hb hc hd
    have hsecond : (if a.toNat = 0xF0 then 0x90 else 0x80) ≤ b.toNat ∧
        b.toNat ≤ if a.toNat = 0xF4 then 0x8F else 0xBF := by
      constructor <;> split_ifs <;> omega
    change decodeFrom index none (a :: b :: c :: d :: bs) = _
    rw [decodeFrom_none_of_lead (by omega) (ofLead_four (by omega)),
      decodeFrom_some_of_more hsecond (Nat.le_succ 2), decodeFrom_some_of_more hc le_rfl,
      decodeFrom_some_of_last hd rfl, hn]
    rfl

/-- What was written is read back, wherever it stands. -/
theorem decodeFrom_encode (index : Nat) (cs : List Char) :
    decodeFrom index none (encode cs) = .ok cs := by
  induction cs generalizing index with
  | nil => rw [encode_nil, decodeFrom]
  | cons c cs ih =>
    obtain ⟨next, hnext⟩ := decodeFrom_spells (spells_utf8EncodeChar c) index (encode cs)
    rw [encode_cons, hnext, ih, Char.ofNat_toNat]
    rfl

/-- **Text is read back from its bytes.** -/
theorem decode_encode (cs : List Char) : decode (encode cs) = .ok cs :=
  decodeFrom_encode 0 cs

/-- What the reader does within a character: it takes a byte of the expected range, which either
ends the character or leaves it one byte further. -/
theorem decodeFrom_some_eq_ok {index : Nat} {p : Begun} {bs : List UInt8} {cs : List Char}
    (h : decodeFrom index (some p) bs = .ok cs) :
    ∃ b rest, bs = b :: rest ∧ (p.low ≤ b.toNat ∧ b.toNat ≤ p.high) ∧
      (2 ≤ p.owed → decodeFrom index (some (p.extend b.toNat)) rest = .ok cs) ∧
      (p.owed = 1 → ∃ next ds, decodeFrom next none rest = .ok ds ∧
        cs = Char.ofNat (p.code * 64 + (b.toNat - 0x80)) :: ds) := by
  cases bs with
  | nil => rw [decodeFrom] at h; exact absurd h nofun
  | cons b rest =>
    by_cases hb : p.low ≤ b.toNat ∧ b.toNat ≤ p.high
    · refine ⟨b, rest, rfl, hb, fun hmore => ?_, fun hlast => ?_⟩
      · rwa [decodeFrom_some_of_more hb hmore] at h
      · rw [decodeFrom_some_of_last hb hlast] at h
        obtain ⟨ds, hds, rfl⟩ := Except.map_eq_ok_iff.mp h
        exact ⟨_, ds, hds, rfl⟩
    · rw [decodeFrom, if_neg hb] at h
      exact absurd h nofun

/-- **Only spellings are read**: whatever is accepted begins with one, and goes on with what is
accepted by itself. -/
theorem decodeFrom_none_eq_ok {index : Nat} {bs : List UInt8} {cs : List Char}
    (h : decodeFrom index none bs = .ok cs) :
    (bs = [] ∧ cs = []) ∨ ∃ s n rest next ds, bs = s ++ rest ∧ Spells s n ∧
      decodeFrom next none rest = .ok ds ∧ cs = Char.ofNat n :: ds := by
  rcases bs with _ | ⟨a, rest⟩
  · rw [decodeFrom] at h
    exact Or.inl ⟨rfl, (Except.ok.inj h).symm⟩
  refine Or.inr ?_
  by_cases ha : a.toNat < 0x80
  · rw [decodeFrom, if_pos ha] at h
    obtain ⟨ds, hds, rfl⟩ := Except.map_eq_ok_iff.mp h
    exact ⟨[a], _, rest, _, ds, rfl, .one rfl ha, hds, rfl⟩
  cases hlead : Begun.ofLead a.toNat with
  | none =>
    rw [decodeFrom, if_neg ha, hlead] at h
    exact absurd h nofun
  | some p =>
    rw [decodeFrom_none_of_lead (Nat.le_of_not_lt ha) hlead] at h
    rcases ofLead_eq_some hlead with htwo | hthree | hfour
    · obtain rfl := Option.some.inj (hlead.symm.trans (ofLead_two htwo))
      obtain ⟨b, rest, rfl, hb, -, hlast⟩ := decodeFrom_some_eq_ok h
      obtain ⟨next, ds, hds, rfl⟩ := hlast rfl
      simp only at hb
      exact ⟨[a, b], _, rest, next, ds, rfl, .two rfl (by omega) hb (by omega), hds, rfl⟩
    · obtain rfl := Option.some.inj (hlead.symm.trans (ofLead_three hthree))
      obtain ⟨b, rest, rfl, hb, hmore, -⟩ := decodeFrom_some_eq_ok h
      obtain ⟨c, rest, rfl, hc, -, hlast⟩ := decodeFrom_some_eq_ok (hmore le_rfl)
      obtain ⟨next, ds, hds, rfl⟩ := hlast rfl
      simp only [Begun.extend] at hb hc
      have htail : IsTail b := by unfold IsTail; split_ifs at hb <;> omega
      refine ⟨[a, b, c], _, rest, next, ds, rfl, .three rfl hthree htail hc ?_ ?_, hds, rfl⟩
      · split_ifs at hb <;> omega
      · split_ifs at hb <;> omega
    · obtain rfl := Option.some.inj (hlead.symm.trans (ofLead_four hfour))
      obtain ⟨b, rest, rfl, hb, hmore, -⟩ := decodeFrom_some_eq_ok h
      obtain ⟨c, rest, rfl, hc, hmore, -⟩ := decodeFrom_some_eq_ok (hmore (Nat.le_succ 2))
      obtain ⟨d, rest, rfl, hd, -, hlast⟩ := decodeFrom_some_eq_ok (hmore le_rfl)
      obtain ⟨next, ds, hds, rfl⟩ := hlast rfl
      simp only [Begun.extend] at hb hc hd
      have htail : IsTail b := by unfold IsTail; split_ifs at hb <;> omega
      refine ⟨[a, b, c, d], _, rest, next, ds, rfl,
        .four rfl (by omega) htail hc hd ?_ ?_, hds, rfl⟩
      · split_ifs at hb <;> omega
      · split_ifs at hb <;> omega

/-- What is read was written so, wherever it stands. -/
theorem encode_of_decodeFrom {index : Nat} {bs : List UInt8} {cs : List Char}
    (h : decodeFrom index none bs = .ok cs) : encode cs = bs := by
  -- The induction is on the text: each character takes its own spelling off the bytes.
  induction cs generalizing index bs with
  | nil =>
    rcases decodeFrom_none_eq_ok h with ⟨rfl, -⟩ | ⟨s, n, rest, next, ds, -, -, -, hcs⟩
    · rfl
    · exact absurd hcs nofun
  | cons c cs ih =>
    rcases decodeFrom_none_eq_ok h with ⟨-, hcs⟩ | ⟨s, n, rest, next, ds, rfl, hs, hds, hcs⟩
    · exact absurd hcs nofun
    · obtain ⟨rfl, rfl⟩ := List.cons.inj hcs
      rw [encode_cons, ← hs.eq_utf8EncodeChar, ih hds]

/-- **Bytes that are read as a text are the bytes of that text.** -/
theorem encode_of_decode {bs : List UInt8} {cs : List Char} (h : decode bs = .ok cs) :
    encode cs = bs :=
  encode_of_decodeFrom h

/-! ### The ASCII part

Texts of ASCII characters take one byte a character, and the bytes are the characters' numbers. -/

/-- Bytes below 128 are read one by one. -/
theorem decode_of_forall_lt {bs : List UInt8} (h : ∀ b ∈ bs, b.toNat < 0x80) :
    decode bs = .ok (bs.map fun b => Char.ofNat b.toNat) := by
  suffices hfrom : ∀ index, decodeFrom index none bs = .ok (bs.map fun b => Char.ofNat b.toNat) from
    hfrom 0
  induction bs with
  | nil => intro index; rw [decodeFrom, List.map_nil]
  | cons b bs ih =>
    intro index
    rw [decodeFrom, if_pos (h b List.mem_cons_self),
      ih fun c hc => h c (List.mem_cons_of_mem b hc)]
    rfl

/-- An ASCII character is written as one byte below 128. -/
theorem utf8EncodeChar_of_lt {c : Char} (h : c.toNat < 0x80) :
    ∃ a : UInt8, a.toNat < 0x80 ∧ String.utf8EncodeChar c = [a] := by
  have hs := spells_utf8EncodeChar c
  generalize String.utf8EncodeChar c = s at hs
  cases hs with
  | @one a _ hn ha => exact ⟨a, ha, rfl⟩
  | two hn ha hb hlow => omega
  | three hn ha hb hc hlow => omega
  | four hn ha hb hc hd hlow => omega

/-- An ASCII text is written in bytes below 128. -/
theorem lt_of_mem_encode {cs : List Char} (h : ∀ c ∈ cs, c.toNat < 0x80) {b : UInt8}
    (hb : b ∈ encode cs) : b.toNat < 0x80 := by
  obtain ⟨c, hc, hbc⟩ := List.mem_flatMap.mp hb
  obtain ⟨a, ha, hcs⟩ := utf8EncodeChar_of_lt (h c hc)
  rw [hcs, List.mem_singleton] at hbc
  rwa [hbc]

end Utf8

end WideColumn

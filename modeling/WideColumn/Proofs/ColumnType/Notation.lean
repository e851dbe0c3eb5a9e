import Mathlib
import WideColumn.ColumnType.Reader
import WideColumn.Proofs.Outcome

/-!
# The notation of column types

A text is read as a column type exactly if it is a sentence of the notation: split into words and
marks, it has to be a scalar name, or one of `frozen`, `list`, `set` and `map` with its types in
brackets, and no type may be enclosed by more than `WideColumn.TypeText.maxDepth` brackets.

The grammar says nothing about reading. A text is split by `WideColumn.ColumnType.Lexes`, whose words
are as long as they can be, and `WideColumn.ColumnType.Phrase.Spells` puts the tokens together; a
phrase keeps the marks of frozen types, as their brackets count. The reader does both at once, and
knows of the text that follows only where it starts. So the induction is about a text with more
tokens behind those of the type (`WideColumn.ColumnType.exists_readType_iff`), and its two building
blocks say what the reading of a word or of a mark does to the tokens of a text.

* `WideColumn.ColumnType.Token`, `WideColumn.ColumnType.Lexes`: the words and marks of a text;
* `WideColumn.ColumnType.Phrase`, `WideColumn.ColumnType.Phrase.Spells`: the sentences;
* `WideColumn.ColumnType.exists_readWord_iff`, `WideColumn.ColumnType.exists_readToken_iff`: **reading
  takes the first token**;
* `WideColumn.ColumnType.ofText_eq_ok_iff_spells`: **the texts of column types are the sentences**.
-/

namespace WideColumn

namespace Text

/-- No character of a word is a blank. -/
theorem isBlank_eq_false_of_isWordChar {c : Char} (h : isWordChar c = true) :
    isBlank c = false := by
  have hle : ∀ a b : Char, a ≤ b ↔ a.toNat ≤ b.toNat := fun a b => by
    rw [Char.le_def, UInt32.le_iff_toNat_le]
    rfl
  have hcode : (97 ≤ c.toNat ∧ c.toNat ≤ 122) ∨ (65 ≤ c.toNat ∧ c.toNat ≤ 90) ∨
      (48 ≤ c.toNat ∧ c.toNat ≤ 57) ∨ c.toNat = 95 := by
    simp only [isWordChar, Bool.or_eq_true, Bool.and_eq_true, decide_eq_true_eq, hle,
      beq_iff_eq] at h
    rcases h with ((h | h) | h) | rfl
    · exact Or.inl h
    · exact Or.inr (Or.inl h)
    · exact Or.inr (Or.inr (Or.inl h))
    · decide
  simp only [isBlank, inRanges, blankRanges, List.any_cons, List.any_nil, Bool.or_false,
    Bool.or_eq_false_iff, Bool.and_eq_false_iff, decide_eq_false_iff_not]
  omega

end Text

namespace ColumnType

open Text (skipBlank isBlank isWordChar)

/-! ### Tokens -/

/-- The characters that stand for themselves. -/
inductive Mark where
  | opening
  | closing
  | comma
  deriving DecidableEq, Repr

/-- The character of a mark. -/
def Mark.char : Mark → Char
  | opening => '<'
  | closing => '>'
  | comma => ','

/-- What the text of a type is made of. -/
inductive Token where
  | word (cs : List Char)
  | mark (m : Mark)
  deriving DecidableEq, Repr

/-- **How a text is split into tokens**: blanks between them do not count, a word goes on as long as
there are characters of words, and there is nothing else. -/
inductive Lexes : List Char → List Token → Prop
  | nil : Lexes [] []
  | blank {c : Char} {s : List Char} {ts : List Token} (hc : isBlank c = true) (h : Lexes s ts) :
      Lexes (c :: s) ts
  | mark (m : Mark) {s : List Char} {ts : List Token} (h : Lexes s ts) :
      Lexes (m.char :: s) (.mark m :: ts)
  | word {w s : List Char} {ts : List Token} (hne : w ≠ []) (hw : ∀ c ∈ w, isWordChar c = true)
      (hs : ∀ c ∈ s.head?, isWordChar c = false) (h : Lexes s ts) : Lexes (w ++ s) (.word w :: ts)

/-! ### Sentences -/

/-- A word is a name, whatever the case of its letters. -/
def IsSpelling (name : String) (w : List Char) : Prop :=
  Text.sameIgnoringCase name.toList w = true

/-- The word of a former. -/
def Former.name : Former → String
  | frozen => "frozen"
  | list => "list"
  | set => "set"
  | map => "map"

/-- What a single type can be wrapped in. -/
inductive Wrapper where
  | frozen
  | list
  | set
  deriving DecidableEq, Repr

/-- The former in front of the brackets. -/
def Wrapper.former : Wrapper → Former
  | frozen => .frozen
  | list => .list
  | set => .set

theorem Wrapper.former_inj {x y : Wrapper} : x.former = y.former ↔ x = y := by
  cases x <;> cases y <;> decide

theorem Wrapper.former_ne_map (x : Wrapper) : x.former ≠ .map := by
  cases x <;> decide

/-- What becomes of the type in the brackets. The mark of a frozen type is not kept. -/
def Wrapper.apply : Wrapper → ColumnType → ColumnType
  | frozen, t => t
  | list, t => .list t
  | set, t => .set t

/-- **The sentences of the notation**: types with the marks of those that are frozen. -/
inductive Phrase where
  | scalar (kind : ScalarKind)
  | wrapped (wrapper : Wrapper) (inner : Phrase)
  | map (key value : Phrase)
  deriving DecidableEq, Repr

namespace Phrase

/-- **The type that a phrase stands for**, where nothing is frozen any more. -/
def type : Phrase → ColumnType
  | scalar k => .scalar k
  | wrapped x n => x.apply n.type
  | map k v => .map k.type v.type

/-- **How many brackets enclose a type** of the phrase, where there are most. -/
def depth : Phrase → Nat
  | scalar _ => 0
  | wrapped _ n => n.depth + 1
  | map k v => max k.depth v.depth + 1

/-- **The tokens of a phrase.** -/
inductive Spells : Phrase → List Token → Prop
  | scalar {k : ScalarKind} {w : List Char} (hw : IsSpelling k.name w) :
      Spells (scalar k) [.word w]
  | wrapped {x : Wrapper} {w : List Char} {n : Phrase} {ts : List Token}
      (hw : IsSpelling x.former.name w) (hn : Spells n ts) :
      Spells (wrapped x n) (.word w :: .mark .opening :: (ts ++ [.mark .closing]))
  | map {w : List Char} {k v : Phrase} {ks vs : List Token}
      (hw : IsSpelling Former.map.name w) (hk : Spells k ks) (hv : Spells v vs) :
      Spells (map k v)
        (.word w :: .mark .opening :: (ks ++ .mark .comma :: (vs ++ [.mark .closing])))

end Phrase

/-! ### Names -/

/-- The names are written in lower case, so a word only has to be brought to it. -/
theorem isSpelling_iff {name : String} {w : List Char}
    (hname : name.toList.map Text.lowerAscii = name.toList) :
    IsSpelling name w ↔ w.map Text.lowerAscii = name.toList := by
  rw [IsSpelling, Text.sameIgnoringCase, hname, beq_iff_eq, eq_comm]

theorem isSpelling_scalar_iff {k : ScalarKind} {w : List Char} :
    IsSpelling k.name w ↔ w.map Text.lowerAscii = k.name.toList :=
  isSpelling_iff (by cases k <;> decide)

namespace Former

/-- **The word of a former** is its name. -/
theorem ofWord?_eq_some_iff {f : Former} {w : List Char} :
    ofWord? w = some f ↔ IsSpelling f.name w := by
  rw [isSpelling_iff (by cases f <;> decide), ofWord?]
  constructor
  · intro h
    split_ifs at h with hfrozen hlist hset hmap <;> cases h <;> assumption
  · intro h
    rw [h]
    cases f <;> decide

/-- No kind has the name of a former. -/
theorem ofWord?_eq_none_of_isSpelling {k : ScalarKind} {w : List Char}
    (h : IsSpelling k.name w) : ofWord? w = none := by
  rw [ofWord?, isSpelling_scalar_iff.mp h]
  cases k <;> decide

end Former

/-- **The word of a scalar type** is the name of its kind; no two kinds have one name. -/
theorem ofName?_eq_some_iff {k : ScalarKind} {w : List Char} :
    ScalarKind.ofName? w = some k ↔ IsSpelling k.name w := by
  have hspelling : ∀ j : ScalarKind, ScalarKind.ofName? w = some j → IsSpelling j.name w := by
    intro j h
    rw [ScalarKind.ofName?] at h
    exact (List.find?_some h :)
  refine ⟨hspelling k, fun h => ?_⟩
  have hsome : (ScalarKind.ofName? w).isSome := List.find?_isSome.mpr ⟨k, k.mem_all, h⟩
  obtain ⟨j, hj⟩ := Option.isSome_iff_exists.mp hsome
  have hnames : (ScalarKind.all.map fun k => k.name.toList).Nodup := by decide
  have hname : j.name.toList = k.name.toList :=
    (isSpelling_scalar_iff.mp (hspelling j hj)).symm.trans (isSpelling_scalar_iff.mp h)
  rw [hj, List.inj_on_of_nodup_map hnames j.mem_all k.mem_all hname]

/-! ### Tokens and reading -/

theorem isBlank_char (m : Mark) : isBlank m.char = false := by
  cases m <;> decide

variable {s rest w : List Char} {ts us : List Token} {m : Mark}

/-- A blank is not part of any token. -/
theorem lexes_cons_of_blank {c : Char} (hc : isBlank c = true) : Lexes (c :: s) ts ↔ Lexes s ts := by
  refine ⟨fun h => ?_, .blank hc⟩
  generalize hcs : c :: s = cs at h
  cases h with
  | nil => cases hcs
  | blank _ h =>
    cases hcs
    exact h
  | mark m h =>
    cases hcs
    rw [isBlank_char] at hc
    cases hc
  | @word w s' ts hne hw hs h =>
    obtain ⟨d, w, rfl⟩ := List.exists_cons_of_ne_nil hne
    cases hcs
    rw [Text.isBlank_eq_false_of_isWordChar (hw c List.mem_cons_self)] at hc
    cases hc

/-- **Leading blanks do not count.** -/
theorem lexes_skipBlank_iff : Lexes (skipBlank s) ts ↔ Lexes s ts := by
  induction s with
  | nil => rfl
  | cons c s ih =>
    cases hc : isBlank c with
    | true => rw [Text.skipBlank_cons_of_blank hc, ih, lexes_cons_of_blank hc]
    | false => rw [Text.skipBlank_cons_of_not_blank hc]

/-- A text without tokens is blank. -/
theorem lexes_nil_iff : Lexes s [] ↔ skipBlank s = [] := by
  constructor
  · intro h
    generalize hts : ([] : List Token) = ts at h
    induction h with
    | nil => rfl
    | blank hc _ ih => rw [Text.skipBlank_cons_of_blank hc, ih hts]
    | mark | word => cases hts
  · intro h
    rw [← lexes_skipBlank_iff, h]
    exact .nil

/-- What is read as a word, and where it ends. -/
theorem readWord_eq_ok_iff : readWord s = .ok (w, rest) ↔ w ≠ [] ∧
    (∀ c ∈ w, isWordChar c = true) ∧ (∀ c ∈ rest.head?, isWordChar c = false) ∧
      w ++ rest = skipBlank s := by
  rw [readWord]
  constructor
  · intro h
    split at h
    · cases h
    next hne =>
      obtain ⟨rfl, rfl⟩ := Prod.mk.inj (Except.ok.inj h)
      refine ⟨hne, fun c => List.mem_takeWhile_imp, fun c hc => ?_,
        List.takeWhile_append_dropWhile⟩
      have hstop := List.head?_dropWhile_not isWordChar (skipBlank s)
      rw [Option.mem_def.mp hc] at hstop
      simpa using hstop
  · rintro ⟨hne, hw, hrest, hs⟩
    have hstop : rest.takeWhile isWordChar = [] ∧ rest.dropWhile isWordChar = rest := by
      cases rest with
      | nil => exact ⟨rfl, rfl⟩
      | cons c rest =>
        have hc := hrest c rfl
        exact ⟨List.takeWhile_cons_of_neg (by simp [hc]), List.dropWhile_cons_of_neg (by simp [hc])⟩
    rw [← hs, List.takeWhile_append_of_pos hw, List.dropWhile_append_of_pos hw, hstop.1, hstop.2,
      List.append_nil]
    split
    · contradiction
    · rfl

/-- **Reading a word takes the first token.** -/
theorem exists_readWord_iff :
    (∃ rest, readWord s = .ok (w, rest) ∧ Lexes rest ts) ↔ Lexes s (.word w :: ts) := by
  simp only [readWord_eq_ok_iff]
  constructor
  · rintro ⟨rest, ⟨hne, hw, hrest, hs⟩, h⟩
    rw [← lexes_skipBlank_iff, ← hs]
    exact .word hne hw hrest h
  · intro h
    generalize hus : Token.word w :: ts = us at h
    induction h with
    | nil | mark => cases hus
    | blank hc _ ih =>
      rw [Text.skipBlank_cons_of_blank hc]
      exact ih hus
    | @word w s ts hne hw hs h =>
      cases hus
      obtain ⟨c, w, rfl⟩ := List.exists_cons_of_ne_nil hne
      have hc := Text.isBlank_eq_false_of_isWordChar (hw c List.mem_cons_self)
      exact ⟨s, ⟨hne, hw, hs, (Text.skipBlank_cons_of_not_blank hc _).symm⟩, h⟩

/-- What is read as a mark. -/
theorem readToken_eq_ok_iff {token : Char} :
    readToken token s = .ok rest ↔ token :: rest = skipBlank s := by
  rw [readToken]
  cases skipBlank s with
  | nil => exact iff_of_false nofun nofun
  | cons c cs =>
    simp only [List.cons.injEq]
    split_ifs with hc
    · rw [hc, and_iff_right rfl, Except.ok.injEq, eq_comm]
    · exact iff_of_false nofun fun h => hc h.1.symm

/-- **Reading a mark takes the first token.** -/
theorem exists_readToken_iff :
    (∃ rest, readToken m.char s = .ok rest ∧ Lexes rest ts) ↔ Lexes s (.mark m :: ts) := by
  simp only [readToken_eq_ok_iff]
  constructor
  · rintro ⟨rest, hs, h⟩
    rw [← lexes_skipBlank_iff, ← hs]
    exact .mark m h
  · intro h
    generalize hus : Token.mark m :: ts = us at h
    induction h with
    | nil | word => cases hus
    | blank hc _ ih =>
      rw [Text.skipBlank_cons_of_blank hc]
      exact ih hus
    | @mark m s ts h =>
      cases hus
      exact ⟨s, (Text.skipBlank_cons_of_not_blank (isBlank_char m) s).symm, h⟩

/-! ### Reading a type -/

variable {room : Nat} {t : ColumnType}

/-- A type is read in brackets. -/
def ReadsInner (room : Nat) (s : List Char) (t : ColumnType) (rest : List Char) : Prop :=
  ∃ s₁, readToken '<' s = .ok s₁ ∧ ∃ s₂, readType room s₁ = .ok (t, s₂) ∧
    readToken '>' s₂ = .ok rest

/-- A key and a value are read in brackets. -/
def ReadsEntry (room : Nat) (s : List Char) (k v : ColumnType) (rest : List Char) : Prop :=
  ∃ s₁, readToken '<' s = .ok s₁ ∧ ∃ s₂, readType room s₁ = .ok (k, s₂) ∧
    ∃ s₃, readToken ',' s₂ = .ok s₃ ∧ ∃ s₄, readType room s₃ = .ok (v, s₄) ∧
      readToken '>' s₄ = .ok rest

/-- What is made of a type in brackets. -/
theorem bind_readInner_eq_ok_iff (make : ColumnType → ColumnType) :
    (do
      let s ← readToken '<' s
      let p ← readType room s
      let s ← readToken '>' p.2
      return (make p.1, s)) = Except.ok (t, rest) ↔ ∃ e, ReadsInner room s e rest ∧ make e = t := by
  simp only [Except.bind_eq_ok_iff, Prod.exists, Except.pure_eq_ok, Except.ok.injEq, Prod.mk.injEq,
    exists_eq_right_right]
  constructor
  · rintro ⟨s₁, h₁, e, s₂, he, h₂, rfl⟩
    exact ⟨e, ⟨s₁, h₁, s₂, he, h₂⟩, rfl⟩
  · rintro ⟨e, ⟨s₁, h₁, s₂, he, h₂⟩, rfl⟩
    exact ⟨s₁, h₁, e, s₂, he, h₂, rfl⟩

/-- What is made of a key and a value in brackets. -/
theorem bind_readEntry_eq_ok_iff (make : ColumnType → ColumnType → ColumnType) :
    (do
      let s ← readToken '<' s
      let p ← readType room s
      let s ← readToken ',' p.2
      let q ← readType room s
      let s ← readToken '>' q.2
      return (make p.1 q.1, s)) = Except.ok (t, rest) ↔
        ∃ k v, ReadsEntry room s k v rest ∧ make k v = t := by
  simp only [Except.bind_eq_ok_iff, Prod.exists, Except.pure_eq_ok, Except.ok.injEq, Prod.mk.injEq,
    exists_eq_right_right]
  constructor
  · rintro ⟨s₁, h₁, k, s₂, hk, s₃, h₃, v, s₄, hv, h₄, rfl⟩
    exact ⟨k, v, ⟨s₁, h₁, s₂, hk, s₃, h₃, s₄, hv, h₄⟩, rfl⟩
  · rintro ⟨k, v, ⟨s₁, h₁, s₂, hk, s₃, h₃, s₄, hv, h₄⟩, rfl⟩
    exact ⟨s₁, h₁, k, s₂, hk, s₃, h₃, v, s₄, hv, h₄, rfl⟩

/-- **What is read as a type**: a word, and what it asks for. -/
theorem readType_succ_eq_ok_iff : readType (room + 1) s = .ok (t, rest) ↔
    ∃ w s', readWord s = .ok (w, s') ∧
      ((∃ k, IsSpelling k.name w ∧ scalar k = t ∧ s' = rest) ∨
        (∃ x : Wrapper, IsSpelling x.former.name w ∧
          ∃ e, ReadsInner room s' e rest ∧ x.apply e = t) ∨
        (IsSpelling Former.map.name w ∧ ∃ k v, ReadsEntry room s' k v rest ∧ map k v = t)) := by
  rw [readType, Except.bind_eq_ok_iff, Prod.exists]
  refine exists_congr fun w => exists_congr fun s' => and_congr_right fun _ => ?_
  simp only [← Former.ofWord?_eq_some_iff]
  cases hf : Former.ofWord? w with
  | none =>
    simp only [reduceCtorEq, false_and, exists_false, or_false, ← ofName?_eq_some_iff]
    cases ScalarKind.ofName? w with
    | none => simp
    | some k => simp
  | some f =>
    have hscalar : ¬∃ k : ScalarKind, IsSpelling k.name w ∧ scalar k = t ∧ s' = rest := by
      rintro ⟨k, hk, -⟩
      rw [Former.ofWord?_eq_none_of_isSpelling hk] at hf
      cases hf
    have hsingle (x : Wrapper) : (∃ e, ReadsInner room s' e rest ∧ x.apply e = t) ↔
        (∃ y : Wrapper, some x.former = some y.former ∧
          ∃ e, ReadsInner room s' e rest ∧ y.apply e = t) ∨
        (some x.former = some .map ∧ ∃ k v, ReadsEntry room s' k v rest ∧ map k v = t) := by
      simp only [Option.some.injEq, Wrapper.former_inj, Wrapper.former_ne_map, false_and, or_false,
        exists_eq_left']
    rw [or_iff_right hscalar]
    cases f with
    | frozen => exact (bind_readInner_eq_ok_iff (Wrapper.apply .frozen)).trans (hsingle .frozen)
    | list => exact (bind_readInner_eq_ok_iff (Wrapper.apply .list)).trans (hsingle .list)
    | set => exact (bind_readInner_eq_ok_iff (Wrapper.apply .set)).trans (hsingle .set)
    | map =>
      have hno : ¬∃ x : Wrapper, some Former.map = some x.former ∧
          ∃ e, ReadsInner room s' e rest ∧ x.apply e = t := by
        rintro ⟨x, hx, -⟩
        exact x.former_ne_map (Option.some.inj hx).symm
      rw [or_iff_right hno, and_iff_right rfl]
      exact bind_readEntry_eq_ok_iff map

/-! ### Types and tokens -/

section Brackets

variable (ih : ∀ {s : List Char} {t : ColumnType} {ts : List Token},
  (∃ rest, readType room s = .ok (t, rest) ∧ Lexes rest ts) ↔
    ∃ n us, Phrase.Spells n us ∧ n.depth < room ∧ n.type = t ∧ Lexes s (us ++ ts))

include ih

/-- **The tokens of a type in brackets**, if those of a type are known. -/
theorem exists_readsInner_iff : (∃ rest, ReadsInner room s t rest ∧ Lexes rest ts) ↔
    ∃ n us, Phrase.Spells n us ∧ n.depth < room ∧ n.type = t ∧
      Lexes s (.mark .opening :: (us ++ .mark .closing :: ts)) := by
  constructor
  · rintro ⟨rest, ⟨s₁, h₁, s₂, ht, h₂⟩, hrest⟩
    have hs₂ : Lexes s₂ (.mark .closing :: ts) := exists_readToken_iff.mp ⟨rest, h₂, hrest⟩
    obtain ⟨n, us, hn, hdepth, htype, hs₁⟩ := ih.mp ⟨s₂, ht, hs₂⟩
    exact ⟨n, us, hn, hdepth, htype, exists_readToken_iff.mp ⟨s₁, h₁, hs₁⟩⟩
  · rintro ⟨n, us, hn, hdepth, htype, hs⟩
    obtain ⟨s₁, h₁, hs₁⟩ := exists_readToken_iff.mpr hs
    obtain ⟨s₂, ht, hs₂⟩ := ih.mpr ⟨n, us, hn, hdepth, htype, hs₁⟩
    obtain ⟨rest, h₂, hrest⟩ := exists_readToken_iff.mpr hs₂
    exact ⟨rest, ⟨s₁, h₁, s₂, ht, h₂⟩, hrest⟩

/-- **The tokens of a key and a value in brackets.** -/
theorem exists_readsEntry_iff {k v : ColumnType} :
    (∃ rest, ReadsEntry room s k v rest ∧ Lexes rest ts) ↔
      ∃ m us, Phrase.Spells m us ∧ m.depth < room ∧ m.type = k ∧
      ∃ n vs, Phrase.Spells n vs ∧ n.depth < room ∧ n.type = v ∧
        Lexes s (.mark .opening :: (us ++ .mark .comma :: (vs ++ .mark .closing :: ts))) := by
  constructor
  · rintro ⟨rest, ⟨s₁, h₁, s₂, hk, s₃, h₃, s₄, hv, h₄⟩, hrest⟩
    have hs₄ : Lexes s₄ (.mark .closing :: ts) := exists_readToken_iff.mp ⟨rest, h₄, hrest⟩
    obtain ⟨n, vs, hn, hndepth, hntype, hs₃⟩ := ih.mp ⟨s₄, hv, hs₄⟩
    have hs₂ : Lexes s₂ (.mark .comma :: (vs ++ .mark .closing :: ts)) :=
      exists_readToken_iff.mp ⟨s₃, h₃, hs₃⟩
    obtain ⟨m, us, hm, hmdepth, hmtype, hs₁⟩ := ih.mp ⟨s₂, hk, hs₂⟩
    exact ⟨m, us, hm, hmdepth, hmtype, n, vs, hn, hndepth, hntype,
      exists_readToken_iff.mp ⟨s₁, h₁, hs₁⟩⟩
  · rintro ⟨m, us, hm, hmdepth, hmtype, n, vs, hn, hndepth, hntype, hs⟩
    obtain ⟨s₁, h₁, hs₁⟩ := exists_readToken_iff.mpr hs
    obtain ⟨s₂, hk, hs₂⟩ := ih.mpr ⟨m, us, hm, hmdepth, hmtype, hs₁⟩
    obtain ⟨s₃, h₃, hs₃⟩ := exists_readToken_iff.mpr hs₂
    obtain ⟨s₄, hv, hs₄⟩ := ih.mpr ⟨n, vs, hn, hndepth, hntype, hs₃⟩
    obtain ⟨rest, h₄, hrest⟩ := exists_readToken_iff.mpr hs₄
    exact ⟨rest, ⟨s₁, h₁, s₂, hk, s₃, h₃, s₄, hv, h₄⟩, hrest⟩

end Brackets

/-- **A type is read from the tokens of a phrase for it**, whatever follows them, if the phrase is
less deep than there is room for. -/
theorem exists_readType_iff :
    (∃ rest, readType room s = .ok (t, rest) ∧ Lexes rest ts) ↔
      ∃ n us, Phrase.Spells n us ∧ n.depth < room ∧ n.type = t ∧ Lexes s (us ++ ts) := by
  induction room generalizing s t ts with
  | zero =>
    refine iff_of_false ?_ ?_
    · rintro ⟨rest, h, -⟩
      cases h
    · rintro ⟨n, us, -, hdepth, -⟩
      exact absurd hdepth (Nat.not_lt_zero _)
  | succ room ih =>
    simp only [readType_succ_eq_ok_iff]
    constructor
    · rintro ⟨rest, ⟨w, s', hword, h⟩, hrest⟩
      have hs : ∀ us, Lexes s' us → Lexes s (.word w :: us) :=
        fun us hus => exists_readWord_iff.mp ⟨s', hword, hus⟩
      rcases h with ⟨k, hk, rfl, rfl⟩ | ⟨x, hx, e, he, rfl⟩ | ⟨hw, k, v, he, rfl⟩
      · exact ⟨.scalar k, _, .scalar hk, Nat.succ_pos room, rfl, hs ts hrest⟩
      · obtain ⟨n, us, hn, hdepth, rfl, hus⟩ := (exists_readsInner_iff ih).mp ⟨rest, he, hrest⟩
        exact ⟨.wrapped x n, _, .wrapped hx hn, Nat.succ_lt_succ hdepth, rfl,
          by simpa using hs _ hus⟩
      · obtain ⟨m, us, hm, hmdepth, rfl, n, vs, hn, hndepth, rfl, hus⟩ :=
          (exists_readsEntry_iff ih).mp ⟨rest, he, hrest⟩
        exact ⟨.map m n, _, .map hw hm hn, Nat.succ_lt_succ (max_lt hmdepth hndepth), rfl,
          by simpa using hs _ hus⟩
    · rintro ⟨n, us, hn, hdepth, rfl, hs⟩
      cases hn with
      | @scalar k w hw =>
        obtain ⟨s', hword, hs'⟩ := exists_readWord_iff.mpr hs
        exact ⟨s', ⟨w, s', hword, Or.inl ⟨k, hw, rfl, rfl⟩⟩, hs'⟩
      | @wrapped x w n us hw hn =>
        simp only [List.cons_append, List.append_assoc, List.nil_append] at hs
        obtain ⟨s', hword, hs'⟩ := exists_readWord_iff.mpr hs
        obtain ⟨rest, he, hrest⟩ := (exists_readsInner_iff ih).mpr
          ⟨n, us, hn, Nat.lt_of_succ_lt_succ hdepth, rfl, hs'⟩
        exact ⟨rest, ⟨w, s', hword, Or.inr (Or.inl ⟨x, hw, n.type, he, rfl⟩)⟩, hrest⟩
      | @map w m n us vs hw hm hn =>
        simp only [List.cons_append, List.append_assoc, List.nil_append] at hs
        obtain ⟨s', hword, hs'⟩ := exists_readWord_iff.mpr hs
        obtain ⟨hmdepth, hndepth⟩ := max_lt_iff.mp (Nat.lt_of_succ_lt_succ hdepth)
        obtain ⟨rest, he, hrest⟩ := (exists_readsEntry_iff ih).mpr
          ⟨m, us, hm, hmdepth, rfl, n, vs, hn, hndepth, rfl, hs'⟩
        exact ⟨rest, ⟨w, s', hword, Or.inr (Or.inr ⟨hw, m.type, n.type, he, rfl⟩)⟩, hrest⟩

/-! ### Texts -/

/-- A whole text is read if only blanks follow the type. -/
theorem readAll_eq_ok_iff : readAll s = .ok t ↔
    ∃ rest, readType (TypeText.maxDepth + 1) s = .ok (t, rest) ∧ skipBlank rest = [] := by
  rw [readAll, Except.bind_eq_ok_iff, Prod.exists]
  constructor
  · rintro ⟨u, rest, htype, h⟩
    dsimp only at h
    split at h
    next hblank =>
      obtain rfl := Except.ok.inj h
      exact ⟨rest, htype, hblank⟩
    next => cases h
  · rintro ⟨rest, htype, hblank⟩
    refine ⟨t, rest, htype, ?_⟩
    simp only [hblank]
    rfl

/-- **The texts of column types are the sentences of the notation**: a text stands for a type exactly
if its tokens are those of a phrase for this type in which no type is enclosed by more brackets than
are allowed. -/
theorem ofText_eq_ok_iff_spells {text : String} : ofText text = .ok t ↔
    ∃ ts n, Lexes text.toList ts ∧ Phrase.Spells n ts ∧ n.depth ≤ TypeText.maxDepth ∧
      n.type = t := by
  rw [ofText, Except.mapError_eq_ok_iff, readAll_eq_ok_iff]
  simp only [← lexes_nil_iff, exists_readType_iff, List.append_nil, Nat.lt_succ_iff]
  constructor
  · rintro ⟨n, ts, hn, hdepth, htype, hlexes⟩
    exact ⟨ts, n, hlexes, hn, hdepth, htype⟩
  · rintro ⟨ts, n, hlexes, hn, hdepth, htype⟩
    exact ⟨n, ts, hn, hdepth, htype, hlexes⟩

/-- Blanks, capitals and marks of frozen types make no difference. -/
example : ofText " Map<text ,\u2003FROZEN< list<int> >>" =
    .ok (.map (.scalar .text) (.list (.scalar .int))) := by
  decide

end ColumnType

end WideColumn

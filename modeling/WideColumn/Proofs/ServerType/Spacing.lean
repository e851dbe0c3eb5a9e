import Mathlib
import WideColumn.Proofs.ServerType.Composed

/-!
# Blanks in the notation of server types

Blanks around a class do not count. So blanks may be put in front of a delimiter or behind it, or at
the ends of a text, without a change of what is read, with one exception: the reader looks for what
follows a parameter right behind it, and if the parameter was closed by a parenthesis of its own,
blanks there are not part of any class. A list that goes on behind such blanks is refused as one
that is not closed.

The two texts are read side by side. Up to the first such place the reader is at corresponding
delimiters in both, and at that place it gives up.

* `WideColumn.ServerType.Spaced`: a text with more blanks around its delimiters and at its ends;
* `WideColumn.ServerType.ClosesTight`: there are no blanks between a closing parenthesis and the
  delimiter that follows;
* `WideColumn.ServerType.ofText_eq_ok_iff_of_spaced`: **with more blanks the same type is read**
  exactly if none of them stand there.
-/

namespace WideColumn

namespace ServerType

open Text
open TypeText (Fault)

/-! ### More blanks -/

/-- A text with blanks in front of it and behind it. -/
def Padded (name name' : List Char) : Prop :=
  ∃ bs cs, IsBlankText bs ∧ IsBlankText cs ∧ bs ++ (name ++ cs) = name'

/-- **The same text with more blanks**, which stand in front of delimiters, behind delimiters, or at
one of the two ends. -/
inductive Spaced : List Char → List Char → Prop
  | last {name name' : List Char} (hname : name.all (!isDelimiter ·) = true)
      (hpad : Padded name name') : Spaced name name'
  | delimiter {name name' s s' : List Char} {d : Char} (hname : name.all (!isDelimiter ·) = true)
      (hpad : Padded name name') (hd : isDelimiter d = true) (hs : Spaced s s') :
      Spaced (name ++ d :: s) (name' ++ d :: s')

section Padded

variable {name name' : List Char}

theorem padded_self (name : List Char) : Padded name name :=
  ⟨[], [], isBlankText_nil, isBlankText_nil, List.append_nil name⟩

theorem Padded.isBlankText (h : Padded name name') (hname : IsBlankText name) :
    IsBlankText name' := by
  obtain ⟨bs, cs, hbs, hcs, rfl⟩ := h
  exact isBlankText_append.mpr ⟨hbs, isBlankText_append.mpr ⟨hname, hcs⟩⟩

theorem Padded.isClassText (h : Padded name name') (hname : IsClassText name) :
    IsClassText name' := by
  obtain ⟨bs, cs, hbs, hcs, rfl⟩ := h
  exact hname.pad hbs hcs

theorem Padded.ofClass_eq (h : Padded name name') (ps : List ServerType) :
    ofClass (String.ofList name') ps = ofClass (String.ofList name) ps := by
  obtain ⟨bs, cs, hbs, hcs, rfl⟩ := h
  exact ofClass_pad hbs hcs name ps

end Padded

section Spaced

variable {name s s' : List Char} {d : Char}

/-- A text is divided at its first delimiter in one way. -/
theorem append_delimiter_inj {name₂ s₂ : List Char} {d₂ : Char}
    (hname : name.all (!isDelimiter ·) = true) (hd : isDelimiter d = true)
    (hname₂ : name₂.all (!isDelimiter ·) = true) (hd₂ : isDelimiter d₂ = true)
    (h : name ++ d :: s = name₂ ++ d₂ :: s₂) : name = name₂ ∧ d = d₂ ∧ s = s₂ := by
  have htake := congrArg (List.takeWhile (!isDelimiter ·)) h
  rw [takeWhile_append hname (endsClass_cons hd s),
    takeWhile_append hname₂ (endsClass_cons hd₂ s₂)] at htake
  subst htake
  exact ⟨rfl, List.cons.inj (List.append_cancel_left h)⟩

/-- Without delimiters, there are more blanks at the ends only. -/
theorem Spaced.padded (h : Spaced name s') (hname : name.all (!isDelimiter ·) = true) :
    Padded name s' := by
  cases h with
  | last _ hpad => exact hpad
  | delimiter _ _ hd _ => simp [hd] at hname

/-- Up to the first delimiter there are more blanks at the ends only, and behind it anywhere. -/
theorem Spaced.of_delimiter (h : Spaced (name ++ d :: s) s')
    (hname : name.all (!isDelimiter ·) = true) (hd : isDelimiter d = true) :
    ∃ name' inner, Padded name name' ∧ Spaced s inner ∧ name' ++ d :: inner = s' := by
  generalize htext : name ++ d :: s = text at h
  cases h with
  | last hall _ =>
    subst htext
    simp [hd] at hall
  | delimiter hname₂ hpad hd₂ hs =>
    obtain ⟨rfl, rfl, rfl⟩ := append_delimiter_inj hname hd hname₂ hd₂ htext
    exact ⟨_, _, hpad, hs, rfl⟩

/-- In front of a delimiter at the start of a text there may be blanks. -/
theorem Spaced.of_cons (h : Spaced (d :: s) s') (hd : isDelimiter d = true) :
    ∃ gap inner, Padded [] gap ∧ Spaced s inner ∧ gap ++ d :: inner = s' := by
  rw [← List.nil_append (d :: s)] at h
  exact h.of_delimiter rfl hd

/-- There may be none. -/
theorem Spaced.cons (hd : isDelimiter d = true) (hs : Spaced s s') : Spaced (d :: s) (d :: s') := by
  have h := Spaced.delimiter rfl (padded_self []) hd hs
  rwa [List.nil_append, List.nil_append] at h

end Spaced

/-! ### Blanks behind a closing parenthesis -/

/-- A text that has no blanks in front of a delimiter at its start. -/
def StartsTight (s : List Char) : Prop :=
  ∀ bs d r, bs ++ d :: r = s → IsBlankText bs → isDelimiter d = true → bs = []

/-- **A text that has no blanks between a closing parenthesis and a delimiter.** -/
def ClosesTight (s : List Char) : Prop :=
  ∀ r, ')' :: r <:+ s → StartsTight r

variable {s s' rest : List Char}

theorem startsTight_cons {d : Char} (hd : isDelimiter d = true) (r : List Char) :
    StartsTight (d :: r) := by
  intro bs d' r' htext hbs _
  cases bs with
  | nil => rfl
  | cons b bs =>
    obtain ⟨rfl, -⟩ := List.cons.inj htext
    have hb := isDelimiter_eq_false_of_isBlank (hbs b List.mem_cons_self)
    exact absurd (hb.symm.trans hd) (by decide)

theorem startsTight_of_isBlankText (h : IsBlankText s) : StartsTight s := by
  rintro bs d r rfl _ hd
  have hblank := isDelimiter_eq_false_of_isBlank (h d (by simp))
  exact absurd (hblank.symm.trans hd) (by decide)

theorem ClosesTight.of_suffix (h : ClosesTight s) (hs : s' <:+ s) : ClosesTight s' :=
  fun r hr => h r (hr.trans hs)

theorem closesTight_cons {c : Char} : ClosesTight (c :: s) ↔
    (c = ')' → StartsTight s) ∧ ClosesTight s := by
  constructor
  · intro h
    refine ⟨?_, h.of_suffix (List.suffix_cons c s)⟩
    rintro rfl
    exact h s List.suffix_rfl
  · rintro ⟨hstarts, hcloses⟩ r hr
    rcases List.suffix_cons_iff.mp hr with heq | hsuffix
    · obtain ⟨rfl, rfl⟩ := List.cons.inj heq
      exact hstarts rfl
    · exact hcloses r hsuffix

/-- In front of a text, a name makes no difference. -/
theorem closesTight_append {name : List Char} (hname : name.all (!isDelimiter ·) = true)
    (h : ClosesTight rest) : ClosesTight (name ++ rest) := by
  induction name with
  | nil => exact h
  | cons c name ih =>
    rw [List.all_cons, Bool.and_eq_true] at hname
    refine closesTight_cons.mpr ⟨?_, ih hname.2⟩
    rintro rfl
    exact absurd hname.1 (by decide)

theorem closesTight_nil : ClosesTight [] := by
  intro r hr
  cases List.suffix_nil.mp hr

theorem closesTight_of_isBlankText (h : IsBlankText s) : ClosesTight s := by
  have hs := closesTight_append (all_not_isDelimiter_of_isBlankText h) closesTight_nil
  rwa [List.append_nil] at hs

/-! ### Where a reader stops -/

variable {room : Nat} {t : ServerType} {ts : List ServerType}

theorem suffix_append_cons (name : List Char) (c : Char) (rest : List Char) :
    rest <:+ name ++ c :: rest :=
  (List.suffix_cons c rest).trans (List.suffix_append name _)

/-- A list of parameters is closed by a parenthesis. -/
theorem Reads.close_suffix {readOne : (s : List Char) → Except Fault (Parsed ServerType s)}
    (hone : ∀ {s t rest}, Reads (readOne s) t rest → rest <:+ s)
    (h : Reads (readParams readOne s) ts rest) : ')' :: rest <:+ s := by
  refine Reads.params_induction (fun ht => hone ht) (fun ht ih => ?_) h
  exact ih.trans ((List.suffix_cons _ _).trans (hone ht))

/-- **A type is followed by a delimiter or by nothing, or else it ends with a parenthesis.** -/
theorem Reads.endsClass_or_close (h : Reads (readClass room s) t rest) :
    (EndsClass rest ∧ rest <:+ s) ∨ ')' :: rest <:+ s := by
  induction room generalizing s t rest with
  | zero =>
    obtain ⟨_, hq, -⟩ := h
    cases hq
  | succ room ih =>
    obtain ⟨name, tail, -, rfl, ⟨inner, ts, rfl, hts, -⟩ | ⟨rfl, hrest, -⟩⟩ := h.of_readClass
    · have hone {s t rest} (h : Reads (readClass room s) t rest) : rest <:+ s :=
        (ih h).elim And.right (List.suffix_cons _ _).trans
      exact Or.inr ((hts.close_suffix hone).trans (suffix_append_cons name '(' inner))
    · exact Or.inl ⟨hrest.endsClass, List.suffix_append name tail⟩

theorem Reads.suffix (h : Reads (readClass room s) t rest) : rest <:+ s :=
  h.endsClass_or_close.elim And.right (List.suffix_cons _ _).trans

/-! ### What is read has no such blanks -/

theorem Reads.closesTight_params {readOne : (s : List Char) → Except Fault (Parsed ServerType s)}
    (hone : ∀ {s t rest}, Reads (readOne s) t rest → StartsTight rest → ClosesTight rest →
      ClosesTight s)
    (h : Reads (readParams readOne s) ts rest) (hstarts : StartsTight rest)
    (hcloses : ClosesTight rest) : ClosesTight s := by
  refine Reads.params_induction (fun ht => ?_) (fun {_ _ inner _} ht ih => ?_) h
  · exact hone ht (startsTight_cons rfl rest) (closesTight_cons.mpr ⟨fun _ => hstarts, hcloses⟩)
  · exact hone ht (startsTight_cons rfl inner)
      (closesTight_cons.mpr ⟨fun hcomma => absurd hcomma (by decide), ih⟩)

/-- **Where a type is read, no blanks stand between a closing parenthesis and a delimiter**, if
there are none behind it. -/
theorem Reads.closesTight (h : Reads (readClass room s) t rest) (hstarts : StartsTight rest)
    (hcloses : ClosesTight rest) : ClosesTight s := by
  induction room generalizing s t rest with
  | zero =>
    obtain ⟨_, hq, -⟩ := h
    cases hq
  | succ room ih =>
    obtain ⟨name, tail, hname, rfl, ⟨inner, ts, rfl, hts, -⟩ | ⟨rfl, -, -⟩⟩ := h.of_readClass
    · refine closesTight_append hname.all_not_delimiter (closesTight_cons.mpr
        ⟨fun hopen => absurd hopen (by decide), ?_⟩)
      exact hts.closesTight_params ih hstarts hcloses
    · exact closesTight_append hname.all_not_delimiter hcloses

/-! ### Reading two texts side by side -/

/-- **Behind a parameter the reader looks for a delimiter right away.** Where blanks come first, it
gives up; and these blanks follow a closing parenthesis. -/
theorem Reads.unclosed {gap r : List Char} {d : Char}
    (h : Reads (readClass room s) t (gap ++ d :: r)) (hgap : IsBlankText gap) (hne : gap ≠ [])
    (hd : isDelimiter d = true) :
    readParams (readClass room) s = .error ⟨.unclosedParams, gap ++ d :: r⟩ ∧ ¬ClosesTight s := by
  obtain ⟨b, bs, rfl⟩ := List.exists_cons_of_ne_nil hne
  have hb : isDelimiter b = false := isDelimiter_eq_false_of_isBlank (hgap b List.mem_cons_self)
  have hclose : ')' :: (b :: bs ++ d :: r) <:+ s := by
    refine h.endsClass_or_close.resolve_left fun hends => ?_
    exact absurd (hb.symm.trans (hends.1 b rfl)) (by decide)
  refine ⟨?_, fun htight => hne (htight _ hclose _ d r rfl hgap hd)⟩
  obtain ⟨q, hq, -, hrest⟩ := h
  rw [readParams, hq]
  simp only
  split
  next e =>
    cases (List.cons.inj (hrest.symm.trans e)).1
    cases hb
  next e =>
    cases (List.cons.inj (hrest.symm.trans e)).1
    cases hb
  next => rw [hrest]

/-- **What becomes of a reader that meets more blanks**: it reads the same, with more blanks in what
is left, or it gives up where blanks follow a closing parenthesis. -/
def ReadsSpaced {α : Type} (r : Except Fault (Parsed α s')) (a : α) (rest : List Char) : Prop :=
  (∃ rest', Reads r a rest' ∧ Spaced rest rest') ∨
    ∃ left, r = .error ⟨.unclosedParams, left⟩ ∧ ¬ClosesTight s'

/-- In the first text a parameter is followed by a delimiter; in the second one it is followed by
the same one, or there are blanks in between. -/
theorem ReadsSpaced.of_cons {d : Char} {r : List Char}
    (h : ReadsSpaced (readClass room s') t (d :: r)) (hd : isDelimiter d = true) :
    (∃ r', Reads (readClass room s') t (d :: r') ∧ Spaced r r') ∨
      ∃ left, readParams (readClass room) s' = .error ⟨.unclosedParams, left⟩ ∧
        ¬ClosesTight s' := by
  rcases h with ⟨tail, ht, htail⟩ | ⟨left, hleft, hgap⟩
  · obtain ⟨gap, r', hpad, hr, rfl⟩ := htail.of_cons hd
    by_cases hne : gap = []
    · subst hne
      exact Or.inl ⟨r', ht, hr⟩
    · exact Or.inr ⟨_, ht.unclosed (hpad.isBlankText isBlankText_nil) hne hd⟩
  · exact Or.inr ⟨left, by rw [readParams, hleft], hgap⟩

theorem Reads.readsSpaced_params
    (hone : ∀ {s s' t rest}, Reads (readClass room s) t rest → Spaced s s' →
      ReadsSpaced (readClass room s') t rest)
    (h : Reads (readParams (readClass room) s) ts rest) :
    ∀ s', Spaced s s' → ReadsSpaced (readParams (readClass room) s') ts rest := by
  refine Reads.params_induction (fun ht s' hs => ?_) (fun ht ih s' hs => ?_) h
  · rcases (hone ht hs).of_cons rfl with ⟨rest', ht', hrest⟩ | herror
    · exact Or.inl ⟨rest', ht'.params_last, hrest⟩
    · exact Or.inr herror
  · rcases (hone ht hs).of_cons rfl with ⟨inner', ht', hinner⟩ | herror
    · rcases ih inner' hinner with ⟨rest', hus, hrest⟩ | ⟨left, hleft, hgap⟩
      · exact Or.inl ⟨rest', ht'.params_cons hus, hrest⟩
      · have hsuffix : inner' <:+ s' := (List.suffix_cons _ _).trans ht'.suffix
        exact Or.inr ⟨left, ht'.params_eq_error hleft,
          fun htight => hgap (htight.of_suffix hsuffix)⟩
    · exact Or.inr herror

/-- **Two texts are read side by side** up to blanks behind a closing parenthesis. -/
theorem Reads.readsSpaced (h : Reads (readClass room s) t rest) (hs : Spaced s s') :
    ReadsSpaced (readClass room s') t rest := by
  induction room generalizing s s' t rest with
  | zero =>
    obtain ⟨_, hq, -⟩ := h
    cases hq
  | succ room ih =>
    obtain ⟨name, tail, hname, rfl, ⟨inner, ts, rfl, hts, rfl⟩ | ⟨rfl, hrest, rfl⟩⟩ :=
      h.of_readClass
    · obtain ⟨name', inner', hpad, hinner, rfl⟩ := hs.of_delimiter hname.all_not_delimiter rfl
      have hname' := hpad.isClassText hname
      rcases hts.readsSpaced_params ih inner' hinner with ⟨rest', hts', hrest⟩ | ⟨left, hleft, hgap⟩
      · exact Or.inl ⟨rest', reads_readClass_succ_iff.mpr ⟨name', _, hname', rfl,
          Or.inl ⟨inner', ts, rfl, hts', hpad.ofClass_eq ts⟩⟩, hrest⟩
      · have hsuffix : inner' <:+ name' ++ '(' :: inner' := suffix_append_cons name' '(' inner'
        exact Or.inr ⟨left, hname'.params_eq_error hleft,
          fun htight => hgap (htight.of_suffix hsuffix)⟩
    · -- a bare class ends at the next delimiter, or where the text does
      cases tail with
      | nil =>
        rw [List.append_nil] at hs
        have hpad := hs.padded hname.all_not_delimiter
        exact Or.inl ⟨[], reads_readClass_succ_iff.mpr ⟨s', [], hpad.isClassText hname,
          List.append_nil s', Or.inr ⟨rfl, endsType_nil, hpad.ofClass_eq []⟩⟩,
          .last rfl (padded_self [])⟩
      | cons d r =>
        have hd : isDelimiter d = true := hrest.endsClass d rfl
        obtain ⟨name', r', hpad, hr, rfl⟩ := hs.of_delimiter hname.all_not_delimiter hd
        have hrest' : EndsType (d :: r') :=
          ⟨endsClass_cons hd r', fun inner e => hrest.ne_params r (by rw [(List.cons.inj e).1])⟩
        exact Or.inl ⟨d :: r', reads_readClass_succ_iff.mpr ⟨name', d :: r',
          hpad.isClassText hname, rfl, Or.inr ⟨rfl, hrest', hpad.ofClass_eq []⟩⟩,
          .cons hd hr⟩

/-! ### Whole texts -/

/-- **What is read has no blanks between a closing parenthesis and a delimiter.** -/
theorem closesTight_of_ofText {text : String} (h : ServerType.ofText text = .ok t) :
    ClosesTight text.toList := by
  obtain ⟨rest, hread, hblank⟩ := readAll_eq_ok_iff.mp (Except.mapError_eq_ok_iff.mp h)
  exact hread.closesTight (startsTight_of_isBlankText hblank) (closesTight_of_isBlankText hblank)

/-- With more blanks a text is read as before, or it is refused for such blanks. -/
theorem ofText_of_spaced {text text' : String} (h : ServerType.ofText text = .ok t)
    (hs : Spaced text.toList text'.toList) : ServerType.ofText text' = .ok t ∨
      (∃ n, ServerType.ofText text' = .error (.malformed text' (.text .unclosedParams n))) ∧
        ¬ClosesTight text'.toList := by
  obtain ⟨rest, hread, hblank⟩ := readAll_eq_ok_iff.mp (Except.mapError_eq_ok_iff.mp h)
  rcases hread.readsSpaced hs with ⟨rest', hread', hrest⟩ | ⟨left, hleft, hgap⟩
  · have hblank' := (hrest.padded (all_not_isDelimiter_of_isBlankText hblank)).isBlankText hblank
    exact Or.inl (Except.mapError_eq_ok_iff.mpr (readAll_eq_ok_iff.mpr ⟨rest', hread', hblank'⟩))
  · refine Or.inr ⟨⟨TypeText.offset text'.toList left, ?_⟩, hgap⟩
    rw [ServerType.ofText, Except.mapError_eq_error_iff]
    exact ⟨_, by rw [readAll, hleft], by rw [Fault.toError, String.ofList_toList]⟩

/-- **Blanks around delimiters do not count, but for those behind a closing parenthesis.** Where a
text is read as a type, the same text with more blanks is read as this type and no other exactly if
it has no blanks between a closing parenthesis and a delimiter; if it does, it is refused as if the
parenthesis that follows were missing. -/
theorem ofText_eq_ok_iff_of_spaced {text text' : String} (h : ServerType.ofText text = .ok t)
    (hs : Spaced text.toList text'.toList) :
    (∀ u, ServerType.ofText text' = .ok u ↔ ClosesTight text'.toList ∧ t = u) ∧
    (¬ClosesTight text'.toList →
      ∃ n, ServerType.ofText text' = .error (.malformed text' (.text .unclosedParams n))) := by
  rcases ofText_of_spaced h hs with hok | ⟨herror, hgap⟩
  · have htight := closesTight_of_ofText hok
    refine ⟨fun u => ⟨fun hu => ⟨htight, Except.ok.inj (hok.symm.trans hu)⟩, ?_⟩,
      fun hgap => absurd htight hgap⟩
    rintro ⟨-, rfl⟩
    exact hok
  · exact ⟨fun u => ⟨fun hu => absurd (closesTight_of_ofText hu) hgap,
      fun hu => absurd hu.1 hgap⟩, fun _ => herror⟩

/-- Three classes inside one another. -/
theorem ofText_nested :
    ServerType.ofText "A(B(C))" = .ok (ofClass "A" [ofClass "B" [ofClass "C" []]]) := by
  have hclass (c : Char) (hc : isDelimiter c = false) (hblank : isBlank c = false) :
      IsClassText [c] := ⟨by simp [hc], by simp [IsBlankText, hblank]⟩
  have hc : Spells (ofClass "C" []) ['C'] := @Spells.bare ['C'] (hclass 'C' rfl rfl)
  have hb : Spells (ofClass "B" [ofClass "C" []]) ['B', '(', 'C', ')'] :=
    @Spells.applied ['B'] (_, _) [] (hclass 'B' rfl rfl) (List.forall_mem_singleton.mpr hc)
  have ha : Spells (ofClass "A" [ofClass "B" [ofClass "C" []]])
      ['A', '(', 'B', '(', 'C', ')', ')'] :=
    @Spells.applied ['A'] (_, _) [] (hclass 'A' rfl rfl) (List.forall_mem_singleton.mpr hb)
  exact ofText_eq_ok_iff_exists_spells.mpr ⟨by decide, _, [], ha, isBlankText_nil, rfl⟩

/-- Blanks of several sorts, where they do not count. -/
theorem ofText_nested_of_spaced : ServerType.ofText "\tA (\nB(\u2003 C )) " =
    .ok (ofClass "A" [ofClass "B" [ofClass "C" []]]) := by
  have hpad (bs name cs : List Char) (hbs : bs.all isBlank = true) (hcs : cs.all isBlank = true) :
      Padded name (bs ++ (name ++ cs)) :=
    ⟨bs, cs, List.all_eq_true.mp hbs, List.all_eq_true.mp hcs, rfl⟩
  have hs : Spaced "A(B(C))".toList "\tA (\nB(\u2003 C )) ".toList :=
    @Spaced.delimiter ['A'] _ _ _ '(' rfl (hpad ['\t'] ['A'] [' '] rfl rfl) rfl
      (@Spaced.delimiter ['B'] _ _ _ '(' rfl (hpad ['\n'] ['B'] [] rfl rfl) rfl
        (@Spaced.delimiter ['C'] _ _ _ ')' rfl (hpad ['\u2003', ' '] ['C'] [' '] rfl rfl) rfl
          (.cons rfl (.last rfl (hpad [] [] [' '] rfl rfl)))))
  have htight : ClosesTight "\tA (\nB(\u2003 C )) ".toList := by
    have hend : StartsTight [' '] := startsTight_of_isBlankText (List.all_eq_true.mp rfl)
    simpa [closesTight_cons, closesTight_nil, hend] using startsTight_cons rfl [' ']
  exact ((ofText_eq_ok_iff_of_spaced ofText_nested hs).1 _).mpr ⟨htight, rfl⟩

/-- **Blanks do count between two closing parentheses.** -/
theorem not_forall_ofText_of_spaced : ¬∀ (text text' : String) (t : ServerType),
    ServerType.ofText text = .ok t → Spaced text.toList text'.toList →
      ServerType.ofText text' = .ok t := by
  intro h
  have hblank : IsBlankText [' '] := List.all_eq_true.mp rfl
  have hgap : Padded [] [' '] := ⟨[' '], [], hblank, isBlankText_nil, rfl⟩
  have hs : Spaced "A(B(C))".toList "A(B(C) )".toList :=
    @Spaced.delimiter ['A'] _ _ _ '(' rfl (padded_self _) rfl
      (@Spaced.delimiter ['B'] _ _ _ '(' rfl (padded_self _) rfl
        (@Spaced.delimiter ['C'] _ _ _ ')' rfl (padded_self _) rfl
          (@Spaced.delimiter [] _ _ _ ')' rfl hgap rfl (.last rfl (padded_self [])))))
  have htight : ClosesTight "A(B(C) )".toList := closesTight_of_ofText (h _ _ _ ofText_nested hs)
  have hstarts : StartsTight [' ', ')'] := htight _ ⟨['A', '(', 'B', '(', 'C'], rfl⟩
  exact absurd (hstarts [' '] ')' [] rfl hblank rfl) (by simp)

end ServerType

end WideColumn

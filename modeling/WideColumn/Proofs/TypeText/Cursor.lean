import Mathlib
import WideColumn.Proofs.Text.Blank
import WideColumn.TypeError

/-!
# Reading a text in place

The readers of types hand on the characters that follow. A reader that works in place hands on
nothing: it keeps the whole text and a position in it, which is a number of bytes, moves the position
on by the length of what it has read, and takes slices of the text. A slice that starts or ends
outside the text, or in the middle of a character, is *not defined*, and a loop that makes no progress
never ends. Nothing in the text rules this out; it is up to the reader.

Here is what such readers are made of. A run (`WideColumn.TypeText.Run`) is a partial computation: it
has no result if it never ends or if a slice is not defined. If it has one, this is a value or an
error, together with the cursor in which it ends, and the cursor keeps a record of all positions that
it has had. Runs are compared with the other readers step by step (`WideColumn.TypeText.Gives`): they
have the result of these, and the cursor stays sound (`WideColumn.TypeText.Cursor.IsSound`), on the
boundaries of characters and never moving back.

* `WideColumn.TypeText.IsBoundary`: **the boundaries of characters** in a text;
* `WideColumn.TypeText.sliceFrom`, `WideColumn.TypeText.sliceTo`: slices, which need not be defined;
* `WideColumn.TypeText.Cursor`, `WideColumn.TypeText.Run`: cursors and runs;
* `WideColumn.TypeText.Run.loop`: **loops**, which need not end;
* `WideColumn.TypeText.Run.dom_outcome_rest_iff`, `WideColumn.TypeText.Run.outcome_loop_eq_none`:
  runs that have no result, **off a boundary** and in **a loop that goes on forever**;
* `WideColumn.TypeText.Gives`: a run does what another reader does, and keeps the cursor sound;
* `WideColumn.TypeText.gives_skipBlanks`: the loop over blanks ends.
-/

namespace WideColumn

namespace TypeText

/-! ### Boundaries and slices -/

/-- **The boundaries of characters**: the positions, in bytes, that are valid in a text. -/
def IsBoundary (input : List Char) (position : Nat) : Prop :=
  String.Pos.Raw.IsValid (String.ofList input) ⟨position⟩

theorem byteLength_eq_utf8ByteSize (cs : List Char) :
    byteLength cs = (String.ofList cs).utf8ByteSize := by
  rw [String.utf8ByteSize_ofList]
  induction cs with
  | nil => rfl
  | cons c cs ih => rw [byteLength_cons, ih, String.utf8Len_cons, Nat.add_comm]

theorem byteLength_eq_zero_iff {cs : List Char} : byteLength cs = 0 ↔ cs = [] := by
  cases cs with
  | nil => exact iff_of_true rfl rfl
  | cons c cs =>
    have hpos := c.utf8Size_pos
    rw [byteLength_cons]
    exact iff_of_false (by omega) (List.cons_ne_nil c cs)

/-- A boundary is where some characters of the text end. -/
theorem isBoundary_iff {input : List Char} {position : Nat} : IsBoundary input position ↔
    ∃ before rest, input = before ++ rest ∧ byteLength before = position := by
  rw [IsBoundary, String.Pos.Raw.isValid_ofList]
  simp only [← byteLength_eq_utf8ByteSize]
  constructor
  · rintro ⟨i, hi⟩
    exact ⟨input.take i, input.drop i, (List.take_append_drop i input).symm, hi.symm⟩
  · rintro ⟨before, rest, rfl, rfl⟩
    exact ⟨before.length, by rw [List.take_left']; rfl⟩

theorem IsBoundary.le_byteLength {input : List Char} {position : Nat}
    (h : IsBoundary input position) : position ≤ byteLength input := by
  obtain ⟨before, rest, rfl, rfl⟩ := isBoundary_iff.mp h
  rw [byteLength_append]
  exact Nat.le_add_right _ _

/-- The characters of a text from a position on, **if it is a boundary**. -/
def sliceFrom : List Char → Nat → Option (List Char)
  | cs, 0 => some cs
  | [], _ + 1 => none
  | c :: cs, position + 1 =>
    if c.utf8Size ≤ position + 1 then sliceFrom cs (position + 1 - c.utf8Size) else none

/-- The characters of a text up to a position, **if it is a boundary**. -/
def sliceTo : List Char → Nat → Option (List Char)
  | _, 0 => some []
  | [], _ + 1 => none
  | c :: cs, position + 1 =>
    if c.utf8Size ≤ position + 1 then
      (sliceTo cs (position + 1 - c.utf8Size)).map (c :: ·)
    else none

/-- A text starts with a character, and not with part of one. -/
theorem exists_byteLength_cons (c : Char) (cs : List Char) :
    ∃ n, byteLength (c :: cs) = n + 1 ∧ c.utf8Size ≤ n + 1 ∧
      n + 1 - c.utf8Size = byteLength cs := by
  have hpos := c.utf8Size_pos
  refine ⟨c.utf8Size + byteLength cs - 1, ?_⟩
  rw [byteLength_cons]
  omega

/-- **A slice up to the end is defined on boundaries**, and nowhere else. -/
theorem sliceFrom_eq_some_iff {cs s : List Char} {position : Nat} :
    sliceFrom cs position = some s ↔ ∃ before, cs = before ++ s ∧ byteLength before = position := by
  constructor
  · intro h
    fun_induction sliceFrom cs position with
    | case1 cs => exact ⟨[], Option.some.inj h, rfl⟩
    | case2 => cases h
    | case3 c cs position hle ih =>
      obtain ⟨before, rfl, hbefore⟩ := ih h
      exact ⟨c :: before, rfl, by rw [byteLength_cons, hbefore]; omega⟩
    | case4 => cases h
  · rintro ⟨before, rfl, rfl⟩
    induction before with
    | nil => cases s <;> rfl
    | cons c before ih =>
      obtain ⟨n, hn, hle, hrest⟩ := exists_byteLength_cons c before
      rw [hn, List.cons_append, sliceFrom, if_pos hle, hrest, ih]

/-- **A slice from the beginning is defined on boundaries**, and nowhere else. -/
theorem sliceTo_eq_some_iff {cs word : List Char} {position : Nat} :
    sliceTo cs position = some word ↔ ∃ s, cs = word ++ s ∧ byteLength word = position := by
  constructor
  · intro h
    fun_induction sliceTo cs position generalizing word with
    | case1 cs =>
      obtain rfl := Option.some.inj h
      exact ⟨cs, rfl, rfl⟩
    | case2 => cases h
    | case3 c cs position hle ih =>
      obtain ⟨word, hword, rfl⟩ := Option.map_eq_some_iff.mp h
      obtain ⟨s, rfl, hlength⟩ := ih hword
      exact ⟨s, rfl, by rw [byteLength_cons, hlength]; omega⟩
    | case4 => cases h
  · rintro ⟨s, rfl, rfl⟩
    induction word with
    | nil => cases s <;> rfl
    | cons c word ih =>
      obtain ⟨n, hn, hle, hrest⟩ := exists_byteLength_cons c word
      rw [hn, List.cons_append, sliceTo, if_pos hle, hrest, ih]
      rfl

/-! ### Cursors and runs -/

/-- A position in a text, with the positions before. -/
structure Cursor where
  /-- All characters of the text. -/
  input : List Char
  /-- The position, in bytes. -/
  offset : Nat
  /-- The positions that the cursor has had before, the last one first. -/
  trail : List Nat

namespace Cursor

/-- The cursor at the beginning of a text. -/
def start (input : List Char) : Cursor :=
  ⟨input, 0, []⟩

/-- All positions of a cursor, the last one first. -/
def positions (c : Cursor) : List Nat :=
  c.offset :: c.trail

/-- The cursor, moved on by a number of bytes. -/
def advance (c : Cursor) (bytes : Nat) : Cursor :=
  ⟨c.input, c.offset + bytes, c.positions⟩

end Cursor

/-- **A computation with a cursor.** It has no result if it never ends or if a slice is not defined.
If it has one, this is an error or a value, with the cursor in which it ends. -/
abbrev Run :=
  ExceptT TypeError (StateT Cursor Part)

namespace Run

variable {α β : Type}

/-- What comes of a run that starts with a cursor. -/
def outcome (m : Run α) (c : Cursor) : Part (Except TypeError α × Cursor) :=
  m.run.run c

/-- A slice, which the run needs to be defined. -/
def slice (cs : Option (List Char)) : Run (List Char) :=
  liftM (Part.ofOption cs)

/-- The characters from the position on. -/
def rest : Run (List Char) := do
  let c ← get
  slice (sliceFrom c.input c.offset)

/-- Part of a text that has been sliced off before. -/
def upTo (cs : List Char) (bytes : Nat) : Run (List Char) :=
  slice (sliceTo cs bytes)

/-- Moves the position on by a number of bytes. -/
def advance (bytes : Nat) : Run Unit :=
  modify (·.advance bytes)

/-- The error that the text has a defect at the position. -/
def malformed (defect : Defect) : Run α := do
  let c ← get
  throw (.malformed (String.ofList c.input) (.text defect c.offset))

/-- How a loop goes on after a round: it ends with an error or a value, or there is another round. -/
def afterRound : Except TypeError (ForInStep β) × Cursor →
    (Except TypeError β × Cursor) ⊕ (β × Cursor)
  | (.error e, c) => .inl (.error e, c)
  | (.ok (.done b), c) => .inl (.ok b, c)
  | (.ok (.yield b), c) => .inr (b, c)

/-- **A loop that nothing bounds.** A round starts with what the one before has yielded. -/
def loop (round : β → Run (ForInStep β)) (b : β) : Run β :=
  ExceptT.mk fun c => PFun.fix (fun p => ((round p.1).outcome p.2).map afterRound) (b, c)

/-- Moves the position on while blanks follow. -/
def skipBlanks : Run Unit :=
  loop (fun _ => do
    match ← rest with
    | [] => return .done ()
    | c :: _ =>
      if Text.isBlank c then
        advance c.utf8Size
        return .yield ()
      else return .done ()) ()

/-! ### What comes of a run -/

section Bind

variable {m : Run α} {c c' : Cursor}

theorem outcome_bind (m : Run α) (k : α → Run β) (c : Cursor) :
    (m >>= k).outcome c = (m.outcome c).bind fun p => (ExceptT.bindCont k p.1).run p.2 :=
  rfl

theorem outcome_bind_of_ok {a : α} (h : m.outcome c = Part.some (.ok a, c')) (k : α → Run β) :
    (m >>= k).outcome c = (k a).outcome c' := by
  rw [outcome_bind, h, Part.bind_some]
  rfl

theorem outcome_bind_of_error {e : TypeError} (h : m.outcome c = Part.some (.error e, c'))
    (k : α → Run β) : (m >>= k).outcome c = Part.some (.error e, c') := by
  rw [outcome_bind, h, Part.bind_some]
  rfl

theorem outcome_get_bind (k : Cursor → Run α) (c : Cursor) :
    ((get : Run Cursor) >>= k).outcome c = (k c).outcome c := by
  have hget : (get : Run Cursor).outcome c = Part.some (.ok c, c) :=
    Part.bind_some (c, c) fun p => Part.some (Except.ok p.1, p.2)
  exact outcome_bind_of_ok hget k

end Bind

theorem outcome_slice {cs : Option (List Char)} {s : List Char} (h : cs = some s) (c : Cursor) :
    (slice cs).outcome c = Part.some (.ok s, c) := by
  subst h
  simp [outcome, slice]

/-- **What follows can be read on boundaries only.** -/
theorem dom_outcome_rest_iff (c : Cursor) :
    (rest.outcome c).Dom ↔ IsBoundary c.input c.offset := by
  rw [rest, outcome_get_bind, isBoundary_iff]
  cases hslice : sliceFrom c.input c.offset with
  | none =>
    have hno : ¬∃ before s, c.input = before ++ s ∧ byteLength before = c.offset := by
      rintro ⟨before, s, h⟩
      rw [sliceFrom_eq_some_iff.mpr ⟨before, h⟩] at hslice
      cases hslice
    refine iff_of_false ?_ hno
    simp [outcome, slice]
  | some s =>
    obtain ⟨before, h⟩ := sliceFrom_eq_some_iff.mp hslice
    rw [outcome_slice rfl]
    exact iff_of_true trivial ⟨before, s, h⟩

theorem outcome_advance (bytes : Nat) (c : Cursor) :
    (advance bytes).outcome c = Part.some (.ok (), c.advance bytes) :=
  Part.bind_some ((), c.advance bytes) fun p => Part.some (Except.ok p.1, p.2)

theorem outcome_malformed (defect : Defect) (c : Cursor) : (malformed defect : Run α).outcome c =
    Part.some (.error (.malformed (String.ofList c.input) (.text defect c.offset)), c) :=
  outcome_get_bind _ c

section Loop

variable {round : β → Run (ForInStep β)} {b b' : β} {c c' : Cursor}

/-- After such a round there is another one. -/
theorem outcome_loop_of_inr {p : Except TypeError (ForInStep β) × Cursor}
    (h : (round b).outcome c = Part.some p) (hp : afterRound p = .inr (b', c')) :
    (loop round b).outcome c = (loop round b').outcome c' := by
  refine PFun.fix_fwd_eq ?_
  rw [h, Part.map_some, hp]
  exact Part.mem_some _

/-- After such a round there is none. -/
theorem outcome_loop_of_inl {p : Except TypeError (ForInStep β) × Cursor}
    {r : Except TypeError β × Cursor} (h : (round b).outcome c = Part.some p)
    (hp : afterRound p = .inl r) : (loop round b).outcome c = Part.some r := by
  refine Part.eq_some_iff.mpr (PFun.fix_stop ?_)
  rw [h, Part.map_some, hp]
  exact Part.mem_some _

/-- **A loop whose rounds never end it** has no result. -/
theorem outcome_loop_eq_none
    (h : ∀ b c, ∃ b' c', (round b).outcome c = Part.some (.ok (.yield b'), c')) (b : β)
    (c : Cursor) : (loop round b).outcome c = Part.none := by
  refine Part.eq_none_iff.mpr fun r hr => ?_
  refine PFun.fixInduction (C := fun _ => False) hr fun p hp ih => ?_
  obtain ⟨b', c', hround⟩ := h p.1 p.2
  refine ih (b', c') ?_
  rw [hround, Part.map_some]
  exact Part.mem_some _

end Loop

end Run

/-! ### Sound cursors -/

namespace Cursor

/-- **A sound cursor** has been on boundaries only, and has never moved back. -/
structure IsSound (c : Cursor) : Prop where
  isBoundary : ∀ p ∈ c.positions, IsBoundary c.input p
  pairwise : c.positions.Pairwise (· ≥ ·)

/-- A sound cursor behind which the given characters are left. -/
structure At (c : Cursor) (s : List Char) : Prop where
  isSound : c.IsSound
  exists_before : ∃ before, c.input = before ++ s ∧ byteLength before = c.offset

/-- A cursor has come from another one: the text is the same, and so are the positions up to the
other one's. -/
structure ComesFrom (c' c : Cursor) : Prop where
  input_eq : c'.input = c.input
  suffix : c.positions <:+ c'.positions

variable {c c' c'' : Cursor} {s s' word : List Char}

theorem comesFrom_self (c : Cursor) : c.ComesFrom c :=
  ⟨rfl, List.suffix_rfl⟩

theorem ComesFrom.trans (h' : c''.ComesFrom c') (h : c'.ComesFrom c) : c''.ComesFrom c :=
  ⟨h'.input_eq.trans h.input_eq, h.suffix.trans h'.suffix⟩

/-- The cursor at the beginning is sound. -/
theorem at_start (input : List Char) : (start input).At input where
  isSound :=
    { isBoundary := fun p hp => by
        rw [List.mem_singleton.mp hp]
        exact isBoundary_iff.mpr ⟨[], input, rfl, rfl⟩
      pairwise := List.pairwise_singleton _ _ }
  exists_before := ⟨[], rfl, rfl⟩

/-- A sound cursor is at some place of its text. -/
theorem IsSound.exists_at (h : c.IsSound) : ∃ s, c.At s := by
  obtain ⟨before, s, hinput, hbefore⟩ := isBoundary_iff.mp (h.isBoundary c.offset List.mem_cons_self)
  exact ⟨s, h, before, hinput, hbefore⟩

/-- **A sound cursor stays sound** when it moves over characters that follow. -/
theorem At.advance (h : c.At (word ++ s)) : (c.advance (byteLength word)).At s := by
  obtain ⟨before, hinput, hbefore⟩ := h.exists_before
  have hsplit : c.input = (before ++ word) ++ s := by rw [hinput, List.append_assoc]
  have hlength : byteLength (before ++ word) = c.offset + byteLength word := by
    rw [byteLength_append, hbefore]
  refine ⟨⟨fun p hp => ?_, List.pairwise_cons.mpr ⟨fun p hp => ?_, h.isSound.pairwise⟩⟩, _, hsplit,
    hlength⟩
  · rcases List.mem_cons.mp hp with rfl | hp
    · exact isBoundary_iff.mpr ⟨_, s, hsplit, hlength⟩
    · exact h.isSound.isBoundary p hp
  · rcases List.mem_cons.mp hp with rfl | hp
    · exact Nat.le_add_right _ _
    · exact (List.rel_of_pairwise_cons h.isSound.pairwise hp).trans (Nat.le_add_right _ _)

theorem comesFrom_advance (c : Cursor) (bytes : Nat) : (c.advance bytes).ComesFrom c :=
  ⟨rfl, List.suffix_cons _ _⟩

/-- A cursor behind which less is left is farther. -/
theorem At.offset_lt (h : c.At s) (h' : c'.At s') (hfrom : c'.ComesFrom c)
    (hlt : s'.length < s.length) : c.offset < c'.offset := by
  obtain ⟨before, hinput, hbefore⟩ := h.exists_before
  obtain ⟨before', hinput', hbefore'⟩ := h'.exists_before
  rw [hfrom.input_eq, hinput] at hinput'
  obtain ⟨word, rfl, hs⟩ | ⟨word, rfl, hs⟩ := List.append_eq_append_iff.mp hinput'
  · -- the characters between the two are some
    obtain ⟨d, ds, rfl⟩ := List.exists_cons_of_ne_nil (l := word) fun hnil => by
      rw [hs, hnil, List.nil_append] at hlt
      exact lt_irrefl _ hlt
    have hpos := d.utf8Size_pos
    rw [byteLength_append, byteLength_cons, hbefore] at hbefore'
    omega
  · rw [hs, List.length_append] at hlt
    omega

end Cursor

/-! ### Runs that do what another reader does -/

section Gives

open Run

variable {ε α β : Type} {toError : List Char → ε → TypeError}

/-- **A run gives a result from a cursor**: a value with the characters that are left then, or an
error. It ends in a sound cursor that has come from this one, and if the error quotes a position, it
is that one's, in the cursor's text. -/
def GivesFrom (toError : List Char → ε → TypeError) (m : Run α) (c : Cursor)
    (r : Except ε (α × List Char)) : Prop :=
  (∃ a c' s', m.outcome c = Part.some (.ok a, c') ∧ r = .ok (a, s') ∧ c'.At s' ∧
    c'.ComesFrom c) ∨
  ∃ e c', m.outcome c = Part.some (.error (toError c.input e), c') ∧ r = .error e ∧ c'.IsSound ∧
    c'.ComesFrom c ∧ ∀ text defect offset,
      toError c.input e = .malformed text (.text defect offset) →
        text = String.ofList c.input ∧ offset = c'.offset

/-- **A run gives a result where some characters are left**: from every sound cursor at such a
place. -/
def Gives (toError : List Char → ε → TypeError) (m : Run α) (s : List Char)
    (r : Except ε (α × List Char)) : Prop :=
  ∀ c : Cursor, c.At s → GivesFrom toError m c r

variable {m : Run α} {k : α → Run β} {a : α} {s s' word : List Char}

theorem gives_pure (a : α) (s : List Char) : Gives toError (pure a) s (.ok (a, s)) :=
  fun c hc => Or.inl ⟨a, c, s, rfl, rfl, hc, c.comesFrom_self⟩

theorem gives_throw {e : ε} {e' : TypeError} (h : ∀ input, toError input e = e')
    (hquoted : ∀ text defect offset, e' ≠ .malformed text (.text defect offset)) (s : List Char) :
    Gives toError (throw e' : Run α) s (.error e) := by
  refine fun c hc => Or.inr ⟨e, c, ?_, rfl, hc.isSound, c.comesFrom_self, ?_⟩
  · rw [h]
    rfl
  · intro text defect offset he
    exact absurd ((h c.input).symm.trans he) (hquoted text defect offset)

/-- What is the same from where a cursor gets to. -/
theorem GivesFrom.of_outcome_eq {m' : Run α} {c c' : Cursor} {r : Except ε (α × List Char)}
    (h : GivesFrom toError m' c' r) (heq : m.outcome c = m'.outcome c') (hfrom : c'.ComesFrom c) :
    GivesFrom toError m c r := by
  rcases h with ⟨a, c'', s'', hrun, hr, hc'', hfrom'⟩ | ⟨e, c'', hrun, hr, hc'', hfrom', hquoted⟩
  · exact Or.inl ⟨a, c'', s'', heq.trans hrun, hr, hc'', hfrom'.trans hfrom⟩
  · rw [hfrom.input_eq] at hrun hquoted
    exact Or.inr ⟨e, c'', heq.trans hrun, hr, hc'', hfrom'.trans hfrom, hquoted⟩

theorem Gives.exists_of_ok (h : Gives toError m s (.ok (a, s'))) {c : Cursor} (hc : c.At s) :
    ∃ c', m.outcome c = Part.some (.ok a, c') ∧ c'.At s' ∧ c'.ComesFrom c := by
  rcases h c hc with ⟨_, c', _, hrun, hr, hc', hfrom⟩ | ⟨_, _, _, hr, _⟩
  · obtain ⟨rfl, rfl⟩ := Prod.mk.inj (Except.ok.inj hr)
    exact ⟨c', hrun, hc', hfrom⟩
  · cases hr

/-- **What is done step by step is done as a whole.** -/
theorem Gives.bind {r : Except ε (α × List Char)} {g : α × List Char → Except ε (β × List Char)}
    (hm : Gives toError m s r) (hk : ∀ a s', r = .ok (a, s') → Gives toError (k a) s' (g (a, s'))) :
    Gives toError (m >>= k) s (r >>= g) := by
  intro c hc
  rcases hm c hc with ⟨a, c', s', hrun, rfl, hc', hfrom⟩ | ⟨e, c', hrun, rfl, hc', hfrom, hquoted⟩
  · exact (hk a s' rfl c' hc').of_outcome_eq (outcome_bind_of_ok hrun k) hfrom
  · exact Or.inr ⟨e, c', outcome_bind_of_error hrun k, rfl, hc', hfrom, hquoted⟩

/-- A step that fails. -/
theorem Gives.bind_error {e : ε} (hm : Gives toError m s (.error e)) :
    Gives toError (m >>= k) s (.error e) :=
  hm.bind (g := fun _ => .error e) fun _ _ h => by cases h

/-- A step that succeeds, and what is done then. -/
theorem Gives.bind_ok {r : Except ε (β × List Char)} (hm : Gives toError m s (.ok (a, s')))
    (hk : Gives toError (k a) s' r) : Gives toError (m >>= k) s r := by
  refine hm.bind (g := fun _ => r) fun b t h => ?_
  obtain ⟨rfl, rfl⟩ := Prod.mk.inj (Except.ok.inj h)
  exact hk

/-- A step that gives nothing but what is left, and what is done then. -/
theorem Gives.bind_unit {m : Run Unit} {k : Unit → Run β} {r : Except ε (List Char)}
    {g : List Char → Except ε (β × List Char)} (hm : Gives toError m s (r.map fun s' => ((), s')))
    (hk : ∀ s', Gives toError (k ()) s' (g s')) : Gives toError (m >>= k) s (r >>= g) := by
  cases r with
  | ok s' => exact hm.bind_ok (hk s')
  | error e => exact hm.bind_error

/-! ### Loops -/

section Loop

variable {round : β → Run (ForInStep β)} {b b' : β}

/-- A round that ends the loop. -/
theorem Gives.loop_done (h : Gives toError (round b) s (.ok (.done b', s'))) :
    Gives toError (loop round b) s (.ok (b', s')) := by
  intro c hc
  obtain ⟨c', hrun, hc', hfrom⟩ := h.exists_of_ok hc
  exact Or.inl ⟨b', c', s', outcome_loop_of_inl hrun rfl, rfl, hc', hfrom⟩

/-- A round after which there is another one. -/
theorem Gives.loop_yield {r : Except ε (β × List Char)}
    (h : Gives toError (round b) s (.ok (.yield b', s')))
    (hr : Gives toError (loop round b') s' r) : Gives toError (loop round b) s r := by
  intro c hc
  obtain ⟨c', hrun, hc', hfrom⟩ := h.exists_of_ok hc
  exact (hr c' hc').of_outcome_eq (outcome_loop_of_inr hrun rfl) hfrom

/-- A round that fails. -/
theorem Gives.loop_error {e : ε} (h : Gives toError (round b) s (.error e)) :
    Gives toError (loop round b) s (.error e) := by
  intro c hc
  rcases h c hc with ⟨_, _, _, _, hr, _⟩ | ⟨_, c', hrun, hr, hc', hfrom, hquoted⟩
  · cases hr
  · cases hr
    exact Or.inr ⟨e, c', outcome_loop_of_inl hrun rfl, rfl, hc', hfrom, hquoted⟩

end Loop

/-! ### The steps of readers -/

/-- A slice that is defined, which leaves the cursor where it is. -/
theorem gives_slice {cs : Option (List Char)} {t : List Char} (h : cs = some t) (s : List Char) :
    Gives toError (slice cs) s (.ok (t, s)) :=
  fun c hc => Or.inl ⟨t, c, s, outcome_slice h c, rfl, hc, c.comesFrom_self⟩

/-- **The characters from the position on** are those that are left. -/
theorem gives_rest (s : List Char) : Gives toError rest s (.ok (s, s)) := by
  intro c hc
  have hslice : sliceFrom c.input c.offset = some s := sliceFrom_eq_some_iff.mpr hc.exists_before
  exact (gives_slice hslice s c hc).of_outcome_eq (outcome_get_bind _ c) c.comesFrom_self

/-- Part of what is left can be sliced off. -/
theorem gives_upTo (word s t : List Char) :
    Gives toError (upTo (word ++ s) (byteLength word)) t (.ok (word, t)) :=
  gives_slice (sliceTo_eq_some_iff.mpr ⟨s, rfl, rfl⟩) t

/-- **The cursor is moved over characters that follow.** -/
theorem gives_advance (word s : List Char) :
    Gives toError (advance (byteLength word)) (word ++ s) (.ok ((), s)) :=
  fun c hc => Or.inl ⟨(), c.advance (byteLength word), s, outcome_advance _ c, rfl, hc.advance,
    c.comesFrom_advance _⟩

/-- The cursor is moved over the next character. -/
theorem gives_advance_char (d : Char) (s : List Char) :
    Gives toError (advance d.utf8Size) (d :: s) (.ok ((), s)) := by
  have h : Gives toError _ _ _ := gives_advance [d] s
  rwa [byteLength_cons, byteLength_nil, Nat.add_zero] at h

/-- The cursor is moved over all characters of a kind that follow. -/
theorem gives_advance_takeWhile (p : Char → Bool) (s : List Char) :
    Gives toError (advance (byteLength (s.takeWhile p))) s (.ok ((), s.dropWhile p)) := by
  have h : Gives toError _ _ _ := gives_advance (s.takeWhile p) (s.dropWhile p)
  rwa [List.takeWhile_append_dropWhile] at h

/-- Characters of a kind at the beginning of what is left can be sliced off. -/
theorem gives_upTo_takeWhile (p : Char → Bool) (s t : List Char) :
    Gives toError (upTo s (byteLength (s.takeWhile p))) t (.ok (s.takeWhile p, t)) := by
  have h : Gives toError _ _ _ := gives_upTo (s.takeWhile p) (s.dropWhile p) t
  rwa [List.takeWhile_append_dropWhile] at h

/-- **A defect is reported at the position of the cursor.** -/
theorem gives_malformed {e : ε} {defect : Defect} {s : List Char}
    (h : ∀ input, toError input e = (⟨defect, s⟩ : Fault).toError input) :
    Gives toError (malformed defect : Run α) s (.error e) := by
  intro c hc
  obtain ⟨before, hinput, hbefore⟩ := hc.exists_before
  have herror : toError c.input e =
      .malformed (String.ofList c.input) (.text defect c.offset) := by
    rw [h, Fault.toError]
    simp only
    rw [hinput, offset_append, hbefore]
  refine Or.inr ⟨e, c, ?_, rfl, hc.isSound, c.comesFrom_self, ?_⟩
  · rw [outcome_malformed, herror]
  · intro text defect' offset he
    rw [herror] at he
    cases he
    exact ⟨rfl, rfl⟩

/-- **The loop over blanks ends**, and the cursor is behind them. -/
theorem gives_skipBlanks (s : List Char) :
    Gives toError skipBlanks s (.ok ((), Text.skipBlank s)) := by
  rw [skipBlanks]
  induction s with
  | nil => exact Gives.loop_done ((gives_rest []).bind_ok (gives_pure _ []))
  | cons d s ih =>
    cases hd : Text.isBlank d with
    | true =>
      rw [Text.skipBlank_cons_of_blank hd]
      refine Gives.loop_yield ((gives_rest (d :: s)).bind_ok ?_) ih
      simp only
      rw [if_pos hd]
      exact (gives_advance_char d s).bind_ok (gives_pure _ _)
    | false =>
      rw [Text.skipBlank_cons_of_not_blank hd]
      refine Gives.loop_done ((gives_rest (d :: s)).bind_ok ?_)
      simp only
      rw [hd, if_neg Bool.false_ne_true]
      exact gives_pure _ _

end Gives

end TypeText

end WideColumn

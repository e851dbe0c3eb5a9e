import Mathlib
import WideColumn.Proofs.ColumnType.Notation
import WideColumn.Proofs.TypeText.Cursor
import WideColumn.ServerType.Reader

/-!
# Reading types in place

The two notations of types, read with a cursor. These readers do what those do that hand on the
characters that are left: they give the same types and the same errors, which is shown reader by
reader (`WideColumn.TypeText.gives_readType`, `WideColumn.TypeText.gives_readClass`). What the other
readers cannot show, since they have no position that could be wrong, is that these always end, that
every slice is defined and that the position never moves back.

How deep a reader may call itself is limited by its guard, and this is why there is such a function at
all. Nothing of this kind limits the loop over the parameters of a server type, which goes on as long
as commas follow. That it ends is due to its rounds, in each of which a parameter is read, and with
it some character. The other reader could not be defined without this fact, and its induction is the
one to use here.

* `WideColumn.TypeText.Run.readColumnType`, `WideColumn.TypeText.Run.readServerType`: the readers;
* `WideColumn.TypeText.gives_readParams`: **the loop over parameters ends**;
* `WideColumn.TypeText.gives_readType`, `WideColumn.TypeText.gives_readClass`: **types are read in
  place as they are read otherwise**, at every depth and from every place;
* `WideColumn.TypeText.MakesProgress`: **a type that has been read has taken a byte**;
* `WideColumn.TypeText.ReadsInPlace`: what a run over a whole text comes to, and
  `WideColumn.TypeText.types_read_in_place`, that **every text is read so**.
-/

namespace WideColumn

/-- What has been read, and what is left. -/
def ServerType.Parsed.pair {α : Type} {s : List Char} (q : Parsed α s) : α × List Char :=
  (q.value, q.rest)

namespace TypeText

namespace Run

/-! ### The reader of column types -/

/-- The word that follows. -/
def readWord : Run (List Char) := do
  skipBlanks
  let cs ← rest
  let bytes := byteLength (cs.takeWhile Text.isWordChar)
  if bytes = 0 then malformed .missingName
  else
    advance bytes
    upTo cs bytes

/-- The character that has to follow. -/
def readToken (token : Char) : Run Unit := do
  skipBlanks
  let cs ← rest
  if cs.head? = some token then advance token.utf8Size else malformed (.missingToken token)

/-- The column type that follows, at a depth. -/
def readType (depth : Nat) : Run ColumnType := do
  if maxDepth < depth then malformed .tooDeep
  else
    let word ← readWord
    match ColumnType.Former.ofWord? word with
    | some .frozen =>
      readToken '<'
      let t ← readType (depth + 1)
      readToken '>'
      return t
    | some .list =>
      readToken '<'
      let e ← readType (depth + 1)
      readToken '>'
      return .list e
    | some .set =>
      readToken '<'
      let e ← readType (depth + 1)
      readToken '>'
      return .set e
    | some .map =>
      readToken '<'
      let k ← readType (depth + 1)
      readToken ','
      let v ← readType (depth + 1)
      readToken '>'
      return .map k v
    | none =>
      match ScalarKind.ofName? word with
      | some kind => return .scalar kind
      | none => throw (.unknownScalarKind (String.ofList word))
termination_by maxDepth + 1 - depth

/-- Whether nothing follows. -/
def atEnd : Run Bool := do
  let c ← get
  return byteLength c.input ≤ c.offset

/-- The column type that a whole text is. -/
def readColumnType : Run ColumnType := do
  let t ← readType 0
  skipBlanks
  if ← atEnd then return t else malformed .trailing

/-! ### The reader of server types -/

/-- One round of the loop over parameters: a parameter, and the comma or parenthesis behind it. -/
def readParam (readOne : Run ServerType) (ps : List ServerType) :
    Run (ForInStep (List ServerType)) := do
  let p ← readOne
  let cs ← rest
  if cs.head? = some ',' then
    advance 1
    return .yield (ps ++ [p])
  else if cs.head? = some ')' then
    advance 1
    return .done (ps ++ [p])
  else malformed .unclosedParams

/-- The server type that follows, at a depth. -/
def readClass (depth : Nat) : Run ServerType := do
  if maxDepth < depth then malformed .tooDeep
  else
    let cs ← rest
    let bytes := byteLength (cs.takeWhile (!ServerType.isDelimiter ·))
    let name ← upTo cs bytes
    if Text.trim name = [] then malformed .missingClass
    else
      advance bytes
      let cs ← rest
      if cs.head? = some '(' then
        advance 1
        let ps ← loop (readParam (readClass (depth + 1))) []
        return .ofClass (String.ofList name) ps
      else return .ofClass (String.ofList name) []
termination_by maxDepth + 1 - depth

/-- The server type that a whole text is. -/
def readServerType : Run ServerType := do
  let t ← readClass 0
  let cs ← rest
  if Text.trim cs = [] then return t else malformed .trailing

end Run

/-! ### Column types -/

section ColumnTypes

open Run

theorem gives_readWord (s : List Char) :
    Gives ColumnType.Refusal.toError readWord s (ColumnType.readWord s) := by
  refine (gives_skipBlanks s).bind_ok ((gives_rest _).bind_ok ?_)
  rw [ColumnType.readWord]
  simp only
  split_ifs with hword
  · rw [byteLength_eq_zero_iff.mp hword]
    exact gives_malformed fun _ => rfl
  · split
    next hnil => exact absurd (byteLength_eq_zero_iff.mpr hnil) hword
    next => exact (gives_advance_takeWhile _ _).bind_ok (gives_upTo_takeWhile _ _ _)

theorem gives_readToken (token : Char) (s : List Char) :
    Gives ColumnType.Refusal.toError (readToken token) s
      ((ColumnType.readToken token s).map fun s' => ((), s')) := by
  refine (gives_skipBlanks s).bind_ok ((gives_rest _).bind_ok ?_)
  rw [ColumnType.readToken]
  cases Text.skipBlank s with
  | nil =>
    rw [if_neg (by simp)]
    exact gives_malformed fun _ => rfl
  | cons d ds =>
    simp only [List.head?_cons, Option.some.injEq]
    split_ifs with hd
    · rw [← hd]
      exact gives_advance_char d ds
    · exact gives_malformed fun _ => rfl

/-- **A column type is read in place** as it is read otherwise, at every depth. -/
theorem gives_readType {room depth : Nat} (hroom : room = maxDepth + 1 - depth) (s : List Char) :
    Gives ColumnType.Refusal.toError (readType depth) s (ColumnType.readType room s) := by
  induction room generalizing depth s with
  | zero =>
    have hdeep : maxDepth < depth := by omega
    rw [readType, if_pos hdeep]
    exact gives_malformed fun _ => rfl
  | succ room ih =>
    have hdeep : ¬maxDepth < depth := by omega
    have ih (s : List Char) : Gives ColumnType.Refusal.toError (readType (depth + 1)) s
        (ColumnType.readType room s) := ih (by omega) s
    rw [readType, if_neg hdeep, ColumnType.readType]
    refine (gives_readWord s).bind fun word s' _ => ?_
    simp only
    cases ColumnType.Former.ofWord? word with
    | none =>
      simp only
      cases ScalarKind.ofName? word with
      | none => exact gives_throw (fun _ => rfl) (by simp) s'
      | some kind => exact gives_pure _ s'
    | some former =>
      cases former with
      | frozen =>
        exact (gives_readToken '<' s').bind_unit fun s' => (ih s').bind fun t s' _ =>
          (gives_readToken '>' s').bind_unit fun s' => gives_pure _ s'
      | list =>
        exact (gives_readToken '<' s').bind_unit fun s' => (ih s').bind fun t s' _ =>
          (gives_readToken '>' s').bind_unit fun s' => gives_pure _ s'
      | set =>
        exact (gives_readToken '<' s').bind_unit fun s' => (ih s').bind fun t s' _ =>
          (gives_readToken '>' s').bind_unit fun s' => gives_pure _ s'
      | map =>
        exact (gives_readToken '<' s').bind_unit fun s' => (ih s').bind fun k s' _ =>
          (gives_readToken ',' s').bind_unit fun s' => (ih s').bind fun v s' _ =>
            (gives_readToken '>' s').bind_unit fun s' => gives_pure _ s'

/-- Whether nothing is left. -/
theorem gives_atEnd (s : List Char) :
    Gives ColumnType.Refusal.toError atEnd s (.ok (decide (s = []), s)) := by
  intro c hc
  obtain ⟨before, hinput, hbefore⟩ := hc.exists_before
  have hend : byteLength c.input ≤ c.offset ↔ s = [] := by
    rw [hinput, byteLength_append, hbefore, ← byteLength_eq_zero_iff]
    omega
  have hrun : atEnd.outcome c = Part.some (.ok (decide (byteLength c.input ≤ c.offset)), c) :=
    outcome_get_bind _ c
  rw [decide_eq_decide.mpr hend] at hrun
  exact Or.inl ⟨_, c, s, hrun, rfl, hc, c.comesFrom_self⟩

/-- A whole text is read in place as it is read otherwise. -/
theorem exists_gives_readColumnType (s : List Char) :
    ∃ r, Gives ColumnType.Refusal.toError readColumnType s r ∧
      r.map Prod.fst = ColumnType.readAll s := by
  have htype : Gives ColumnType.Refusal.toError (readType 0) s
      (ColumnType.readType (maxDepth + 1) s) :=
    gives_readType (Nat.sub_zero _).symm s
  rw [ColumnType.readAll]
  cases hr : ColumnType.readType (maxDepth + 1) s with
  | error e =>
    rw [hr] at htype
    exact ⟨_, htype.bind_error, rfl⟩
  | ok p =>
    rw [hr] at htype
    have hblank : Gives ColumnType.Refusal.toError _ _ _ := gives_skipBlanks p.2
    simp only [bind, Except.bind]
    cases hs : Text.skipBlank p.2 with
    | nil =>
      rw [hs] at hblank
      refine ⟨.ok (p.1, []), htype.bind_ok (hblank.bind_ok ((gives_atEnd _).bind_ok ?_)), rfl⟩
      exact gives_pure p.1 []
    | cons d ds =>
      rw [hs] at hblank
      refine ⟨.error (.fault ⟨.trailing, d :: ds⟩),
        htype.bind_ok (hblank.bind_ok ((gives_atEnd _).bind_ok ?_)), rfl⟩
      exact gives_malformed fun _ => rfl

end ColumnTypes

/-! ### Server types -/

section ServerTypes

open Run
open ServerType (Parsed isDelimiter)

variable {depth room : Nat}

section Loop

variable {readOne : Run ServerType} {p : ServerType} {s rest : List Char}

/-- A comma follows: there is another round. -/
theorem gives_readParam_comma (hp : Gives Fault.toError readOne s (.ok (p, ',' :: rest)))
    (ps : List ServerType) :
    Gives Fault.toError (readParam readOne ps) s (.ok (.yield (ps ++ [p]), rest)) := by
  refine hp.bind_ok ((gives_rest _).bind_ok ?_)
  rw [if_pos (List.head?_cons ..)]
  exact (gives_advance_char ',' rest).bind_ok (gives_pure _ _)

/-- The list is closed: the loop ends. -/
theorem gives_readParam_close (hp : Gives Fault.toError readOne s (.ok (p, ')' :: rest)))
    (ps : List ServerType) :
    Gives Fault.toError (readParam readOne ps) s (.ok (.done (ps ++ [p]), rest)) := by
  refine hp.bind_ok ((gives_rest _).bind_ok ?_)
  rw [if_neg (by simp), if_pos (List.head?_cons ..)]
  exact (gives_advance_char ')' rest).bind_ok (gives_pure _ _)

/-- Neither is the case: the loop ends with an error. -/
theorem gives_readParam_unclosed (hp : Gives Fault.toError readOne s (.ok (p, rest)))
    (hcomma : rest.head? ≠ some ',') (hclose : rest.head? ≠ some ')') (ps : List ServerType) :
    Gives Fault.toError (readParam readOne ps) s (.error ⟨.unclosedParams, rest⟩) := by
  refine hp.bind_ok ((gives_rest _).bind_ok ?_)
  rw [if_neg hcomma, if_neg hclose]
  exact gives_malformed fun _ => rfl

end Loop

/-- **The loop over parameters ends**, if each of them can be read. -/
theorem gives_readParams {run : Run ServerType}
    {readOne : (s : List Char) → Except Fault (Parsed ServerType s)}
    (hone : ∀ s, Gives Fault.toError run s ((readOne s).map Parsed.pair)) (ps : List ServerType)
    (s : List Char) : Gives Fault.toError (loop (readParam run) ps) s
      ((ServerType.readParams readOne s).map fun q => (ps ++ q.value, q.rest)) := by
  have hs := hone s
  -- nothing but what is left decreases, so the induction is that by which the other reader ends
  fun_induction ServerType.readParams readOne s generalizing ps with
  | case1 s f hf =>
    rw [hf] at hs
    exact Gives.loop_error hs.bind_error
  | case2 s q hq rest e lt f hf ih =>
    have ih := ih (ps ++ [q.value]) (hone rest)
    rw [hq, Except.map, Parsed.pair, e] at hs
    rw [hf] at ih
    exact (gives_readParam_comma hs ps).loop_yield ih
  | case3 s q hq rest e lt us hus ih =>
    have ih := ih (ps ++ [q.value]) (hone rest)
    rw [hq, Except.map, Parsed.pair, e] at hs
    rw [hus, Except.map, List.append_assoc] at ih
    exact (gives_readParam_comma hs ps).loop_yield ih
  | case4 s q hq rest e =>
    rw [hq, Except.map, Parsed.pair, e] at hs
    exact (gives_readParam_close hs ps).loop_done
  | case5 s q hq hcomma hclose =>
    rw [hq] at hs
    refine (gives_readParam_unclosed hs (fun h => ?_) (fun h => ?_) ps).loop_error
    · obtain ⟨rest, hrest⟩ := List.head?_eq_some_iff.mp h
      exact hcomma rest hrest
    · obtain ⟨rest, hrest⟩ := List.head?_eq_some_iff.mp h
      exact hclose rest hrest

/-- **A server type is read in place** as it is read otherwise, at every depth. -/
theorem gives_readClass (hroom : room = maxDepth + 1 - depth) (s : List Char) :
    Gives Fault.toError (readClass depth) s
      ((ServerType.readClass room s).map Parsed.pair) := by
  induction room generalizing depth s with
  | zero =>
    have hdeep : maxDepth < depth := by omega
    rw [readClass, if_pos hdeep]
    exact gives_malformed fun _ => rfl
  | succ room ih =>
    have hdeep : ¬maxDepth < depth := by omega
    have hparams (s : List Char) :
        Gives Fault.toError (loop (readParam (readClass (depth + 1))) []) s
          ((ServerType.readParams (ServerType.readClass room) s).map Parsed.pair) :=
      gives_readParams (fun s => ih (by omega) s) [] s
    rw [readClass, if_neg hdeep, ServerType.readClass]
    refine (gives_rest s).bind_ok ((gives_upTo_takeWhile _ _ _).bind_ok ?_)
    simp only
    split_ifs with hname
    · exact gives_malformed fun _ => rfl
    · refine (gives_advance_takeWhile _ _).bind_ok ((gives_rest _).bind_ok ?_)
      split_ifs with hopen
      · split
        next inner _ hinner _ =>
          rw [hinner]
          refine (gives_advance_char '(' inner).bind_ok ?_
          have hps := hparams inner
          split
          next f hf =>
            rw [hf] at hps
            exact hps.bind_error
          next ps rest _ hok =>
            rw [hok] at hps
            exact hps.bind_ok (gives_pure _ _)
        next lt hbare =>
          obtain ⟨inner, hinner⟩ := List.head?_eq_some_iff.mp hopen
          exact (hbare inner (hinner ▸ lt) hinner (proof_irrel_heq _ _)).elim
      · split
        next inner _ hinner _ => exact absurd (List.head?_eq_some_iff.mpr ⟨inner, hinner⟩) hopen
        next => exact gives_pure _ _

/-- A whole text is read in place as it is read otherwise. -/
theorem exists_gives_readServerType (s : List Char) :
    ∃ r, Gives Fault.toError readServerType s r ∧ r.map Prod.fst = ServerType.readAll s := by
  have htype : Gives Fault.toError (readClass 0) s
      ((ServerType.readClass (maxDepth + 1) s).map Parsed.pair) :=
    gives_readClass (Nat.sub_zero _).symm s
  rw [ServerType.readAll]
  cases hr : ServerType.readClass (maxDepth + 1) s with
  | error f =>
    rw [hr] at htype
    exact ⟨_, htype.bind_error, rfl⟩
  | ok q =>
    rw [hr] at htype
    simp only
    split_ifs with hrest
    · refine ⟨.ok (q.value, q.rest), htype.bind_ok ((gives_rest q.rest).bind_ok ?_), rfl⟩
      rw [if_pos hrest]
      exact gives_pure _ _
    · refine ⟨.error ⟨.trailing, q.rest⟩, htype.bind_ok ((gives_rest q.rest).bind_ok ?_), rfl⟩
      rw [if_neg hrest]
      exact gives_malformed fun _ => rfl

end ServerTypes

/-! ### Progress -/

section Progress

open Run

variable {room : Nat} {s rest word : List Char} {t : ColumnType}

theorem readWord_length_lt (h : ColumnType.readWord s = .ok (word, rest)) :
    rest.length < s.length := by
  obtain ⟨hne, -, -, hs⟩ := ColumnType.readWord_eq_ok_iff.mp h
  have hle := (List.dropWhile_suffix Text.isBlank (l := s)).length_le
  have hpos := List.length_pos_iff.mpr hne
  have hlength := congrArg List.length hs
  rw [List.length_append, Text.skipBlank] at hlength
  omega

theorem readToken_length_lt {token : Char} (h : ColumnType.readToken token s = .ok rest) :
    rest.length < s.length := by
  have hs := congrArg List.length (ColumnType.readToken_eq_ok_iff.mp h)
  have hle := (List.dropWhile_suffix Text.isBlank (l := s)).length_le
  rw [List.length_cons, Text.skipBlank] at hs
  omega

/-- **Less is left when a column type has been read.** -/
theorem readType_length_lt (h : ColumnType.readType room s = .ok (t, rest)) :
    rest.length < s.length := by
  induction room generalizing s t rest with
  | zero => cases h
  | succ room ih =>
    obtain ⟨w, s', hw, ⟨k, -, -, rfl⟩ | ⟨x, -, e, ⟨s₁, h₁, s₂, he, h₂⟩, -⟩ |
      ⟨-, k, v, ⟨s₁, h₁, s₂, hk, s₃, h₃, s₄, hv, h₄⟩, -⟩⟩ :=
        ColumnType.readType_succ_eq_ok_iff.mp h
    · exact readWord_length_lt hw
    · have hword := readWord_length_lt hw
      have hopen := readToken_length_lt h₁
      have hinner := ih he
      have hclose := readToken_length_lt h₂
      omega
    · have hword := readWord_length_lt hw
      have hopen := readToken_length_lt h₁
      have hkey := ih hk
      have hcomma := readToken_length_lt h₃
      have hvalue := ih hv
      have hclose := readToken_length_lt h₄
      omega

/-- **A run makes progress**: from every sound cursor it ends in a sound one that has come from it,
and if it succeeds, then the position is farther on. -/
def MakesProgress {α : Type} (m : Run α) : Prop :=
  ∀ c : Cursor, c.IsSound → ∃ r c', m.outcome c = Part.some (r, c') ∧ c'.IsSound ∧ c'.ComesFrom c ∧
    ∀ a, r = .ok a → c.offset < c'.offset

theorem makesProgress_of_gives {ε α : Type} {toError : List Char → ε → TypeError} {m : Run α}
    {r : List Char → Except ε (α × List Char)} (hm : ∀ s, Gives toError m s (r s))
    (hr : ∀ s a rest, r s = .ok (a, rest) → rest.length < s.length) : MakesProgress m := by
  intro c hc
  obtain ⟨s, hs⟩ := hc.exists_at
  rcases hm s c hs with ⟨a, c', s', hrun, hok, hc', hfrom⟩ | ⟨e, c', hrun, -, hc', hfrom, -⟩
  · exact ⟨_, c', hrun, hc'.isSound, hfrom, fun _ _ => hs.offset_lt hc' hfrom (hr s a s' hok)⟩
  · exact ⟨_, c', hrun, hc', hfrom, fun _ h => by cases h⟩

theorem makesProgress_readType (depth : Nat) : MakesProgress (readType depth) :=
  makesProgress_of_gives (gives_readType rfl) fun _ _ _ => readType_length_lt

theorem makesProgress_readClass (depth : Nat) : MakesProgress (readClass depth) := by
  refine makesProgress_of_gives (gives_readClass rfl) fun s t rest h => ?_
  obtain ⟨q, -, hq⟩ := Except.map_eq_ok_iff.mp h
  obtain ⟨-, rfl⟩ := Prod.mk.inj hq
  exact q.length_lt

end Progress

/-! ### Whole texts -/

section Texts

open Run

variable {α : Type}

/-- **A run reads a text in place** with a result: it ends, all its slices are defined, and this is
what is known of the cursor. -/
structure ReadsInPlace (m : Run α) (text : String) (result : Except TypeError α)
    (c : Cursor) : Prop where
  outcome_eq : m.outcome (Cursor.start text.toList) = Part.some (result, c)
  /-- All positions since the beginning are known. -/
  comesFrom : c.ComesFrom (Cursor.start text.toList)
  /-- Each of them is on a boundary. -/
  isBoundary : ∀ p ∈ c.positions, IsBoundary text.toList p
  /-- None is behind the end of the text. -/
  le_byteLength : ∀ p ∈ c.positions, p ≤ byteLength text.toList
  /-- None is before an earlier one. -/
  pairwise : c.positions.Pairwise (· ≥ ·)
  /-- The position that an error reports is the last one. -/
  reported : ∀ input defect position,
    result = .error (.malformed input (.text defect position)) → input = text ∧ position = c.offset

theorem Gives.exists_readsInPlace {ε : Type} {toError : List Char → ε → TypeError} {m : Run α}
    {text : String} {r : Except ε (α × List Char)} (h : Gives toError m text.toList r) :
    ∃ c, ReadsInPlace m text ((r.map Prod.fst).mapError (toError text.toList)) c := by
  have hsound {c : Cursor} (hc : c.IsSound) (hfrom : c.ComesFrom (Cursor.start text.toList)) :
      ∀ p ∈ c.positions, IsBoundary text.toList p := by
    have hinput : c.input = text.toList := hfrom.input_eq
    exact hinput ▸ hc.isBoundary
  rcases h _ (Cursor.at_start text.toList) with ⟨a, c, s', hrun, rfl, hc, hfrom⟩ |
    ⟨e, c, hrun, rfl, hc, hfrom, hquoted⟩
  · have hboundary := hsound hc.isSound hfrom
    exact ⟨c, hrun, hfrom, hboundary, fun p hp => (hboundary p hp).le_byteLength,
      hc.isSound.pairwise, fun _ _ _ he => by cases he⟩
  · have hboundary := hsound hc hfrom
    refine ⟨c, hrun, hfrom, hboundary, fun p hp => (hboundary p hp).le_byteLength, hc.pairwise,
      fun input defect position he => ?_⟩
    obtain ⟨rfl, rfl⟩ := hquoted input defect position (Except.error.inj he)
    exact ⟨String.ofList_toList, rfl⟩

/-- **Every text is read in place**, as a column type and as a server type, with the result that it
has otherwise. And no type is read without taking a byte, at whatever depth and place. -/
theorem types_read_in_place (text : String) :
    (∃ c, ReadsInPlace readColumnType text (ColumnType.ofText text) c) ∧
      (∃ c, ReadsInPlace readServerType text (ServerType.ofText text) c) ∧
      ∀ depth, MakesProgress (readType depth) ∧ MakesProgress (readClass depth) := by
  refine ⟨?_, ?_, fun depth => ⟨makesProgress_readType depth, makesProgress_readClass depth⟩⟩
  · obtain ⟨r, hgives, hr⟩ := exists_gives_readColumnType text.toList
    have h := hgives.exists_readsInPlace
    rwa [hr] at h
  · obtain ⟨r, hgives, hr⟩ := exists_gives_readServerType text.toList
    have h := hgives.exists_readsInPlace
    rwa [hr] at h

end Texts

end TypeText

end WideColumn

import Mathlib
import WideColumn.Proofs.Outcome
import WideColumn.Proofs.ServerType.Text
import WideColumn.Proofs.Text.Blank

/-!
# The notation of server types

A text is read as a server type exactly if it is spelled like one: as a class, or as a class with
the spellings of its parameters in parentheses, and commas between them. A class is any text without
these three characters that is not blank; of what is written, the reader keeps the short name.

The spellings say nothing about reading, and in particular nothing about where a spelling ends in a
longer text. A list of parameters is closed by its parenthesis, whatever follows; a bare class goes
on up to the next delimiter, and if that opens a list, it is not bare. So the statement that carries
the induction has one condition on what follows, and only for types without parameters
(`WideColumn.ServerType.reads_readClass_iff`). Within a list it always holds.

* `WideColumn.ServerType.IsClassText`, `WideColumn.ServerType.Spells`: the texts of classes and
  types;
* `WideColumn.ServerType.reads_readParams_iff`: **parameters are read from their spellings**, if
  this is so of each of them;
* `WideColumn.ServerType.ofText_eq_ok_iff_exists_spells`: **the texts of server types are their
  spellings**, with blanks behind them, as far as the limit of depth allows.
-/

namespace WideColumn

namespace ServerType

open Text
open TypeText (Fault)

/-! ### Spellings -/

/-- **The text of a class**, by any of its names, possibly with blanks around it. -/
structure IsClassText (name : List Char) : Prop where
  all_not_delimiter : name.all (!isDelimiter ·) = true
  not_blank : ¬IsBlankText name

/-- Texts one behind the other, each after a comma. -/
def commaSeparated (texts : List (List Char)) : List Char :=
  texts.flatMap (',' :: ·)

/-- **The spellings of a type**: its class, with the spellings of its parameters if there are any.
A parameter is given together with the way it is spelled. -/
inductive Spells : ServerType → List Char → Prop
  | bare {name : List Char} (hname : IsClassText name) :
      Spells (ofClass (String.ofList name) []) name
  | applied {name : List Char} {p : ServerType × List Char} {ps : List (ServerType × List Char)}
      (hname : IsClassText name) (hps : ∀ q ∈ p :: ps, Spells q.1 q.2) :
      Spells (ofClass (String.ofList name) ((p :: ps).map Prod.fst))
        (name ++ '(' :: (p.2 ++ (commaSeparated (ps.map Prod.snd) ++ [')'])))

/-! ### Blanks around a class -/

theorem isDelimiter_eq_false_of_isBlank {c : Char} (h : isBlank c = true) :
    isDelimiter c = false := by
  rw [Bool.eq_false_iff]
  intro hc
  simp only [isDelimiter, Bool.or_eq_true, beq_iff_eq] at hc
  rcases hc with (rfl | rfl) | rfl <;> exact absurd h (by decide)

theorem all_not_isDelimiter_of_isBlankText {bs : List Char} (h : IsBlankText bs) :
    bs.all (!isDelimiter ·) = true := by
  refine List.all_eq_true.mpr fun c hc => ?_
  rw [isDelimiter_eq_false_of_isBlank (h c hc), Bool.not_false]

section Blanks

variable {bs cs name : List Char}

/-- Blanks around it bring no delimiter into a text. -/
theorem all_not_isDelimiter_pad (h : name.all (!isDelimiter ·) = true) (hbs : IsBlankText bs)
    (hcs : IsBlankText cs) : (bs ++ (name ++ cs)).all (!isDelimiter ·) = true := by
  rw [List.all_append, List.all_append, all_not_isDelimiter_of_isBlankText hbs, h,
    all_not_isDelimiter_of_isBlankText hcs, Bool.and_self, Bool.and_self]

/-- **The text of a class with blanks around it** is one of the same class. -/
theorem IsClassText.pad (h : IsClassText name) (hbs : IsBlankText bs) (hcs : IsBlankText cs) :
    IsClassText (bs ++ (name ++ cs)) where
  all_not_delimiter := all_not_isDelimiter_pad h.all_not_delimiter hbs hcs
  not_blank := fun hblank => h.not_blank (isBlankText_append.mp (isBlankText_append.mp hblank).2).1

theorem ofClass_pad (hbs : IsBlankText bs) (hcs : IsBlankText cs) (name : List Char)
    (ps : List ServerType) :
    ofClass (String.ofList (bs ++ (name ++ cs))) ps = ofClass (String.ofList name) ps := by
  rw [ofClass, ofClass, String.toList_ofList, String.toList_ofList, shortName, shortName,
    trim_append_append hbs hcs]

end Blanks

/-! ### One step of a reader, backwards -/

variable {s rest : List Char} {t : ServerType} {ts : List ServerType}

/-- What has been read as parameters. -/
theorem Reads.of_readParams {readOne : (s : List Char) → Except Fault (Parsed ServerType s)}
    (h : Reads (readParams readOne s) ts rest) : ∃ t tail, Reads (readOne s) t tail ∧
      ((tail = ')' :: rest ∧ [t] = ts) ∨
        ∃ inner us, tail = ',' :: inner ∧ Reads (readParams readOne inner) us rest ∧
          t :: us = ts) := by
  obtain ⟨r, hr, rfl, rfl⟩ := h
  rw [readParams] at hr
  split at hr
  next => cases hr
  next q hq =>
    refine ⟨q.value, q.rest, ⟨q, hq, rfl, rfl⟩, ?_⟩
    split at hr
    next inner e =>
      simp only at hr
      split at hr
      next => cases hr
      next qs hqs =>
        cases hr
        exact Or.inr ⟨inner, qs.value, e, ⟨qs, hqs, rfl, rfl⟩, rfl⟩
    next e =>
      cases hr
      exact Or.inl ⟨e, rfl⟩
    next => cases hr

/-- **Induction over what has been read as parameters**, from the last one on. -/
@[elab_as_elim]
theorem Reads.params_induction {readOne : (s : List Char) → Except Fault (Parsed ServerType s)}
    {P : List Char → List ServerType → Prop}
    (last : ∀ {s t}, Reads (readOne s) t (')' :: rest) → P s [t])
    (cons : ∀ {s t inner us}, Reads (readOne s) t (',' :: inner) → P inner us → P s (t :: us))
    (h : Reads (readParams readOne s) ts rest) : P s ts := by
  induction ts generalizing s with
  | nil => obtain ⟨_, _, _, ⟨_, hnil⟩ | ⟨_, _, _, _, hnil⟩⟩ := h.of_readParams <;> cases hnil
  | cons t us ih =>
    obtain ⟨_, _, ht, ⟨rfl, hone⟩ | ⟨inner, _, rfl, hus, hmore⟩⟩ := h.of_readParams
    · cases hone
      exact last ht
    · cases hmore
      exact cons ht (ih hus)

/-- The text of a class goes on up to a delimiter. -/
theorem endsClass_dropWhile (s : List Char) : EndsClass (s.dropWhile (!isDelimiter ·)) := by
  intro c hc
  have hstop := List.head?_dropWhile_not (!isDelimiter ·) s
  rw [Option.mem_def.mp hc] at hstop
  simpa using hstop

/-- What has been read as a class, with parameters or without. -/
theorem Reads.of_readClass {room : Nat} (h : Reads (readClass (room + 1) s) t rest) :
    ∃ name tail, IsClassText name ∧ name ++ tail = s ∧
      ((∃ inner ts, tail = '(' :: inner ∧ Reads (readParams (readClass room) inner) ts rest ∧
          ofClass (String.ofList name) ts = t) ∨
        (tail = rest ∧ EndsType rest ∧ ofClass (String.ofList name) [] = t)) := by
  obtain ⟨r, hr, rfl, rfl⟩ := h
  rw [readClass] at hr
  simp only at hr
  split at hr
  next => cases hr
  next hname =>
    refine ⟨s.takeWhile (!isDelimiter ·), s.dropWhile (!isDelimiter ·),
      ⟨List.all_takeWhile, fun hblank => hname (trim_eq_nil_iff.mpr hblank)⟩,
      List.takeWhile_append_dropWhile, ?_⟩
    split at hr
    next inner lt e _ =>
      split at hr
      next => cases hr
      next ts rest hlt hts =>
        cases hr
        exact Or.inl ⟨inner, ts, e, ⟨_, hts, rfl, rfl⟩, rfl⟩
    next lt hne =>
      cases hr
      refine Or.inr ⟨rfl, ⟨endsClass_dropWhile s, fun inner e => ?_⟩, rfl⟩
      exact (hne inner (e ▸ lt) e (proof_irrel_heq _ _)).elim

/-- **What is read as a class**: its text, and the parameters behind it if a list of them opens
there. -/
theorem reads_readClass_succ_iff {room : Nat} : Reads (readClass (room + 1) s) t rest ↔
    ∃ name tail, IsClassText name ∧ name ++ tail = s ∧
      ((∃ inner ts, tail = '(' :: inner ∧ Reads (readParams (readClass room) inner) ts rest ∧
          ofClass (String.ofList name) ts = t) ∨
        (tail = rest ∧ EndsType rest ∧ ofClass (String.ofList name) [] = t)) := by
  refine ⟨Reads.of_readClass, ?_⟩
  rintro ⟨name, tail, hname, rfl, h⟩
  have htrim : trim name ≠ [] := fun h => hname.not_blank (trim_eq_nil_iff.mp h)
  have hall := hname.all_not_delimiter
  rcases h with ⟨inner, ts, rfl, hts, rfl⟩ | ⟨rfl, hrest, rfl⟩
  · have hopen : EndsClass ('(' :: inner) := endsClass_cons rfl inner
    exact reads_readClass_params (takeWhile_append hall hopen) (dropWhile_append hall hopen) htrim
      hts
  · exact reads_readClass_nil (takeWhile_append hall hrest.endsClass)
      (dropWhile_append hall hrest.endsClass) htrim hrest

/-! ### Reading spellings -/

/-- **Parameters are read from their spellings**, if each of them is. Behind a parameter stands a
delimiter that lets it end there. -/
theorem reads_readParams_iff {readOne : (s : List Char) → Except Fault (Parsed ServerType s)}
    {R : ServerType → List Char → Prop}
    (hone : ∀ {s t rest}, Reads (readOne s) t rest ↔
      ∃ text, R t text ∧ text ++ rest = s ∧ (t.params = [] → EndsType rest)) :
    Reads (readParams readOne s) ts rest ↔ ∃ p ps, (∀ q ∈ p :: ps, R q.1 q.2) ∧
      (p :: ps).map Prod.fst = ts ∧
        p.2 ++ (commaSeparated (ps.map Prod.snd) ++ ')' :: rest) = s := by
  constructor
  · intro h
    refine Reads.params_induction (fun ht => ?_) (fun {_ t _ _} ht ih => ?_) h
    · obtain ⟨text, htext, rfl, -⟩ := hone.mp ht
      exact ⟨(_, text), [], by simpa using htext, rfl, rfl⟩
    · obtain ⟨text, htext, rfl, -⟩ := hone.mp ht
      obtain ⟨p, ps, hps, rfl, rfl⟩ := ih
      refine ⟨(t, text), p :: ps, List.forall_mem_cons.mpr ⟨htext, hps⟩, rfl, ?_⟩
      simp [commaSeparated]
  · rintro ⟨p, ps, hps, rfl, rfl⟩
    induction ps generalizing p with
    | nil =>
      have hp := List.forall_mem_singleton.mp hps
      exact (hone.mpr ⟨p.2, hp, rfl, fun _ => endsType_close rest⟩).params_last
    | cons q ps ih =>
      obtain ⟨hp, hps⟩ := List.forall_mem_cons.mp hps
      have htext : commaSeparated ((q :: ps).map Prod.snd) ++ ')' :: rest =
          ',' :: (q.2 ++ (commaSeparated (ps.map Prod.snd) ++ ')' :: rest)) := by
        simp [commaSeparated]
      rw [htext]
      exact (hone.mpr ⟨p.2, hp, rfl, fun _ => endsType_comma _⟩).params_cons (ih q hps)

/-- **How deep a list of parameters is**, by each of them. -/
theorem depthAll_le_iff {n : Nat} : depthAll ts ≤ n ↔ ∀ t ∈ ts, t.depth < n := by
  induction ts with
  | nil => simp [depthAll]
  | cons t ts ih => rw [depthAll, max_le_iff, ih, Nat.succ_le_iff, List.forall_mem_cons]

/-- **A type is read from its spellings**, if it is less deep than there is room for; a bare class,
if what follows lets it end there. -/
theorem reads_readClass_iff {room : Nat} : Reads (readClass room s) t rest ↔
    ∃ text, (Spells t text ∧ t.depth < room) ∧ text ++ rest = s ∧
      (t.params = [] → EndsType rest) := by
  induction room generalizing s t rest with
  | zero =>
    constructor
    · rintro ⟨q, hq, -⟩
      cases hq
    · rintro ⟨text, ⟨-, hdepth⟩, -⟩
      exact absurd hdepth (Nat.not_lt_zero _)
  | succ room ih =>
    rw [reads_readClass_succ_iff]
    constructor
    · rintro ⟨name, tail, hname, rfl, ⟨inner, ts, rfl, hts, rfl⟩ | ⟨rfl, hrest, rfl⟩⟩
      · obtain ⟨p, ps, hps, rfl, rfl⟩ := (reads_readParams_iff ih).mp hts
        have hdepth : depthAll ((p :: ps).map Prod.fst) ≤ room :=
          depthAll_le_iff.mpr (List.forall_mem_map.mpr fun q hq => (hps q hq).2)
        refine ⟨_, ⟨.applied hname fun q hq => (hps q hq).1, Nat.lt_succ_of_le hdepth⟩, ?_, ?_⟩
        · simp
        · exact fun hnil => absurd hnil (List.cons_ne_nil _ _)
      · exact ⟨name, ⟨.bare hname, Nat.succ_pos room⟩, rfl, fun _ => hrest⟩
    · rintro ⟨text, ⟨htext, hdepth⟩, rfl, hrest⟩
      cases htext with
      | bare hname => exact ⟨text, rest, hname, rfl, Or.inr ⟨rfl, hrest rfl, rfl⟩⟩
      | @applied name p ps hname hps =>
        have hroom := depthAll_le_iff.mp (Nat.le_of_lt_succ hdepth)
        have hall : ∀ q ∈ p :: ps, Spells q.1 q.2 ∧ q.1.depth < room :=
          fun q hq => ⟨hps q hq, hroom q.1 (List.mem_map_of_mem hq)⟩
        refine ⟨name, '(' :: (p.2 ++ (commaSeparated (ps.map Prod.snd) ++ ')' :: rest)), hname, ?_,
          Or.inl ⟨_, _, rfl, (reads_readParams_iff ih).mpr ⟨p, ps, hall, rfl, rfl⟩, rfl⟩⟩
        simp

/-! ### Whole texts -/

theorem readAll_eq_ok_iff : readAll s = .ok t ↔
    ∃ rest, Reads (readClass (TypeText.maxDepth + 1) s) t rest ∧ IsBlankText rest := by
  rw [readAll]
  constructor
  · intro h
    split at h
    next => cases h
    next u rest hlt hread =>
      split_ifs at h with hblank
      cases h
      exact ⟨rest, ⟨_, hread, rfl, rfl⟩, trim_eq_nil_iff.mp hblank⟩
  · rintro ⟨rest, ⟨q, hq, rfl, rfl⟩, hblank⟩
    rw [hq]
    exact if_pos (trim_eq_nil_iff.mpr hblank)

/-- **The texts of server types are their spellings**, possibly with blanks behind them, where the
type is not nested too deep. -/
theorem ofText_eq_ok_iff_exists_spells {text : String} : ServerType.ofText text = .ok t ↔
    t.depth ≤ TypeText.maxDepth ∧
      ∃ cs bs, Spells t cs ∧ IsBlankText bs ∧ cs ++ bs = text.toList := by
  rw [ServerType.ofText, Except.mapError_eq_ok_iff, readAll_eq_ok_iff]
  simp only [reads_readClass_iff]
  constructor
  · rintro ⟨bs, ⟨cs, ⟨hcs, hdepth⟩, htext, -⟩, hbs⟩
    exact ⟨Nat.le_of_lt_succ hdepth, cs, bs, hcs, hbs, htext⟩
  · rintro ⟨hdepth, cs, bs, hcs, hbs, htext⟩
    have hroom := Nat.lt_succ_of_le hdepth
    cases hcs with
    | bare hname =>
      -- blanks behind a bare class belong to its text
      have hpad := Spells.bare (hname.pad isBlankText_nil hbs)
      rw [ofClass_pad isBlankText_nil hbs] at hpad
      exact ⟨[], ⟨cs ++ bs, ⟨hpad, hroom⟩, by rw [List.append_nil, htext], fun _ => endsType_nil⟩,
        isBlankText_nil⟩
    | applied hname hps =>
      exact ⟨bs, ⟨_, ⟨.applied hname hps, hroom⟩, htext, fun h => absurd h (List.cons_ne_nil _ _)⟩,
        hbs⟩

end ServerType

end WideColumn

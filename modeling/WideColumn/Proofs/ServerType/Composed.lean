import Mathlib
import WideColumn.Proofs.ServerType.Notation

/-!
# Types that are read back

A class is given by any of its names, and what is kept of it is the short name. The short name of a
short name printed after the package is the same again, so a type that was put together from the
names of classes is read back from its text, whatever blanks, dots or other characters these names
have in them. The only condition is the one without which a name has no place in a text: it has to
be free of the delimiters. What was read from any text is of this kind.

A type that is nested too deep is refused as such, and for no other reason: as long as there is
room, what the reader meets before the place that is too deep is read without a fault.

* `WideColumn.ServerType.IsComposed`: types put together from names of classes;
* `WideColumn.ServerType.isShortName_shortName`: a short name can be read back;
* `WideColumn.ServerType.IsNamed.exists_tooDeep_toChars`: a printed type is seen to be too deep;
* `WideColumn.ServerType.IsComposed.reads_back`: **a type is read back from its text** exactly if it
  is not nested too deep.
-/

namespace WideColumn

namespace ServerType

open Text
open TypeText (Fault)

/-- **A type put together from names of classes** that are free of delimiters. -/
inductive IsComposed : ServerType → Prop where
  | ofClass {c : String} {ps : List ServerType} (name : c.toList.all (!isDelimiter ·) = true)
    (params : ∀ p ∈ ps, IsComposed p) : IsComposed (ofClass c ps)

/-! ### Short names -/

/-- What begins like a text without leading blanks has none either. -/
theorem skipBlank_takeWhile_skipBlank (p : Char → Bool) (cs : List Char) :
    skipBlank ((skipBlank cs).takeWhile p) = (skipBlank cs).takeWhile p := by
  cases hcs : skipBlank cs with
  | nil => rfl
  | cons c ds =>
    have hc : isBlank c = false := by
      have hhead := List.head?_dropWhile_not isBlank cs
      rw [← skipBlank, hcs] at hhead
      simpa using hhead
    rw [List.takeWhile_cons]
    split_ifs
    · exact skipBlank_cons_of_not_blank hc _
    · rfl

/-- All characters of a short name are those of the name. -/
theorem subset_of_shortName (name : List Char) : shortName name ⊆ name := by
  intro c hc
  have hlast : c ∈ (trim name).reverse :=
    (List.takeWhile_prefix _).subset (List.mem_reverse.mp hc)
  rw [trim, List.reverse_reverse] at hlast
  have hfront : c ∈ skipBlank name :=
    List.mem_reverse.mp ((List.dropWhile_suffix _).subset hlast)
  exact (List.dropWhile_suffix _).subset hfront

/-- **The short name of a class can be read back**, if there are no delimiters in the name. -/
theorem isShortName_shortName {name : List Char} (h : name.all (!isDelimiter ·) = true) :
    IsShortName (shortName name) where
  all_not_delimiter :=
    List.all_eq_true.mpr fun c hc => List.all_eq_true.mp h c (subset_of_shortName name hc)
  dot_not_mem := fun hdot => by
    have hne := List.mem_takeWhile_imp (List.mem_reverse.mp hdot)
    exact absurd hne (by decide)
  skipBlank_reverse := by
    rw [shortName, List.reverse_reverse, trim, List.reverse_reverse]
    exact skipBlank_takeWhile_skipBlank _ _

theorem IsComposed.isNamed {t : ServerType} (h : t.IsComposed) : t.IsNamed := by
  induction h with
  | ofClass name _ ih =>
    refine .node ?_ ih
    rw [String.toList_ofList]
    exact isShortName_shortName name

/-- What is spelled out in a text is put together from names of classes. -/
theorem Spells.isComposed {t : ServerType} {cs : List Char} (h : Spells t cs) : t.IsComposed := by
  induction h with
  | bare hname =>
    refine .ofClass ?_ (by simp)
    rw [String.toList_ofList]
    exact hname.all_not_delimiter
  | applied hname _ ih =>
    refine .ofClass ?_ (List.forall_mem_map.mpr ih)
    rw [String.toList_ofList]
    exact hname.all_not_delimiter

/-! ### Types that are too deep -/

section TooDeep

variable {room : Nat} {s rest tail inner : List Char} {f : Fault} {p : ServerType}
  {ps : List ServerType}

/-- A fault behind a parameter is one in the list. -/
theorem Reads.params_eq_error
    {readOne : (s : List Char) → Except Fault (Parsed ServerType s)}
    (h : Reads (readOne s) p (',' :: tail)) (htail : readParams readOne tail = .error f) :
    readParams readOne s = .error f := by
  obtain ⟨q, hq, rfl, hrest⟩ := h
  rw [readParams, hq]
  simp only
  split
  next e =>
    cases hrest.symm.trans e
    rw [htail]
  next e => cases hrest.symm.trans e
  next hne _ => exact absurd hrest (hne _)

/-- A fault in the parameters is one in the type. -/
theorem IsClassText.params_eq_error {name : List Char} (hname : IsClassText name)
    (hps : readParams (readClass room) inner = .error f) :
    readClass (room + 1) (name ++ '(' :: inner) = .error f := by
  have hopen : EndsClass ('(' :: inner) := endsClass_cons rfl inner
  have htake := takeWhile_append hname.all_not_delimiter hopen
  have hdrop := dropWhile_append hname.all_not_delimiter hopen
  have htrim : trim ((name ++ '(' :: inner).takeWhile (!isDelimiter ·)) ≠ [] := by
    rw [htake]
    exact fun hnil => hname.not_blank (trim_eq_nil_iff.mp hnil)
  generalize name ++ '(' :: inner = s at hdrop htrim
  rw [readClass, dif_neg htrim]
  simp only
  split
  next e _ =>
    cases hdrop.symm.trans e
    rw [hps]
  next lt hne => exact (hne inner (hdrop ▸ lt) hdrop (proof_irrel_heq _ _)).elim

/-- The full name of a short one is the text of a class. -/
theorem IsShortName.isClassText {c : List Char} (h : IsShortName c) :
    IsClassText (package.toList ++ c) :=
  ⟨h.all_append, fun hblank => h.trim_append_ne_nil (trim_eq_nil_iff.mpr hblank)⟩

/-- Of several parameters, the reader gets to the first one that is too deep. -/
theorem exists_tooDeep_readParams (hnamed : ∀ q ∈ p :: ps, q.IsNamed)
    (hread : ∀ q ∈ p :: ps, room ≤ q.depth →
      ∀ rest, ∃ s, readClass room (q.toChars ++ rest) = .error ⟨.tooDeep, s⟩)
    (hdepth : ∃ q ∈ p :: ps, room ≤ q.depth) (rest : List Char) :
    ∃ s, readParams (readClass room) (p.toChars ++ (restChars ps ++ ')' :: rest)) =
      .error ⟨.tooDeep, s⟩ := by
  induction ps generalizing p with
  | nil =>
    obtain ⟨q, hq, hdeep⟩ := hdepth
    obtain rfl := List.mem_singleton.mp hq
    obtain ⟨s, hs⟩ := hread q hq hdeep (restChars [] ++ ')' :: rest)
    exact ⟨s, by rw [readParams, hs]⟩
  | cons q ps ih =>
    by_cases hp : room ≤ p.depth
    · obtain ⟨s, hs⟩ := hread p List.mem_cons_self hp (restChars (q :: ps) ++ ')' :: rest)
      exact ⟨s, by rw [readParams, hs]⟩
    · -- there is room for the first parameter, so the reader goes on behind the comma
      obtain ⟨hpnamed, hnamed⟩ := List.forall_mem_cons.mp hnamed
      obtain ⟨-, hread⟩ := List.forall_mem_cons.mp hread
      have hrest : ∃ q' ∈ q :: ps, room ≤ q'.depth :=
        (List.or_exists_of_exists_mem_cons hdepth).resolve_left hp
      obtain ⟨s, hs⟩ := ih hnamed hread hrest
      have hfirst := hpnamed.reads_readClass (Nat.lt_of_not_le hp)
        (endsType_comma (q.toChars ++ (restChars ps ++ ')' :: rest)))
      rw [restChars, List.cons_append, List.append_assoc]
      exact ⟨s, hfirst.params_eq_error hs⟩

/-- **A printed type is seen to be too deep** where there is no room for it. -/
theorem IsNamed.exists_tooDeep_toChars {t : ServerType} (h : t.IsNamed) (hdepth : room ≤ t.depth)
    (rest : List Char) : ∃ s, readClass room (t.toChars ++ rest) = .error ⟨.tooDeep, s⟩ := by
  induction h generalizing room rest with
  | @node c ps name params ih =>
    cases room with
    | zero => exact ⟨_, rfl⟩
    | succ room =>
      cases ps with
      | nil => exact absurd hdepth (Nat.not_succ_le_zero room)
      | cons p ps =>
        have hdeep : ∃ q ∈ p :: ps, room ≤ q.depth := by
          by_contra hall
          push Not at hall
          exact Nat.not_succ_le_self room (hdepth.trans (depthAll_le_iff.mpr hall))
        obtain ⟨s, hs⟩ := exists_tooDeep_readParams params (fun q hq hq' rest => ih q hq hq' rest)
          hdeep rest
        rw [toChars_cons_append]
        exact ⟨s, name.isClassText.params_eq_error hs⟩

end TooDeep

/-! ### Whole texts -/

/-- **The text of a type that is nested too deep is refused** for this reason. -/
theorem IsNamed.ofText_toText_of_lt_depth {t : ServerType} (h : t.IsNamed)
    (hdepth : TypeText.maxDepth < t.depth) :
    ∃ n, ofText t.toText = .error (.malformed t.toText (.text .tooDeep n)) := by
  obtain ⟨s, hs⟩ := h.exists_tooDeep_toChars hdepth []
  rw [List.append_nil] at hs
  refine ⟨TypeText.offset t.toChars s, ?_⟩
  rw [ofText, toText, String.toList_ofList, readAll, hs]
  rfl

/-- **What has been read from a text is read back** from its own one. -/
theorem ofText_toText_of_ofText {text : String} {t : ServerType}
    (h : ServerType.ofText text = .ok t) : ServerType.ofText t.toText = .ok t := by
  obtain ⟨hdepth, cs, -, hcs, -, -⟩ := ofText_eq_ok_iff_exists_spells.mp h
  exact hcs.isComposed.isNamed.ofText_toText hdepth

/-- **Printing and reading are inverse up to the limit**: the text of a type that was put together
from names of classes is read as this type exactly if it is not nested too deep, and is refused as
too deep exactly if it is; and whatever is read from any text is read back. -/
theorem IsComposed.reads_back {t : ServerType} (h : t.IsComposed) :
    (ServerType.ofText t.toText = .ok t ↔ t.depth ≤ TypeText.maxDepth) ∧
    ((∃ n, ServerType.ofText t.toText = .error (.malformed t.toText (.text .tooDeep n))) ↔
      TypeText.maxDepth < t.depth) ∧
    ∀ text u, ServerType.ofText text = .ok u → ServerType.ofText u.toText = .ok u := by
  have hread := h.isNamed.ofText_toText
  have hdeep := h.isNamed.ofText_toText_of_lt_depth
  refine ⟨⟨fun hok => ?_, hread⟩, ⟨fun herror => ?_, hdeep⟩, fun _ _ => ofText_toText_of_ofText⟩
  · by_contra hdepth
    obtain ⟨n, hn⟩ := hdeep (Nat.lt_of_not_le hdepth)
    cases hok.symm.trans hn
  · by_contra hdepth
    obtain ⟨n, hn⟩ := herror
    cases (hread (Nat.le_of_not_lt hdepth)).symm.trans hn

/-- A class named with a package, blanks inside and around and two dots in a row, over one without
any name and one whose name ends with a dot. -/
theorem reads_back_blanks_and_dots : ServerType.ofText (ofClass " com.acme.. Big  Map\u2003"
    [ofClass "" [], ofClass "x. " [ofClass "y\n" []]]).toText =
      .ok (node " Big  Map" [node "" [], node "" [node "y" []]]) := by
  have hempty : (ofClass "" []).IsComposed := .ofClass rfl (by simp)
  have hleaf : (ofClass "y\n" []).IsComposed := .ofClass rfl (by simp)
  have hdotted : (ofClass "x. " [ofClass "y\n" []]).IsComposed :=
    .ofClass rfl (by simpa using hleaf)
  have hcomposed : (ofClass " com.acme.. Big  Map\u2003"
      [ofClass "" [], ofClass "x. " [ofClass "y\n" []]]).IsComposed :=
    .ofClass rfl (by simpa using ⟨hempty, hdotted⟩)
  exact hcomposed.reads_back.1.mpr (by decide)

end ServerType

end WideColumn

import Mathlib
import WideColumn.Proofs.ColumnType.Notation

/-!
# Column types and their text

The reader of column types undoes their notation, as long as there is room for the brackets; where
there is not, it stops at the first type that is enclosed by too many.

Where a printed word ends is decided by what follows it, and how deep a type may still be by the
types around it. So both statements that carry an induction are about a printed type with something
behind it, and about any room: it is read if it is less deep than there is room for
(`WideColumn.ColumnType.readType_toChars`), and it is seen to be too deep if it is not
(`WideColumn.ColumnType.exists_tooDeep_toChars`). In a map the key or the value may be the one that
is too deep, and the value is only reached behind a key that has been read.

* `WideColumn.ColumnType.EndsWord`: what may follow a word, and so a type;
* `WideColumn.ColumnType.ofText_toText_eq_ok_iff`: **a type is read back from its text** exactly if
  it is not nested too deep.
-/

namespace WideColumn

namespace ColumnType

open Text (skipBlank isBlank isWordChar)

/-! ### Words in print -/

/-- **What may follow a word**: nothing, or a character that does not go on with it. -/
def EndsWord (rest : List Char) : Prop :=
  ∀ c ∈ rest.head?, isWordChar c = false

theorem endsWord_nil : EndsWord [] := fun _ h => absurd h (Option.not_mem_none _)

theorem endsWord_mark (m : Mark) (rest : List Char) : EndsWord (m.char :: rest) := by
  intro c hc
  rw [← Option.mem_some_iff.mp hc]
  cases m <;> rfl

variable {room : Nat} {s w rest : List Char}

/-- A word is read up to where it ends. -/
theorem readWord_append (hne : w ≠ []) (hw : w.all isWordChar = true) (hrest : EndsWord rest) :
    readWord (w ++ rest) = .ok (w, rest) := by
  obtain ⟨c, w, rfl⟩ := List.exists_cons_of_ne_nil hne
  have hall := List.all_eq_true.mp hw
  have hc := Text.isBlank_eq_false_of_isWordChar (hall c List.mem_cons_self)
  exact readWord_eq_ok_iff.mpr ⟨hne, hall, hrest, (Text.skipBlank_cons_of_not_blank hc _).symm⟩

theorem readWord_kind (k : ScalarKind) (hrest : EndsWord rest) :
    readWord (k.name.toList ++ rest) = .ok (k.name.toList, rest) :=
  readWord_append (by cases k <;> decide) (by cases k <;> rfl) hrest

/-- The word of a former ends where its bracket opens. -/
theorem readWord_former (f : Former) (s : List Char) :
    readWord (f.name.toList ++ '<' :: s) = .ok (f.name.toList, '<' :: s) :=
  readWord_append (by cases f <;> decide) (by cases f <;> rfl) (endsWord_mark .opening s)

/-- A mark is read where it stands. -/
theorem readToken_char (m : Mark) (rest : List Char) :
    readToken m.char (m.char :: rest) = .ok rest :=
  readToken_eq_ok_iff.mpr (Text.skipBlank_cons_of_not_blank (isBlank_char m) rest).symm

/-- Blanks in front of a type are passed over, if there is room for one. -/
theorem readType_cons_of_blank {c : Char} (hc : isBlank c = true) (hroom : 0 < room)
    (s : List Char) : readType room (c :: s) = readType room s := by
  obtain ⟨room, rfl⟩ := Nat.exists_eq_add_one.mpr hroom
  have hword : readWord (c :: s) = readWord s := by
    rw [readWord, readWord, Text.skipBlank_cons_of_blank hc]
  rw [readType, readType, hword]

/-! ### Types in print -/

theorem isSpelling_self (name : String) : IsSpelling name name.toList := by
  rw [IsSpelling, Text.sameIgnoringCase, beq_self_eq_true]

/-- What a list or a set looks like in front of a text. -/
theorem toChars_apply_append {x : Wrapper} (hx : x ≠ .frozen) (e : ColumnType) (rest : List Char) :
    (x.apply e).toChars ++ rest = x.former.name.toList ++ '<' :: (e.toChars ++ '>' :: rest) := by
  cases x with
  | frozen => exact absurd rfl hx
  | list =>
    change "list<".toList ++ (e.toChars ++ ['>']) ++ rest = "list".toList ++ _
    simp
  | set =>
    change "set<".toList ++ (e.toChars ++ ['>']) ++ rest = "set".toList ++ _
    simp

/-- What a map looks like in front of a text. -/
theorem toChars_map_append (k v : ColumnType) (rest : List Char) :
    (map k v).toChars ++ rest = Former.map.name.toList ++
      '<' :: (k.toChars ++ ',' :: ' ' :: (v.toChars ++ '>' :: rest)) := by
  change "map<".toList ++ (k.toChars ++ (", ".toList ++ (v.toChars ++ ['>']))) ++ rest =
    "map".toList ++ _
  simp

/-- A list or a set is read if its elements are, with one pair of brackets less to spare. -/
theorem readType_apply {x : Wrapper} (hx : x ≠ .frozen) {e : ColumnType}
    (ih : ∀ {room rest}, e.depth < room → EndsWord rest →
      readType room (e.toChars ++ rest) = .ok (e, rest)) (hdepth : e.depth + 1 < room) :
    readType room ((x.apply e).toChars ++ rest) = .ok (x.apply e, rest) := by
  obtain ⟨room, rfl⟩ := Nat.exists_eq_add_one.mpr (Nat.zero_lt_of_lt hdepth)
  have he := ih (Nat.lt_of_succ_lt_succ hdepth) (endsWord_mark .closing rest)
  rw [toChars_apply_append hx]
  refine readType_succ_eq_ok_iff.mpr ⟨_, _, readWord_former _ _, Or.inr (Or.inl ?_)⟩
  exact ⟨x, isSpelling_self _, e,
    ⟨_, readToken_char .opening _, _, he, readToken_char .closing rest⟩, rfl⟩

/-- **A printed type is read**, whatever follows it, if it is less deep than there is room for. -/
theorem readType_toChars {t : ColumnType} (hdepth : t.depth < room) (hrest : EndsWord rest) :
    readType room (t.toChars ++ rest) = .ok (t, rest) := by
  induction t generalizing room rest with
  | scalar k =>
    obtain ⟨room, rfl⟩ := Nat.exists_eq_add_one.mpr hdepth
    exact readType_succ_eq_ok_iff.mpr
      ⟨_, _, readWord_kind k hrest, Or.inl ⟨k, isSpelling_self _, rfl, rfl⟩⟩
  | list e ih => exact readType_apply (x := .list) (by decide) ih hdepth
  | set e ih => exact readType_apply (x := .set) (by decide) ih hdepth
  | map k v ihk ihv =>
    obtain ⟨room, rfl⟩ := Nat.exists_eq_add_one.mpr (Nat.zero_lt_of_lt hdepth)
    obtain ⟨hkdepth, hvdepth⟩ := max_lt_iff.mp (Nat.lt_of_succ_lt_succ hdepth)
    have hkey := ihk hkdepth (endsWord_mark .comma (' ' :: (v.toChars ++ '>' :: rest)))
    have hvalue := ihv hvdepth (endsWord_mark .closing rest)
    rw [← readType_cons_of_blank (c := ' ') (by decide) (Nat.zero_lt_of_lt hvdepth)] at hvalue
    rw [toChars_map_append]
    refine readType_succ_eq_ok_iff.mpr ⟨_, _, readWord_former _ _, Or.inr (Or.inr ?_)⟩
    exact ⟨isSpelling_self _, k, v, ⟨_, readToken_char .opening _, _, hkey,
      _, readToken_char .comma _, _, hvalue, readToken_char .closing rest⟩, rfl⟩

/-! ### Types that are too deep -/

/-- What is wrong in the first brackets is wrong with the whole. -/
theorem readType_former_eq_error {f : Former} {r : Refusal} (h : readType room s = .error r) :
    readType (room + 1) (f.name.toList ++ '<' :: s) = .error r := by
  rw [readType]
  refine Except.bind_eq_error_iff.mpr (Or.inr ⟨_, readWord_former f s, ?_⟩)
  dsimp only
  rw [Former.ofWord?_eq_some_iff.mpr (isSpelling_self f.name)]
  cases f <;> exact Except.bind_eq_error_iff.mpr
    (Or.inr ⟨s, readToken_char .opening s, Except.bind_eq_error_iff.mpr (Or.inl h)⟩)

/-- What is wrong with the value is wrong with the map, if its key has been read. -/
theorem readType_map_eq_error {k : ColumnType} {s' : List Char} {r : Refusal}
    (hkey : readType room s = .ok (k, ',' :: s')) (hvalue : readType room s' = .error r) :
    readType (room + 1) (Former.map.name.toList ++ '<' :: s) = .error r := by
  rw [readType]
  refine Except.bind_eq_error_iff.mpr (Or.inr ⟨_, readWord_former .map s, ?_⟩)
  dsimp only
  rw [Former.ofWord?_eq_some_iff.mpr (isSpelling_self Former.map.name)]
  refine Except.bind_eq_error_iff.mpr (Or.inr ⟨s, readToken_char .opening s, ?_⟩)
  refine Except.bind_eq_error_iff.mpr (Or.inr ⟨_, hkey, ?_⟩)
  refine Except.bind_eq_error_iff.mpr (Or.inr ⟨s', readToken_char .comma s', ?_⟩)
  exact Except.bind_eq_error_iff.mpr (Or.inl hvalue)

/-- Elements that are too deep make a list or a set too deep. -/
theorem exists_tooDeep_apply {x : Wrapper} (hx : x ≠ .frozen) {e : ColumnType}
    (ih : ∀ {room}, room ≤ e.depth → ∀ rest,
      ∃ s, readType room (e.toChars ++ rest) = .error (.fault ⟨.tooDeep, s⟩))
    (hdepth : room ≤ e.depth + 1) (rest : List Char) :
    ∃ s, readType room ((x.apply e).toChars ++ rest) = .error (.fault ⟨.tooDeep, s⟩) := by
  cases room with
  | zero => exact ⟨_, rfl⟩
  | succ room =>
    obtain ⟨s, hs⟩ := ih (Nat.le_of_succ_le_succ hdepth) ('>' :: rest)
    rw [toChars_apply_append hx]
    exact ⟨s, readType_former_eq_error hs⟩

/-- **A printed type is seen to be too deep** where there is no room for it. -/
theorem exists_tooDeep_toChars {t : ColumnType} (hdepth : room ≤ t.depth) (rest : List Char) :
    ∃ s, readType room (t.toChars ++ rest) = .error (.fault ⟨.tooDeep, s⟩) := by
  induction t generalizing room rest with
  | scalar k =>
    obtain rfl := Nat.le_zero.mp hdepth
    exact ⟨_, rfl⟩
  | list e ih => exact exists_tooDeep_apply (x := .list) (by decide) ih hdepth rest
  | set e ih => exact exists_tooDeep_apply (x := .set) (by decide) ih hdepth rest
  | map k v ihk ihv =>
    cases room with
    | zero => exact ⟨_, rfl⟩
    | succ room =>
      rw [toChars_map_append]
      -- the reader meets the key first, and the value only if there is room for the key
      by_cases hkdepth : room ≤ k.depth
      · obtain ⟨s, hs⟩ := ihk hkdepth (',' :: ' ' :: (v.toChars ++ '>' :: rest))
        exact ⟨s, readType_former_eq_error hs⟩
      · have hkroom : k.depth < room := Nat.lt_of_not_le hkdepth
        have hvdepth : room ≤ v.depth :=
          (le_max_iff.mp (Nat.le_of_succ_le_succ hdepth)).resolve_left hkdepth
        obtain ⟨s, hs⟩ := ihv hvdepth ('>' :: rest)
        rw [← readType_cons_of_blank (c := ' ') (by decide) (Nat.zero_lt_of_lt hkroom)] at hs
        exact ⟨s, readType_map_eq_error (readType_toChars hkroom (endsWord_mark .comma _)) hs⟩

/-! ### Whole texts -/

/-- **A type is read back from its text**, unless it is nested too deep. -/
theorem ofText_toText_of_depth_le {t : ColumnType} (hdepth : t.depth ≤ TypeText.maxDepth) :
    ofText t.toText = .ok t := by
  have hread := readType_toChars (Nat.lt_succ_of_le hdepth) endsWord_nil
  rw [List.append_nil] at hread
  rw [ofText, toText, String.toList_ofList, Except.mapError_eq_ok_iff]
  exact readAll_eq_ok_iff.mpr ⟨[], hread, rfl⟩

/-- **The text of a type that is nested too deep is refused** for this reason. -/
theorem ofText_toText_of_lt_depth {t : ColumnType} (hdepth : TypeText.maxDepth < t.depth) :
    ∃ n, ofText t.toText = .error (.malformed t.toText (.text .tooDeep n)) := by
  obtain ⟨s, hs⟩ := exists_tooDeep_toChars hdepth []
  rw [List.append_nil] at hs
  refine ⟨TypeText.offset t.toChars s, ?_⟩
  rw [ofText, toText, String.toList_ofList, Except.mapError_eq_error_iff]
  exact ⟨_, Except.bind_eq_error_iff.mpr (Or.inl hs), rfl⟩

/-- **Printing and reading are inverse up to the limit**: the text of a type is read as this type
exactly if no more collections are nested in it than are allowed, and is refused as too deep exactly
if there are more; so no two types within the limit have the same text. -/
theorem ofText_toText_eq_ok_iff (t : ColumnType) :
    (ofText t.toText = .ok t ↔ t.depth ≤ TypeText.maxDepth) ∧
    ((∃ n, ofText t.toText = .error (.malformed t.toText (.text .tooDeep n))) ↔
      TypeText.maxDepth < t.depth) ∧
    Set.InjOn toText {u | u.depth ≤ TypeText.maxDepth} := by
  refine ⟨⟨fun h => ?_, ofText_toText_of_depth_le⟩, ⟨fun h => ?_, ofText_toText_of_lt_depth⟩,
    fun t ht u hu htext => ?_⟩
  · by_contra hdepth
    obtain ⟨n, hn⟩ := ofText_toText_of_lt_depth (Nat.lt_of_not_le hdepth)
    exact absurd (h.symm.trans hn) (by simp)
  · by_contra hdepth
    obtain ⟨n, hn⟩ := h
    exact absurd ((ofText_toText_of_depth_le (Nat.le_of_not_lt hdepth)).symm.trans hn) (by simp)
  · have hread := ofText_toText_of_depth_le ht
    rw [htext, ofText_toText_of_depth_le hu] at hread
    exact (Except.ok.inj hread).symm

end ColumnType

end WideColumn

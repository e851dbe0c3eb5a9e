import Mathlib
import WideColumn.ServerType.Reader

/-!
# Server types and their text

The reader of server types undoes their notation. A name is printed after the package and read back
as what stands after the last dot, so it has to be free of dots and of the three delimiters, and as
blanks around a class do not count, it must not end with one; it may begin with one, or be empty.

The reader works in the middle of a text, and it decides where a class ends by what follows. So the
statement that carries the induction is about a type with something behind it, which begins with a
parenthesis that closes a list, or with a comma, if it is not empty
(`WideColumn.ServerType.IsNamed.reads_readClass`).

* `WideColumn.ServerType.depth`: how many lists of parameters enclose one another;
* `WideColumn.ServerType.IsShortName`, `WideColumn.ServerType.IsNamed`: names that can be read back;
* `WideColumn.ServerType.Reads`: what a reader makes of the start of a text;
* `WideColumn.ServerType.IsNamed.ofText_toText`: **a type is read back from its text**, unless it is
  nested too deep.
-/

namespace WideColumn

namespace ServerType

open Text
open TypeText (Fault)

/-! ### Depth -/

mutual

/-- **How many lists of parameters enclose one another** in a type. -/
def depth : ServerType → Nat
  | node _ ps => depthAll ps

/-- The depth of a list of parameters. An empty one does not count. -/
def depthAll : List ServerType → Nat
  | [] => 0
  | p :: ps => max (p.depth + 1) (depthAll ps)

end

theorem depth_lt_of_mem {p : ServerType} {ps : List ServerType} (h : p ∈ ps) :
    p.depth < depthAll ps := by
  induction ps with
  | nil => exact absurd h List.not_mem_nil
  | cons q ps ih =>
    rw [depthAll]
    rcases List.mem_cons.mp h with rfl | hmem
    · exact Nat.lt_of_succ_le (Nat.le_max_left ..)
    · exact Nat.lt_of_lt_of_le (ih hmem) (Nat.le_max_right ..)

/-! ### Names -/

/-- **A name that can be read back** when the package stands in front of it. -/
structure IsShortName (c : List Char) : Prop where
  all_not_delimiter : c.all (!isDelimiter ·) = true
  dot_not_mem : '.' ∉ c
  skipBlank_reverse : skipBlank c.reverse = c.reverse

/-- **A type all of whose names can be read back.** -/
inductive IsNamed : ServerType → Prop where
  | node {c : String} {ps : List ServerType} (name : IsShortName c.toList)
    (params : ∀ p ∈ ps, IsNamed p) : IsNamed (.node c ps)

theorem toList_package : package.toList = "org.apache.cassandra.db.marshal".toList ++ ['.'] := by
  simp [package]

theorem all_not_isDelimiter_package : package.toList.all (!isDelimiter ·) = true := by
  rfl

/-- Where neither of two texts begins with a blank, no blank is skipped in front of both. -/
theorem skipBlank_append {as bs : List Char} (has : skipBlank as = as) (hbs : skipBlank bs = bs) :
    skipBlank (as ++ bs) = as ++ bs := by
  cases as with
  | nil => exact hbs
  | cons a as =>
    cases ha : isBlank a with
    | false => exact skipBlank_cons_of_not_blank ha _
    | true =>
      have hle := length_skipBlank_le as
      rw [← skipBlank_cons_of_blank ha, has] at hle
      exact absurd hle (Nat.not_succ_le_self _)

theorem skipBlank_reverse_package : skipBlank package.toList.reverse = package.toList.reverse := by
  rw [toList_package, List.reverse_append]
  exact skipBlank_cons_of_not_blank (by decide) _

namespace IsShortName

variable {c : List Char}

/-- Blanks at the beginning of a short name stand within the full one. -/
theorem trim_append (h : IsShortName c) : trim (package.toList ++ c) = package.toList ++ c := by
  have hfront : skipBlank (package.toList ++ c) = package.toList ++ c := by
    have ho : isBlank 'o' = false := by decide
    simp [package, skipBlank, ho]
  rw [trim, hfront, List.reverse_append,
    skipBlank_append h.skipBlank_reverse skipBlank_reverse_package, ← List.reverse_append,
    List.reverse_reverse]

/-- What stands after the last dot of a full name is the short one. -/
theorem shortName_append (h : IsShortName c) : shortName (package.toList ++ c) = c := by
  have hc : ∀ x ∈ c.reverse, (x != '.') = true := by
    intro x hx
    rw [bne_iff_ne]
    rintro rfl
    exact h.dot_not_mem (List.mem_reverse.mp hx)
  rw [shortName, h.trim_append, toList_package, List.append_assoc, List.reverse_append,
    List.reverse_append, List.append_assoc, List.takeWhile_append_of_pos hc,
    List.reverse_singleton, List.singleton_append, List.takeWhile_cons_of_neg (by decide),
    List.append_nil, List.reverse_reverse]

theorem trim_append_ne_nil (h : IsShortName c) : trim (package.toList ++ c) ≠ [] := by
  rw [h.trim_append, toList_package]
  simp

theorem all_append (h : IsShortName c) : (package.toList ++ c).all (!isDelimiter ·) = true := by
  rw [List.all_append, all_not_isDelimiter_package, h.all_not_delimiter, Bool.true_and]

/-- A full name stands for the class of its short one. -/
theorem ofClass_append {c : String} (h : IsShortName c.toList) (ps : List ServerType) :
    ofClass (String.ofList (package.toList ++ c.toList)) ps = .node c ps := by
  rw [ofClass, String.toList_ofList, h.shortName_append, String.ofList_toList]

end IsShortName

/-! ### What follows a type -/

/-- **What may follow a class**: nothing, or a delimiter. -/
def EndsClass (rest : List Char) : Prop :=
  ∀ x ∈ rest.head?, isDelimiter x = true

/-- **What may follow a type**, which is not a list of parameters. -/
structure EndsType (rest : List Char) : Prop where
  endsClass : EndsClass rest
  ne_params : ∀ inner, rest ≠ '(' :: inner

theorem endsClass_cons {c : Char} (h : isDelimiter c = true) (rest : List Char) :
    EndsClass (c :: rest) := by
  intro x hx
  rwa [← Option.mem_some_iff.mp hx]

theorem endsType_nil : EndsType [] := ⟨fun _ h => absurd h (Option.not_mem_none _), by simp⟩

theorem endsType_comma (rest : List Char) : EndsType (',' :: rest) :=
  ⟨endsClass_cons rfl rest, by simp⟩

theorem endsType_close (rest : List Char) : EndsType (')' :: rest) :=
  ⟨endsClass_cons rfl rest, by simp⟩

variable {name rest : List Char}

/-- A class ends where a delimiter follows. -/
theorem takeWhile_append (hname : name.all (!isDelimiter ·) = true) (hrest : EndsClass rest) :
    (name ++ rest).takeWhile (!isDelimiter ·) = name := by
  rw [List.takeWhile_append_of_pos (List.all_eq_true.mp hname)]
  cases rest with
  | nil => exact List.append_nil name
  | cons c rest =>
    rw [List.takeWhile_cons_of_neg (by simpa using hrest c rfl), List.append_nil]

/-- What is left where a class ends. -/
theorem dropWhile_append (hname : name.all (!isDelimiter ·) = true) (hrest : EndsClass rest) :
    (name ++ rest).dropWhile (!isDelimiter ·) = rest := by
  rw [List.dropWhile_append_of_pos (List.all_eq_true.mp hname)]
  cases rest with
  | nil => rfl
  | cons c rest => rw [List.dropWhile_cons_of_neg (by simpa using hrest c rfl)]

/-! ### Reading -/

/-- **What a reader makes of the start of a text**: the value it stands for, with what follows. -/
def Reads {α : Type} {s : List Char} (r : Except Fault (Parsed α s)) (a : α)
    (rest : List Char) : Prop :=
  ∃ q, r = .ok q ∧ q.value = a ∧ q.rest = rest

section Params

variable {readOne : (s : List Char) → Except Fault (Parsed ServerType s)} {s tail : List Char}
  {p : ServerType} {ps : List ServerType}

/-- The last parameter is followed by a parenthesis. -/
theorem Reads.params_last (h : Reads (readOne s) p (')' :: rest)) :
    Reads (readParams readOne s) [p] rest := by
  obtain ⟨q, hq, rfl, hrest⟩ := h
  rw [readParams, hq]
  simp only
  split
  next e => cases hrest.symm.trans e
  next e =>
    cases hrest.symm.trans e
    exact ⟨_, rfl, rfl, rfl⟩
  next hne => exact absurd hrest (hne _)

/-- Any other parameter is followed by a comma and more parameters. -/
theorem Reads.params_cons (h : Reads (readOne s) p (',' :: tail))
    (htail : Reads (readParams readOne tail) ps rest) :
    Reads (readParams readOne s) (p :: ps) rest := by
  obtain ⟨q, hq, rfl, hrest⟩ := h
  obtain ⟨qs, hqs, rfl, rfl⟩ := htail
  -- the reader looks at the character behind the first parameter, which is the comma
  rw [readParams, hq]
  simp only
  split
  next e =>
    cases hrest.symm.trans e
    rw [hqs]
    exact ⟨_, rfl, rfl, rfl⟩
  next e => cases hrest.symm.trans e
  next hne _ => exact absurd hrest (hne _)

/-- Parameters are read if each of them is. -/
theorem reads_readParams
    (h : ∀ q ∈ p :: ps, ∀ rest, EndsType rest → Reads (readOne (q.toChars ++ rest)) q rest) :
    Reads (readParams readOne (p.toChars ++ (restChars ps ++ ')' :: rest))) (p :: ps) rest := by
  induction ps generalizing p with
  | nil => exact (h p (List.mem_singleton_self p) _ (endsType_close rest)).params_last
  | cons q ps ih =>
    obtain ⟨hp, hps⟩ := List.forall_mem_cons.mp h
    rw [restChars, List.cons_append, List.append_assoc]
    exact (hp _ (endsType_comma _)).params_cons (ih hps)

end Params

section Class

variable {room : Nat} {s inner : List Char} {ps : List ServerType}

/-- A class that no list of parameters follows. -/
theorem reads_readClass_nil (htake : s.takeWhile (!isDelimiter ·) = name)
    (hdrop : s.dropWhile (!isDelimiter ·) = rest) (hname : trim name ≠ [])
    (hrest : EndsType rest) :
    Reads (readClass (room + 1) s) (ofClass (String.ofList name) []) rest := by
  subst htake
  rw [readClass, dif_neg hname]
  simp only
  split
  next e _ => exact absurd (hdrop.symm.trans e) (hrest.ne_params _)
  next => exact ⟨_, rfl, rfl, hdrop⟩

/-- A class with the list of parameters that follows. -/
theorem reads_readClass_params (htake : s.takeWhile (!isDelimiter ·) = name)
    (hdrop : s.dropWhile (!isDelimiter ·) = '(' :: inner) (hname : trim name ≠ [])
    (hps : Reads (readParams (readClass room) inner) ps rest) :
    Reads (readClass (room + 1) s) (ofClass (String.ofList name) ps) rest := by
  subst htake
  obtain ⟨q, hq, rfl, rfl⟩ := hps
  rw [readClass, dif_neg hname]
  simp only
  split
  next e _ =>
    cases hdrop.symm.trans e
    rw [hq]
    exact ⟨_, rfl, rfl, rfl⟩
  next lt hne => exact (hne inner (hdrop ▸ lt) hdrop (proof_irrel_heq _ _)).elim

variable {c : String}

/-- A full name is read as a class without parameters where a type may end. -/
theorem IsShortName.reads_class (h : IsShortName c.toList) (hrest : EndsType rest) :
    Reads (readClass (room + 1) (package.toList ++ c.toList ++ rest)) (.node c []) rest := by
  have htake := takeWhile_append h.all_append hrest.endsClass
  have hdrop := dropWhile_append h.all_append hrest.endsClass
  rw [← h.ofClass_append []]
  exact reads_readClass_nil htake hdrop h.trim_append_ne_nil hrest

/-- Where a parenthesis follows, it is read with the parameters behind it. -/
theorem IsShortName.reads_class_params (h : IsShortName c.toList)
    (hps : Reads (readParams (readClass room) inner) ps rest) :
    Reads (readClass (room + 1) (package.toList ++ c.toList ++ '(' :: inner)) (.node c ps)
      rest := by
  have hends : EndsClass ('(' :: inner) := endsClass_cons rfl inner
  have htake := takeWhile_append h.all_append hends
  have hdrop := dropWhile_append h.all_append hends
  rw [← h.ofClass_append ps]
  exact reads_readClass_params htake hdrop h.trim_append_ne_nil hps

end Class

theorem toChars_cons_append (c : String) (p : ServerType) (ps : List ServerType)
    (rest : List Char) : (node c (p :: ps)).toChars ++ rest =
      package.toList ++ c.toList ++ '(' :: (p.toChars ++ (restChars ps ++ ')' :: rest)) := by
  simp [toChars]

/-- **A type is read at the start of a text**, if what follows lets it end there. -/
theorem IsNamed.reads_readClass {t : ServerType} (h : t.IsNamed) {room : Nat}
    (hroom : t.depth < room) {rest : List Char} (hrest : EndsType rest) :
    Reads (readClass room (t.toChars ++ rest)) t rest := by
  induction h generalizing room rest with
  | @node c ps name _ ih =>
    obtain ⟨room, rfl⟩ := Nat.exists_eq_add_one.mpr (Nat.zero_lt_of_lt hroom)
    cases ps with
    | nil =>
      rw [toChars]
      exact name.reads_class hrest
    | cons p ps =>
      -- whatever follows a parameter, it is read as such, with one level less to spare
      have hinner : ∀ q ∈ p :: ps, ∀ rest, EndsType rest →
          Reads (readClass room (q.toChars ++ rest)) q rest := by
        intro q hq rest hrest
        have hlt : q.depth < room :=
          Nat.lt_of_lt_of_le (depth_lt_of_mem hq) (Nat.le_of_lt_succ hroom)
        exact ih q hq hlt hrest
      rw [toChars_cons_append]
      exact name.reads_class_params (reads_readParams hinner)

/-- **A type is read back from its text**, unless it is nested too deep. -/
theorem IsNamed.ofText_toText {t : ServerType} (h : t.IsNamed)
    (hdepth : t.depth ≤ TypeText.maxDepth) : ofText t.toText = .ok t := by
  have hread := h.reads_readClass (Nat.lt_succ_of_le hdepth) endsType_nil
  rw [List.append_nil] at hread
  obtain ⟨q, hq, hvalue, hrest⟩ := hread
  rw [ofText, toText, String.toList_ofList, readAll, hq]
  simp only [hvalue, hrest]
  rfl

end ServerType

/-! ### The server types of column types -/

open ServerType

theorem ScalarKind.isShortName_serverClass (k : ScalarKind) :
    IsShortName k.serverClass.toList := by
  cases k <;> exact ⟨rfl, by decide, rfl⟩

theorem CollectionKind.isShortName_serverClass (kind : CollectionKind) :
    IsShortName kind.serverClass.toList := by
  cases kind <;> exact ⟨rfl, by decide, rfl⟩

namespace ColumnType

theorem isNamed_serverType (t : ColumnType) : t.serverType.IsNamed := by
  induction t with
  | scalar k => exact .node k.isShortName_serverClass (by simp)
  | list e ih => exact .node (CollectionKind.isShortName_serverClass .list) (by simpa using ih)
  | set e ih => exact .node (CollectionKind.isShortName_serverClass .set) (by simpa using ih)
  | map k v ihk ihv =>
    exact .node (CollectionKind.isShortName_serverClass .map) (by simpa using ⟨ihk, ihv⟩)

/-- A list of parameters encloses what angle brackets do. -/
theorem depth_serverType (t : ColumnType) : t.serverType.depth = t.depth := by
  induction t with
  | scalar k => rfl
  | list e ih | set e ih => simp [serverType, ServerType.depth, depthAll, depth, ih]
  | map k v ihk ihv =>
    simp [serverType, ServerType.depth, depthAll, depth, ihk, ihv, Nat.add_max_add_right]

/-- **The server type of a column type is read back from its text.** -/
theorem ofText_toText_serverType {t : ColumnType} (h : t.depth ≤ TypeText.maxDepth) :
    ServerType.ofText t.serverType.toText = .ok t.serverType :=
  t.isNamed_serverType.ofText_toText (t.depth_serverType ▸ h)

end ColumnType

end WideColumn

import WideColumn.TypeError

/-!
# Reading server types

The notation of server types is a class, followed by its parameters in parentheses if it has any,
with commas between them. A class is any text without these three characters; blanks around it do
not count, but nothing may stand between a parenthesis that closes a list and what follows it.

* `WideColumn.ServerType.readClass`: one type at the start of a text;
* `WideColumn.ServerType.ofText`: the type that a whole text stands for.
-/

namespace WideColumn

namespace ServerType

open TypeText (Fault)

/-- What has been read at the start of a text, which is never nothing. -/
structure Parsed (α : Type) (s : List Char) where
  /-- What the characters stand for. -/
  value : α
  /-- The characters that follow. -/
  rest : List Char
  length_lt : rest.length < s.length

/-- One character less is left after what has been read. -/
theorem Parsed.tail_length_lt {α : Type} {s : List Char} (q : Parsed α s) {c : Char}
    {rest : List Char} (e : q.rest = c :: rest) : rest.length < s.length := by
  have h := q.length_lt
  rw [e, List.length_cons] at h
  exact Nat.lt_of_succ_lt h

/-- Whether a character ends the text of a class. -/
def isDelimiter (c : Char) : Bool :=
  c == '(' || c == ')' || c == ','

/-- The parameters at the start of a text, up to the parenthesis that closes their list, given how
one of them is read. -/
def readParams (readOne : (s : List Char) → Except Fault (Parsed ServerType s))
    (s : List Char) : Except Fault (Parsed (List ServerType) s) :=
  match readOne s with
  | .error f => .error f
  | .ok q =>
    match e : q.rest with
    | ',' :: rest =>
      have lt : rest.length < s.length := q.tail_length_lt e
      match readParams readOne rest with
      | .error f => .error f
      | .ok ps => .ok ⟨q.value :: ps.value, ps.rest, Nat.lt_trans ps.length_lt lt⟩
    | ')' :: rest => .ok ⟨[q.value], rest, q.tail_length_lt e⟩
    | rest => .error ⟨.unclosedParams, rest⟩
termination_by s.length

theorem length_dropWhile_lt {p : Char → Bool} {s : List Char} (h : s.takeWhile p ≠ []) :
    (s.dropWhile p).length < s.length := by
  have e := congrArg List.length (List.takeWhile_append_dropWhile (p := p) (l := s))
  have : 0 < (s.takeWhile p).length := List.length_pos_iff.mpr h
  rw [List.length_append] at e
  omega

/-- The type at the start of a text. Up to `room` types may enclose one another. -/
def readClass : (room : Nat) → (s : List Char) → Except Fault (Parsed ServerType s)
  | 0, s => .error ⟨.tooDeep, s⟩
  | room + 1, s =>
    let name := s.takeWhile (!isDelimiter ·)
    if h : Text.trim name = [] then .error ⟨.missingClass, s⟩
    else
      have lt : (s.dropWhile (!isDelimiter ·)).length < s.length :=
        length_dropWhile_lt fun e => h (congrArg Text.trim e)
      match s.dropWhile (!isDelimiter ·), lt with
      | '(' :: inner, lt =>
        match readParams (readClass room) inner with
        | .error f => .error f
        | .ok ⟨ps, rest, h'⟩ =>
          .ok ⟨ofClass (String.ofList name) ps, rest, by simp only [List.length_cons] at lt; omega⟩
      | rest, lt => .ok ⟨ofClass (String.ofList name) [], rest, lt⟩

/-- The type that a text stands for as a whole, blanks after it aside. -/
def readAll (s : List Char) : Except Fault ServerType :=
  match readClass (TypeText.maxDepth + 1) s with
  | .error f => .error f
  | .ok ⟨t, rest, _⟩ => if Text.trim rest = [] then .ok t else .error ⟨.trailing, rest⟩

/-- The type that a text stands for. -/
def ofText (text : String) : Except TypeError ServerType :=
  (readAll text.toList).mapError (·.toError text.toList)

end ServerType

end WideColumn

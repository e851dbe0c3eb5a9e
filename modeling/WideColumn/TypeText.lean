/-!
# Reading the text of a type

What the readers of the two type notations have in common. A reader goes through the characters of
its input from left to right. It returns what it has read together with the characters that it has
not looked at, or a fault with those that were left when it saw what was wrong. Positions, which
are reported in bytes, follow from what is left.

* `WideColumn.TypeText.maxDepth`: how deep the types of a text may be nested;
* `WideColumn.TypeText.Defect`: what can be wrong with a text;
* `WideColumn.TypeText.Fault`: a defect and the place where it was seen;
* `WideColumn.TypeText.offset`: the position of a place in bytes.
-/

namespace WideColumn

namespace TypeText

/-- How many pairs of brackets may enclose a type, wrappers that leave no trace included. -/
def maxDepth : Nat := 64

/-- What can be wrong with the text of a type. -/
inductive Defect where
  /-- No word stands where a type has to start. -/
  | missingName
  /-- No class stands where a server type has to start. -/
  | missingClass
  /-- The given character does not stand where it has to. -/
  | missingToken (token : Char)
  /-- A parameter is followed neither by another one nor by the end of the list. -/
  | unclosedParams
  /-- Something follows the type. -/
  | trailing
  /-- A type is enclosed by too many brackets. -/
  | tooDeep
  deriving DecidableEq, Repr, Inhabited

/-- The wording of a defect. -/
def Defect.message : Defect → String
  | .missingName => "expected a type name"
  | .missingClass => "expected a marshal class"
  | .missingToken token => "expected '" ++ String.singleton token ++ "'"
  | .unclosedParams => "unterminated parameter list"
  | .trailing => "trailing characters"
  | .tooDeep => s!"nesting deeper than {maxDepth}"

/-- A defect, with the characters that had not been read when it was seen. -/
structure Fault where
  /-- What is wrong. -/
  defect : Defect
  /-- The characters from the place on. -/
  rest : List Char
  deriving DecidableEq, Repr

/-- How many bytes a text takes. -/
def byteLength : List Char → Nat
  | [] => 0
  | c :: cs => c.utf8Size + byteLength cs

/-- The position, in bytes, at which the given rest of a text starts. -/
def offset (input rest : List Char) : Nat :=
  byteLength input - byteLength rest

@[simp] theorem byteLength_nil : byteLength [] = 0 := rfl

@[simp] theorem byteLength_cons (c : Char) (cs : List Char) :
    byteLength (c :: cs) = c.utf8Size + byteLength cs := rfl

@[simp] theorem byteLength_append (cs ds : List Char) :
    byteLength (cs ++ ds) = byteLength cs + byteLength ds := by
  induction cs with
  | nil => simp
  | cons c cs ih => simp [ih, Nat.add_assoc]

/-- The rest of a text starts where what comes before it ends. -/
@[simp] theorem offset_append (cs ds : List Char) : offset (cs ++ ds) ds = byteLength cs := by
  simp [offset]

end TypeText

end WideColumn

import WideColumn.Text.Blank
import WideColumn.Text.Digits
import WideColumn.TypeError

/-!
# Reading column types

The notation of column types is made of words and of the characters `<`, `>` and `,`; blanks may
stand before each of them. A word is the name of a scalar kind or one of `list`, `set`, `map` and
`frozen`, in any case. A type may be marked as frozen at any place; the mark is not kept.

* `WideColumn.ColumnType.readType`: one type at the start of a text;
* `WideColumn.ColumnType.ofText`: the type that a whole text stands for;
* `WideColumn.ScalarKind.ofName`, `WideColumn.ScalarKind.ofProtocolId`: kinds by name and number.
-/

namespace WideColumn

namespace ScalarKind

/-- The kind of a name, which may have blanks around it. -/
def ofName (name : String) : Except TypeError ScalarKind :=
  let word := Text.trim name.toList
  match ofName? word with
  | some k => .ok k
  | none => .error (.unknownScalarKind (String.ofList word))

/-- The kind of a protocol number. An unknown number is reported in hexadecimal. -/
def ofProtocolId (id : Nat) : Except TypeError ScalarKind :=
  match ofProtocolId? id with
  | some k => .ok k
  | none => .error (.unknownScalarKind ("0x" ++ String.ofList (Text.hexDigits 4 id)))

end ScalarKind

namespace ColumnType

open Text (skipBlank isWordChar)

/-- Why no type can be read. -/
inductive Refusal where
  /-- The text has a defect. -/
  | fault (fault : TypeText.Fault)
  /-- A word is not the name of a kind. -/
  | unknownKind (word : List Char)
  deriving DecidableEq, Repr

/-- The error that a refusal amounts to. -/
def Refusal.toError (input : List Char) : Refusal → TypeError
  | .fault f => f.toError input
  | .unknownKind word => .unknownScalarKind (String.ofList word)

/-- The words that are followed by types in brackets. -/
inductive Former where
  | frozen
  | list
  | set
  | map
  deriving DecidableEq, Repr

/-- The former that a word stands for, whatever the case of its letters. -/
def Former.ofWord? (word : List Char) : Option Former :=
  let lower := word.map Text.lowerAscii
  if lower = "frozen".toList then some frozen
  else if lower = "list".toList then some list
  else if lower = "set".toList then some set
  else if lower = "map".toList then some map
  else none

/-- The word that follows, and what comes after it. -/
def readWord (s : List Char) : Except Refusal (List Char × List Char) :=
  let s := skipBlank s
  match s.takeWhile isWordChar with
  | [] => .error (.fault ⟨.missingName, s⟩)
  | word => .ok (word, s.dropWhile isWordChar)

/-- What comes after the character that has to follow. -/
def readToken (token : Char) (s : List Char) : Except Refusal (List Char) :=
  match skipBlank s with
  | [] => .error (.fault ⟨.missingToken token, []⟩)
  | c :: rest =>
    if c = token then .ok rest else .error (.fault ⟨.missingToken token, c :: rest⟩)

/-- The type at the start of a text, and what comes after it. Up to `room` types may enclose one
another. -/
def readType : (room : Nat) → List Char → Except Refusal (ColumnType × List Char)
  | 0, s => .error (.fault ⟨.tooDeep, s⟩)
  | room + 1, s => do
    let (word, s) ← readWord s
    match Former.ofWord? word with
    | some .frozen =>
      let s ← readToken '<' s
      let (t, s) ← readType room s
      let s ← readToken '>' s
      return (t, s)
    | some .list =>
      let s ← readToken '<' s
      let (e, s) ← readType room s
      let s ← readToken '>' s
      return (list e, s)
    | some .set =>
      let s ← readToken '<' s
      let (e, s) ← readType room s
      let s ← readToken '>' s
      return (set e, s)
    | some .map =>
      let s ← readToken '<' s
      let (k, s) ← readType room s
      let s ← readToken ',' s
      let (v, s) ← readType room s
      let s ← readToken '>' s
      return (map k v, s)
    | none =>
      match ScalarKind.ofName? word with
      | some kind => return (scalar kind, s)
      | none => .error (.unknownKind word)

/-- The type that a text stands for as a whole. -/
def readAll (s : List Char) : Except Refusal ColumnType := do
  let (t, rest) ← readType (TypeText.maxDepth + 1) s
  match skipBlank rest with
  | [] => return t
  | rest => .error (.fault ⟨.trailing, rest⟩)

/-- The type that a text stands for. -/
def ofText (text : String) : Except TypeError ColumnType :=
  (readAll text.toList).mapError (·.toError text.toList)

end ColumnType

end WideColumn

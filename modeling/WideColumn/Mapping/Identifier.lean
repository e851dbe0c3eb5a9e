import WideColumn.Text.LowerCase

/-!
# Identifiers

The names of keyspaces, tables, types and columns. A name that distinguishes capital letters is
written in quotes, and a quote in it is written twice; any other name is lower-cased and stands for
itself.

* `WideColumn.Identifier.quote`: a name in quotes;
* `WideColumn.Identifier.normalize`: the one rule for all names.
-/

namespace WideColumn

namespace Identifier

/-- The characters of a name with each quote written twice. -/
def double : List Char → List Char
  | [] => []
  | c :: cs => if c = '"' then '"' :: '"' :: double cs else c :: double cs

/-- The characters of a name in quotes. -/
def quoteChars (cs : List Char) : List Char :=
  '"' :: (double cs ++ ['"'])

/-- A name in quotes. -/
def quote (name : String) : String :=
  String.ofList (quoteChars name.toList)

/-- A name as it is written in statements. -/
def normalize (name : String) (caseSensitive : Bool) : String :=
  if caseSensitive then quote name else Text.lowerCase name

end Identifier

end WideColumn

import WideColumn.Bytes.BigEndian

/-!
# Statements

What is asked of the server, and what it answers.

* `WideColumn.BoundColumn`: a column with a cell;
* `WideColumn.Statement`: the statements;
* `WideColumn.Row`: a row of an answer.
-/

namespace WideColumn

/-- The bytes of a column in a row, or none for null. -/
abbrev Cell := Option Bytes

/-- A column with the cell that is written to it or that it has to have. -/
structure BoundColumn where
  name : String
  cell : Cell
  deriving DecidableEq, Repr, Inhabited

/-- A statement. -/
inductive Statement where
  /-- A row is written. -/
  | insert (keyspace table : String) (columns : List BoundColumn)
  /-- Columns of the rows that meet the restrictions are asked for; a computed column is given as
  its expression. -/
  | select (keyspace table : String) (columns : List String) (restrictions : List BoundColumn)
  /-- The rows that meet the restrictions are removed. -/
  | delete (keyspace table : String) (restrictions : List BoundColumn)
  deriving DecidableEq, Repr, Inhabited

/-- A row of an answer: cells in the order of the columns that were asked for. -/
structure Row where
  cells : List Cell := []
  deriving DecidableEq, Repr, Inhabited

namespace Row

/-- How many cells a row has. -/
def size (r : Row) : Nat :=
  r.cells.length

/-- The bytes of a cell; there are none for a null and past the end. -/
def cell? (r : Row) (i : Nat) : Option Bytes :=
  (r.cells[i]?).join

end Row

end WideColumn

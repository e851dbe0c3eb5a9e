/-!
# Mapping kinds

* `WideColumn.MappingKind`: what a class can be mapped to.
-/

namespace WideColumn

/-- What a class is mapped to. -/
inductive MappingKind where
  /-- A table. -/
  | table
  /-- A user-defined type. -/
  | udt
  /-- A set of queries. -/
  | accessor
  deriving DecidableEq, Repr, Inhabited

namespace MappingKind

/-- Every kind, in the order in which conflicts are looked for. -/
def all : List MappingKind := [table, udt, accessor]

theorem mem_all (k : MappingKind) : k ∈ all := by
  cases k <;> decide

/-- The name of a kind. -/
def name : MappingKind → String
  | table => "table"
  | udt => "udt"
  | accessor => "accessor"

end MappingKind

end WideColumn

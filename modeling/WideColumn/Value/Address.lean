/-!
# Network addresses

* `WideColumn.Address`: an address of one of the two families.
-/

namespace WideColumn

/-- A network address, as the number its bytes stand for. -/
inductive Address where
  /-- An address of four bytes. -/
  | v4 (word : BitVec 32)
  /-- An address of sixteen bytes. -/
  | v6 (word : BitVec 128)
  deriving DecidableEq, Repr, Inhabited

namespace Address

/-- The address that stands for no address in particular. -/
def unspecified : Address := .v4 0

end Address

end WideColumn

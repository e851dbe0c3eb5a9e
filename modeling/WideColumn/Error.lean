import WideColumn.Mapping.Error
import WideColumn.Store.Session
import WideColumn.TypeError

/-!
# Errors

* `WideColumn.Error`: whatever can go wrong when an entity is stored or fetched.
-/

namespace WideColumn

/-- Whatever can go wrong when an entity is stored or fetched. -/
inductive Error where
  | type (cause : TypeError)
  | codec (cause : CodecError)
  | mapping (cause : MappingError)
  | property (cause : PropertyError)
  /-- A key has not as many values as the table has key columns. -/
  | invalidPrimaryKey (expected got : Nat)
  | session (cause : SessionError)
  deriving DecidableEq, Repr

/-- The wording of an error. -/
def Error.message : Error → String
  | .type cause => cause.message
  | .codec cause => cause.message
  | .mapping cause => cause.message
  | .property cause => cause.message
  | .invalidPrimaryKey expected got =>
    s!"Invalid number of PRIMARY KEY columns provided, {expected} expected but got {got}"
  | .session cause => cause.message

end WideColumn

import WideColumn.AppType
import WideColumn.ServerType.Basic
import WideColumn.TypeText

/-!
# Errors about types

* `WideColumn.Malformation`: why a type cannot be made out;
* `WideColumn.TypeError`: every way in which the search for a type or its codec can end without one.
-/

namespace WideColumn

/-- Why a type cannot be made out. -/
inductive Malformation where
  /-- Its text has a defect, at a position given in bytes. -/
  | text (defect : TypeText.Defect) (offset : Nat)
  /-- A collection class of the server has the wrong number of parameters. -/
  | arity (className : String) (expected got : Nat)
  deriving DecidableEq, Repr

/-- The wording of the reason. -/
def Malformation.message : Malformation → String
  | .text defect offset => s!"{defect.message} at offset {offset}"
  | .arity className expected got =>
    s!"{className} takes {expected} type parameter(s), got {got}"

/-- Why there is no type, or no codec for it. -/
inductive TypeError where
  /-- No codec is registered for a kind. -/
  | unregistered (kind : ScalarKind)
  /-- No registered kind uses a class of the server, given by its full name. -/
  | unknownServerType (qualifiedName : String)
  /-- No kind has a name or number. -/
  | unknownScalarKind (name : String)
  /-- A text, or a server type of the given text, stands for no type. -/
  | malformed (input : String) (cause : Malformation)
  /-- No column type holds the values of an application type. -/
  | unrepresentable (type : AppType)
  deriving DecidableEq, Repr

/-- The wording of an error. -/
def TypeError.message : TypeError → String
  | .unregistered kind => "No codec registered for CQL type " ++ kind.name
  | .unknownServerType name => "Unknown internal type " ++ name
  | .unknownScalarKind name => "Unknown CQL type kind " ++ name
  | .malformed input cause => "Malformed type '" ++ input ++ "': " ++ cause.message
  | .unrepresentable type => "No codec can handle values of type " ++ type.toText

/-- The error that a fault in a text amounts to. -/
def TypeText.Fault.toError (input : List Char) (f : TypeText.Fault) : TypeError :=
  .malformed (String.ofList input) (.text f.defect (TypeText.offset input f.rest))

end WideColumn

import WideColumn.ColumnType.Basic
import WideColumn.Text.Utf8
import WideColumn.Value.Basic

/-!
# Errors of codecs

* `WideColumn.InvalidData`: what makes bytes, or a value, none of the type although they have its
  form;
* `WideColumn.CodecError`: why a value cannot be encoded or bytes cannot be decoded.
-/

namespace WideColumn

/-- Data that have the form of a type but do not belong to it. -/
inductive InvalidData where
  /-- A collection, or a part of one, has more elements or bytes than its length can say. -/
  | partTooLarge (length : Nat)
  /-- A collection claims a negative number of elements. -/
  | negativeCount (count : Int32)
  /-- An address has neither four nor sixteen bytes. -/
  | addressLength (length : Nat)
  /-- A count of milliseconds stands for no instant. -/
  | instantRange (millis : Int64)
  /-- An identifier was not made from the time. -/
  | notTimeBased (id : Uuid)
  /-- A codec of the program's own refuses the data. -/
  | refused (reason : String)
  deriving DecidableEq, Repr

/-- The wording of the reason. -/
def InvalidData.message : InvalidData → String
  | .partTooLarge length => s!"collection part too large: {length}"
  | .negativeCount count => "negative element count " ++ Text.showInt count.toInt
  | .addressLength length => s!"inet address must be 4 or 16 bytes, got {length}"
  | .instantRange millis => "timestamp " ++ Text.showInt millis.toInt ++ " ms is out of range"
  | .notTimeBased id => id.toText ++ " is not a time-based (version 1) UUID"
  | .refused reason => reason

/-- Why a value cannot be encoded, or bytes cannot be decoded. -/
inductive CodecError where
  /-- The value is not one of the column type. -/
  | typeMismatch (expected : ColumnType) (found : ValueKind)
  /-- A value of fixed width has another one. -/
  | invalidLength (kind : ScalarKind) (expected found : Nat)
  /-- The bytes end too early. -/
  | bufferTooSmall (needed available : Nat)
  /-- The bytes of a text are not UTF-8. -/
  | invalidUtf8 (fault : Utf8.Fault)
  /-- A text that has to be ASCII is not. -/
  | nonAscii
  /-- The data have the form of the type but do not belong to it. -/
  | invalidData (cause : InvalidData)
  /-- A part of a collection is null. -/
  | nullElement (collection : CollectionKind)
  /-- Null has no encoding. -/
  | nullValue
  /-- Bytes are left after the last part of a collection. -/
  | trailingBytes (collection : CollectionKind) (remaining : Nat)
  deriving DecidableEq, Repr

/-- The wording of an error. -/
def CodecError.message : CodecError → String
  | .typeMismatch expected found =>
    "Type mismatch: codec for " ++ expected.toText ++ " cannot handle a " ++ found.name ++ " value"
  | .invalidLength kind expected found =>
    "Invalid " ++ kind.name ++ s!" value: expected {expected} bytes, got {found}"
  | .bufferTooSmall needed available =>
    s!"Buffer too small: need {needed} bytes, have {available}"
  | .invalidUtf8 fault => "Invalid UTF-8 in text value: " ++ fault.message
  | .nonAscii => "Non-ASCII character in ascii value"
  | .invalidData cause => "Invalid data: " ++ cause.message
  | .nullElement collection => collection.name ++ " elements cannot be null"
  | .nullValue => "Null values are represented by an absent column value, not encoded"
  | .trailingBytes collection remaining =>
    s!"{remaining} unexpected bytes after the last {collection.name} element"

end WideColumn

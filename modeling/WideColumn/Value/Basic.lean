import WideColumn.Bytes.BigEndian
import WideColumn.Value.Address
import WideColumn.Value.Decimal
import WideColumn.Value.Ieee
import WideColumn.Value.Instant
import WideColumn.Value.Uuid

/-!
# Values

What a column holds, once its bytes are decoded, and what a program hands over to be encoded.
Collections keep the order and the duplicates they are given.

* `WideColumn.Value`: the values;
* `WideColumn.ValueKind`, `WideColumn.Value.kind`: what sort of value it is, for messages;
* `WideColumn.Value.same`: equality, in which floating-point words compare as numbers.
-/

namespace WideColumn

/-- A value of a column or of the program. -/
inductive Value where
  | null
  | boolean (b : Bool)
  | int (n : Int32)
  | bigint (n : Int64)
  | float (x : Single)
  | double (x : Double)
  | text (s : String)
  | blob (bs : Bytes)
  | decimal (d : Decimal)
  | varint (n : Int)
  | inet (a : Address)
  | timestamp (t : Instant)
  | uuid (u : Uuid)
  | list (items : List Value)
  | set (items : List Value)
  | map (entries : List (Value × Value))
  deriving Repr, Inhabited

/-- The sorts of values. -/
inductive ValueKind where
  | null
  | boolean
  | int
  | bigint
  | float
  | double
  | text
  | blob
  | decimal
  | varint
  | inet
  | timestamp
  | uuid
  | list
  | set
  | map
  deriving DecidableEq, Repr, Inhabited

/-- The name of a sort. -/
def ValueKind.name : ValueKind → String
  | null => "null"
  | boolean => "boolean"
  | int => "int"
  | bigint => "bigint"
  | float => "float"
  | double => "double"
  | text => "text"
  | blob => "blob"
  | decimal => "decimal"
  | varint => "varint"
  | inet => "inet"
  | timestamp => "timestamp"
  | uuid => "uuid"
  | list => "list"
  | set => "set"
  | map => "map"

namespace Value

/-- The sort of a value. -/
def kind : Value → ValueKind
  | null => .null
  | boolean _ => .boolean
  | int _ => .int
  | bigint _ => .bigint
  | float _ => .float
  | double _ => .double
  | text _ => .text
  | blob _ => .blob
  | decimal _ => .decimal
  | varint _ => .varint
  | inet _ => .inet
  | timestamp _ => .timestamp
  | uuid _ => .uuid
  | list _ => .list
  | set _ => .set
  | map _ => .map

/-- Whether there is no value. -/
def isNull : Value → Bool
  | null => true
  | _ => false

@[simp] theorem isNull_iff {v : Value} : v.isNull = true ↔ v = null := by
  cases v <;> simp [isNull]

/-! ### Looking inside -/

/-- The truth value, if the value is one. -/
def boolean? : Value → Option Bool
  | boolean b => some b
  | _ => none

/-- The number, if the value is an integer of 32 bits. -/
def int? : Value → Option Int32
  | int n => some n
  | _ => none

/-- The number, if the value is an integer of 64 bits. -/
def bigint? : Value → Option Int64
  | bigint n => some n
  | _ => none

/-- The word, if the value is a floating-point number of 64 bits. -/
def double? : Value → Option Double
  | double x => some x
  | _ => none

/-- The text, if the value is one. -/
def text? : Value → Option String
  | text s => some s
  | _ => none

/-- The bytes, if the value is a blob. -/
def blob? : Value → Option Bytes
  | blob bs => some bs
  | _ => none

/-- The elements of a list or a set. -/
def elements? : Value → Option (List Value)
  | list vs => some vs
  | set vs => some vs
  | _ => none

/-- The entries of a map. -/
def entries? : Value → Option (List (Value × Value))
  | map es => some es
  | _ => none

/-! ### Equality -/

mutual

/-- Whether two values are equal: floating-point words as numbers, all else by its parts. -/
def same : Value → Value → Bool
  | null, null => true
  | boolean a, boolean b => a == b
  | int a, int b => a == b
  | bigint a, bigint b => a == b
  | float a, float b => a.sameNumber b
  | double a, double b => a.sameNumber b
  | text a, text b => a == b
  | blob a, blob b => a == b
  | decimal a, decimal b => a == b
  | varint a, varint b => a == b
  | inet a, inet b => a == b
  | timestamp a, timestamp b => a == b
  | uuid a, uuid b => a == b
  | list a, list b => sameAll a b
  | set a, set b => sameAll a b
  | map a, map b => sameEntries a b
  | _, _ => false

/-- Whether two sequences of values are equal, one by one. -/
def sameAll : List Value → List Value → Bool
  | [], [] => true
  | v :: vs, w :: ws => v.same w && sameAll vs ws
  | _, _ => false

/-- Whether two sequences of entries are equal, one by one. -/
def sameEntries : List (Value × Value) → List (Value × Value) → Bool
  | [], [] => true
  | (k, v) :: es, (k', v') :: es' => k.same k' && v.same v' && sameEntries es es'
  | _, _ => false

end

end Value

end WideColumn

import WideColumn.Bytes.TwosComplement
import WideColumn.Codec.Error
import WideColumn.Text.Ascii

/-!
# Scalar values as bytes

Numbers are stored big-endian, texts in UTF-8. No bytes at all stand for null in the kinds that
have no value of length zero; a null is never written.

* `WideColumn.ScalarKind.encode`: the bytes of a value;
* `WideColumn.ScalarKind.decode`: the value of bytes.
-/

namespace WideColumn

namespace ScalarKind

/-! ### Encoding -/

/-- The bytes of a value, if it is one of the kind. -/
def encode : ScalarKind → Value → Except CodecError Bytes
  | _, .null => .error .nullValue
  | ascii, .text s =>
    if s.toList.all Text.isAscii then .ok (Utf8.encode s.toList) else .error .nonAscii
  | text, .text s => .ok (Utf8.encode s.toList)
  | varchar, .text s => .ok (Utf8.encode s.toList)
  | bigint, .bigint n => .ok (Bytes.ofNat 8 n.toUInt64.toNat)
  | counter, .bigint n => .ok (Bytes.ofNat 8 n.toUInt64.toNat)
  | blob, .blob bs => .ok bs
  | boolean, .boolean b => .ok [if b then 1 else 0]
  | decimal, .decimal d =>
    .ok (Bytes.ofNat 4 d.scale.toUInt32.toNat ++ Bytes.ofInt d.unscaled)
  | double, .double x => .ok (Bytes.ofNat 8 x.bits.toNat)
  | float, .float x => .ok (Bytes.ofNat 4 x.bits.toNat)
  | inet, .inet (.v4 word) => .ok (Bytes.ofNat 4 word.toNat)
  | inet, .inet (.v6 word) => .ok (Bytes.ofNat 16 word.toNat)
  | int, .int n => .ok (Bytes.ofNat 4 n.toUInt32.toNat)
  | timestamp, .timestamp t => .ok (Bytes.ofNat 8 (Int64.ofInt t.millis).toUInt64.toNat)
  | uuid, .uuid u => .ok (Bytes.ofNat 16 u.word.toNat)
  | timeuuid, .uuid u =>
    if u.isTimeBased then .ok (Bytes.ofNat 16 u.word.toNat)
    else .error (.invalidData (.notTimeBased u))
  | varint, .varint n => .ok (Bytes.ofInt n)
  | k, v => .error (.typeMismatch (.scalar k) v.kind)

/-! ### Decoding -/

/-- The number that a given count of bytes stands for. -/
def word (k : ScalarKind) (width : Nat) (bs : Bytes) : Except CodecError Nat :=
  if bs.length = width then .ok (Bytes.toNat bs) else .error (.invalidLength k width bs.length)

/-- The value of a text in one of the two kinds that hold any text. -/
def decodeText (bs : Bytes) : Except CodecError Value :=
  match Utf8.decode bs with
  | .ok cs => .ok (.text (String.ofList cs))
  | .error fault => .error (.invalidUtf8 fault)

/-- The value of a text of ASCII characters. -/
def decodeAscii (bs : Bytes) : Except CodecError Value :=
  if bs.all (·.toNat < 128) then
    .ok (.text (String.ofList (bs.map fun b => Char.ofNat b.toNat)))
  else .error .nonAscii

/-- The value of a decimal: its scale in four bytes, then its digits. -/
def decodeDecimal (bs : Bytes) : Except CodecError Value :=
  if bs.length < 4 then .error (.bufferTooSmall 4 bs.length)
  else
    .ok (.decimal ⟨Bytes.toInt (bs.drop 4), (UInt32.ofNat (Bytes.toNat (bs.take 4))).toInt32⟩)

/-- The value of an address, whose length tells its family. -/
def decodeAddress (bs : Bytes) : Except CodecError Value :=
  if bs.length = 4 then .ok (.inet (.v4 (BitVec.ofNat 32 (Bytes.toNat bs))))
  else if bs.length = 16 then .ok (.inet (.v6 (BitVec.ofNat 128 (Bytes.toNat bs))))
  else .error (.invalidData (.addressLength bs.length))

/-- The value of a count of milliseconds. -/
def decodeInstant (bs : Bytes) : Except CodecError Value := do
  let millis := (UInt64.ofNat (← word timestamp 8 bs)).toInt64
  match Instant.ofMillis? millis.toInt with
  | some t => return .timestamp t
  | none => .error (.invalidData (.instantRange millis))

/-- The value of an identifier that was made from the time. -/
def decodeTimeUuid (bs : Bytes) : Except CodecError Value := do
  let u : Uuid := ⟨BitVec.ofNat 128 (← word timeuuid 16 bs)⟩
  if u.isTimeBased then return .uuid u else .error (.invalidData (.notTimeBased u))

/-- Whether the kind has a value that takes no bytes. -/
def allowsEmpty : ScalarKind → Bool
  | ascii | text | varchar | blob => true
  | _ => false

/-- The value of bytes. -/
def decode (k : ScalarKind) (bs : Bytes) : Except CodecError Value :=
  if bs.isEmpty && !k.allowsEmpty then .ok .null
  else
    match k with
    | ascii => decodeAscii bs
    | text => decodeText bs
    | varchar => decodeText bs
    | blob => .ok (.blob bs)
    | bigint => do return .bigint (UInt64.ofNat (← word k 8 bs)).toInt64
    | counter => do return .bigint (UInt64.ofNat (← word k 8 bs)).toInt64
    | boolean => do return .boolean ((← word k 1 bs) != 0)
    | decimal => decodeDecimal bs
    | double => do return .double ⟨UInt64.ofNat (← word k 8 bs)⟩
    | float => do return .float ⟨UInt32.ofNat (← word k 4 bs)⟩
    | inet => decodeAddress bs
    | int => do return .int (UInt32.ofNat (← word k 4 bs)).toInt32
    | timestamp => decodeInstant bs
    | uuid => do return .uuid ⟨BitVec.ofNat 128 (← word k 16 bs)⟩
    | timeuuid => decodeTimeUuid bs
    | varint => .ok (.varint (Bytes.toInt bs))

end ScalarKind

end WideColumn

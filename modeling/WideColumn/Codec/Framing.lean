import WideColumn.Codec.Error

/-!
# The framing of collections

A collection is stored as the count of its elements, or entries, followed by its parts; a map's
parts are keys and values by turns. The count and the length of each part are written in front in
four bytes, as signed numbers. A negative length would stand for a null part, which is refused.
Servers send an empty collection as no bytes at all.

The functions take the coding of one part as a parameter, and so know nothing of its type.

* `WideColumn.Framing.writeElements`, `WideColumn.Framing.writeEntries`: the bytes of a collection;
* `WideColumn.Framing.readElements`, `WideColumn.Framing.readEntries`: the parts of a collection.
-/

namespace WideColumn

namespace Framing

variable {α β : Type}

/-! ### Writing -/

/-- The greatest count or length. -/
def maxLength : Nat := 0x7fffffff

/-- A count or length in four bytes, if the sign bit stays free. -/
def writeLength (n : Nat) : Except CodecError Bytes :=
  if n ≤ maxLength then .ok (Bytes.ofNat 4 n) else .error (.invalidData (.partTooLarge n))

/-- A part behind its length. -/
def writePart (kind : CollectionKind) (encode : Value → Except CodecError Bytes) (v : Value) :
    Except CodecError Bytes :=
  if v.isNull then .error (.nullElement kind)
  else do
    let bs ← encode v
    let length ← writeLength bs.length
    return length ++ bs

/-- The parts of a list or set, one after the other. -/
def writeParts (kind : CollectionKind) (encode : Value → Except CodecError Bytes) :
    List Value → Except CodecError Bytes
  | [] => return []
  | v :: vs => do
    let part ← writePart kind encode v
    let parts ← writeParts kind encode vs
    return part ++ parts

/-- The parts of a map, each key before its value. -/
def writePairs (encodeKey encodeValue : Value → Except CodecError Bytes) :
    List (Value × Value) → Except CodecError Bytes
  | [] => return []
  | (k, v) :: es => do
    let key ← writePart .map encodeKey k
    let value ← writePart .map encodeValue v
    let parts ← writePairs encodeKey encodeValue es
    return key ++ (value ++ parts)

/-- The bytes of a list or set. -/
def writeElements (kind : CollectionKind) (encode : Value → Except CodecError Bytes)
    (vs : List Value) : Except CodecError Bytes := do
  let count ← writeLength vs.length
  let parts ← writeParts kind encode vs
  return count ++ parts

/-- The bytes of a map. -/
def writeEntries (encodeKey encodeValue : Value → Except CodecError Bytes)
    (es : List (Value × Value)) : Except CodecError Bytes := do
  let count ← writeLength es.length
  let parts ← writePairs encodeKey encodeValue es
  return count ++ parts

/-! ### Reading

Each step returns what it has read together with the bytes that follow. -/

/-- The first `n` bytes. -/
def readBytes (n : Nat) (bs : Bytes) : Except CodecError (Bytes × Bytes) :=
  if n ≤ bs.length then .ok (bs.take n, bs.drop n) else .error (.bufferTooSmall n bs.length)

/-- The signed number in the first four bytes. -/
def readInt (bs : Bytes) : Except CodecError (Int32 × Bytes) := do
  let (word, rest) ← readBytes 4 bs
  return ((UInt32.ofNat (Bytes.toNat word)).toInt32, rest)

/-- The count of elements in front of the parts. -/
def readCount (bs : Bytes) : Except CodecError (Nat × Bytes) := do
  let (n, rest) ← readInt bs
  if n.toInt < 0 then .error (.invalidData (.negativeCount n)) else return (n.toInt.toNat, rest)

/-- A part behind its length. -/
def readPart (kind : CollectionKind) (decode : Bytes → Except CodecError α) (bs : Bytes) :
    Except CodecError (α × Bytes) := do
  let (length, rest) ← readInt bs
  if length.toInt < 0 then .error (.nullElement kind)
  else
    let (part, rest) ← readBytes length.toInt.toNat rest
    let a ← decode part
    return (a, rest)

/-- A given number of parts. -/
def readParts (kind : CollectionKind) (decode : Bytes → Except CodecError α) :
    (count : Nat) → Bytes → Except CodecError (List α × Bytes)
  | 0, bs => return ([], bs)
  | count + 1, bs => do
    let (a, bs) ← readPart kind decode bs
    let (as, bs) ← readParts kind decode count bs
    return (a :: as, bs)

/-- A given number of keys, each with its value. -/
def readPairs (decodeKey : Bytes → Except CodecError α) (decodeValue : Bytes → Except CodecError β) :
    (count : Nat) → Bytes → Except CodecError (List (α × β) × Bytes)
  | 0, bs => return ([], bs)
  | count + 1, bs => do
    let (k, bs) ← readPart .map decodeKey bs
    let (v, bs) ← readPart .map decodeValue bs
    let (es, bs) ← readPairs decodeKey decodeValue count bs
    return ((k, v) :: es, bs)

/-- Nothing may follow the last part. -/
def readEnd (kind : CollectionKind) (bs : Bytes) : Except CodecError Unit :=
  if bs.isEmpty then .ok () else .error (.trailingBytes kind bs.length)

/-- The elements of a list or set. -/
def readElements (kind : CollectionKind) (decode : Bytes → Except CodecError α) (bs : Bytes) :
    Except CodecError (List α) :=
  if bs.isEmpty then .ok []
  else do
    let (count, rest) ← readCount bs
    let (as, rest) ← readParts kind decode count rest
    readEnd kind rest
    return as

/-- The entries of a map. -/
def readEntries (decodeKey : Bytes → Except CodecError α) (decodeValue : Bytes → Except CodecError β)
    (bs : Bytes) : Except CodecError (List (α × β)) :=
  if bs.isEmpty then .ok []
  else do
    let (count, rest) ← readCount bs
    let (es, rest) ← readPairs decodeKey decodeValue count rest
    readEnd .map rest
    return es

end Framing

end WideColumn

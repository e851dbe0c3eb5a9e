/-!
# UTF-8

Characters as bytes and back. Reading goes through the bytes once and keeps the character it is in
the middle of; where it stops, the fault says how many bytes had been taken for that character and
where they began.

* `WideColumn.Utf8.encode`: the bytes of a text;
* `WideColumn.Utf8.Fault`: why bytes are no text;
* `WideColumn.Utf8.decode`: the characters of a byte sequence.
-/

namespace WideColumn

namespace Utf8

/-- The bytes of a text. -/
def encode (cs : List Char) : List UInt8 :=
  cs.flatMap String.utf8EncodeChar

@[simp] theorem encode_nil : encode [] = [] := rfl

@[simp] theorem encode_cons (c : Char) (cs : List Char) :
    encode (c :: cs) = String.utf8EncodeChar c ++ encode cs := rfl

/-- Why bytes are not the encoding of a text. -/
inductive Fault where
  /-- The bytes from `index` on start no character, and `length` of them could not be refused
  before the one that follows them was seen. -/
  | invalid (length index : Nat)
  /-- The bytes end inside the character that starts at `index`. -/
  | incomplete (index : Nat)
  deriving DecidableEq, Repr, Inhabited

/-- The wording of a fault. -/
def Fault.message : Fault → String
  | .invalid length index =>
    s!"invalid utf-8 sequence of {length} bytes from index {index}"
  | .incomplete index => s!"incomplete utf-8 byte sequence from index {index}"

/-- A character of which some bytes have been read. -/
structure Begun where
  /-- How many bytes have been read. -/
  taken : Nat
  /-- How many bytes are still to come. -/
  owed : Nat
  /-- The least value of the next byte. -/
  low : Nat
  /-- The greatest value of the next byte. -/
  high : Nat
  /-- The bits of the code point read so far. -/
  code : Nat
  deriving Repr

/-- The character that starts with a byte of value at least 128, if one does. The range of the
second byte keeps out overlong forms, surrogates and code points past the last. -/
def Begun.ofLead (b : Nat) : Option Begun :=
  if 0xC2 ≤ b ∧ b ≤ 0xDF then some ⟨1, 1, 0x80, 0xBF, b - 0xC0⟩
  else if b = 0xE0 then some ⟨1, 2, 0xA0, 0xBF, 0⟩
  else if b = 0xED then some ⟨1, 2, 0x80, 0x9F, 0xD⟩
  else if 0xE1 ≤ b ∧ b ≤ 0xEF then some ⟨1, 2, 0x80, 0xBF, b - 0xE0⟩
  else if b = 0xF0 then some ⟨1, 3, 0x90, 0xBF, 0⟩
  else if 0xF1 ≤ b ∧ b ≤ 0xF3 then some ⟨1, 3, 0x80, 0xBF, b - 0xF0⟩
  else if b = 0xF4 then some ⟨1, 3, 0x80, 0x8F, 4⟩
  else none

/-- The character after one more of its bytes, of value `b`. -/
def Begun.extend (p : Begun) (b : Nat) : Begun :=
  ⟨p.taken + 1, p.owed - 1, 0x80, 0xBF, p.code * 64 + (b - 0x80)⟩

/-- The characters of the bytes that follow position `index`, where the character that is being
read began. -/
def decodeFrom : (index : Nat) → Option Begun → List UInt8 → Except Fault (List Char)
  | _, none, [] => .ok []
  | index, some _, [] => .error (.incomplete index)
  | index, none, b :: bs =>
    if b.toNat < 0x80 then
      (decodeFrom (index + 1) none bs).map (Char.ofNat b.toNat :: ·)
    else
      match Begun.ofLead b.toNat with
      | some p => decodeFrom index (some p) bs
      | none => .error (.invalid 1 index)
  | index, some p, b :: bs =>
    if p.low ≤ b.toNat ∧ b.toNat ≤ p.high then
      let p' := p.extend b.toNat
      if p'.owed = 0 then
        (decodeFrom (index + p'.taken) none bs).map (Char.ofNat p'.code :: ·)
      else decodeFrom index (some p') bs
    else .error (.invalid p.taken index)

/-- The characters of a byte sequence. -/
def decode (bs : List UInt8) : Except Fault (List Char) :=
  decodeFrom 0 none bs

end Utf8

end WideColumn

import Mathlib
import WideColumn.Bytes.BigEndian
import WideColumn.Value.Ieee
import WideColumn.Value.Uuid

/-!
# Words of a fixed width

What is read back from the digits of a number: the number, as long as it has no more digits than
there is room for. `WideColumn.Bytes.ofNat_toNat` goes the other way and holds of all bytes, so a
word of a fixed width and the number it stands for determine each other.

Most scalars are stored as words of a fixed width, and all of these in the same manner: their type
is numbered by the words (`WideColumn.Bytes.Numbering`), and it is the number that is stored.

Counts and lengths are stored as signed words of four bytes. The sign bit of such a word is clear
exactly for the numbers below `2 ^ 31`, and these are read as themselves
(`WideColumn.Bytes.toInt_word_eq_iff`).
-/

namespace WideColumn

namespace Bytes

/-- Bytes stand for a number that fits into them. -/
theorem toNat_lt (bs : Bytes) : toNat bs < 256 ^ bs.length := by
  induction bs using List.reverseRecOn with
  | nil => simp
  | append_singleton bs b ih =>
    have hb : b.toNat < 256 := b.toNat_lt
    rw [toNat_concat, List.length_append, List.length_singleton, pow_succ]
    omega

/-- Digits that are dropped are lost: what is read back is a remainder. -/
theorem toNat_ofNat (width n : Nat) : toNat (ofNat width n) = n % 256 ^ width := by
  induction width generalizing n with
  | zero => simp [Nat.mod_one]
  | succ width ih =>
    have hlast : (UInt8.ofNat n).toNat = n % 256 := by
      rw [UInt8.toNat_ofNat']
    rw [ofNat_succ, toNat_concat, ih, hlast, pow_succ, mul_comm (256 ^ width), Nat.mod_mul,
      add_comm]

/-- **A number is read back from its digits** if none was dropped. -/
theorem toNat_ofNat_of_lt {width n : Nat} (h : n < 256 ^ width) : toNat (ofNat width n) = n := by
  rw [toNat_ofNat, Nat.mod_eq_of_lt h]

/-- A number and its digits determine each other. -/
theorem ofNat_eq_iff {width n : Nat} (h : n < 256 ^ width) {bs : Bytes} :
    ofNat width n = bs ↔ bs.length = width ∧ toNat bs = n := by
  constructor
  · rintro rfl
    exact ⟨length_ofNat width n, toNat_ofNat_of_lt h⟩
  · rintro ⟨rfl, rfl⟩
    exact ofNat_toNat bs

/-! ### Types numbered by words -/

/-- A type whose values are numbered by the words of `width` bytes, each value by one word. -/
structure Numbering (α : Type) (width : Nat) where
  /-- The number of a value. -/
  toNat : α → Nat
  /-- The value of a number. -/
  ofNat : Nat → α
  toNat_lt : ∀ x, toNat x < 256 ^ width
  ofNat_toNat : ∀ x, ofNat (toNat x) = x
  toNat_ofNat : ∀ n < 256 ^ width, toNat (ofNat n) = n

namespace Numbering

/-- Integers of 32 bits. -/
def int32 : Numbering Int32 4 where
  toNat n := n.toUInt32.toNat
  ofNat n := (UInt32.ofNat n).toInt32
  toNat_lt n := n.toUInt32.toNat_lt
  ofNat_toNat n := by rw [UInt32.ofNat_toNat, Int32.toInt32_toUInt32]
  toNat_ofNat n hn := by rw [UInt32.toUInt32_toInt32, UInt32.toNat_ofNat_of_lt' hn]

/-- Integers of 64 bits. -/
def int64 : Numbering Int64 8 where
  toNat n := n.toUInt64.toNat
  ofNat n := (UInt64.ofNat n).toInt64
  toNat_lt n := n.toUInt64.toNat_lt
  ofNat_toNat n := by rw [UInt64.ofNat_toNat, Int64.toInt64_toUInt64]
  toNat_ofNat n hn := by rw [UInt64.toUInt64_toInt64, UInt64.toNat_ofNat_of_lt' hn]

/-- Floating-point words of 32 bits. -/
def single : Numbering Single 4 where
  toNat x := x.bits.toNat
  ofNat n := ⟨UInt32.ofNat n⟩
  toNat_lt x := x.bits.toNat_lt
  ofNat_toNat x := by rw [UInt32.ofNat_toNat]
  toNat_ofNat n hn := UInt32.toNat_ofNat_of_lt' hn

/-- Floating-point words of 64 bits. -/
def double : Numbering Double 8 where
  toNat x := x.bits.toNat
  ofNat n := ⟨UInt64.ofNat n⟩
  toNat_lt x := x.bits.toNat_lt
  ofNat_toNat x := by rw [UInt64.ofNat_toNat]
  toNat_ofNat n hn := UInt64.toNat_ofNat_of_lt' hn

/-- Addresses of four bytes. -/
def address4 : Numbering (BitVec 32) 4 where
  toNat := BitVec.toNat
  ofNat := BitVec.ofNat 32
  toNat_lt word := word.isLt
  ofNat_toNat word := by rw [BitVec.ofNat_toNat, BitVec.setWidth_eq]
  toNat_ofNat n hn := Nat.mod_eq_of_lt hn

/-- Addresses of sixteen bytes. -/
def address16 : Numbering (BitVec 128) 16 where
  toNat := BitVec.toNat
  ofNat := BitVec.ofNat 128
  toNat_lt word := word.isLt
  ofNat_toNat word := by rw [BitVec.ofNat_toNat, BitVec.setWidth_eq]
  toNat_ofNat n hn := Nat.mod_eq_of_lt hn

/-- Identifiers. -/
def uuid : Numbering Uuid 16 where
  toNat u := u.word.toNat
  ofNat n := ⟨BitVec.ofNat 128 n⟩
  toNat_lt u := u.word.isLt
  ofNat_toNat u := by rw [BitVec.ofNat_toNat, BitVec.setWidth_eq]
  toNat_ofNat n hn := Nat.mod_eq_of_lt hn

variable {α : Type} {width : Nat} (N : Numbering α width)

/-- **A value is read back from its word.** -/
theorem ofNat_toNat_ofNat (x : α) : N.ofNat (Bytes.toNat (Bytes.ofNat width (N.toNat x))) = x := by
  rw [toNat_ofNat_of_lt (N.toNat_lt x), N.ofNat_toNat]

/-- Different values have different words. -/
theorem eq_of_ofNat_toNat_eq {x y : α}
    (h : Bytes.ofNat width (N.toNat x) = Bytes.ofNat width (N.toNat y)) : x = y := by
  rw [← N.ofNat_toNat_ofNat x, h, N.ofNat_toNat_ofNat]

/-- **Every word of the width is that of the value it is read as.** -/
theorem ofNat_toNat_eq {bs : Bytes} (h : bs.length = width) :
    Bytes.ofNat width (N.toNat (N.ofNat (Bytes.toNat bs))) = bs := by
  have hlt := Bytes.toNat_lt bs
  rw [h] at hlt
  rw [N.toNat_ofNat _ hlt, ← h, Bytes.ofNat_toNat]

end Numbering

/-! ### Signed words of four bytes -/

/-- The number read from four bytes when the first bit is their sign. -/
theorem toInt_word (m : Nat) :
    (UInt32.ofNat m).toInt32.toInt = if m % 2 ^ 32 < 2 ^ 31 then ((m % 2 ^ 32 : Nat) : Int)
      else ((m % 2 ^ 32 : Nat) : Int) - 2 ^ 32 := by
  change (UInt32.ofNat m).toBitVec.toInt = _
  rw [BitVec.toInt_eq_toNat_cond]
  have hm : (UInt32.ofNat m).toBitVec.toNat = m % 2 ^ 32 := UInt32.toNat_ofNat'
  rw [hm]
  split_ifs <;> omega

/-- **A signed word of four bytes is not negative exactly if it holds a number below `2 ^ 31`**,
and then it is read as that number. -/
theorem toInt_word_eq_iff {w : Bytes} (hw : w.length = 4) {n : Nat} :
    (UInt32.ofNat (toNat w)).toInt32.toInt = n ↔ n < 2 ^ 31 ∧ ofNat 4 n = w := by
  have hlt : toNat w < 2 ^ 32 := by
    have := toNat_lt w
    rw [hw] at this
    exact this
  have hmod : toNat w % 2 ^ 32 = toNat w := Nat.mod_eq_of_lt hlt
  rw [toInt_word, hmod]
  constructor
  · intro h
    have hn : toNat w = n ∧ n < 2 ^ 31 := by
      split_ifs at h <;> omega
    refine ⟨hn.2, ?_⟩
    rw [← hn.1, ← hw]
    exact ofNat_toNat w
  · rintro ⟨hn, rfl⟩
    have hread : toNat (ofNat 4 n) = n := toNat_ofNat_of_lt (by omega)
    rw [hread, if_pos hn]

end Bytes

end WideColumn

import Mathlib
import WideColumn.Bytes.TwosComplement

/-!
# Two's complement of any width

Bytes in two's complement hold the integers of a range that is fixed by how many bytes there are
(`WideColumn.Bytes.Fits`). Three facts pin the storage of integers down:

* `WideColumn.Bytes.toInt_ofInt`: an integer is read back from its bytes;
* `WideColumn.Bytes.signedWidth_le_iff`: it takes the fewest bytes that can hold it;
* `WideColumn.Bytes.length_ofInt_toInt_le`: hence storing what was read never takes more bytes than
  were read, however many sign bytes stood in front.
-/

namespace WideColumn

namespace Bytes

/-- The integers that `width` bytes hold, the first bit being the sign. -/
def Fits (width : Nat) (n : Int) : Prop :=
  -(256 ^ width : Int) ≤ 2 * n ∧ 2 * n < 256 ^ width

/-! ### Reading digit by digit -/

/-- A byte read as a signed number. -/
theorem toInt_singleton (b : UInt8) :
    toInt [b] = if b.toNat < 128 then (b.toNat : Int) else (b.toNat : Int) - 256 := by
  have hb : b.toNat < 256 := b.toNat_lt
  change b.toBitVec.toInt = _
  rw [BitVec.toInt_eq_toNat_cond]
  have htoNat : b.toBitVec.toNat = b.toNat := rfl
  rw [htoNat]
  split_ifs <;> omega

/-- Digits after the first one have no sign. -/
theorem toInt_concat {bs : Bytes} (h : bs ≠ []) (b : UInt8) :
    toInt (bs ++ [b]) = 256 * toInt bs + b.toNat := by
  obtain ⟨c, cs, rfl⟩ := List.exists_cons_of_ne_nil h
  simp [toInt, List.foldl_append]

/-- Bytes stand for an integer that fits into them. -/
theorem fits_toInt {bs : Bytes} (h : bs ≠ []) : Fits bs.length (toInt bs) := by
  induction bs using List.reverseRecOn with
  | nil => exact absurd rfl h
  | append_singleton bs b ih =>
    have hb : b.toNat < 256 := b.toNat_lt
    rcases eq_or_ne bs [] with rfl | hbs
    · rw [List.nil_append, toInt_singleton]
      constructor <;> split_ifs <;> simp <;> omega
    · obtain ⟨width, hwidth⟩ : ∃ width, bs.length = width + 1 :=
        Nat.exists_eq_add_one.mpr (List.length_pos_iff.mpr hbs)
      obtain ⟨hlow, hhigh⟩ := ih hbs
      rw [hwidth, pow_succ] at hlow hhigh
      rw [toInt_concat hbs, List.length_append, List.length_singleton, hwidth]
      constructor <;> rw [pow_succ, pow_succ] <;> omega

/-- An integer that fits is read back from its digits. -/
theorem toInt_ofIntIn {width : Nat} {n : Int} (h : Fits (width + 1) n) :
    toInt (ofIntIn (width + 1) n) = n := by
  have hlast (m : Int) : (UInt8.ofNat (m % 256).toNat).toNat = (m % 256).toNat := by
    rw [UInt8.toNat_ofNat']
    omega
  -- the digits in front of the last one are those of the quotient, which fits into them
  induction width generalizing n with
  | zero =>
    obtain ⟨hlow, hhigh⟩ := h
    change toInt [UInt8.ofNat (n % 256).toNat] = n
    rw [toInt_singleton, hlast]
    norm_num at hlow hhigh
    split_ifs <;> omega
  | succ width ih =>
    obtain ⟨hlow, hhigh⟩ := h
    have hne : ofIntIn (width + 1) (n / 256) ≠ [] := by
      intro hnil
      have := congrArg List.length hnil
      simp at this
    have hfits : Fits (width + 1) (n / 256) := by
      rw [pow_succ, pow_succ] at hlow hhigh
      constructor <;> rw [pow_succ] <;> omega
    rw [ofIntIn, toInt_concat hne, ih hfits, hlast]
    omega

/-! ### The fewest bytes -/

theorem bitLength_le_iff (n k : Nat) : bitLength n ≤ k ↔ n < 2 ^ k := by
  unfold bitLength
  split_ifs with h
  · simp [h]
  · rw [Nat.add_one_le_iff, Nat.log2_lt h]

/-- **An integer takes the fewest bytes that can hold it.** -/
theorem signedWidth_le_iff (n : Int) (width : Nat) :
    signedWidth n ≤ width + 1 ↔ Fits (width + 1) n := by
  have hpow : (2 : Nat) ^ (8 * width + 7) * 2 = 256 ^ (width + 1) := by
    rw [← pow_succ, show (256 : Nat) = 2 ^ 8 from rfl, ← pow_mul]
    ring_nf
  have hcast : ((256 ^ (width + 1) : Nat) : Int) = 256 ^ (width + 1) := by push_cast; rfl
  have hbits (m : Nat) : bitLength m / 8 + 1 ≤ width + 1 ↔ m < 2 ^ (8 * width + 7) := by
    rw [← bitLength_le_iff]
    omega
  unfold signedWidth Fits
  rw [hbits, ← hcast, ← hpow]
  generalize (2 : Nat) ^ (8 * width + 7) = p
  push_cast
  split_ifs <;> omega

/-- An integer fits into its bytes. -/
theorem fits_signedWidth (n : Int) : Fits (signedWidth n) n :=
  (signedWidth_le_iff n _).mp le_rfl

/-- **An integer is read back from its bytes.** -/
theorem toInt_ofInt (n : Int) : toInt (ofInt n) = n :=
  toInt_ofIntIn (fits_signedWidth n)

/-- **Storing what was read never takes more bytes** than were read. -/
theorem length_ofInt_toInt_le {bs : Bytes} (h : bs ≠ []) :
    (ofInt (toInt bs)).length ≤ bs.length := by
  obtain ⟨width, hwidth⟩ : ∃ width, bs.length = width + 1 :=
    Nat.exists_eq_add_one.mpr (List.length_pos_iff.mpr h)
  rw [length_ofInt, hwidth, signedWidth_le_iff, ← hwidth]
  exact fits_toInt h

end Bytes

end WideColumn

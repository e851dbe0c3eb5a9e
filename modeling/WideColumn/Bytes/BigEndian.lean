/-!
# Big-endian words

Bytes as the digits of a number in base 256, most significant first.

* `WideColumn.Bytes.ofNat`: a number in a given count of digits, higher digits dropped;
* `WideColumn.Bytes.toNat`: the number that digits stand for;
* `WideColumn.Bytes.ofNat_toNat`: digits are those of their number.
-/

namespace WideColumn

/-- A byte sequence, as stored in a column. -/
abbrev Bytes := List UInt8

namespace Bytes

/-- The last `width` digits of `n` in base 256. -/
def ofNat : (width : Nat) → (n : Nat) → Bytes
  | 0, _ => []
  | width + 1, n => ofNat width (n / 256) ++ [UInt8.ofNat n]

/-- The number that bytes stand for as digits in base 256. -/
def toNat (bs : Bytes) : Nat :=
  bs.foldl (fun n b => 256 * n + b.toNat) 0

@[simp] theorem ofNat_zero (n : Nat) : ofNat 0 n = [] := rfl

@[simp] theorem ofNat_succ (width n : Nat) :
    ofNat (width + 1) n = ofNat width (n / 256) ++ [UInt8.ofNat n] := rfl

@[simp] theorem toNat_nil : toNat [] = 0 := rfl

@[simp] theorem toNat_concat (bs : Bytes) (b : UInt8) :
    toNat (bs ++ [b]) = 256 * toNat bs + b.toNat := by
  simp [toNat]

@[simp] theorem length_ofNat (width n : Nat) : (ofNat width n).length = width := by
  induction width generalizing n with
  | zero => rfl
  | succ width ih => simp [ih]

/-- The last digit of a number and the number without it. -/
theorem ofNat_succ_mul_add (width n : Nat) (b : UInt8) :
    ofNat (width + 1) (256 * n + b.toNat) = ofNat width n ++ [b] := by
  have hb : b.toNat < 256 := b.toNat_lt
  have hdiv : (256 * n + b.toNat) / 256 = n := by omega
  have hmod : UInt8.ofNat (256 * n + b.toNat) = b := by
    refine UInt8.toNat_inj.mp ?_
    rw [UInt8.toNat_ofNat']
    omega
  rw [ofNat_succ, hdiv, hmod]

/-- Reading and writing again in as many digits gives the same bytes. -/
theorem ofNat_toNat (bs : Bytes) : ofNat bs.length (toNat bs) = bs := by
  generalize h : bs.length = width
  induction width generalizing bs with
  | zero => exact (List.length_eq_zero_iff.mp h).symm
  | succ width ih =>
    have hne : bs ≠ [] := List.ne_nil_of_length_eq_add_one h
    obtain ⟨cs, b, rfl⟩ : ∃ cs b, bs = cs ++ [b] :=
      ⟨bs.dropLast, bs.getLast hne, (List.dropLast_concat_getLast hne).symm⟩
    have hcs : cs.length = width := by simpa using h
    rw [toNat_concat, ofNat_succ_mul_add, ih cs hcs]

end Bytes

end WideColumn

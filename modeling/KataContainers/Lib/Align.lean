import Mathlib

/-!
# Power-of-two alignment by masks

`a & (a - 1) == 0` tests that `a` is a power of two, and `(x + (a - 1)) & !(a - 1)` then rounds
`x` up to a multiple of `a`: clearing the low bits of a word rounds it down, and the mask and
its complement split the word into two parts that add up to it.
-/

namespace Align

/-- Clearing and keeping the bits of a mask split the word into two parts that add up to it. -/
theorem mask_partition (n mask : UInt64) :
    (n &&& ~~~mask).toNat + (n &&& mask).toNat = n.toNat := by
  have hdisjoint : (n.toBitVec &&& ~~~mask.toBitVec) &&& (n.toBitVec &&& mask.toBitVec) = 0 := by
    ext i
    simp only [BitVec.getElem_and, BitVec.getElem_not]
    cases n.toBitVec[i] <;> cases mask.toBitVec[i] <;> simp
  have hjoin : (n.toBitVec &&& ~~~mask.toBitVec) ||| (n.toBitVec &&& mask.toBitVec) =
      n.toBitVec := by
    ext i
    simp only [BitVec.getElem_or, BitVec.getElem_and, BitVec.getElem_not]
    cases n.toBitVec[i] <;> cases mask.toBitVec[i] <;> decide
  have hsum := BitVec.toNat_add_of_and_eq_zero hdisjoint
  rw [BitVec.add_eq_or_of_and_eq_zero _ _ hdisjoint, hjoin] at hsum
  exact hsum.symm

/-- Clearing the bits below a power of two rounds the word down to a multiple of it. -/
theorem toNat_and_not_sub_one {n a : UInt64} {k : Nat} (ha : a.toNat = 2 ^ k) :
    (n &&& ~~~(a - 1)).toNat = n.toNat - n.toNat % a.toNat := by
  have hp := mask_partition n (a - 1)
  have hpos : 0 < a.toNat := ha ▸ Nat.two_pow_pos k
  have hsub : (a - 1).toNat = 2 ^ k - 1 := by
    rw [UInt64.toNat_sub_of_le a 1 (UInt64.le_iff_toNat_le.mpr (by simp; omega)), ha]
    rfl
  have hlow : (n &&& (a - 1)).toNat = n.toNat % a.toNat := by
    rw [UInt64.toNat_and, hsub, Nat.and_two_pow_sub_one_eq_mod, ha]
  rw [hlow] at hp
  omega

/-- A nonzero word is a power of two exactly when it has no bit in common with its
predecessor. -/
theorem and_sub_one_eq_zero_iff {a : UInt64} (ha : a ≠ 0) :
    a &&& (a - 1) = 0 ↔ ∃ k, a.toNat = 2 ^ k := by
  have hpos : a.toNat ≠ 0 := fun h => ha (UInt64.toNat_inj.mp (by rw [h]; rfl))
  have hsub : (a - 1).toNat = a.toNat - 1 :=
    UInt64.toNat_sub_of_le a 1 (UInt64.le_iff_toNat_le.mpr (by simp; omega))
  rw [← UInt64.toNat_inj, UInt64.toNat_and, hsub, UInt64.toNat_zero]
  exact Nat.and_sub_one_eq_zero_iff_isPowerOfTwo hpos

/-- Rounding down to a multiple of `a` keeps every multiple of `a` below the number. -/
theorem roundDown_ge {y q a : Nat} (hq : q ≤ y) (hmod : q % a = 0) : q ≤ y - y % a := by
  have hy := Nat.div_mul_self_eq_mod_sub_self (x := y) (k := a)
  have hq' := Nat.div_mul_self_eq_mod_sub_self (x := q) (k := a)
  rw [hmod, Nat.sub_zero] at hq'
  rw [← hy, ← hq']
  exact Nat.mul_le_mul_right a (Nat.div_le_div_right hq)

/-- `m` rounded up to a multiple of `a`, as `(m + (a - 1)) & !(a - 1)` computes it. -/
def roundUp (m a : Nat) : Nat := (m + (a - 1)) - (m + (a - 1)) % a

/-- `roundUp m a` is the least multiple of `a` that is at least `m`. -/
theorem roundUp_properties (m a : Nat) (hpos : 0 < a) :
    m ≤ roundUp m a ∧ roundUp m a % a = 0 ∧ roundUp m a < m + a ∧
      ∀ q, m ≤ q → q % a = 0 → roundUp m a ≤ q := by
  unfold roundUp
  have hr := Nat.mod_lt (m + (a - 1)) hpos
  have hmul : (m + (a - 1)) - (m + (a - 1)) % a = (m + (a - 1)) / a * a := by
    rw [Nat.div_mul_self_eq_mod_sub_self]
  refine ⟨by omega, by rw [hmul, Nat.mul_mod_left], by omega, fun q hmq hq => ?_⟩
  -- the multiples of `a` below `m + a` are below `m`
  have hq' : q = q / a * a := by
    have := Nat.div_mul_self_eq_mod_sub_self (x := q) (k := a)
    omega
  have hdiv : (m + (a - 1)) / a ≤ q / a := by
    rw [Nat.div_le_iff_le_mul_add_pred hpos]
    rw [Nat.mul_comm] at hq'
    omega
  rw [hmul]
  calc (m + (a - 1)) / a * a ≤ q / a * a := Nat.mul_le_mul_right a hdiv
    _ = q := hq'.symm

end Align

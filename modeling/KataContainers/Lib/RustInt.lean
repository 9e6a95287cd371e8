import Mathlib

/-!
# Rust integer operations

The `u64`/`u32` operations of Rust's core library that are not Lean's wrapping operators:
`checked_add`, `checked_sub`, `checked_shl`, `saturating_add`, `saturating_mul` and `count_ones`,
and the arithmetic facts about them that the models use. Plain `+`, `-` and `<<` on `UInt64` are Rust's release-mode wrapping operations.
-/

namespace RustInt

/-- `u64::checked_add`. -/
def checkedAdd (a b : UInt64) : Option UInt64 :=
  if a.toNat + b.toNat < 2 ^ 64 then some (a + b) else none

/-- `u64::checked_sub`. -/
def checkedSub (a b : UInt64) : Option UInt64 :=
  if b ≤ a then some (a - b) else none

/-- `u64::checked_shl`: `None` only for a shift of 64 or more; the bits shifted out are lost. -/
def checkedShl (a : UInt64) (n : UInt32) : Option UInt64 :=
  if n < 64 then some (a <<< n.toUInt64) else none

theorem checkedAdd_eq_some_iff (a b c : UInt64) :
    checkedAdd a b = some c ↔ a.toNat + b.toNat < 2 ^ 64 ∧ c.toNat = a.toNat + b.toNat := by
  unfold checkedAdd
  split
  · rename_i h
    simp only [Option.some.injEq, h, true_and]
    constructor
    · rintro rfl
      rw [UInt64.toNat_add, Nat.mod_eq_of_lt h]
    · intro hc
      apply UInt64.toNat_inj.mp
      rw [hc, UInt64.toNat_add, Nat.mod_eq_of_lt h]
  · rename_i h
    simp only [reduceCtorEq, false_iff, not_and]
    intro h'
    exact absurd h' h

theorem checkedAdd_eq_none_iff (a b : UInt64) :
    checkedAdd a b = none ↔ 2 ^ 64 ≤ a.toNat + b.toNat := by
  unfold checkedAdd
  split <;> simp_all

/-- `u64 << 9` keeps the low 64 bits of the product with `2^9`. -/
theorem toNat_shiftLeft_nine (a : UInt64) : (a <<< 9).toNat = a.toNat * 2 ^ 9 % 2 ^ 64 := by
  rw [UInt64.toNat_shiftLeft, Nat.shiftLeft_eq]
  rfl

/-- `cmp::min` is at most its first argument. -/
theorem toNat_min_le_left (a b : UInt64) : (min a b).toNat ≤ a.toNat := by
  simp only [min]
  split
  · exact le_refl _
  · rename_i h
    rw [UInt64.le_iff_toNat_le] at h
    omega

/-- `checked_shl(20)` succeeds, and keeps the low 64 bits of the product with `2^20`. -/
theorem checkedShl_twenty (a : UInt64) :
    checkedShl a 20 = some (a <<< 20) ∧ (a <<< 20).toNat = a.toNat * 2 ^ 20 % 2 ^ 64 := by
  refine ⟨rfl, ?_⟩
  rw [UInt64.toNat_shiftLeft, Nat.shiftLeft_eq]
  rfl

/-- `u64::count_ones`. -/
def countOnes (a : UInt64) : Nat := (List.range 64).countP fun i => a.toNat.testBit i

/-- A power of two has one bit set. -/
theorem countOnes_of_toNat_eq_two_pow {a : UInt64} {k : Nat} (hk : k < 64)
    (h : a.toNat = 2 ^ k) : countOnes a = 1 := by
  have hpred : (fun i => (2 ^ k).testBit i) = fun i => i == k := by
    funext i
    rw [Nat.testBit_two_pow]
    by_cases hi : i = k
    · simp [hi]
    · simp [hi, Ne.symm hi]
  rw [countOnes, h, hpred, ← List.count]
  exact List.count_eq_one_of_mem List.nodup_range (List.mem_range.mpr hk)

def u64Max : UInt64 := 0xffff_ffff_ffff_ffff

/-- `u64::saturating_add`. -/
def saturatingAdd (a b : UInt64) : UInt64 :=
  if a.toNat + b.toNat < 2 ^ 64 then a + b else u64Max

/-- `u64::saturating_mul`. -/
def saturatingMul (a b : UInt64) : UInt64 :=
  if a.toNat * b.toNat < 2 ^ 64 then a * b else u64Max

theorem toNat_saturatingAdd (a b : UInt64) :
    (saturatingAdd a b).toNat = min (a.toNat + b.toNat) (2 ^ 64 - 1) := by
  unfold saturatingAdd
  split_ifs with h
  · rw [UInt64.toNat_add, Nat.mod_eq_of_lt h]
    omega
  · simp only [u64Max, UInt64.reduceToNat]
    omega

theorem toNat_saturatingMul (a b : UInt64) :
    (saturatingMul a b).toNat = min (a.toNat * b.toNat) (2 ^ 64 - 1) := by
  unfold saturatingMul
  split_ifs with h
  · rw [UInt64.toNat_mul, Nat.mod_eq_of_lt h]
    omega
  · simp only [u64Max, UInt64.reduceToNat]
    omega

end RustInt

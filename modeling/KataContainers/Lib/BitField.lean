import Mathlib

/-!
# Fields of a 32-bit word, and bit widths

A field of a `UInt32` is a run of `k ≥ 1` bits from bit `l`, and `IsField m l k` says that the
mask `m` is exactly those bits. A value written into a field under its mask reads back, and a
field disjoint from it keeps its bits. The width `8 - clz (n - 1)` of a nonzero `UInt8` count `n`
is the least `w` with `n ≤ 2 ^ w`, so `n` is a power of two exactly when `n = 2 ^ w`; a field of
such a width at the offset `s` reads the digit of a mixed-radix number whose lower radices
multiply to `2 ^ s`.
-/

namespace UInt32

def IsField (m : UInt32) (l k : Nat) : Prop :=
  0 < k ∧ l + k ≤ 32 ∧ m.toNat = (2 ^ k - 1) * 2 ^ l

theorem two_pow_sub_one_mul_lt {k l : Nat} (h : l + k ≤ 32) : (2 ^ k - 1) * 2 ^ l < 2 ^ 32 := by
  have hk : 2 ^ k - 1 < 2 ^ k := Nat.sub_lt (Nat.two_pow_pos k) Nat.one_pos
  calc (2 ^ k - 1) * 2 ^ l < 2 ^ k * 2 ^ l := Nat.mul_lt_mul_of_pos_right hk (Nat.two_pow_pos l)
    _ = 2 ^ (k + l) := (Nat.pow_add 2 k l).symm
    _ ≤ 2 ^ 32 := Nat.pow_le_pow_right (by decide) (by omega)

/-- The mask `((1 << k) - 1) << l` that `get_mask` builds in 64 bits and truncates. -/
theorem isField_mask {a b : UInt64} (ha : 0 < a.toNat) (hab : b.toNat + a.toNat ≤ 32) :
    IsField ((((1 : UInt64) <<< a) - 1) <<< b).toUInt32 b.toNat a.toNat := by
  have h32 := two_pow_sub_one_mul_lt hab
  have hpow : (2 : Nat) ^ a.toNat ≤ 2 ^ 32 := Nat.pow_le_pow_right (by decide) (by omega)
  have hone : ((1 : UInt64) <<< a).toNat = 2 ^ a.toNat := by
    rw [UInt64.toNat_shiftLeft, Nat.mod_eq_of_lt (show a.toNat < 64 by omega), UInt64.toNat_one,
      Nat.one_shiftLeft]
    exact Nat.mod_eq_of_lt (by omega)
  have hsub : (((1 : UInt64) <<< a) - 1).toNat = 2 ^ a.toNat - 1 := by
    rw [UInt64.toNat_sub_of_le _ _ (UInt64.le_iff_toNat_le.mpr (by simp [hone, Nat.one_le_two_pow])),
      hone, UInt64.toNat_one]
  refine ⟨ha, hab, ?_⟩
  have h64 : (2 ^ a.toNat - 1) * 2 ^ b.toNat < 2 ^ 64 := lt_of_lt_of_le h32 (by decide)
  rw [UInt64.toNat_toUInt32, UInt64.toNat_shiftLeft, hsub,
    Nat.mod_eq_of_lt (show b.toNat < 64 by omega), Nat.shiftLeft_eq, Nat.mod_eq_of_lt h64,
    Nat.mod_eq_of_lt h32]

section Field

variable {m : UInt32} {l k : Nat}

theorem IsField.testBit (hm : IsField m l k) (i : Nat) :
    m.toNat.testBit i = (decide (l ≤ i) && decide (i < l + k)) := by
  rw [hm.2.2, Nat.testBit_mul_two_pow, Nat.testBit_two_pow_sub_one]
  by_cases h : l ≤ i
  · simp only [h, decide_true, Bool.true_and]
    exact decide_eq_decide.mpr (by omega)
  · simp [h]

theorem IsField.getLsbD (hm : IsField m l k) (i : Nat) :
    m.toBitVec.getLsbD i = (decide (l ≤ i) && decide (i < l + k)) := by
  rw [← BitVec.testBit_toNat, toNat_toBitVec, hm.testBit]

theorem IsField.shiftRight {s : UInt32} (hm : IsField m s.toNat k) : (m >>> s).toNat = 2 ^ k - 1 := by
  obtain ⟨hk, hsk, hmv⟩ := hm
  rw [UInt32.toNat_shiftRight, Nat.mod_eq_of_lt (show s.toNat < 32 by omega), hmv, Nat.shiftRight_eq_div_pow,
    Nat.mul_div_cancel _ (Nat.two_pow_pos _)]

theorem toBitVec_mod_toNat {s : UInt32} (hs : s.toNat < 32) : (s.toBitVec % 32).toNat = s.toNat := by
  rw [BitVec.toNat_umod]
  simp
  omega

theorem getLsbD_of_lt_two_pow {v : UInt32} (hv : v.toNat < 2 ^ k) {i : Nat} (hi : k ≤ i) :
    v.toBitVec.getLsbD i = false := by
  rw [← BitVec.testBit_toNat, toNat_toBitVec]
  exact Nat.testBit_lt_two_pow (lt_of_lt_of_le hv (Nat.pow_le_pow_right (by decide) hi))

/-- A value below `2 ^ k`, written into the field, reads back. -/
theorem IsField.read_write {x v s : UInt32} (hm : IsField m s.toNat k) (hv : v.toNat < 2 ^ k) :
    ((x &&& ~~~m ||| v <<< s) &&& m) >>> s = v := by
  have hs : s.toNat < 32 := by have := hm.1; have := hm.2.1; omega
  apply UInt32.eq_of_toBitVec_eq
  apply BitVec.eq_of_getLsbD_eq
  intro i hi
  simp only [UInt32.toBitVec_and, UInt32.toBitVec_or, UInt32.toBitVec_not,
    UInt32.toBitVec_shiftLeft, UInt32.toBitVec_shiftRight, BitVec.ushiftRight_eq', BitVec.shiftLeft_eq', toBitVec_mod_toNat hs, BitVec.getLsbD_ushiftRight,
    BitVec.getLsbD_and, BitVec.getLsbD_or, BitVec.getLsbD_not, BitVec.getLsbD_shiftLeft,
    hm.getLsbD, Nat.add_sub_cancel_left]
  by_cases hik : i < k
  · have hlt : s.toNat + i < 32 := by have := hm.2.1; omega
    simp [hik, hlt]
  · simp [hik, getLsbD_of_lt_two_pow hv (Nat.le_of_not_lt hik)]

/-- Writing a field leaves the bits of a disjoint field as they were. -/
theorem IsField.write_and_of_disjoint {x v s m' : UInt32} {l' k' : Nat} (hm : IsField m s.toNat k)
    (hm' : IsField m' l' k') (hdisj : s.toNat + k ≤ l' ∨ l' + k' ≤ s.toNat) (hv : v.toNat < 2 ^ k) :
    (x &&& ~~~m ||| v <<< s) &&& m' = x &&& m' := by
  have hs : s.toNat < 32 := by have := hm.1; have := hm.2.1; omega
  apply UInt32.eq_of_toBitVec_eq
  apply BitVec.eq_of_getLsbD_eq
  intro i hi
  simp only [UInt32.toBitVec_and, UInt32.toBitVec_or, UInt32.toBitVec_not,
    UInt32.toBitVec_shiftLeft, BitVec.shiftLeft_eq',
    toBitVec_mod_toNat hs, BitVec.getLsbD_and, BitVec.getLsbD_or, BitVec.getLsbD_not,
    BitVec.getLsbD_shiftLeft, hm.getLsbD, hm'.getLsbD]
  by_cases hin : l' ≤ i ∧ i < l' + k'
  · have hout : ¬ (s.toNat ≤ i ∧ i < s.toNat + k) := by omega
    by_cases hsi : i < s.toNat
    · simp [hin.1, hin.2, hsi, hi]
    · have hvi := getLsbD_of_lt_two_pow hv (show k ≤ i - s.toNat by omega)
      simp [hin.1, hin.2, hsi, hvi, hi, show ¬ i < s.toNat + k by omega]
  · rw [not_and_or] at hin
    rcases hin with h | h <;> simp [h]

end Field

end UInt32

namespace UInt8

/-- `8 - clz x` bits hold `x`. -/
theorem toNat_lt_two_pow_sub_clz (x : UInt8) : x.toNat < 2 ^ (8 - x.toBitVec.clz.toNat) := by
  simpa using BitVec.toNat_lt_two_pow_sub_clz (x := x.toBitVec)

theorem two_pow_sub_clz_le (x : UInt8) (hx : x ≠ 0) : 2 ^ (8 - 1 - x.toBitVec.clz.toNat) ≤ x.toNat := by
  have hbv : x.toBitVec ≠ 0#8 := fun h => hx (UInt8.eq_of_toBitVec_eq h)
  simpa using BitVec.two_pow_sub_clz_le_toNat_of_ne_zero (by decide) hbv

theorem clz_toNat_le (x : UInt8) : x.toBitVec.clz.toNat ≤ 8 :=
  BitVec.le_def.mp (BitVec.clz_le (x := x.toBitVec))

theorem toNat_pos {n : UInt8} (hn : n ≠ 0) : 0 < n.toNat :=
  Nat.pos_of_ne_zero fun h => hn (UInt8.toNat.inj (by simp [h]))

theorem toNat_sub_one {n : UInt8} (hn : n ≠ 0) : (n - 1).toNat = n.toNat - 1 := by
  have hpos := toNat_pos hn
  rw [UInt8.toNat_sub_of_le _ _ (UInt8.le_iff_toNat_le.mpr (by rw [UInt8.toNat_one]; omega)),
    UInt8.toNat_one]

/-- The width of a nonzero count `n` is the least `w` with `n ≤ 2 ^ w`. -/
theorem le_two_pow_width {n : UInt8} (hn : n ≠ 0) : n.toNat ≤ 2 ^ (8 - (n - 1).toBitVec.clz.toNat) := by
  have hlt := toNat_lt_two_pow_sub_clz (n - 1)
  rw [toNat_sub_one hn] at hlt
  omega

theorem two_pow_width_lt {n : UInt8} (hn : 1 < n.toNat) :
    2 ^ (8 - (n - 1).toBitVec.clz.toNat) < 2 * n.toNat := by
  have hn0 : n ≠ 0 := fun h => by simp [h] at hn
  have hne : n - 1 ≠ 0 := fun h => by
    have := congrArg UInt8.toNat h
    rw [toNat_sub_one hn0] at this
    simp at this; omega
  have hlo := two_pow_sub_clz_le (n - 1) hne
  rw [toNat_sub_one hn0] at hlo
  have hlt : (n - 1).toBitVec.clz.toNat < 8 :=
    BitVec.lt_def.mp (BitVec.clz_lt_iff_ne_zero.mpr fun h => hne (UInt8.eq_of_toBitVec_eq h))
  have hw : 8 - (n - 1).toBitVec.clz.toNat = (8 - 1 - (n - 1).toBitVec.clz.toNat) + 1 := by omega
  rw [hw, Nat.pow_succ]
  omega

/-- A nonzero count is a power of two exactly when it fills its width. -/
theorem isPowerOfTwo_iff_eq_two_pow_width {n : UInt8} (hn : n ≠ 0) :
    n.toNat.isPowerOfTwo ↔ n.toNat = 2 ^ (8 - (n - 1).toBitVec.clz.toNat) := by
  constructor
  · rintro ⟨j, hj⟩
    have hup := le_two_pow_width hn
    by_cases h1 : n.toNat = 1
    · have hz : n - 1 = 0 := UInt8.toNat.inj (by rw [toNat_sub_one hn, h1]; rfl)
      simp [hz, h1]
    · have hlo := two_pow_width_lt (n := n) (by have := toNat_pos hn; omega)
      rw [hj] at hup hlo ⊢
      have hj' : j ≤ 8 - (n - 1).toBitVec.clz.toNat := (Nat.pow_le_pow_iff_right (by decide)).mp hup
      have hj'' : 8 - (n - 1).toBitVec.clz.toNat < j + 1 := by
        rw [← Nat.pow_lt_pow_iff_right (show 1 < 2 by decide), Nat.pow_succ]; omega
      rw [show j = 8 - (n - 1).toBitVec.clz.toNat by omega]
  · intro h
    exact ⟨_, h⟩

end UInt8

namespace Nat

/-- A bit field at offset `s` of width `w` reads the digit of radix `r` above a place value
`2 ^ s`, when the radix fills the field or the digit is the leading one. -/
theorem shiftRight_mod_two_pow_eq_div_mod {c s w r : Nat} (hr : r ≤ 2 ^ w)
    (h : r = 2 ^ w ∨ c / 2 ^ s < r) : (c >>> s) % 2 ^ w = c / 2 ^ s % r := by
  rw [Nat.shiftRight_eq_div_pow]
  rcases h with h | h
  · rw [h]
  · rw [Nat.mod_eq_of_lt h, Nat.mod_eq_of_lt (lt_of_lt_of_le h hr)]

end Nat

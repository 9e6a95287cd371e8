import Mathlib.Tactic.IntervalCases
import Mathlib.Data.Nat.Bitwise

/-!
# Bits of a 16-bit word

The facts about `UInt16` that a register split into bytes needs: the two bytes of a word put
back together, the high byte as a mask of the word, a bit read by a shift or by its mask, and
the bits of a masked update. Each is proved on `toBitVec`, bit by bit.
-/

namespace UInt16

/-- A word is its low byte and its high byte put back in place. -/
theorem toUInt8_toUInt16_or_shiftLeft (v : UInt16) :
    v.toUInt8.toUInt16 ||| ((v >>> 8).toUInt8.toUInt16 <<< 8) = v := by
  apply UInt16.eq_of_toBitVec_eq
  simp only [UInt16.toBitVec_or, UInt16.toBitVec_shiftLeft, UInt8.toBitVec_toUInt16,
    UInt16.toBitVec_toUInt8, UInt16.toBitVec_shiftRight]
  ext i hi
  simp only [BitVec.getElem_or, BitVec.getElem_setWidth]
  -- bit `i` comes from the low byte, or from bit `i - 8` of the high byte
  by_cases h : i < 8
  · simp [h, BitVec.getLsbD_eq_getElem hi]
  · have h1 : i - 8 < 8 := by omega
    have h2 : 8 + (i - 8) = i := by omega
    simp [h, h1, h2, BitVec.getLsbD_eq_getElem hi]

/-- The high byte shifted back in place is the word's high half. -/
theorem highByte_shiftLeft (w : UInt16) : (w >>> 8).toUInt8.toUInt16 <<< 8 = w &&& 0xff00 := by
  apply UInt16.eq_of_toBitVec_eq
  simp only [UInt16.toBitVec_and, UInt16.toBitVec_shiftLeft, UInt8.toBitVec_toUInt16,
    UInt16.toBitVec_toUInt8, UInt16.toBitVec_shiftRight]
  ext i hi
  simp only [BitVec.getElem_and]
  by_cases h : i < 8
  · have h0 : (0xff00#16)[i] = false := by interval_cases i <;> simp
    simp [h, h0]
  · have h1 : i - 8 < 8 := by omega
    have h2 : 8 + (i - 8) = i := by omega
    have h0 : (0xff00#16)[i] = true := by interval_cases i <;> simp
    simp [h, h1, h2, h0, BitVec.getLsbD_eq_getElem hi]

/-- Replacing the bits `c` of `m` by those of `y` leaves `y`'s bits inside `c`. -/
theorem and_not_or_and_and {m y c d : UInt16} (hd : c &&& d = d) :
    (m &&& ~~~c ||| y &&& c) &&& d = y &&& d := by
  apply UInt16.eq_of_toBitVec_eq
  ext i hi
  have hdi := congrArg (fun x : UInt16 => x.toBitVec[i]) hd
  simp only [UInt16.toBitVec_and, BitVec.getElem_and] at hdi
  simp only [UInt16.toBitVec_and, UInt16.toBitVec_or, UInt16.toBitVec_not, BitVec.getElem_and,
    BitVec.getElem_or, BitVec.getElem_not]
  cases m.toBitVec[i] <;> cases y.toBitVec[i] <;> cases hc : c.toBitVec[i] <;>
    cases hdd : d.toBitVec[i] <;> simp_all

theorem toBitVec_mod_toNat {b : UInt16} (hb : b.toNat < 16) :
    (b.toBitVec % 16#16).toNat = b.toNat := by
  rw [BitVec.toNat_umod]
  simp
  omega

/-- The bit `b` of a word, by its mask. -/
theorem and_one_shiftLeft (x b : UInt16) (hb : b.toNat < 16) :
    x &&& (1 <<< b) = if x.toBitVec[b.toNat] then 1 <<< b else 0 := by
  apply UInt16.eq_of_toBitVec_eq
  ext i hi
  split
  case isTrue h =>
    simp [BitVec.shiftLeft_eq', toBitVec_mod_toNat hb]
    intro hle hi0
    obtain rfl : i = b.toNat := by omega
    exact h
  case isFalse h =>
    simp [BitVec.shiftLeft_eq', toBitVec_mod_toNat hb]
    intro hx hle hi0
    obtain rfl : i = b.toNat := by omega
    exact h hx

/-- The bit `b` of a word, shifted down. -/
theorem shiftRight_and_one (x b : UInt16) (hb : b.toNat < 16) :
    (x >>> b) &&& 1 = if x.toBitVec[b.toNat] then 1 else 0 := by
  apply UInt16.eq_of_toBitVec_eq
  ext i hi
  split
  case isTrue h =>
    simp [BitVec.ushiftRight_eq', toBitVec_mod_toNat hb]
    rintro rfl
    simpa [BitVec.getLsbD_eq_getElem hb] using h
  case isFalse h =>
    simp [BitVec.ushiftRight_eq', toBitVec_mod_toNat hb]
    intro hx hi0
    subst hi0
    exact h (by simpa [BitVec.getLsbD_eq_getElem hb] using hx)

theorem one_shiftLeft_ne_zero {b : UInt16} (hb : b.toNat < 16) : (1 : UInt16) <<< b ≠ 0 := by
  intro h0
  have h := congrArg UInt16.toNat h0
  rw [UInt16.toNat_shiftLeft] at h
  have hpow : 2 ^ b.toNat < 65536 := Nat.pow_lt_pow_right (by norm_num) hb
  simp only [UInt16.toNat_one, Nat.mod_eq_of_lt hb, Nat.one_shiftLeft, Nat.mod_eq_of_lt hpow,
    UInt16.toNat_zero] at h
  exact (Nat.two_pow_pos _).ne' h

/-- A bit read by a shift is the bit read by its mask. -/
theorem shiftRight_and_one_beq (x b : UInt16) (hb : b.toNat < 16) :
    ((x >>> b) &&& 1 == 1) = (x &&& (1 <<< b) != 0) := by
  rw [shiftRight_and_one x b hb, and_one_shiftLeft x b hb]
  split <;> simp [one_shiftLeft_ne_zero hb]

end UInt16

import Mathlib

/-!
# Bits of a 32-bit register

The facts about `UInt32` that a register with writable bits needs: a write merged under the
writable mask, read back inside and outside the mask, and the complement of `x - 1`, which is
how a size is turned into an address mask. The bit facts are proved on `toBitVec`, bit by bit.
-/

namespace UInt32

theorem not_sub_one (x : UInt32) : ~~~(x - 1) = -x := by
  rw [not_eq_neg_sub]
  grind

/-- Replacing the bits `c` of `m` by those of `y` leaves `y`'s bits inside `c`. -/
theorem and_not_or_and_and {m y c d : UInt32} (hd : c &&& d = d) :
    (m &&& ~~~c ||| y &&& c) &&& d = y &&& d := by
  apply UInt32.eq_of_toBitVec_eq
  ext i hi
  have hdi := congrArg (fun x : UInt32 => x.toBitVec[i]) hd
  simp only [UInt32.toBitVec_and, BitVec.getElem_and] at hdi
  simp only [UInt32.toBitVec_and, UInt32.toBitVec_or, UInt32.toBitVec_not, BitVec.getElem_and,
    BitVec.getElem_or, BitVec.getElem_not]
  cases m.toBitVec[i] <;> cases y.toBitVec[i] <;> cases hc : c.toBitVec[i] <;>
    cases hdd : d.toBitVec[i] <;> simp_all

/-- Bits `l` disjoint from the mask `m` are what is left outside it. -/
theorem and_or_and_not {a m l : UInt32} (h : l &&& m = 0) : (a &&& m ||| l) &&& ~~~m = l := by
  apply UInt32.eq_of_toBitVec_eq
  ext i hi
  have hli := congrArg (fun x : UInt32 => x.toBitVec[i]) h
  simp only [UInt32.toBitVec_and, BitVec.getElem_and, UInt32.toBitVec_zero,
    BitVec.getElem_zero] at hli
  simp only [UInt32.toBitVec_and, UInt32.toBitVec_or, UInt32.toBitVec_not, BitVec.getElem_and,
    BitVec.getElem_or, BitVec.getElem_not]
  cases a.toBitVec[i] <;> cases hl : l.toBitVec[i] <;> cases hm : m.toBitVec[i] <;> simp_all

/-- Bits `l` disjoint from the mask `m` do not show inside it. -/
theorem or_and_of_and_eq_zero {a m l : UInt32} (h : l &&& m = 0) : (l ||| a) &&& m = a &&& m := by
  apply UInt32.eq_of_toBitVec_eq
  ext i hi
  have hli := congrArg (fun x : UInt32 => x.toBitVec[i]) h
  simp only [UInt32.toBitVec_and, BitVec.getElem_and, UInt32.toBitVec_zero,
    BitVec.getElem_zero] at hli
  simp only [UInt32.toBitVec_and, UInt32.toBitVec_or, BitVec.getElem_and, BitVec.getElem_or]
  cases a.toBitVec[i] <;> cases hl : l.toBitVec[i] <;> cases hm : m.toBitVec[i] <;> simp_all

/-- Inside the mask `c`, a merge shows only the bits merged in. -/
theorem and_not_or_and {m y c : UInt32} : (m &&& ~~~c ||| y) &&& c = y &&& c := by
  apply UInt32.eq_of_toBitVec_eq
  ext i hi
  simp only [UInt32.toBitVec_and, UInt32.toBitVec_or, UInt32.toBitVec_not, BitVec.getElem_and,
    BitVec.getElem_or, BitVec.getElem_not]
  cases m.toBitVec[i] <;> cases y.toBitVec[i] <;> cases c.toBitVec[i] <;> simp

/-- Bits `d` set in `m` stay set when more bits are added. -/
theorem or_and_of_and_eq {y m d : UInt32} (h : m &&& d = d) : (y ||| m) &&& d = d := by
  apply UInt32.eq_of_toBitVec_eq
  ext i hi
  have hdi := congrArg (fun x : UInt32 => x.toBitVec[i]) h
  simp only [UInt32.toBitVec_and, BitVec.getElem_and] at hdi
  simp only [UInt32.toBitVec_and, UInt32.toBitVec_or, BitVec.getElem_and, BitVec.getElem_or]
  cases y.toBitVec[i] <;> cases hm : m.toBitVec[i] <;> cases hd : d.toBitVec[i] <;> simp_all

end UInt32

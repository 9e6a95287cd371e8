import Mathlib

/-!
# Bit vectors of the `bit_vec` crate

A `bit_vec::BitVec` is a sequence of bits. `from_elem` and `grow` fill it with one value, `set`
asserts that its index is in bounds (`none` is that panic), and `to_bytes` packs it eight bits
to a byte, the first bit of each group the most significant, the last byte padded with zeros.
-/

namespace BitVecCrate

def fromElem (nbits : Nat) (bit : Bool) : List Bool := List.replicate nbits bit

def grow (v : List Bool) (n : Nat) (value : Bool) : List Bool := v ++ List.replicate n value

def set (v : List Bool) (i : Nat) (x : Bool) : Option (List Bool) :=
  if i < v.length then some (v.set i x) else none

/-- The helper `bit` of `to_bytes`: bit `bit` of byte `byte`, shifted to its place. -/
def bit (v : List Bool) (byte bit : Nat) : UInt8 :=
  let offset := byte * 8 + bit
  if offset ≥ v.length then 0 else (v.getD offset false).toUInt8 <<< (7 - bit).toUInt8

def toBytes (v : List Bool) : List UInt8 :=
  let len := v.length / 8 + if v.length % 8 = 0 then 0 else 1
  (List.range len).map fun i =>
    bit v i 0 ||| bit v i 1 ||| bit v i 2 ||| bit v i 3 ||| bit v i 4 ||| bit v i 5 |||
      bit v i 6 ||| bit v i 7

example : toBytes [false, false, false, true, true, true, false, false] = [0b11100] := by decide

@[simp] theorem length_fromElem (nbits : Nat) (b : Bool) : (fromElem nbits b).length = nbits :=
  List.length_replicate

@[simp] theorem length_grow (v : List Bool) (n : Nat) (b : Bool) :
    (grow v n b).length = v.length + n := by
  simp [grow]

theorem set_of_lt {v : List Bool} {i : Nat} (h : i < v.length) (x : Bool) :
    set v i x = some (v.set i x) := if_pos h

theorem length_toBytes (v : List Bool) : (toBytes v).length = (v.length + 7) / 8 := by
  simp only [toBytes, List.length_map, List.length_range]
  split_ifs <;> omega

theorem testBit_bit (v : List Bool) (byte : Nat) {k : Nat} (hk : k < 8) (j : Nat) :
    (bit v byte k).toNat.testBit j = (decide (k + j = 7) && v.getD (byte * 8 + k) false) := by
  unfold bit
  dsimp only
  split_ifs with hout
  · -- past the end `bit` is zero, and so is the default of `getD`
    rw [List.getD_eq_default _ _ hout]
    simp
  · have hshift : ((7 - k).toUInt8).toNat % 8 = 7 - k := by
      simp [Nat.toUInt8]
      omega
    rw [UInt8.toNat_shiftLeft, hshift, Nat.testBit_mod_two_pow, Nat.testBit_shiftLeft]
    cases v.getD (byte * 8 + k) false with
    | false => simp [Bool.toUInt8]
    | true =>
        have hone : ∀ i, Nat.testBit 1 i = decide (i = 0) := by
          intro i
          cases i <;> simp [Nat.testBit_succ]
        simp only [Bool.toUInt8, if_true, UInt8.toNat_one, hone, Bool.and_true]
        rw [Bool.eq_iff_iff]
        simp only [Bool.and_eq_true, decide_eq_true_eq]
        omega

/-- Bit `j` of byte `byte` of `to_bytes`, counted from the least significant, is the bit at
`byte * 8 + 7 - j`. -/
theorem testBit_toBytes (v : List Bool) {byte j : Nat} (hbyte : byte < (toBytes v).length)
    (hj : j < 8) : ((toBytes v)[byte]).toNat.testBit j = v.getD (byte * 8 + 7 - j) false := by
  simp only [toBytes, List.getElem_map, List.getElem_range, UInt8.toNat_or, Nat.testBit_or]
  rw [testBit_bit v byte (by omega) j, testBit_bit v byte (by omega) j,
    testBit_bit v byte (by omega) j, testBit_bit v byte (by omega) j,
    testBit_bit v byte (by omega) j, testBit_bit v byte (by omega) j,
    testBit_bit v byte (by omega) j, testBit_bit v byte (by omega) j]
  interval_cases j <;> simp

end BitVecCrate

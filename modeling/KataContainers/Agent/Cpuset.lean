import KataContainers.Lib.BitVecCrate
import KataContainers.Lib.RustStd

/-!
# The cpuset transformer of the systemd driver

`CpuSet::apply` of `rustjail::cgroups::systemd` pushes `AllowedCPUs` and `AllowedMemoryNodes`,
each the bytes `BitMask::try_from` makes of a cpuset list. `try_from` grows a
`bit_vec::BitVec` eight bits at a time, sets bit `adjust_index(i)` for every listed CPU `i`,
packs it with `to_bytes` and reverses the bytes. Its numbers are read as `usize`, 64 bits wide.
A result is `Option (Except String _)`: `none` is a panic, an error carries its message.
-/

namespace KataContainers.Cgroups

open RustStd

/-- `BitMask(Vec<u8>)`. -/
structure BitMask where
  bytes : List UInt8
deriving DecidableEq, Repr

def adjustIndex (idx : Nat) : Nat := idx / 8 * 8 + 7 - idx % 8

/-- `while idx >= bitmask_vec.len() { bitmask_vec.grow(8, false) }`. Each round adds eight
bits, so `idx + 1` rounds of fuel are more than the loop takes. -/
def growPast (idx : Nat) : Nat → List Bool → List Bool
  | 0, v => v
  | fuel + 1, v => if idx ≥ v.length then growPast idx fuel (BitVecCrate.grow v 8 false) else v

/-- `for idx in left_index..=right_index { bitmask_vec.set(adjust_index(idx), true) }`. -/
def setRange (v : List Bool) (leftIndex rightIndex : Nat) : Option (List Bool) :=
  (List.range' leftIndex (rightIndex + 1 - leftIndex)).foldlM
    (fun v idx => BitVecCrate.set v (adjustIndex idx) true) v

/-- One item between commas of `bitmask_str`. -/
def applyItem (bitmaskStr : String) (v : List Bool) (bitmask : List Char) :
    Option (Except String (List Bool)) :=
  match bitmask.splitOn '-' with
  | [field₀] =>
      match fromStrRadix10 64 field₀ with
      | .error e => some (.error e.description)
      | .ok idx => (BitVecCrate.set (growPast idx (idx + 1) v) (adjustIndex idx) true).map .ok
  | [field₀, field₁] =>
      match fromStrRadix10 64 field₀, fromStrRadix10 64 field₁ with
      | .error e, _ => some (.error e.description)
      | .ok _, .error e => some (.error e.description)
      | .ok leftIndex, .ok rightIndex =>
          (setRange (growPast rightIndex (rightIndex + 1) v) leftIndex rightIndex).map .ok
  | _ => some (.error ("invalid bitmask str " ++ bitmaskStr))

/-- The loop over the items, which returns at the first error. -/
def applyItems (bitmaskStr : String) : List Bool → List (List Char) →
    Option (Except String (List Bool))
  | v, [] => some (.ok v)
  | v, bitmask :: rest =>
      match applyItem bitmaskStr v bitmask with
      | some (.ok v) => applyItems bitmaskStr v rest
      | r => r

namespace BitMask

/-- `BitMask::try_from(&str)`. -/
def tryFrom (bitmaskStr : String) : Option (Except String BitMask) :=
  (applyItems bitmaskStr (BitVecCrate.fromElem 8 false) (bitmaskStr.toList.splitOn ',')).map
    fun r => r.map fun v => ⟨(BitVecCrate.toBytes v).reverse⟩

-- the unit test `test_bitmask_conversion`
example : tryFrom "2-4" = some (.ok ⟨[0b11100]⟩) := by decide
example : tryFrom "0,2-3,7" = some (.ok ⟨[0b10001101]⟩) := by decide

end BitMask

namespace CpuSet

def basicSystemdVersion : String := "244"

/-- A mask pushed under `key`, when the field is given. -/
def pushMask (properties : List (String × List UInt8)) (key : String) (value : Option String) :
    Option (Except String (List (String × List UInt8))) :=
  match value with
  | some s => (BitMask.tryFrom s).map fun r => r.map fun mask => properties ++ [(key, mask.bytes)]
  | none => some (.ok properties)

/-- `CpuSet::apply` on the `cpus` and `mems` of a `LinuxCpu`; both properties it pushes are
byte arrays. -/
def apply (cpus mems : Option String) (properties : List (String × List UInt8))
    (systemdVersion : String) : Option (Except String (List (String × List UInt8))) :=
  if systemdVersion < basicSystemdVersion then some (.ok properties)
  else
    match pushMask properties "AllowedCPUs" cpus with
    | some (.ok properties) => pushMask properties "AllowedMemoryNodes" mems
    | r => r

end CpuSet

/-! ### The bits the loop sets -/

/-- The bits of a `BitVec` of `len` bits after the loop has set `adjust_index(idx)` for every
`idx` of `cpus`. -/
def markedBits (len : Nat) (cpus : List Nat) : List Bool :=
  (List.range len).map fun p => cpus.any fun idx => adjustIndex idx == p

@[simp] theorem length_markedBits (len : Nat) (cpus : List Nat) :
    (markedBits len cpus).length = len := by
  simp [markedBits]

theorem getD_markedBits (len : Nat) (cpus : List Nat) (p : Nat) :
    (markedBits len cpus).getD p false = (decide (p < len) && cpus.any fun idx => adjustIndex idx == p) := by
  rw [List.getD_eq_getElem?_getD, markedBits, List.getElem?_map]
  by_cases hp : p < len <;> simp [hp]

theorem adjustIndex_lt {idx len : Nat} (h8 : 8 ∣ len) (h : idx < len) : adjustIndex idx < len := by
  unfold adjustIndex
  omega

/-- Within a byte, `adjust_index` reverses the order of the bits. -/
theorem adjustIndex_eq_iff {idx q j : Nat} (hj : j < 8) :
    adjustIndex idx = q * 8 + 7 - j ↔ idx = q * 8 + j := by
  unfold adjustIndex
  omega

theorem fromElem_eq_markedBits : BitVecCrate.fromElem 8 false = markedBits 8 [] := by
  decide

theorem grow_markedBits {len : Nat} {cpus : List Nat} (h8 : 8 ∣ len) (h : ∀ c ∈ cpus, c < len) :
    BitVecCrate.grow (markedBits len cpus) 8 false = markedBits (len + 8) cpus := by
  apply List.ext_getElem
  · simp
  · intro p hp₁ hp₂
    simp only [BitVecCrate.grow, markedBits, List.getElem_map, List.getElem_range]
    by_cases hp : p < len
    · rw [List.getElem_append_left (by simpa using hp)]
      simp
    · -- the new bits are clear: every set bit lies below `len`
      rw [List.getElem_append_right (by simpa using hp)]
      simp only [List.getElem_replicate, List.length_map, List.length_range]
      symm
      rw [List.any_eq_false]
      intro c hc
      have := adjustIndex_lt h8 (h c hc)
      simp only [beq_iff_eq]
      omega

/-- The growth loop ends with the first multiple of eight past `idx`, or leaves a long enough
vector as it is. -/
theorem growPast_markedBits {idx : Nat} (fuel : Nat) {len : Nat} {cpus : List Nat} (h8 : 8 ∣ len)
    (h : ∀ c ∈ cpus, c < len) (hfuel : idx < len + 8 * fuel) :
    growPast idx fuel (markedBits len cpus) = markedBits (max len (8 * (idx / 8 + 1))) cpus := by
  induction fuel generalizing len with
  | zero =>
      have hmax : max len (8 * (idx / 8 + 1)) = len := by omega
      rw [growPast, hmax]
  | succ fuel ih =>
      rw [growPast, length_markedBits]
      split_ifs with hidx
      · rw [grow_markedBits h8 h, ih (by omega) (fun c hc => by have := h c hc; omega) (by omega)]
        congr 1
        omega
      · have hmax : max len (8 * (idx / 8 + 1)) = len := by omega
        rw [hmax]

theorem set_markedBits {len idx : Nat} {cpus : List Nat} (h : adjustIndex idx < len) :
    BitVecCrate.set (markedBits len cpus) (adjustIndex idx) true =
      some (markedBits len (cpus ++ [idx])) := by
  rw [BitVecCrate.set_of_lt (by simpa using h)]
  congr 1
  apply List.ext_getElem
  · simp
  · intro p hp₁ hp₂
    simp only [List.getElem_set, markedBits, List.getElem_map, List.getElem_range, List.any_append,
      List.any_cons, List.any_nil, Bool.or_false]
    by_cases hp : adjustIndex idx = p
    · simp [hp]
    · simp [hp]

theorem foldlM_set_markedBits {len : Nat} (l : List Nat) {cpus : List Nat}
    (h : ∀ x ∈ l, adjustIndex x < len) :
    l.foldlM (fun v idx => BitVecCrate.set v (adjustIndex idx) true) (markedBits len cpus) =
      some (markedBits len (cpus ++ l)) := by
  induction l generalizing cpus with
  | nil => simp
  | cons x l ih =>
      rw [List.foldlM_cons, set_markedBits (h x (by simp)), Option.bind_eq_bind, Option.bind_some,
        ih (fun y hy => h y (by simp [hy]))]
      simp

/-! ### The list grammar -/

/-- An item of a cpuset list with the CPUs it stands for: a `usize` index, or a range `a-b`
with `a ≤ b`. -/
inductive CpusetItem : List Char → List Nat → Prop
  | index {t : List Char} {n : Nat} : IsDecimal 64 t n → CpusetItem t [n]
  | range {a b : List Char} {m n : Nat} : IsDecimal 64 a m → IsDecimal 64 b n → m ≤ n →
      CpusetItem (a ++ '-' :: b) (List.range' m (n - m + 1))

/-- Bit `i` of a mask in systemd's layout of `AllowedCPUs`: bit `i % 8` of byte `i / 8`. -/
def maskBit (mask : List UInt8) (i : Nat) : Bool :=
  match mask[i / 8]? with
  | some b => b.toNat.testBit (i % 8)
  | none => false

theorem foldr_max_eq_max (a : Nat) (l : List Nat) : l.foldr max a = max (l.foldr max 0) a := by
  induction l with
  | nil => simp
  | cons x l ih =>
      rw [List.foldr_cons, List.foldr_cons, ih]
      omega

theorem foldr_max_append (l l' : List Nat) :
    (l ++ l').foldr max 0 = max (l.foldr max 0) (l'.foldr max 0) := by
  rw [List.foldr_append, foldr_max_eq_max]

theorem lt_of_mem_foldr_max {c : Nat} {cpus : List Nat} (hc : c ∈ cpus) :
    c < 8 * (cpus.foldr max 0 / 8 + 1) := by
  have : c ≤ cpus.foldr max 0 := List.le_max_of_le hc le_rfl
  omega

theorem foldr_max_range' {m n : Nat} (hmn : m ≤ n) : (List.range' m (n - m + 1)).foldr max 0 = n := by
  apply le_antisymm
  · apply List.max_le_of_forall_le
    intro x hx
    obtain ⟨i, hi, rfl⟩ := List.mem_range'.mp hx
    omega
  · apply List.le_max_of_le _ le_rfl
    exact List.mem_range'.mpr ⟨n - m, by omega, by omega⟩

/-- One item of the grammar sets the bits of its CPUs and grows the vector to its top. -/
theorem applyItem_markedBits (bitmaskStr : String) {t : List Char} {v : List Nat}
    (hitem : CpusetItem t v) (cpus : List Nat) :
    applyItem bitmaskStr (markedBits (8 * (cpus.foldr max 0 / 8 + 1)) cpus) t =
      some (.ok (markedBits (8 * ((cpus ++ v).foldr max 0 / 8 + 1)) (cpus ++ v))) := by
  have hcpus : ∀ c ∈ cpus, c < 8 * (cpus.foldr max 0 / 8 + 1) := fun c hc => lt_of_mem_foldr_max hc
  have hdash : ('-' : Char).isDigit = false := by decide
  cases hitem with
  | index hn =>
      rename_i n
      have hparse : fromStrRadix10 64 t = .ok n :=
        fromStrRadix10_eq_ok_iff.mpr (parseUnsigned_eq_some_iff.mpr (.inl hn))
      have hgrow := @growPast_markedBits n (n + 1) _ cpus (by omega) hcpus (by omega)
      have hlen : max (8 * (cpus.foldr max 0 / 8 + 1)) (8 * (n / 8 + 1)) =
          8 * ((cpus ++ [n]).foldr max 0 / 8 + 1) := by
        rw [foldr_max_append]
        simp only [List.foldr_cons, List.foldr_nil]
        omega
      rw [hlen] at hgrow
      simp only [applyItem, List.splitOn_eq_singleton (hn.not_mem hdash), hparse, hgrow]
      rw [set_markedBits (adjustIndex_lt (by omega) (lt_of_mem_foldr_max (by simp)))]
      rfl
  | range ha hb hmn =>
      rename_i a b m n
      have hsplit := splitOn_append_cons (ha.not_mem hdash) (hb.not_mem hdash)
      have hparse₀ : fromStrRadix10 64 a = .ok m :=
        fromStrRadix10_eq_ok_iff.mpr (parseUnsigned_eq_some_iff.mpr (.inl ha))
      have hparse₁ : fromStrRadix10 64 b = .ok n :=
        fromStrRadix10_eq_ok_iff.mpr (parseUnsigned_eq_some_iff.mpr (.inl hb))
      have hgrow := @growPast_markedBits n (n + 1) _ cpus (by omega) hcpus (by omega)
      have hlen : max (8 * (cpus.foldr max 0 / 8 + 1)) (8 * (n / 8 + 1)) =
          8 * ((cpus ++ List.range' m (n - m + 1)).foldr max 0 / 8 + 1) := by
        rw [foldr_max_append, foldr_max_range' hmn]
        omega
      rw [hlen] at hgrow
      have hsub : n + 1 - m = n - m + 1 := by omega
      simp only [applyItem, hsplit, hparse₀, hparse₁, hgrow, setRange, hsub]
      rw [foldlM_set_markedBits]
      · rfl
      · intro x hx
        exact adjustIndex_lt (by omega) (lt_of_mem_foldr_max (by simp [hx]))

theorem applyItems_markedBits (bitmaskStr : String) {items : List (List Char)}
    {vals : List (List Nat)} (hitems : List.Forall₂ CpusetItem items vals) (cpus : List Nat) :
    applyItems bitmaskStr (markedBits (8 * (cpus.foldr max 0 / 8 + 1)) cpus) items =
      some (.ok (markedBits (8 * ((cpus ++ vals.flatten).foldr max 0 / 8 + 1))
        (cpus ++ vals.flatten))) := by
  induction hitems generalizing cpus with
  | nil => simp [applyItems]
  | cons hitem _ ih =>
      rw [applyItems, applyItem_markedBits bitmaskStr hitem cpus]
      simp only
      rw [ih, List.flatten_cons, List.append_assoc]

theorem CpusetItem.comma_not_mem {t : List Char} {v : List Nat} (h : CpusetItem t v) :
    ',' ∉ t := by
  have hcomma : (',' : Char).isDigit = false := by decide
  cases h with
  | index hn => exact hn.not_mem hcomma
  | range ha hb _ =>
      simp only [List.mem_append, List.mem_cons, not_or]
      exact ⟨ha.not_mem hcomma, by decide, hb.not_mem hcomma⟩

theorem comma_not_mem_of_forall₂ {items : List (List Char)} {vals : List (List Nat)}
    (h : List.Forall₂ CpusetItem items vals) : ∀ t ∈ items, ',' ∉ t := by
  induction h with
  | nil => simp
  | cons hitem _ ih =>
      intro t ht
      rcases List.mem_cons.mp ht with rfl | ht
      · exact hitem.comma_not_mem
      · exact ih t ht

/-- Read in systemd's layout, `to_bytes` of the marked bits holds exactly the marked CPUs:
`adjust_index` undoes the most significant first order of `to_bytes` within each byte. -/
theorem maskBit_toBytes_markedBits {N : Nat} {cpus : List Nat} (h : ∀ c ∈ cpus, c < 8 * N)
    (i : Nat) : maskBit (BitVecCrate.toBytes (markedBits (8 * N) cpus)) i = decide (i ∈ cpus) := by
  have hlen : (BitVecCrate.toBytes (markedBits (8 * N) cpus)).length = N := by
    rw [BitVecCrate.length_toBytes, length_markedBits]
    omega
  unfold maskBit
  by_cases hi : i / 8 < N
  · rw [List.getElem?_eq_getElem (by omega)]
    simp only
    rw [BitVecCrate.testBit_toBytes _ (by omega) (Nat.mod_lt _ (by omega)), getD_markedBits]
    have hany : (cpus.any fun idx => adjustIndex idx == i / 8 * 8 + 7 - i % 8) = decide (i ∈ cpus) := by
      rw [Bool.eq_iff_iff, List.any_eq_true, decide_eq_true_iff]
      constructor
      · rintro ⟨idx, hidx, heq⟩
        rw [beq_iff_eq, adjustIndex_eq_iff (Nat.mod_lt _ (by omega))] at heq
        rw [Nat.div_add_mod' i 8] at heq
        exact heq ▸ hidx
      · intro hmem
        refine ⟨i, hmem, ?_⟩
        rw [beq_iff_eq, adjustIndex_eq_iff (Nat.mod_lt _ (by omega)), Nat.div_add_mod']
    rw [hany, decide_eq_true (by omega), Bool.true_and]
  · -- past the last byte: no CPU is that large
    rw [List.getElem?_eq_none (by omega)]
    simp only
    symm
    rw [decide_eq_false_iff_not]
    intro hmem
    have := h i hmem
    omega

theorem decimal_eight : IsDecimal 64 ['8'] 8 := by
  refine ⟨by simp, fun c hc => ?_, rfl, by norm_num⟩
  rw [List.mem_singleton.mp hc]
  decide

end KataContainers.Cgroups

import Mathlib

/-!
# Memory of the sandbox in runtime-rs

`resource::cpu_mem::mem`: `total_mems` adds every container's hugepage limits and memory limit
into an `i64`, unlimited ones (`-1`) included, shifts the sum right by `MIB_TO_BYTES_SHIFT`
and casts it `as u32`; `get_current_mb` adds the configured default with `u32` addition. Both
wrap in a release build. The `HashMap` of containers is a list in its iteration order.
-/

namespace KataContainers.Resource

def mibToBytesShift : Int64 := 20

structure LinuxHugepageLimit where
  pageSize : String
  limit : Int64

/-- The field of `oci::LinuxMemory` that `total_mems` reads. -/
structure LinuxMemory where
  limit : Option Int64

/-- The fields of `oci::LinuxResources` that `total_mems` reads. -/
structure LinuxResources where
  hugepageLimits : Option (List LinuxHugepageLimit)
  memory : Option LinuxMemory

structure MemResource where
  origTomlDefaultMem : UInt32
  containerMemResources : List (String × LinuxResources)

namespace MemResource

/-- One container's turn of the loop of `total_mems`. -/
def addLimits (memSandbox : Int64) (r : LinuxResources) : Int64 :=
  let memSandbox := (r.hugepageLimits.getD []).foldl (fun acc l => acc + l.limit) memSandbox
  match r.memory with
  | some memory =>
      match memory.limit with
      | some limit => memSandbox + limit
      | none => memSandbox
  | none => memSandbox

def totalMems (m : MemResource) : Except String UInt32 :=
  let memSandbox := m.containerMemResources.foldl (fun acc e => addLimits acc e.2) 0
  .ok (memSandbox >>> mibToBytesShift).toUInt64.toUInt32

def getCurrentMb (m : MemResource) : Except String UInt32 := do
  let memSbMb ← m.totalMems
  pure (memSbMb + m.origTomlDefaultMem)

/-- Every limit `total_mems` adds, in its order. -/
def limits (m : MemResource) : List Int64 :=
  m.containerMemResources.flatMap fun e =>
    ((e.2.hugepageLimits.getD []).map (·.limit)) ++ (e.2.memory.bind (·.limit)).toList

end MemResource

/-! ### What `get_current_mb` computes -/

namespace MemResource

theorem foldl_add_eq_ofInt (acc : Int64) (ls : List Int64) :
    ls.foldl (· + ·) acc = Int64.ofInt (acc.toInt + (ls.map Int64.toInt).sum) := by
  induction ls generalizing acc with
  | nil => simp
  | cons l ls ih =>
      rw [List.foldl_cons, ih, List.map_cons, List.sum_cons, Int64.toInt_add, ← Int.add_assoc,
        Int64.ofInt_add _ ((ls.map Int64.toInt).sum), Int64.ofInt_add _ ((ls.map Int64.toInt).sum)]
      congr 1
      apply Int64.toInt_inj.mp
      simp [Int64.toInt_ofInt, Int64.size]

theorem addLimits_eq (acc : Int64) (r : LinuxResources) :
    addLimits acc r =
      (((r.hugepageLimits.getD []).map (·.limit)) ++ (r.memory.bind (·.limit)).toList).foldl
        (· + ·) acc := by
  have hhuge : (r.hugepageLimits.getD []).foldl (fun acc l => acc + l.limit) acc =
      ((r.hugepageLimits.getD []).map (·.limit)).foldl (· + ·) acc := by
    rw [List.foldl_map]
  unfold addLimits
  rw [hhuge, List.foldl_append]
  rcases r.memory with _ | ⟨_ | limit⟩ <;> rfl

/-- The accumulator of `total_mems` is the sum of all the limits, negative ones included,
wrapped to `i64`. -/
theorem totalMems_acc (m : MemResource) :
    m.containerMemResources.foldl (fun acc e => addLimits acc e.2) 0 =
      Int64.ofInt (m.limits.map Int64.toInt).sum := by
  have hfold : ∀ (es : List (String × LinuxResources)) (acc : Int64),
      es.foldl (fun acc e => addLimits acc e.2) acc =
        (es.flatMap fun e => ((e.2.hugepageLimits.getD []).map (·.limit)) ++
          (e.2.memory.bind (·.limit)).toList).foldl (· + ·) acc := by
    intro es
    induction es with
    | nil => intro acc; rfl
    | cons e es ih =>
        intro acc
        rw [List.foldl_cons, ih, addLimits_eq, List.flatMap_cons]
        simp only [List.foldl_append]
  rw [hfold, foldl_add_eq_ofInt]
  simp [limits]

/-- The arithmetic shift rounds down. -/
theorem toInt_shiftRight_mibToBytesShift (x : Int64) :
    (x >>> mibToBytesShift).toInt = x.toInt / 2 ^ 20 := by
  have hamount : (mibToBytesShift.toBitVec.smod 64).toNat = 20 := by decide
  rw [← Int64.toInt_toBitVec, Int64.toBitVec_shiftRight, BitVec.sshiftRight', hamount,
    BitVec.toInt_sshiftRight, Int64.toInt_toBitVec, Int.shiftRight_eq_div_pow]
  rfl

/-- `as u32` of an `i64` keeps its value modulo `2 ^ 32`. -/
theorem toNat_toUInt32_toUInt64 (y : Int64) : y.toUInt64.toUInt32.toNat = (y.toInt % 2 ^ 32).toNat := by
  rw [UInt64.toNat_toUInt32, ← Int64.toNat_toBitVec, ← Int64.toInt_toBitVec,
    BitVec.toInt_eq_toNat_bmod]
  have hlt := y.toBitVec.isLt
  generalize y.toBitVec.toNat = n at *
  dsimp only [Int.bmod]
  split <;> omega

/-- `get_current_mb` never fails: it returns the default plus the `i64` sum of all limits divided
by `2 ^ 20` (rounded down), modulo `2 ^ 32`. -/
theorem getCurrentMb_toNat (m : MemResource) :
    (m.getCurrentMb).map UInt32.toNat =
      .ok (((m.limits.map Int64.toInt).sum.bmod (2 ^ 64) / 2 ^ 20 +
        m.origTomlDefaultMem.toNat) % 2 ^ 32).toNat := by
  have hsum : (Int64.ofInt (m.limits.map Int64.toInt).sum).toInt =
      (m.limits.map Int64.toInt).sum.bmod (2 ^ 64) := by
    rw [Int64.toInt_ofInt]
    rfl
  simp only [getCurrentMb, totalMems, totalMems_acc, bind, Except.bind, pure, Except.pure,
    Except.map, Except.ok.injEq]
  rw [UInt32.toNat_add, toNat_toUInt32_toUInt64, toInt_shiftRight_mibToBytesShift, hsum]
  omega

/-- The sum of the positive limits: what the sandbox should be sized by. -/
def positiveLimits (m : MemResource) : Int :=
  ((m.limits.map Int64.toInt).filter (0 < ·)).sum

/-- With no negative limit, and sums that fit, `get_current_mb` is the default plus the limits in
MiB. -/
theorem getCurrentMb_of_nonneg (m : MemResource) (hnonneg : ∀ l ∈ m.limits, 0 ≤ l.toInt)
    (hfit : (m.limits.map Int64.toInt).sum < 2 ^ 63)
    (hu32 : (m.limits.map Int64.toInt).sum / 2 ^ 20 + m.origTomlDefaultMem.toNat < 2 ^ 32) :
    (m.getCurrentMb).map UInt32.toNat =
      .ok ((m.limits.map Int64.toInt).sum / 2 ^ 20 + m.origTomlDefaultMem.toNat).toNat := by
  have hpos : 0 ≤ (m.limits.map Int64.toInt).sum :=
    List.sum_nonneg fun x hx => by
      obtain ⟨l, hl, rfl⟩ := List.mem_map.mp hx
      exact hnonneg l hl
  have hbmod : (m.limits.map Int64.toInt).sum.bmod (2 ^ 64) = (m.limits.map Int64.toInt).sum := by
    apply Int.bmod_eq_of_le <;> omega
  rw [getCurrentMb_toNat, hbmod, Int.emod_eq_of_lt (by positivity) hu32]

/-- An unlimited container (`-1`) with a 2 MiB hugepage limit, and a default of 2048 MiB. -/
def unlimitedWithHugepages : MemResource :=
  ⟨2048, [("c", ⟨some [⟨"2MB", 2097152⟩], some ⟨some (-1)⟩⟩)]⟩

/-- The `-1` is added to the sum, which falls below 2 MiB: the sandbox gets 2049 MiB where the
positive limits ask for 2050. -/
theorem getCurrentMb_adds_unlimited :
    unlimitedWithHugepages.getCurrentMb = .ok 2049 ∧
      unlimitedWithHugepages.origTomlDefaultMem.toNat + positiveLimits unlimitedWithHugepages / 2 ^ 20 =
        2050 := by
  constructor
  · decide
  · decide

end MemResource

end KataContainers.Resource

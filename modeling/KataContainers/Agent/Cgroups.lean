import Mathlib

/-!
# Cgroup v2 resource values

The systemd driver of `rustjail::cgroups` turns the OCI `LinuxCpu` and `LinuxMemory` values into
unit properties (`Cpu::apply`, `Memory::apply`); the cgroupfs driver converts the same values
with `convert_shares_to_v2_value` and `convert_memory_swap_to_v2_value`. A transformer returns
`Option (Except String Properties)`: `none` is a panic (the `unwrap` of an `Err`), an error
carries the text of its `bail!`. `u64` and `i64` arithmetic wraps as in a release build.
-/

namespace KataContainers.Cgroups

def basicSystemdVersion : String := "242"

def defaultCpuQuotaPeriod : UInt64 := 100 * 1000

def sec2Microsec : UInt64 := 1000 * 1000

def basicInterval : UInt64 := 10 * 1000

def cgroupCpuSharesMax : UInt64 := 262144

def u64Max : UInt64 := 0xffff_ffff_ffff_ffff

/-- The fields of `oci::LinuxCpu` the transformer reads. -/
structure LinuxCpu where
  shares : Option UInt64
  quota : Option Int64
  period : Option UInt64
deriving DecidableEq, Repr

/-- The fields of `oci::LinuxMemory` the transformer reads. -/
structure LinuxMemory where
  limit : Option Int64
  reservation : Option Int64
  swap : Option Int64
deriving DecidableEq, Repr

structure LinuxResources where
  memory : Option LinuxMemory
  cpu : Option LinuxCpu
deriving DecidableEq, Repr

inductive CgroupHierarchy where
  | Legacy
  | Unified
deriving DecidableEq, Repr

/-- The `zvariant::Value`s the transformers push. -/
inductive Value where
  | U64 (v : UInt64)
deriving DecidableEq, Repr

abbrev Properties := List (String × Value)

/-! ## The systemd driver -/

/-- `shares_to_weight`: `[2, 262144]` to `[1, 10000]`; `shares = 1` wraps in `shares - 2`. -/
def sharesToWeight (shares : UInt64) : Except String UInt64 :=
  if shares = 0 then .ok 100
  else if shares ≤ cgroupCpuSharesMax then .ok (1 + ((shares - 2) * 9999) / 262142)
  else .error "Can't convert CpuShares to CpuWeight: invalid CpuShares"

/-- `resolve_cpuquota`; both callers pass a nonzero period. -/
def resolveCpuquota (quota : Int64) (period : UInt64) : UInt64 :=
  if quota > 0 then
    let cpuQuotaPerSecUsec := quota.toUInt64 * sec2Microsec / period
    if cpuQuotaPerSecUsec % basicInterval ≠ 0 then
      (cpuQuotaPerSecUsec / basicInterval + 1) * basicInterval
    else cpuQuotaPerSecUsec
  else u64Max

namespace Cpu

/-- The period and quota part, the same in `legacy_apply` and `unified_apply`. -/
def periodAndQuota (cpu : LinuxCpu) (properties : Properties) (systemdVersion : String) :
    Properties :=
  let properties := match cpu.period with
    | some period =>
      if period ≠ 0 ∧ basicSystemdVersion ≤ systemdVersion then
        properties ++ [("CPUQuotaPeriodUSec", .U64 period)]
      else properties
    | none => properties
  match cpu.quota with
  | some quota =>
    let period := cpu.period.getD defaultCpuQuotaPeriod
    if period ≠ 0 then properties ++ [("CPUQuotaPerSecUSec", .U64 (resolveCpuquota quota period))]
    else properties
  | none => properties

def legacyApply (cpu : LinuxCpu) (properties : Properties) (systemdVersion : String) :
    Except String Properties := do
  let properties ← match cpu.shares with
    | some shares => do
      let shares ← if shares = 0 then pure 1024
        else if 2 ≤ shares ∧ shares ≤ cgroupCpuSharesMax then pure shares
        else throw "Invalid CpuShares"
      pure (properties ++ [("CPUShares", .U64 shares)])
    | none => pure properties
  return periodAndQuota cpu properties systemdVersion

/-- `unified_apply`: the weight is `shares_to_weight(shares).unwrap()`. -/
def unifiedApply (cpu : LinuxCpu) (properties : Properties) (systemdVersion : String) :
    Option Properties := do
  let properties ← match cpu.shares with
    | some shares =>
      match sharesToWeight shares with
      | .ok weight => some (properties ++ [("CPUWeight", .U64 weight)])
      | .error _ => none
    | none => some properties
  return periodAndQuota cpu properties systemdVersion

def apply (r : LinuxResources) (properties : Properties) (cgroupHierarchy : CgroupHierarchy)
    (systemdVersion : String) : Option (Except String Properties) :=
  match r.cpu with
  | some cpu =>
    match cgroupHierarchy with
    | .Legacy => some (legacyApply cpu properties systemdVersion)
    | .Unified => (unifiedApply cpu properties systemdVersion).map .ok
  | none => some (.ok properties)

end Cpu

/-- The `1..=i64::MAX => v as u64, 0 => u64::MAX, _ => bail!` match of a memory value. -/
def memoryValue (v : Int64) (err : String) : Except String UInt64 :=
  if 0 < v then .ok v.toUInt64 else if v = 0 then .ok u64Max else .error err

/-- A memory value pushed under `key`, when it is given. -/
def pushMemoryValue (properties : Properties) (key : String) (v : Option Int64)
    (err : Int64 → String) : Except String Properties :=
  match v with
  | some v => return properties ++ [(key, .U64 (← memoryValue v (err v)))]
  | none => pure properties

namespace Memory

def legacyApply (m : LinuxMemory) (properties : Properties) : Except String Properties :=
  pushMemoryValue properties "MemoryLimit" m.limit fun _ => "invalid memory.limit"

/-- The `MemorySwapMax` match of `unified_apply`. -/
def swapMax (m : LinuxMemory) : Except String UInt64 :=
  match m.swap with
  | some swap =>
    if swap = 0 then .ok u64Max
    else if 0 < swap then
      match m.limit with
      | some limit =>
        if 0 < limit then .ok (limit - swap).toUInt64
        else .error "invalid memory.limit when memory.swap specified"
      | none => .error "invalid memory.limit when memory.swap specified"
    else .error "invalid memory.swap"
  | none => .ok u64Max

def unifiedApply (m : LinuxMemory) (properties : Properties) : Except String Properties := do
  let properties ← pushMemoryValue properties "MemoryMax" m.limit
    fun limit => "invalid memory.limit: " ++ toString limit
  let properties ← pushMemoryValue properties "MemoryLow" m.reservation
    fun reservation => "invalid memory.reservation: " ++ toString reservation
  let swap ← swapMax m
  return properties ++ [("MemorySwapMax", .U64 swap)]

def apply (r : LinuxResources) (properties : Properties) (cgroupHierarchy : CgroupHierarchy) :
    Except String Properties :=
  match r.memory with
  | some m =>
    match cgroupHierarchy with
    | .Legacy => legacyApply m properties
    | .Unified => unifiedApply m properties
  | none => .ok properties

end Memory

/-! ## The cgroupfs conversions -/

def convertSharesToV2Value (shares : UInt64) : UInt64 :=
  if shares = 0 then 0 else 1 + ((shares - 2) * 9999) / 262142

/-- `convert_memory_swap_to_v2_value(memory_swap, memory)`: the OCI swap is memory and swap
together, the v2 value the swap alone. -/
def convertMemorySwapToV2Value (memorySwap memory : Int64) : Except String Int64 :=
  if memory = -1 ∧ memorySwap = 0 then .ok (-1)
  else if memorySwap = -1 ∨ memorySwap = 0 then .ok memorySwap
  else if memory = 0 ∨ memory = -1 then .error "unable to set swap limit without memory limit"
  else if memory < 0 then .error ("invalid memory value: " ++ toString memory)
  else if memorySwap < memory then .error "memory+swap limit should be >= memory limit"
  else .ok (memorySwap - memory)

section Spec

variable {shares : UInt64}

theorem ne_zero_of_two_le (h2 : 2 ≤ shares) : shares ≠ 0 := by
  rintro rfl
  exact absurd h2 (by decide)

/-- Inside `[2, 262144]` the systemd weight is the cgroupfs value. -/
theorem sharesToWeight_of_mem (h2 : 2 ≤ shares) (hmax : shares ≤ cgroupCpuSharesMax) :
    sharesToWeight shares = .ok (convertSharesToV2Value shares) := by
  simp [sharesToWeight, convertSharesToV2Value, ne_zero_of_two_le h2, hmax]

-- outside it the two differ already at zero: the systemd default weight is 100
example : sharesToWeight 0 = .ok 100 ∧ convertSharesToV2Value 0 = 0 := by decide

theorem convertSharesToV2Value_toNat (h2 : 2 ≤ shares) (hmax : shares ≤ cgroupCpuSharesMax) :
    (convertSharesToV2Value shares).toNat = 1 + (shares.toNat - 2) * 9999 / 262142 := by
  have hmax' : shares.toNat ≤ 262144 := UInt64.le_iff_toNat_le.mp hmax
  simp only [convertSharesToV2Value, if_neg (ne_zero_of_two_le h2)]
  have hprod : (shares.toNat - 2) * 9999 < 2 ^ 64 := by omega
  rw [UInt64.toNat_add, UInt64.toNat_div, UInt64.toNat_mul, UInt64.toNat_sub_of_le _ _ h2]
  simp only [UInt64.reduceToNat]
  rw [Nat.mod_eq_of_lt hprod, Nat.mod_eq_of_lt (by omega)]

theorem convertSharesToV2Value_mem (h2 : 2 ≤ shares) (hmax : shares ≤ cgroupCpuSharesMax) :
    1 ≤ (convertSharesToV2Value shares).toNat ∧ (convertSharesToV2Value shares).toNat ≤ 10000 := by
  have hmax' : shares.toNat ≤ 262144 := UInt64.le_iff_toNat_le.mp hmax
  rw [convertSharesToV2Value_toNat h2 hmax]
  omega

/-- Without overflow, the quota per second is the floored `quota * 10^6 / period` rounded up
to a multiple of `BASIC_INTERVAL`. -/
theorem resolveCpuquota_toNat {quota : Int64} {period : UInt64} (hq : 0 < quota)
    (hp : period ≠ 0) (hno : quota.toInt * 1000000 < 2 ^ 64) :
    (resolveCpuquota quota period).toNat =
      (quota.toInt.toNat * 1000000 / period.toNat + 9999) / 10000 * 10000 := by
  have hpos : 0 ≤ quota := Int64.le_of_lt hq
  have hqn : quota.toUInt64.toNat = quota.toInt.toNat := by
    rw [← Int64.toNat_toBitVec, Int64.toNat_toBitVec_of_le hpos, Int64.toInt_eq_toNatClampNeg hpos,
      Int.toNat_natCast]
  have hno' : quota.toInt.toNat * 1000000 < 2 ^ 64 := by
    have := Int.toNat_of_nonneg (Int64.le_iff_toInt_le.mp hpos)
    omega
  have hx : (quota.toUInt64 * sec2Microsec / period).toNat =
      quota.toInt.toNat * 1000000 / period.toNat := by
    rw [UInt64.toNat_div, UInt64.toNat_mul, hqn]
    simp only [sec2Microsec, UInt64.reduceMul, UInt64.reduceToNat]
    rw [Nat.mod_eq_of_lt hno']
  -- only a floored quotient below `2 ^ 63` is rounded up: with period 1 it is a multiple of 10^6
  have hround : (quota.toInt.toNat * 1000000 / period.toNat) % 10000 ≠ 0 →
      quota.toInt.toNat * 1000000 / period.toNat + 10000 < 2 ^ 64 := by
    intro hr
    have hle := Nat.div_mul_le_self (quota.toInt.toNat * 1000000) period.toNat
    by_cases hp1 : period.toNat = 1
    · rw [hp1, Nat.div_one] at hr
      omega
    · have hp2 : 2 ≤ period.toNat := by
        have : period.toNat ≠ 0 := fun h0 => hp (UInt64.toNat_inj.mp (by simpa using h0))
        omega
      have := Nat.mul_le_mul_left (quota.toInt.toNat * 1000000 / period.toNat) hp2
      omega
  have hbi : basicInterval.toNat = 10000 := rfl
  generalize quota.toInt.toNat * 1000000 / period.toNat = x at hx hround ⊢
  unfold resolveCpuquota
  rw [if_pos hq]
  dsimp only
  split
  case isTrue hr =>
    have hr' : x % 10000 ≠ 0 := by
      intro h0
      apply hr
      apply UInt64.toNat_inj.mp
      rw [UInt64.toNat_mod, hx, hbi, h0, UInt64.toNat_zero]
    have h1 : x / 10000 + 1 < 2 ^ 64 := by omega
    have h2 : (x / 10000 + 1) * 10000 < 2 ^ 64 :=
      calc (x / 10000 + 1) * 10000 = x / 10000 * 10000 + 10000 := by rw [Nat.add_mul, Nat.one_mul]
        _ ≤ x + 10000 := Nat.add_le_add_right (Nat.div_mul_le_self _ _) _
        _ < 2 ^ 64 := hround hr'
    rw [UInt64.toNat_mul, UInt64.toNat_add, UInt64.toNat_div, hx, hbi, UInt64.toNat_one,
      Nat.mod_eq_of_lt h1, Nat.mod_eq_of_lt h2]
    omega
  case isFalse hr =>
    have hr' : x % 10000 = 0 := by
      have h0 := congrArg UInt64.toNat (not_not.mp hr)
      rwa [UInt64.toNat_mod, hx, hbi, UInt64.toNat_zero] at h0
    rw [hx]
    omega

theorem unifiedApply_of_shares_gt {quota : Option Int64} {period : Option UInt64}
    {properties : Properties} {systemdVersion : String} (h : cgroupCpuSharesMax < shares) :
    Cpu.unifiedApply ⟨some shares, quota, period⟩ properties systemdVersion = none := by
  have h0 : shares ≠ 0 := by
    rintro rfl
    exact absurd h (by decide)
  simp [Cpu.unifiedApply, sharesToWeight, h0, UInt64.not_le.mpr h]

end Spec

section Memory

variable {limit swap : Int64}

theorem toNat_toUInt64_of_nonneg {a : Int64} (h : 0 ≤ a) : (a.toUInt64.toNat : Int) = a.toInt := by
  rw [← Int64.toNat_toBitVec, Int64.toNat_toBitVec_of_le h, Int64.toInt_eq_toNatClampNeg h]

/-- Two positive `i64`s subtract without wrapping. -/
theorem toInt_sub_of_pos (hswap : 0 < swap) (hlimit : 0 < limit) :
    (limit - swap).toInt = limit.toInt - swap.toInt := by
  have hs := Int64.lt_iff_toInt_lt.mp hswap
  have hl := Int64.lt_iff_toInt_lt.mp hlimit
  have hs' := Int64.toInt_lt swap
  have hl' := Int64.toInt_lt limit
  rw [Int64.toInt_sub, Int.bmod_eq_of_le] <;> simp only [Int64.toInt_zero] at * <;> omega

theorem ne_of_pos {a : Int64} (h : 0 < a) (b : Int64) (hb : b.toInt ≤ 0) : a ≠ b := by
  rintro rfl
  have := Int64.lt_iff_toInt_lt.mp h
  simp only [Int64.toInt_zero] at this
  omega

theorem swapMax_of_pos (hswap : 0 < swap) (hlimit : 0 < limit) (reservation : Option Int64) :
    Memory.swapMax ⟨some limit, reservation, some swap⟩ = .ok (limit - swap).toUInt64 := by
  simp [Memory.swapMax, ne_of_pos hswap 0 (by decide), hswap, hlimit]

-- the unit test of `unified_memory`: 736870912 - 536870912
example : Memory.swapMax ⟨some 736870912, some 536870912, some 536870912⟩ = .ok 200000000 := by
  decide

theorem unifiedApply_of_swap (hswap : 0 < swap) (hlimit : 0 < limit) (properties : Properties) :
    Memory.unifiedApply ⟨some limit, none, some swap⟩ properties =
      .ok (properties ++ [("MemoryMax", .U64 limit.toUInt64), ("MemorySwapMax",
        .U64 (limit - swap).toUInt64)]) := by
  simp [Memory.unifiedApply, pushMemoryValue, memoryValue, hlimit, swapMax_of_pos hswap hlimit, bind, pure,
    Except.bind, Except.pure]

/-- Below the memory limit the cgroupfs driver refuses a swap value. -/
theorem convertMemorySwapToV2Value_of_lt (hswap : 0 < swap) (hlt : swap < limit) :
    convertMemorySwapToV2Value swap limit = .error "memory+swap limit should be >= memory limit" := by
  have hlimit : 0 < limit := Int64.lt_trans hswap hlt
  have hnneg : ¬limit < 0 := Int64.not_lt.mpr (Int64.le_of_lt hlimit)
  simp [convertMemorySwapToV2Value, ne_of_pos hlimit (-1) (by decide), ne_of_pos hlimit 0 (by decide),
    ne_of_pos hswap (-1) (by decide), ne_of_pos hswap 0 (by decide), hnneg, hlt]

theorem convertMemorySwapToV2Value_of_le (hlimit : 0 < limit) (hle : limit ≤ swap) :
    convertMemorySwapToV2Value swap limit = .ok (swap - limit) := by
  have hswap : 0 < swap := Int64.lt_of_lt_of_le hlimit hle
  have hnneg : ¬limit < 0 := Int64.not_lt.mpr (Int64.le_of_lt hlimit)
  simp [convertMemorySwapToV2Value, ne_of_pos hlimit (-1) (by decide), ne_of_pos hlimit 0 (by decide),
    ne_of_pos hswap (-1) (by decide), ne_of_pos hswap 0 (by decide), hnneg, Int64.not_lt.mpr hle]

end Memory

/-- The systemd driver is neither total nor the cgroupfs conversion: a swap below the memory
limit is accepted and reported as the limit minus the swap, where cgroupfs refuses it, and
shares above `CGROUP_CPU_SHARES_MAX` panic in the `unwrap` of `shares_to_weight`. -/
theorem systemd_driver_diverges {limit swap : Int64} (hswap : 0 < swap) (hlt : swap < limit) :
    Memory.apply ⟨some ⟨some limit, none, some swap⟩, none⟩ [] .Unified =
        .ok [("MemoryMax", .U64 limit.toUInt64), ("MemorySwapMax", .U64 (limit - swap).toUInt64)] ∧
      ((limit - swap).toUInt64.toNat : Int) = limit.toInt - swap.toInt ∧
      convertMemorySwapToV2Value swap limit = .error "memory+swap limit should be >= memory limit" ∧
      ∀ shares quota period systemdVersion properties, cgroupCpuSharesMax < shares →
        Cpu.apply ⟨none, some ⟨some shares, quota, period⟩⟩ properties .Unified systemdVersion =
          none := by
  have hlimit : 0 < limit := Int64.lt_trans hswap hlt
  have hsub := toInt_sub_of_pos hswap hlimit
  refine ⟨by simp [Memory.apply, unifiedApply_of_swap hswap hlimit], ?_,
    convertMemorySwapToV2Value_of_lt hswap hlt, ?_⟩
  · have hpos : 0 ≤ limit - swap := by
      rw [Int64.le_iff_toInt_le, hsub, Int64.toInt_zero]
      have := Int64.lt_iff_toInt_lt.mp hlt
      omega
    rw [toNat_toUInt64_of_nonneg hpos, hsub]
  · intro shares quota period systemdVersion properties h
    simp [Cpu.apply, unifiedApply_of_shares_gt h]

/-- The values of the driver's own unit test: 736870912 bytes of memory, 536870912 of memory
and swap. -/
theorem systemd_driver_diverges_on_unit_test :
    (0 : Int64) < 536870912 ∧ (536870912 : Int64) < 736870912 ∧
      (Memory.apply ⟨some ⟨some 736870912, none, some 536870912⟩, none⟩ [] .Unified =
          .ok [("MemoryMax", .U64 (736870912 : Int64).toUInt64),
            ("MemorySwapMax", .U64 ((736870912 : Int64) - 536870912).toUInt64)] ∧
        (((736870912 : Int64) - 536870912).toUInt64.toNat : Int) =
          (736870912 : Int64).toInt - (536870912 : Int64).toInt ∧
        convertMemorySwapToV2Value 536870912 736870912 =
          .error "memory+swap limit should be >= memory limit" ∧
        ∀ shares quota period systemdVersion properties, cgroupCpuSharesMax < shares →
          Cpu.apply ⟨none, some ⟨some shares, quota, period⟩⟩ properties .Unified systemdVersion =
            none) :=
  ⟨by decide, by decide, systemd_driver_diverges (by decide) (by decide)⟩

end KataContainers.Cgroups

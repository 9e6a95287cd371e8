import KataContainers.Lib.BitField

/-!
# CPUID leaves of a vCPU

`dbs_arch::cpuid`: the bit helper on `u32` registers and the entry transformers of the Intel
`process_cpuid`, which rewrite each CPUID entry the host reports after the `VmSpec` of one vCPU.
A failed assertion of the bit helper, where the source panics, is `none`; a `u8` product wraps as
in a release build. The brand string leaves read the `BrandString` table, which is
`VmSpec.brandString` here.
-/

namespace KataContainers.Cpuid

structure BitRange where
  msbIndex : UInt32
  lsbIndex : UInt32
deriving DecidableEq, Repr

def maxU32BitIndex : UInt32 := 31

namespace BitRange

def isValid (r : BitRange) : Bool := r.msbIndex ≥ r.lsbIndex && r.msbIndex ≤ maxU32BitIndex

/-- `get_mask`, after its `check`. -/
def getMask (r : BitRange) : Option UInt32 :=
  if r.isValid then
    some ((((1 : UInt64) <<< (r.msbIndex - r.lsbIndex + 1).toUInt64) - 1) <<<
      r.lsbIndex.toUInt64).toUInt32
  else none

def width (r : BitRange) : Nat := r.msbIndex.toNat - r.lsbIndex.toNat + 1

end BitRange

def readBitsInRange (x : UInt32) (range : BitRange) : Option UInt32 := do
  let mask ← range.getMask
  pure ((x &&& mask) >>> range.lsbIndex)

/-- `write_bits_in_range`, which asserts that the value fits the range. -/
def writeBitsInRange (x : UInt32) (range : BitRange) (val : UInt32) : Option UInt32 := do
  let mask ← range.getMask
  let maxVal := mask >>> range.lsbIndex
  if val ≤ maxVal then pure (x &&& ~~~mask ||| val <<< range.lsbIndex) else none

def writeBit (x : UInt32) (pos : UInt32) (val : Bool) : Option UInt32 :=
  if pos ≤ maxU32BitIndex then
    some (x &&& ~~~((1 : UInt32) <<< pos) ||| (if val then (1 : UInt32) else 0) <<< pos)
  else none

/-! ### The leaves of `cpu_leaf` -/

namespace Leaf0x1
def leafNum : UInt32 := 0x1
def Ebx.apicidBitrange : BitRange := ⟨31, 24⟩
def Ebx.cpuCountBitrange : BitRange := ⟨23, 16⟩
def Ebx.clflushSizeBitrange : BitRange := ⟨15, 8⟩
def Ecx.tscDeadlineTimerBitindex : UInt32 := 24
def Ecx.hypervisorBitindex : UInt32 := 31
def Edx.httBitindex : UInt32 := 28
end Leaf0x1

namespace LeafCacheParameters
def Eax.cacheLevelBitrange : BitRange := ⟨7, 5⟩
def Eax.maxCpusPerCoreBitrange : BitRange := ⟨25, 14⟩
end LeafCacheParameters

namespace Leaf0x4
def leafNum : UInt32 := 0x4
def Eax.maxCoresPerPackageBitrange : BitRange := ⟨31, 26⟩
end Leaf0x4

namespace Leaf0x6
def leafNum : UInt32 := 0x6
end Leaf0x6

namespace Leaf0xa
def leafNum : UInt32 := 0xa
def Eax.pmcVersionId : BitRange := ⟨7, 0⟩
def Eax.bitLenPmevent : BitRange := ⟨31, 24⟩
def Ebx.coreCyclesBitindex : UInt32 := 0
def Ebx.instRetiredBitindex : UInt32 := 1
def Ebx.refCyclesBitindex : UInt32 := 2
def Ebx.llcRefBitindex : UInt32 := 3
def Ebx.llcMissesBitindex : UInt32 := 4
def Ebx.brInstRetiredBitindex : UInt32 := 5
def Ebx.brMisRetiredBitindex : UInt32 := 6
end Leaf0xa

namespace Leaf0xb
def leafNum : UInt32 := 0xb
def levelTypeThread : UInt32 := 1
def levelTypeCore : UInt32 := 2
def Eax.apicidBitrange : BitRange := ⟨4, 0⟩
def Ebx.numLogicalProcessorsBitrange : BitRange := ⟨15, 0⟩
def Ecx.levelTypeBitrange : BitRange := ⟨15, 8⟩
def Ecx.levelNumberBitrange : BitRange := ⟨7, 0⟩
end Leaf0xb

namespace Leaf0x1f
def leafNum : UInt32 := 0x1f
def levelTypeThread : UInt32 := 1
def levelTypeCore : UInt32 := 2
def levelTypeDie : UInt32 := 5
def Eax.apicidBitrange : BitRange := ⟨4, 0⟩
def Ebx.numLogicalProcessorsBitrange : BitRange := ⟨15, 0⟩
def Ecx.levelTypeBitrange : BitRange := ⟨15, 8⟩
def Ecx.levelNumberBitrange : BitRange := ⟨7, 0⟩
end Leaf0x1f

/-- `kvm_cpuid_entry2` without its `flags` and padding, which no transformer touches. -/
structure CpuIdEntry where
  function : UInt32
  index : UInt32
  eax : UInt32
  ebx : UInt32
  ecx : UInt32
  edx : UInt32
deriving DecidableEq, Repr

inductive VpmuFeatureLevel where
  | Disabled
  | LimitedlyEnabled
  | FullyEnabled
deriving DecidableEq, Repr

inductive BsReg where
  | Eax
  | Ebx
  | Ecx
  | Edx
deriving DecidableEq, Repr

/-- `VmSpec` without the vendor id, which only selects the transformer; `brandString` is
`BrandString::get_reg_for_leaf`. -/
structure VmSpec where
  cpuId : UInt8
  cpuCount : UInt8
  brandString : UInt32 → BsReg → UInt32
  threadsPerCore : UInt8
  coresPerDie : UInt8
  diesPerSocket : UInt8
  vpmuFeature : VpmuFeatureLevel

def leadingZeros (x : UInt8) : UInt32 := x.toBitVec.clz.toNat.toUInt32

def ebxClflushCacheline : UInt32 := 8

/-! ### The transformers -/

namespace VmSpec

variable (vmSpec : VmSpec)

/-- `thread_width`, `core_width` and `die_width` of the extended topology leaves. -/
def threadWidth : UInt32 := 8 - leadingZeros (vmSpec.threadsPerCore - 1)
def coreWidth : UInt32 := (8 - leadingZeros (vmSpec.coresPerDie - 1)) + vmSpec.threadWidth
def dieWidth : UInt32 := (8 - leadingZeros (vmSpec.diesPerSocket - 1)) + vmSpec.coreWidth

end VmSpec

def updateFeatureInfoEntry (entry : CpuIdEntry) (vmSpec : VmSpec) : Option CpuIdEntry := do
  let ecx ← writeBit entry.ecx Leaf0x1.Ecx.tscDeadlineTimerBitindex true
  let ecx ← writeBit ecx Leaf0x1.Ecx.hypervisorBitindex true
  let ebx ← writeBitsInRange entry.ebx Leaf0x1.Ebx.apicidBitrange vmSpec.cpuId.toUInt32
  let ebx ← writeBitsInRange ebx Leaf0x1.Ebx.clflushSizeBitrange ebxClflushCacheline
  let ebx ← writeBitsInRange ebx Leaf0x1.Ebx.cpuCountBitrange
    (vmSpec.threadsPerCore * vmSpec.coresPerDie * vmSpec.diesPerSocket).toUInt32
  let edx ← writeBit entry.edx Leaf0x1.Edx.httBitindex (vmSpec.cpuCount > 1)
  pure { entry with ebx, ecx, edx }

def updateExtendedTopologyEntry (entry : CpuIdEntry) (vmSpec : VmSpec) : Option CpuIdEntry :=
  let entry := { entry with eax := 0, ebx := 0, ecx := 0, edx := vmSpec.cpuId.toUInt32 }
  if entry.index = 0 then do
    let eax ← writeBitsInRange entry.eax Leaf0xb.Eax.apicidBitrange vmSpec.threadWidth
    let ebx ← writeBitsInRange entry.ebx Leaf0xb.Ebx.numLogicalProcessorsBitrange
      vmSpec.threadsPerCore.toUInt32
    let ecx ← writeBitsInRange entry.ecx Leaf0xb.Ecx.levelTypeBitrange Leaf0xb.levelTypeThread
    pure { entry with eax, ebx, ecx }
  else if entry.index = 1 then do
    let eax ← writeBitsInRange entry.eax Leaf0xb.Eax.apicidBitrange vmSpec.coreWidth
    let ebx ← writeBitsInRange entry.ebx Leaf0xb.Ebx.numLogicalProcessorsBitrange
      (vmSpec.threadsPerCore * vmSpec.coresPerDie).toUInt32
    let ecx ← writeBitsInRange entry.ecx Leaf0xb.Ecx.levelNumberBitrange entry.index
    let ecx ← writeBitsInRange ecx Leaf0xb.Ecx.levelTypeBitrange Leaf0xb.levelTypeCore
    pure { entry with eax, ebx, ecx }
  else some { entry with ecx := entry.index }

def updateExtendedTopologyV2Entry (entry : CpuIdEntry) (vmSpec : VmSpec) : Option CpuIdEntry :=
  let entry := { entry with eax := 0, ebx := 0, ecx := 0, edx := vmSpec.cpuId.toUInt32 }
  if entry.index = 0 then do
    let eax ← writeBitsInRange entry.eax Leaf0x1f.Eax.apicidBitrange vmSpec.threadWidth
    let ebx ← writeBitsInRange entry.ebx Leaf0x1f.Ebx.numLogicalProcessorsBitrange
      vmSpec.threadsPerCore.toUInt32
    let ecx ← writeBitsInRange entry.ecx Leaf0x1f.Ecx.levelTypeBitrange Leaf0x1f.levelTypeThread
    pure { entry with eax, ebx, ecx }
  else if entry.index = 1 then do
    let eax ← writeBitsInRange entry.eax Leaf0x1f.Eax.apicidBitrange vmSpec.coreWidth
    let ebx ← writeBitsInRange entry.ebx Leaf0x1f.Ebx.numLogicalProcessorsBitrange
      (vmSpec.threadsPerCore * vmSpec.coresPerDie).toUInt32
    let ecx ← writeBitsInRange entry.ecx Leaf0x1f.Ecx.levelNumberBitrange entry.index
    let ecx ← writeBitsInRange ecx Leaf0x1f.Ecx.levelTypeBitrange Leaf0x1f.levelTypeCore
    pure { entry with eax, ebx, ecx }
  else if entry.index = 5 then do
    let eax ← writeBitsInRange entry.eax Leaf0x1f.Eax.apicidBitrange vmSpec.dieWidth
    let ebx ← writeBitsInRange entry.ebx Leaf0x1f.Ebx.numLogicalProcessorsBitrange
      (vmSpec.threadsPerCore * vmSpec.coresPerDie * vmSpec.diesPerSocket).toUInt32
    let ecx ← writeBitsInRange entry.ecx Leaf0x1f.Ecx.levelNumberBitrange entry.index
    let ecx ← writeBitsInRange ecx Leaf0x1f.Ecx.levelTypeBitrange Leaf0x1f.levelTypeDie
    pure { entry with eax, ebx, ecx }
  else some { entry with ecx := entry.index }

def updateBrandStringEntry (entry : CpuIdEntry) (vmSpec : VmSpec) : Option CpuIdEntry :=
  some { entry with
    eax := vmSpec.brandString entry.function .Eax, ebx := vmSpec.brandString entry.function .Ebx,
    ecx := vmSpec.brandString entry.function .Ecx, edx := vmSpec.brandString entry.function .Edx }

def updateCacheParametersEntry (entry : CpuIdEntry) (vmSpec : VmSpec) : Option CpuIdEntry := do
  let level ← readBitsInRange entry.eax LeafCacheParameters.Eax.cacheLevelBitrange
  if level = 1 ∨ level = 2 then
    let eax ← writeBitsInRange entry.eax LeafCacheParameters.Eax.maxCpusPerCoreBitrange
      (if vmSpec.cpuCount > 1 && vmSpec.threadsPerCore == 2 then 1 else 0)
    pure { entry with eax }
  else if level = 3 then
    let eax ← writeBitsInRange entry.eax LeafCacheParameters.Eax.maxCpusPerCoreBitrange
      (vmSpec.cpuCount - 1).toUInt32
    pure { entry with eax }
  else pure entry

def updateDeterministicCacheEntry (entry : CpuIdEntry) (vmSpec : VmSpec) : Option CpuIdEntry := do
  let entry ← updateCacheParametersEntry entry vmSpec
  if vmSpec.cpuCount ≤ 64 then
    let eax ← writeBitsInRange entry.eax Leaf0x4.Eax.maxCoresPerPackageBitrange
      (vmSpec.cpuCount - 1).toUInt32
    pure { entry with eax }
  else pure entry

def updatePowerManagementEntry (entry : CpuIdEntry) (_vmSpec : VmSpec) : Option CpuIdEntry :=
  some { entry with eax := 0, ebx := 0, ecx := 0, edx := 0 }

/-- The `ebx` bits of the limited and the full virtual PMU, in the order the source writes them. -/
def perfMonEbxBits : VpmuFeatureLevel → List (UInt32 × Bool)
  | .Disabled => []
  | .LimitedlyEnabled =>
      [(Leaf0xa.Ebx.coreCyclesBitindex, false), (Leaf0xa.Ebx.refCyclesBitindex, false),
        (Leaf0xa.Ebx.instRetiredBitindex, false), (Leaf0xa.Ebx.brInstRetiredBitindex, true),
        (Leaf0xa.Ebx.llcMissesBitindex, true), (Leaf0xa.Ebx.llcRefBitindex, true),
        (Leaf0xa.Ebx.brMisRetiredBitindex, true)]
  | .FullyEnabled =>
      [(Leaf0xa.Ebx.coreCyclesBitindex, false), (Leaf0xa.Ebx.refCyclesBitindex, false),
        (Leaf0xa.Ebx.instRetiredBitindex, false), (Leaf0xa.Ebx.brInstRetiredBitindex, false),
        (Leaf0xa.Ebx.llcMissesBitindex, false), (Leaf0xa.Ebx.llcRefBitindex, false),
        (Leaf0xa.Ebx.brMisRetiredBitindex, false)]

def updatePerfMonEntry (entry : CpuIdEntry) (vmSpec : VmSpec) : Option CpuIdEntry :=
  match vmSpec.vpmuFeature with
  | .Disabled => some { entry with eax := 0, ebx := 0, ecx := 0, edx := 0 }
  | level => do
      let eax ← writeBitsInRange entry.eax Leaf0xa.Eax.pmcVersionId 2
      let eax ← writeBitsInRange eax Leaf0xa.Eax.bitLenPmevent 7
      let ebx ← (perfMonEbxBits level).foldlM (fun ebx (pos, val) => writeBit ebx pos val) entry.ebx
      pure { entry with eax, ebx }

/-- `IntelCpuidTransformer::entry_transformer_fn`. -/
def entryTransformerFn (entry : CpuIdEntry) : Option (CpuIdEntry → VmSpec → Option CpuIdEntry) :=
  if entry.function = Leaf0x1.leafNum then some updateFeatureInfoEntry
  else if entry.function = Leaf0x4.leafNum then some updateDeterministicCacheEntry
  else if entry.function = Leaf0x6.leafNum then some updatePowerManagementEntry
  else if entry.function = Leaf0xa.leafNum then some updatePerfMonEntry
  else if entry.function = Leaf0xb.leafNum then some updateExtendedTopologyEntry
  else if entry.function = Leaf0x1f.leafNum then some updateExtendedTopologyV2Entry
  else if 0x8000_0002 ≤ entry.function ∧ entry.function ≤ 0x8000_0004 then some updateBrandStringEntry
  else none

/-- `process_entries`: every entry with a transformer is rewritten, in order. -/
def processEntries (entries : List CpuIdEntry) (vmSpec : VmSpec) : Option (List CpuIdEntry) :=
  entries.mapM fun entry =>
    match entryTransformerFn entry with
    | some transformerFn => transformerFn entry vmSpec
    | none => some entry

/-! ### The bit helper -/

namespace BitRange

theorem width_pos (r : BitRange) : 0 < r.width := Nat.succ_pos _

theorem getMask_isField {r : BitRange} (hr : r.isValid) :
    ∃ mask, r.getMask = some mask ∧ mask.IsField r.lsbIndex.toNat r.width := by
  obtain ⟨hle, h31⟩ : r.msbIndex ≥ r.lsbIndex ∧ r.msbIndex ≤ maxU32BitIndex := by
    simpa [isValid] using hr
  have hle' := UInt32.le_iff_toNat_le.mp hle
  have h31' : r.msbIndex.toNat ≤ 31 := UInt32.le_iff_toNat_le.mp h31
  have hw : (r.msbIndex - r.lsbIndex + 1).toUInt64.toNat = r.width := by
    rw [UInt32.toNat_toUInt64, UInt32.toNat_add, UInt32.toNat_sub_of_le _ _ hle, UInt32.toNat_one,
      width]
    omega
  have hmask := UInt32.isField_mask (a := (r.msbIndex - r.lsbIndex + 1).toUInt64)
    (b := r.lsbIndex.toUInt64) (by rw [hw]; exact r.width_pos)
    (by rw [hw, UInt32.toNat_toUInt64, width]; omega)
  rw [hw, UInt32.toNat_toUInt64] at hmask
  exact ⟨_, if_pos hr, hmask⟩

end BitRange

section BitHelper

variable {x v y : UInt32} {r : BitRange}

theorem writeBitsInRange_eq {mask : UInt32} (hmask : r.getMask = some mask)
    (hfield : mask.IsField r.lsbIndex.toNat r.width) (hv : v.toNat < 2 ^ r.width) :
    writeBitsInRange x r v = some (x &&& ~~~mask ||| v <<< r.lsbIndex) := by
  have hmax := hfield.shiftRight
  have hle : v ≤ mask >>> r.lsbIndex := UInt32.le_iff_toNat_le.mpr (by omega)
  simp [writeBitsInRange, hmask, hle]

/-- A value that fits a valid range is written. -/
theorem writeBitsInRange_isSome (hr : r.isValid) (hv : v.toNat < 2 ^ r.width) :
    ∃ y, writeBitsInRange x r v = some y := by
  obtain ⟨mask, hmask, hfield⟩ := BitRange.getMask_isField hr
  exact ⟨_, writeBitsInRange_eq hmask hfield hv⟩

theorem writeBitsInRange_spec (h : writeBitsInRange x r v = some y) :
    ∃ mask, r.getMask = some mask ∧ mask.IsField r.lsbIndex.toNat r.width ∧
      v.toNat < 2 ^ r.width ∧ y = x &&& ~~~mask ||| v <<< r.lsbIndex := by
  have hr : r.isValid := by
    cases hv : r.isValid
    · simp [writeBitsInRange, BitRange.getMask, hv] at h
    · rfl
  obtain ⟨mask, hmask, hfield⟩ := BitRange.getMask_isField hr
  simp only [writeBitsInRange, hmask, bind, Option.bind_some] at h
  split at h
  case isFalse => exact absurd h (by simp)
  case isTrue hle =>
    have hmax := hfield.shiftRight
    have hv := UInt32.le_iff_toNat_le.mp hle
    refine ⟨mask, hmask, hfield, ?_, (Option.some.inj h).symm⟩
    have := Nat.one_le_two_pow (n := r.width)
    omega

theorem readBitsInRange_writeBitsInRange (h : writeBitsInRange x r v = some y) :
    readBitsInRange y r = some v := by
  obtain ⟨mask, hmask, hfield, hv, rfl⟩ := writeBitsInRange_spec h
  simp [readBitsInRange, hmask, hfield.read_write hv]

/-- A write to a range leaves what a disjoint range reads. -/
theorem readBitsInRange_writeBitsInRange_of_disjoint {r' : BitRange} (h : writeBitsInRange x r v = some y)
    (hr' : r'.isValid) (hdisj : r.msbIndex < r'.lsbIndex ∨ r'.msbIndex < r.lsbIndex) :
    readBitsInRange y r' = readBitsInRange x r' := by
  obtain ⟨mask, hmask, hfield, hv, rfl⟩ := writeBitsInRange_spec h
  obtain ⟨mask', hmask', hfield'⟩ := BitRange.getMask_isField hr'
  have hr : r.isValid := by
    by_contra hn
    simp [BitRange.getMask, hn] at hmask
  simp only [BitRange.isValid, Bool.and_eq_true, decide_eq_true_eq] at hr hr'
  have hd : r.lsbIndex.toNat + r.width ≤ r'.lsbIndex.toNat ∨ r'.lsbIndex.toNat + r'.width ≤ r.lsbIndex.toNat := by
    have := UInt32.le_iff_toNat_le.mp hr.1
    have := UInt32.le_iff_toNat_le.mp hr'.1
    rcases hdisj with hd | hd <;> have := UInt32.lt_iff_toNat_lt.mp hd <;>
      simp only [BitRange.width] <;> omega
  simp [readBitsInRange, hmask', hfield.write_and_of_disjoint hfield' hd hv]

theorem writeBit_eq {pos : UInt32} {val : Bool} (hpos : pos ≤ maxU32BitIndex) :
    writeBit x pos val = some (x &&& ~~~((1 : UInt32) <<< pos) ||| (if val then (1 : UInt32) else 0) <<< pos) :=
  if_pos hpos

end BitHelper

/-! ### The package size in leaves 1 and 4 -/

section PackageSize

variable (vmSpec : VmSpec) {entry : CpuIdEntry}

theorem toUInt32_lt_two_pow {r : BitRange} (hr : 8 ≤ r.width) (n : UInt8) :
    n.toUInt32.toNat < 2 ^ r.width := by
  have := n.toNat_lt
  have := Nat.pow_le_pow_right (show 0 < 2 by decide) hr
  simp only [UInt8.toNat_toUInt32]
  omega

/-- Leaf 1 always gets `EBX[23:16]`, the product of the threads, cores and dies. -/
theorem updateFeatureInfoEntry_cpuCount : ∃ e, updateFeatureInfoEntry entry vmSpec = some e ∧
    readBitsInRange e.ebx Leaf0x1.Ebx.cpuCountBitrange =
      some (vmSpec.threadsPerCore * vmSpec.coresPerDie * vmSpec.diesPerSocket).toUInt32 := by
  obtain ⟨ebx₁, h₁⟩ := writeBitsInRange_isSome (x := entry.ebx) (r := Leaf0x1.Ebx.apicidBitrange)
    (by decide) (toUInt32_lt_two_pow (by decide) vmSpec.cpuId)
  obtain ⟨ebx₂, h₂⟩ := writeBitsInRange_isSome (x := ebx₁) (r := Leaf0x1.Ebx.clflushSizeBitrange)
    (v := ebxClflushCacheline) (by decide) (by decide)
  obtain ⟨ebx₃, h₃⟩ := writeBitsInRange_isSome (x := ebx₂) (r := Leaf0x1.Ebx.cpuCountBitrange)
    (by decide) (toUInt32_lt_two_pow (by decide)
      (vmSpec.threadsPerCore * vmSpec.coresPerDie * vmSpec.diesPerSocket))
  obtain ⟨ecx₁, hc₁⟩ : ∃ y, writeBit entry.ecx Leaf0x1.Ecx.tscDeadlineTimerBitindex true = some y :=
    ⟨_, writeBit_eq (by decide)⟩
  obtain ⟨ecx₂, hc₂⟩ : ∃ y, writeBit ecx₁ Leaf0x1.Ecx.hypervisorBitindex true = some y :=
    ⟨_, writeBit_eq (by decide)⟩
  obtain ⟨edx, hd⟩ : ∃ y, writeBit entry.edx Leaf0x1.Edx.httBitindex (vmSpec.cpuCount > 1) = some y :=
    ⟨_, writeBit_eq (by decide)⟩
  refine ⟨{ entry with ebx := ebx₃, ecx := ecx₂, edx }, ?_, readBitsInRange_writeBitsInRange h₃⟩
  simp [updateFeatureInfoEntry, hc₁, hc₂, hd, h₁, h₂, h₃, -UInt8.toUInt32_mul]

theorem updateCacheParametersEntry_l3
    (hlevel : readBitsInRange entry.eax LeafCacheParameters.Eax.cacheLevelBitrange = some 3) :
    ∃ e, updateCacheParametersEntry entry vmSpec = some e ∧
      readBitsInRange e.eax LeafCacheParameters.Eax.maxCpusPerCoreBitrange =
        some (vmSpec.cpuCount - 1).toUInt32 := by
  obtain ⟨eax, heax⟩ := writeBitsInRange_isSome (x := entry.eax)
    (r := LeafCacheParameters.Eax.maxCpusPerCoreBitrange) (by decide)
    (toUInt32_lt_two_pow (by decide) (vmSpec.cpuCount - 1))
  refine ⟨{ entry with eax }, ?_, readBitsInRange_writeBitsInRange heax⟩
  simp [updateCacheParametersEntry, hlevel, heax, -UInt8.toUInt32_sub]

/-- For the L3 cache, leaf 4 shares the cache among `cpu_count` logical CPUs and, with at most 64
of them, puts all `cpu_count` in the package. -/
theorem updateDeterministicCacheEntry_l3 (hcount : vmSpec.cpuCount ≠ 0)
    (hlevel : readBitsInRange entry.eax LeafCacheParameters.Eax.cacheLevelBitrange = some 3) :
    ∃ e, updateDeterministicCacheEntry entry vmSpec = some e ∧
      readBitsInRange e.eax LeafCacheParameters.Eax.maxCpusPerCoreBitrange =
        some (vmSpec.cpuCount - 1).toUInt32 ∧
      (vmSpec.cpuCount ≤ 64 → readBitsInRange e.eax Leaf0x4.Eax.maxCoresPerPackageBitrange =
        some (vmSpec.cpuCount - 1).toUInt32) := by
  obtain ⟨e₁, h₁, hl3⟩ := updateCacheParametersEntry_l3 vmSpec hlevel
  by_cases h64 : vmSpec.cpuCount ≤ 64
  · have hfit : (vmSpec.cpuCount - 1).toUInt32.toNat < 2 ^ Leaf0x4.Eax.maxCoresPerPackageBitrange.width := by
      have := UInt8.le_iff_toNat_le.mp h64
      rw [UInt8.toNat_toUInt32, UInt8.toNat_sub_one hcount,
        show Leaf0x4.Eax.maxCoresPerPackageBitrange.width = 6 from rfl]
      simp only [UInt8.toNat_ofNat] at this
      omega
    obtain ⟨eax, heax⟩ := writeBitsInRange_isSome (x := e₁.eax) (by decide) hfit
    refine ⟨{ e₁ with eax }, by simp [updateDeterministicCacheEntry, h₁, h64, heax, -UInt8.toUInt32_sub], ?_,
      fun _ => readBitsInRange_writeBitsInRange heax⟩
    rw [readBitsInRange_writeBitsInRange_of_disjoint heax (by decide) (.inr (by decide)), hl3]
  · exact ⟨e₁, by simp [updateDeterministicCacheEntry, h₁, h64], hl3, fun h => absurd h h64⟩

end PackageSize

/-! ### The widths of the topology levels -/

theorem eight_sub_leadingZeros_toNat (x : UInt8) :
    (8 - leadingZeros x).toNat = 8 - x.toBitVec.clz.toNat := by
  have hlz : (leadingZeros x).toNat = x.toBitVec.clz.toNat := by
    have := UInt8.clz_toNat_le x
    simp only [leadingZeros, UInt32.toNat_ofNat']
    omega
  have hle : leadingZeros x ≤ 8 :=
    UInt32.le_iff_toNat_le.mpr (by rw [hlz]; exact UInt8.clz_toNat_le x)
  rw [UInt32.toNat_sub_of_le _ _ hle, hlz]
  rfl

namespace VmSpec

variable (vmSpec : VmSpec)

theorem threadWidth_toNat :
    vmSpec.threadWidth.toNat = 8 - (vmSpec.threadsPerCore - 1).toBitVec.clz.toNat :=
  eight_sub_leadingZeros_toNat _

theorem coreWidth_toNat : vmSpec.coreWidth.toNat =
    (8 - (vmSpec.coresPerDie - 1).toBitVec.clz.toNat) + vmSpec.threadWidth.toNat := by
  rw [coreWidth, UInt32.toNat_add, eight_sub_leadingZeros_toNat, threadWidth_toNat]
  omega

theorem dieWidth_toNat : vmSpec.dieWidth.toNat =
    (8 - (vmSpec.diesPerSocket - 1).toBitVec.clz.toNat) + vmSpec.coreWidth.toNat := by
  have ht := vmSpec.threadWidth_toNat
  rw [dieWidth, UInt32.toNat_add, eight_sub_leadingZeros_toNat, coreWidth_toNat]
  omega

theorem dieWidth_toNat_le : vmSpec.dieWidth.toNat ≤ 24 := by
  rw [dieWidth_toNat, coreWidth_toNat, threadWidth_toNat]
  omega

end VmSpec

end KataContainers.Cpuid

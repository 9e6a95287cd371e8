import KataContainers.Cpuid.Leaves

/-!
# The CPU topology in the guest's CPUID

`handle_cpu_topology` accepts a topology of sockets, dies, cores and threads, the VM's
`max_vcpu_count` becomes the product of its counts, and each vCPU gets CPUID leaves from a
`VmSpec` with its own id. A guest numbers its logical CPUs by splitting the x2APIC ID into
fields whose widths leaves `0xB` and `0x1F` give; the vCPU ids are numbered densely, thread by
thread, core by core and die by die. The two numberings agree for every vCPU exactly when the
core and die counts are powers of two, unless nothing lies above them. Leaf 1 reports a package of
`threads * cores * dies` logical CPUs, leaf 4 and its cache sharing field one of `max_vcpu_count`.
-/

namespace KataContainers.Cpuid

structure CpuTopology where
  threadsPerCore : UInt8
  coresPerDie : UInt8
  diesPerSocket : UInt8
  sockets : UInt8
deriving DecidableEq, Repr

def maxSupportedVcpus : UInt8 := 254

inductive VmConfigError where
  | InvalidThreadsPerCore (n : UInt8)
  | VcpuCountExceedsMaximum
  | InvalidCpuTopology (n : UInt8)
deriving DecidableEq, Repr

/-- `u8::checked_mul`. -/
def checkedMul (a b : UInt8) : Option UInt8 :=
  if a.toNat * b.toNat < 2 ^ 8 then some (a * b) else none

/-- `Option::ok_or`. -/
def okOr {α ε : Type} (o : Option α) (e : ε) : Except ε α :=
  match o with
  | some a => .ok a
  | none => .error e

def handleCpuTopology (cpuTopology : CpuTopology) (vcpuCount : UInt8) :
    Except VmConfigError CpuTopology := do
  if cpuTopology.threadsPerCore < 1 ∨ cpuTopology.threadsPerCore > 2 then
    throw (.InvalidThreadsPerCore cpuTopology.threadsPerCore)
  let n ← okOr (checkedMul cpuTopology.sockets cpuTopology.diesPerSocket) .VcpuCountExceedsMaximum
  let n ← okOr (checkedMul n cpuTopology.coresPerDie) .VcpuCountExceedsMaximum
  let vcpuCountFromTopo ← okOr (checkedMul n cpuTopology.threadsPerCore) .VcpuCountExceedsMaximum
  if vcpuCountFromTopo > maxSupportedVcpus then throw .VcpuCountExceedsMaximum
  if vcpuCountFromTopo < vcpuCount then throw (.InvalidCpuTopology vcpuCountFromTopo)
  pure cpuTopology

namespace CpuTopology

variable (t : CpuTopology)

/-- `max_vcpu_from_topo`, which `set_vm_configuration` makes the VM's `max_vcpu_count`. -/
def maxVcpuFromTopo : UInt8 := t.threadsPerCore * t.coresPerDie * t.diesPerSocket * t.sockets

/-- The `VmSpec` of `set_cpuid` for the vCPU `cpuId` of a VM configured with the topology. -/
def vmSpec (brandString : UInt32 → BsReg → UInt32) (vpmuFeature : VpmuFeatureLevel)
    (cpuId : UInt8) : VmSpec :=
  ⟨cpuId, t.maxVcpuFromTopo, brandString, t.threadsPerCore, t.coresPerDie, t.diesPerSocket,
    vpmuFeature⟩

/-- What `handle_cpu_topology` checks, in `Nat`. -/
structure Accepted (vcpuCount : UInt8) : Prop where
  threads : t.threadsPerCore = 1 ∨ t.threadsPerCore = 2
  le_max : t.sockets.toNat * t.diesPerSocket.toNat * t.coresPerDie.toNat * t.threadsPerCore.toNat ≤ 254
  vcpu_le : vcpuCount.toNat ≤
    t.sockets.toNat * t.diesPerSocket.toNat * t.coresPerDie.toNat * t.threadsPerCore.toNat

end CpuTopology

theorem checkedMul_eq_some {a b c : UInt8} (h : checkedMul a b = some c) :
    c.toNat = a.toNat * b.toNat := by
  unfold checkedMul at h
  split at h
  case isTrue hlt =>
    cases h
    rw [UInt8.toNat_mul, Nat.mod_eq_of_lt hlt]
  case isFalse => cases h

theorem okOr_eq_ok {α ε : Type} {o : Option α} {e : ε} {a : α} (h : okOr o e = .ok a) : o = some a := by
  cases o <;> simp_all [okOr]

theorem handleCpuTopology_eq_ok {t t' : CpuTopology} {vcpuCount : UInt8}
    (h : handleCpuTopology t vcpuCount = .ok t') : t' = t ∧ t.Accepted vcpuCount := by
  simp only [handleCpuTopology, bind, Except.bind, pure, Except.pure, throw, throwThe,
    MonadExceptOf.throw] at h
  split at h
  case isTrue => cases h
  case isFalse hthreads =>
    split at h
    case h_1 => cases h
    case h_2 n₁ h₁ =>
      split at h
      case h_1 => cases h
      case h_2 n₂ h₂ =>
        split at h
        case h_1 => cases h
        case h_2 n₃ h₃ =>
          have hn₁ := checkedMul_eq_some (okOr_eq_ok h₁)
          have hn₂ := checkedMul_eq_some (okOr_eq_ok h₂)
          have hn₃ := checkedMul_eq_some (okOr_eq_ok h₃)
          split at h
          case isTrue => cases h
          case isFalse hmax =>
            split at h
            case isTrue => cases h
            case isFalse hvcpu =>
              cases h
              have hmax' : n₃.toNat ≤ 254 := by
                simpa [maxSupportedVcpus, UInt8.lt_iff_toNat_lt] using hmax
              have hvcpu' : vcpuCount.toNat ≤ n₃.toNat := by
                simpa [UInt8.lt_iff_toNat_lt] using hvcpu
              have hT : t.threadsPerCore = 1 ∨ t.threadsPerCore = 2 := by
                have : t.threadsPerCore.toNat = 1 ∨ t.threadsPerCore.toNat = 2 := by
                  simp at hthreads
                  have h0 : t.threadsPerCore.toNat ≠ 0 := fun h => hthreads.1 (UInt8.toNat.inj h)
                  have h2 : t.threadsPerCore.toNat ≤ 2 := UInt8.le_iff_toNat_le.mp hthreads.2
                  omega
                rcases this with h1 | h2
                · exact .inl (UInt8.toNat.inj h1)
                · exact .inr (UInt8.toNat.inj h2)
              refine ⟨rfl, hT, ?_, ?_⟩ <;> rw [← hn₁, ← hn₂, ← hn₃] <;> assumption

/-! ### Two numberings of the logical CPUs -/

structure TopoId where
  package : Nat
  die : Nat
  core : Nat
  thread : Nat
deriving DecidableEq, Repr

/-- The place of the `c`-th logical CPU when CPUs are numbered thread by thread within a core,
core by core within a die and die by die within a package. -/
def sequentialId (threads cores dies c : Nat) : TopoId :=
  ⟨c / (threads * cores * dies), c / (threads * cores) % dies, c / threads % cores, c % threads⟩

/-- How a guest splits an x2APIC ID with the shift widths of the thread, core and die levels. -/
def decodeX2apicId (threadWidth coreWidth dieWidth apicId : Nat) : TopoId :=
  ⟨apicId >>> dieWidth, (apicId >>> coreWidth) % 2 ^ (dieWidth - coreWidth),
    (apicId >>> threadWidth) % 2 ^ (coreWidth - threadWidth), apicId % 2 ^ threadWidth⟩

/-- The guest's reading of leaf `0x1F` as the transformer writes it: the x2APIC ID in `EDX`, split
with the widths in `EAX[4:0]` of the thread, core and die sub-leaves. -/
def leaf0x1fTopoId (vmSpec : VmSpec) : Option TopoId := do
  let thread ← updateExtendedTopologyV2Entry ⟨Leaf0x1f.leafNum, 0, 0, 0, 0, 0⟩ vmSpec
  let core ← updateExtendedTopologyV2Entry ⟨Leaf0x1f.leafNum, 1, 0, 0, 0, 0⟩ vmSpec
  let die ← updateExtendedTopologyV2Entry ⟨Leaf0x1f.leafNum, 5, 0, 0, 0, 0⟩ vmSpec
  let threadWidth ← readBitsInRange thread.eax Leaf0x1f.Eax.apicidBitrange
  let coreWidth ← readBitsInRange core.eax Leaf0x1f.Eax.apicidBitrange
  let dieWidth ← readBitsInRange die.eax Leaf0x1f.Eax.apicidBitrange
  pure (decodeX2apicId threadWidth.toNat coreWidth.toNat dieWidth.toNat thread.edx.toNat)

/-! ### Leaf `0x1F` -/

section Leaf0x1f

variable (vmSpec : VmSpec) {entry : CpuIdEntry}

theorem numLogicalProcessors_fits (n : UInt8) :
    n.toUInt32.toNat < 2 ^ Leaf0x1f.Ebx.numLogicalProcessorsBitrange.width := by
  have := n.toNat_lt
  simp only [UInt8.toNat_toUInt32, show Leaf0x1f.Ebx.numLogicalProcessorsBitrange.width = 16 from rfl]
  omega

theorem updateExtendedTopologyV2Entry_thread (h : entry.index = 0) :
    ∃ e, updateExtendedTopologyV2Entry entry vmSpec = some e ∧ e.edx = vmSpec.cpuId.toUInt32 ∧
      readBitsInRange e.eax Leaf0x1f.Eax.apicidBitrange = some vmSpec.threadWidth := by
  have hw : vmSpec.threadWidth.toNat < 2 ^ Leaf0x1f.Eax.apicidBitrange.width := by
    rw [vmSpec.threadWidth_toNat, show Leaf0x1f.Eax.apicidBitrange.width = 5 from rfl]
    omega
  obtain ⟨eax, heax⟩ := writeBitsInRange_isSome (x := 0) (by decide) hw
  obtain ⟨ebx, hebx⟩ := writeBitsInRange_isSome (x := 0) (by decide)
    (numLogicalProcessors_fits vmSpec.threadsPerCore)
  obtain ⟨ecx, hecx⟩ := writeBitsInRange_isSome (x := 0) (r := Leaf0x1f.Ecx.levelTypeBitrange)
    (v := Leaf0x1f.levelTypeThread) (by decide) (by decide)
  refine ⟨{ entry with eax, ebx, ecx, edx := vmSpec.cpuId.toUInt32 }, ?_, rfl,
    readBitsInRange_writeBitsInRange heax⟩
  simp [updateExtendedTopologyV2Entry, h, heax, hebx, hecx]

theorem updateExtendedTopologyV2Entry_core (h : entry.index = 1) :
    ∃ e, updateExtendedTopologyV2Entry entry vmSpec = some e ∧ e.edx = vmSpec.cpuId.toUInt32 ∧
      readBitsInRange e.eax Leaf0x1f.Eax.apicidBitrange = some vmSpec.coreWidth := by
  have hw : vmSpec.coreWidth.toNat < 2 ^ Leaf0x1f.Eax.apicidBitrange.width := by
    rw [vmSpec.coreWidth_toNat, vmSpec.threadWidth_toNat,
      show Leaf0x1f.Eax.apicidBitrange.width = 5 from rfl]
    omega
  obtain ⟨eax, heax⟩ := writeBitsInRange_isSome (x := 0) (by decide) hw
  obtain ⟨ebx, hebx⟩ := writeBitsInRange_isSome (x := 0) (by decide)
    (numLogicalProcessors_fits (vmSpec.threadsPerCore * vmSpec.coresPerDie))
  obtain ⟨ecx₁, hecx₁⟩ := writeBitsInRange_isSome (x := 0) (r := Leaf0x1f.Ecx.levelNumberBitrange)
    (v := 1) (by decide) (by decide)
  obtain ⟨ecx₂, hecx₂⟩ := writeBitsInRange_isSome (x := ecx₁) (r := Leaf0x1f.Ecx.levelTypeBitrange)
    (v := Leaf0x1f.levelTypeCore) (by decide) (by decide)
  refine ⟨{ entry with eax, ebx, ecx := ecx₂, edx := vmSpec.cpuId.toUInt32 }, ?_, rfl,
    readBitsInRange_writeBitsInRange heax⟩
  simp [updateExtendedTopologyV2Entry, h, heax, hebx, hecx₁, hecx₂, -UInt8.toUInt32_mul]

theorem updateExtendedTopologyV2Entry_die (h : entry.index = 5) :
    ∃ e, updateExtendedTopologyV2Entry entry vmSpec = some e ∧ e.edx = vmSpec.cpuId.toUInt32 ∧
      readBitsInRange e.eax Leaf0x1f.Eax.apicidBitrange = some vmSpec.dieWidth := by
  have hw : vmSpec.dieWidth.toNat < 2 ^ Leaf0x1f.Eax.apicidBitrange.width := by
    have := vmSpec.dieWidth_toNat_le
    rw [show Leaf0x1f.Eax.apicidBitrange.width = 5 from rfl]
    omega
  obtain ⟨eax, heax⟩ := writeBitsInRange_isSome (x := 0) (by decide) hw
  obtain ⟨ebx, hebx⟩ := writeBitsInRange_isSome (x := 0) (by decide)
    (numLogicalProcessors_fits (vmSpec.threadsPerCore * vmSpec.coresPerDie * vmSpec.diesPerSocket))
  obtain ⟨ecx₁, hecx₁⟩ := writeBitsInRange_isSome (x := 0) (r := Leaf0x1f.Ecx.levelNumberBitrange)
    (v := 5) (by decide) (by decide)
  obtain ⟨ecx₂, hecx₂⟩ := writeBitsInRange_isSome (x := ecx₁) (r := Leaf0x1f.Ecx.levelTypeBitrange)
    (v := Leaf0x1f.levelTypeDie) (by decide) (by decide)
  refine ⟨{ entry with eax, ebx, ecx := ecx₂, edx := vmSpec.cpuId.toUInt32 }, ?_, rfl,
    readBitsInRange_writeBitsInRange heax⟩
  simp [updateExtendedTopologyV2Entry, h, heax, hebx, hecx₁, hecx₂, -UInt8.toUInt32_mul]

/-- Leaf `0xB` describes the thread and core levels as leaf `0x1F` does. -/
theorem updateExtendedTopologyEntry_eq_v2 (h : entry.index = 0 ∨ entry.index = 1) :
    updateExtendedTopologyEntry entry vmSpec = updateExtendedTopologyV2Entry entry vmSpec := by
  rcases h with h | h <;> simp only [updateExtendedTopologyEntry, updateExtendedTopologyV2Entry, h] <;> rfl

/-- Every `VmSpec` gets the three levels of leaf `0x1F`, and the guest splits the vCPU's id with
the three widths. -/
theorem leaf0x1fTopoId_eq : leaf0x1fTopoId vmSpec = some (decodeX2apicId vmSpec.threadWidth.toNat
    vmSpec.coreWidth.toNat vmSpec.dieWidth.toNat vmSpec.cpuId.toNat) := by
  obtain ⟨e₀, h₀, hedx, hw₀⟩ :=
    updateExtendedTopologyV2Entry_thread vmSpec
      (show (⟨Leaf0x1f.leafNum, 0, 0, 0, 0, 0⟩ : CpuIdEntry).index = 0 from rfl)
  obtain ⟨e₁, h₁, -, hw₁⟩ :=
    updateExtendedTopologyV2Entry_core vmSpec
      (show (⟨Leaf0x1f.leafNum, 1, 0, 0, 0, 0⟩ : CpuIdEntry).index = 1 from rfl)
  obtain ⟨e₅, h₅, -, hw₅⟩ :=
    updateExtendedTopologyV2Entry_die vmSpec
      (show (⟨Leaf0x1f.leafNum, 5, 0, 0, 0, 0⟩ : CpuIdEntry).index = 5 from rfl)
  simp [leaf0x1fTopoId, h₀, h₁, h₅, hw₀, hw₁, hw₅, hedx]

end Leaf0x1f

section Numbering

variable {T C D S a b e : Nat}

theorem thread_eq (hT : T = 2 ^ a) (c : Nat) : c % 2 ^ a = c % T := by rw [hT]

theorem core_eq (hT : T = 2 ^ a) (hCb : C ≤ 2 ^ b) {c : Nat} (h : C = 2 ^ b ∨ c / T < C) :
    (c >>> a) % 2 ^ (b + a - a) = c / T % C := by
  rw [Nat.add_sub_cancel, Nat.shiftRight_mod_two_pow_eq_div_mod hCb (hT ▸ h), hT]

theorem die_eq (hT : T = 2 ^ a) (hC : C = 2 ^ b) (hDe : D ≤ 2 ^ e) {c : Nat}
    (h : D = 2 ^ e ∨ c / (T * C) < D) :
    (c >>> (b + a)) % 2 ^ (e + (b + a) - (b + a)) = c / (T * C) % D := by
  have hTC : T * C = 2 ^ (b + a) := by rw [hT, hC, ← Nat.pow_add, Nat.add_comm]
  rw [Nat.add_sub_cancel, Nat.shiftRight_mod_two_pow_eq_div_mod hDe (hTC ▸ h), hTC]

theorem shiftRight_eq_zero {c w : Nat} (h : c < 2 ^ w) : c >>> w = 0 := by
  rw [Nat.shiftRight_eq_div_pow, Nat.div_eq_of_lt h]

/-- With power-of-two radices below, and the top digit of any radix, the fields of an x2APIC ID
are the mixed-radix digits. -/
theorem decode_eq_sequentialId (hT : T = 2 ^ a) (hC0 : 0 < C) (hD0 : 0 < D) (hCb : C ≤ 2 ^ b)
    (hDe : D ≤ 2 ^ e) (hCD : (C = 2 ^ b ∨ D * S = 1) ∧ (D = 2 ^ e ∨ S = 1)) {c : Nat}
    (hc : c < T * C * D * S) :
    decodeX2apicId a (b + a) (e + (b + a)) c = sequentialId T C D c := by
  have hT0 : 0 < T := hT ▸ Nat.two_pow_pos a
  have hcore : C = 2 ^ b ∨ c / T < C := by
    refine hCD.1.imp_right fun h1 => ?_
    rw [mul_eq_one] at h1
    rw [Nat.div_lt_iff_lt_mul hT0]
    simpa [h1.1, h1.2, Nat.mul_comm] using hc
  have hbig : ¬ (C = 2 ^ b ∧ D = 2 ^ e) → c < 2 ^ (e + (b + a)) ∧ c < T * C * D := by
    intro hn
    have hS : S = 1 := by
      rcases hCD with ⟨h1 | h1, h2 | h2⟩
      · exact absurd ⟨h1, h2⟩ hn
      · exact h2
      · exact (mul_eq_one.mp h1).2
      · exact h2
    have hlt : c < T * C * D := by simpa [hS] using hc
    refine ⟨lt_of_lt_of_le hlt ?_, hlt⟩
    rw [Nat.pow_add, Nat.pow_add, hT]
    calc 2 ^ a * C * D ≤ 2 ^ a * 2 ^ b * 2 ^ e :=
          Nat.mul_le_mul (Nat.mul_le_mul_left _ hCb) hDe
      _ = 2 ^ e * (2 ^ b * 2 ^ a) := by ring
  simp only [decodeX2apicId, sequentialId, TopoId.mk.injEq]
  refine ⟨?_, ?_, core_eq hT hCb hcore, thread_eq hT c⟩
  · by_cases hexact : C = 2 ^ b ∧ D = 2 ^ e
    · rw [Nat.shiftRight_eq_div_pow, hexact.1, hexact.2, hT, ← Nat.pow_add, ← Nat.pow_add]
      ring_nf
    · obtain ⟨hc₁, hc₂⟩ := hbig hexact
      rw [shiftRight_eq_zero hc₁, Nat.div_eq_of_lt hc₂]
  · by_cases hC : C = 2 ^ b
    · refine die_eq hT hC hDe (hCD.2.imp_right fun hS => ?_)
      rw [Nat.div_lt_iff_lt_mul (Nat.mul_pos hT0 hC0)]
      simpa [hS, Nat.mul_comm, Nat.mul_left_comm, Nat.mul_assoc] using hc
    · obtain ⟨hD1, hS1⟩ := mul_eq_one.mp (hCD.1.resolve_left hC)
      subst hD1 hS1
      have hcTC : c < 2 ^ (b + a) := by
        rw [Nat.pow_add, ← hT, Nat.mul_comm]
        exact lt_of_lt_of_le (by simpa using hc) (Nat.mul_le_mul_left _ hCb)
      rw [Nat.add_sub_cancel, shiftRight_eq_zero hcTC, Nat.mod_one, Nat.zero_mod]

/-- Where the cores do not fill their field, the first CPU of the second die gets the core
digit `C` in the field and `0` in the numbering. -/
theorem decode_core_ne (hT : T = 2 ^ a) (hC0 : 0 < C) (hCb : C ≤ 2 ^ b) (hC : C ≠ 2 ^ b) :
    (decodeX2apicId a (b + a) (e + (b + a)) (T * C)).core ≠ (sequentialId T C D (T * C)).core := by
  have hT0 : 0 < T := hT ▸ Nat.two_pow_pos a
  simp only [decodeX2apicId, sequentialId]
  rw [Nat.add_sub_cancel, Nat.shiftRight_eq_div_pow, ← hT, Nat.mul_div_cancel_left _ hT0,
    Nat.mod_self, Nat.mod_eq_of_lt (lt_of_le_of_ne hCb hC)]
  exact Nat.pos_iff_ne_zero.mp hC0

/-- Where the cores fill their field but the dies do not, the first CPU of the second package
gets the die digit `D` in the field and `0` in the numbering. -/
theorem decode_die_ne (hT : T = 2 ^ a) (hC : C = 2 ^ b) (hD0 : 0 < D) (hDe : D ≤ 2 ^ e)
    (hD : D ≠ 2 ^ e) :
    (decodeX2apicId a (b + a) (e + (b + a)) (T * C * D)).die ≠
      (sequentialId T C D (T * C * D)).die := by
  have hTC : T * C = 2 ^ (b + a) := by rw [hT, hC, ← Nat.pow_add, Nat.add_comm]
  have hTC0 : 0 < T * C := hTC ▸ Nat.two_pow_pos _
  simp only [decodeX2apicId, sequentialId]
  rw [Nat.add_sub_cancel, Nat.shiftRight_eq_div_pow, ← hTC, Nat.mul_div_cancel_left _ hTC0,
    Nat.mod_self, Nat.mod_eq_of_lt (lt_of_le_of_ne hDe hD)]
  exact Nat.pos_iff_ne_zero.mp hD0

/-- The fields of every x2APIC ID below `T * C * D * S` are its mixed-radix digits exactly when
each of the core and die counts fills its field or has nothing above it. -/
theorem decode_eq_sequentialId_iff (hT : T = 2 ^ a) (hC0 : 0 < C) (hD0 : 0 < D) (hS0 : 0 < S)
    (hCb : C ≤ 2 ^ b) (hDe : D ≤ 2 ^ e) :
    (∀ c < T * C * D * S, decodeX2apicId a (b + a) (e + (b + a)) c = sequentialId T C D c) ↔
      (C = 2 ^ b ∨ D * S = 1) ∧ (D = 2 ^ e ∨ S = 1) := by
  have hT0 : 0 < T := hT ▸ Nat.two_pow_pos a
  constructor
  · intro hall
    have hcore : C = 2 ^ b ∨ D * S = 1 := by
      by_contra hn
      rw [not_or] at hn
      have hDS : 1 < D * S := by have := Nat.mul_pos hD0 hS0; omega
      have hlt : T * C < T * C * D * S := by
        rw [Nat.mul_assoc (T * C)]
        exact lt_mul_of_one_lt_right (Nat.mul_pos hT0 hC0) hDS
      exact decode_core_ne hT hC0 hCb hn.1 (congrArg TopoId.core (hall _ hlt))
    refine ⟨hcore, ?_⟩
    by_contra hn
    rw [not_or] at hn
    have hC : C = 2 ^ b := hcore.resolve_right fun h => hn.2 (mul_eq_one.mp h).2
    have hlt : T * C * D < T * C * D * S :=
      lt_mul_of_one_lt_right (Nat.mul_pos (Nat.mul_pos hT0 hC0) hD0) (by omega)
    exact decode_die_ne hT hC hD0 hDe hn.1 (congrArg TopoId.die (hall _ hlt))
  · intro hCD c hc
    exact decode_eq_sequentialId hT hC0 hD0 hCb hDe hCD hc

end Numbering

/-! ### The CPUID of an accepted topology -/

theorem forall_lt_iff_forall_toNat_lt {m : UInt8} {P : Nat → Prop} :
    (∀ c : UInt8, c < m → P c.toNat) ↔ ∀ n < m.toNat, P n := by
  constructor
  · intro h n hn
    have hn' : n < 2 ^ 8 := lt_trans hn m.toNat_lt
    have hc : (UInt8.ofNat n).toNat = n := by simp; omega
    have := h (UInt8.ofNat n) (UInt8.lt_iff_toNat_lt.mpr (by rw [hc]; exact hn))
    rwa [hc] at this
  · intro h c hc
    exact h _ (UInt8.lt_iff_toNat_lt.mp hc)

namespace CpuTopology.Accepted

variable {t : CpuTopology} {vcpuCount : UInt8} (h : t.Accepted vcpuCount)
include h

theorem maxVcpuFromTopo_toNat : t.maxVcpuFromTopo.toNat =
    t.threadsPerCore.toNat * t.coresPerDie.toNat * t.diesPerSocket.toNat * t.sockets.toNat := by
  have hle := h.le_max
  have hcomm : t.sockets.toNat * t.diesPerSocket.toNat * t.coresPerDie.toNat * t.threadsPerCore.toNat =
      t.threadsPerCore.toNat * t.coresPerDie.toNat * t.diesPerSocket.toNat * t.sockets.toNat := by ring
  simp only [maxVcpuFromTopo, UInt8.toNat_mul, Nat.mod_mul_mod]
  exact Nat.mod_eq_of_lt (by omega)

/-- With a vCPU at all, every count is positive. -/
theorem counts_pos (hpos : t.maxVcpuFromTopo ≠ 0) :
    0 < t.threadsPerCore.toNat ∧ 0 < t.coresPerDie.toNat ∧ 0 < t.diesPerSocket.toNat ∧
      0 < t.sockets.toNat := by
  have h0 : t.threadsPerCore.toNat * t.coresPerDie.toNat * t.diesPerSocket.toNat * t.sockets.toNat ≠ 0 := by
    rw [← h.maxVcpuFromTopo_toNat]
    exact fun h' => hpos (UInt8.toNat.inj h')
  simp only [mul_ne_zero_iff] at h0
  omega

theorem threads_eq_two_pow :
    t.threadsPerCore.toNat = 2 ^ (8 - (t.threadsPerCore - 1).toBitVec.clz.toNat) := by
  rcases h.threads with h1 | h2
  · rw [h1]; decide
  · rw [h2]; decide

theorem packageSize_lt (hpos : t.maxVcpuFromTopo ≠ 0) :
    t.threadsPerCore.toNat * t.coresPerDie.toNat * t.diesPerSocket.toNat < 2 ^ 8 := by
  have hS := (h.counts_pos hpos).2.2.2
  have hle := h.le_max
  have : t.threadsPerCore.toNat * t.coresPerDie.toNat * t.diesPerSocket.toNat ≤
      t.sockets.toNat * t.diesPerSocket.toNat * t.coresPerDie.toNat * t.threadsPerCore.toNat := by
    calc _ ≤ t.threadsPerCore.toNat * t.coresPerDie.toNat * t.diesPerSocket.toNat * t.sockets.toNat :=
          Nat.le_mul_of_pos_right _ hS
      _ = _ := by ring
  omega

theorem packageSize_toNat (hpos : t.maxVcpuFromTopo ≠ 0) :
    (t.threadsPerCore * t.coresPerDie * t.diesPerSocket).toNat =
      t.threadsPerCore.toNat * t.coresPerDie.toNat * t.diesPerSocket.toNat := by
  simp only [UInt8.toNat_mul, Nat.mod_mul_mod]
  exact Nat.mod_eq_of_lt (h.packageSize_lt hpos)

/-- The guest's split of every vCPU id by leaf `0x1F` is the dense numbering exactly when the
core count is a power of two or alone in the VM, and the die count a power of two or alone in
the VM. -/
theorem leaf0x1f_numbering_iff (hpos : t.maxVcpuFromTopo ≠ 0)
    (brandString : UInt32 → BsReg → UInt32) (vpmuFeature : VpmuFeatureLevel) :
    (∀ c, c < t.maxVcpuFromTopo → leaf0x1fTopoId (t.vmSpec brandString vpmuFeature c) =
        some (sequentialId t.threadsPerCore.toNat t.coresPerDie.toNat t.diesPerSocket.toNat c.toNat)) ↔
      (t.coresPerDie.toNat.isPowerOfTwo ∨ t.diesPerSocket.toNat * t.sockets.toNat = 1) ∧
        (t.diesPerSocket.toNat.isPowerOfTwo ∨ t.sockets.toNat = 1) := by
  obtain ⟨-, hC0, hD0, hS0⟩ := h.counts_pos hpos
  have hC : t.coresPerDie ≠ 0 := fun h0 => by simp [h0] at hC0
  have hD : t.diesPerSocket ≠ 0 := fun h0 => by simp [h0] at hD0
  simp only [leaf0x1fTopoId_eq, Option.some.injEq, VmSpec.dieWidth_toNat, VmSpec.coreWidth_toNat,
    VmSpec.threadWidth_toNat, CpuTopology.vmSpec]
  rw [forall_lt_iff_forall_toNat_lt (P := fun n => decodeX2apicId _ _ _ n = sequentialId _ _ _ n),
    h.maxVcpuFromTopo_toNat, decode_eq_sequentialId_iff h.threads_eq_two_pow hC0 hD0 hS0
      (UInt8.le_two_pow_width hC) (UInt8.le_two_pow_width hD),
    UInt8.isPowerOfTwo_iff_eq_two_pow_width hC, UInt8.isPowerOfTwo_iff_eq_two_pow_width hD]

/-- Leaf 1 of every vCPU puts `threads * cores * dies` logical CPUs in the package, and leaf 4 for
the L3 cache `threads * cores * dies * sockets`, in its cache sharing field and, when there are at
most 64 of them, in its package field. -/
theorem package_sizes (hpos : t.maxVcpuFromTopo ≠ 0) (brandString : UInt32 → BsReg → UInt32)
    (vpmuFeature : VpmuFeatureLevel) (c : UInt8) (e₁ e₄ : CpuIdEntry)
    (hlevel : readBitsInRange e₄.eax LeafCacheParameters.Eax.cacheLevelBitrange = some 3) :
    ∃ e₁' e₄', updateFeatureInfoEntry e₁ (t.vmSpec brandString vpmuFeature c) = some e₁' ∧
      updateDeterministicCacheEntry e₄ (t.vmSpec brandString vpmuFeature c) = some e₄' ∧
      readBitsInRange e₁'.ebx Leaf0x1.Ebx.cpuCountBitrange =
        some (t.threadsPerCore.toNat * t.coresPerDie.toNat * t.diesPerSocket.toNat).toUInt32 ∧
      readBitsInRange e₄'.eax LeafCacheParameters.Eax.maxCpusPerCoreBitrange =
        some (t.threadsPerCore.toNat * t.coresPerDie.toNat * t.diesPerSocket.toNat *
          t.sockets.toNat - 1).toUInt32 ∧
      (t.threadsPerCore.toNat * t.coresPerDie.toNat * t.diesPerSocket.toNat * t.sockets.toNat ≤ 64 →
        readBitsInRange e₄'.eax Leaf0x4.Eax.maxCoresPerPackageBitrange =
          some (t.threadsPerCore.toNat * t.coresPerDie.toNat * t.diesPerSocket.toNat *
            t.sockets.toNat - 1).toUInt32) := by
  have hmax := h.maxVcpuFromTopo_toNat
  have hcount : (t.maxVcpuFromTopo - 1).toUInt32 =
      (t.threadsPerCore.toNat * t.coresPerDie.toNat * t.diesPerSocket.toNat * t.sockets.toNat - 1).toUInt32 := by
    apply UInt32.toNat.inj
    rw [UInt8.toNat_toUInt32, UInt8.toNat_sub_one hpos, hmax, UInt32.toNat_ofNat']
    have := t.maxVcpuFromTopo.toNat_lt
    omega
  obtain ⟨e₁', h₁, hc₁⟩ := @updateFeatureInfoEntry_cpuCount (t.vmSpec brandString vpmuFeature c) e₁
  obtain ⟨e₄', h₄, hc₄, hp₄⟩ :=
    updateDeterministicCacheEntry_l3 (t.vmSpec brandString vpmuFeature c) hpos hlevel
  refine ⟨e₁', e₄', h₁, h₄, ?_, ?_, fun h64 => ?_⟩
  · rw [hc₁]
    congr 1
    apply UInt32.toNat.inj
    rw [UInt8.toNat_toUInt32]
    simp only [CpuTopology.vmSpec]
    rw [h.packageSize_toNat hpos, UInt32.toNat_ofNat']
    exact (Nat.mod_eq_of_lt (lt_trans (h.packageSize_lt hpos) (by decide))).symm
  · rw [hc₄]; exact congrArg some hcount
  · rw [hp₄ (UInt8.le_iff_toNat_le.mpr (by simpa [CpuTopology.vmSpec, hmax] using h64))]
    exact congrArg some hcount

end CpuTopology.Accepted

theorem CpuTopology.Accepted.maxVcpuFromTopo_ne_zero {t : CpuTopology} {vcpuCount : UInt8}
    (h : t.Accepted vcpuCount) (hv : vcpuCount ≠ 0) : t.maxVcpuFromTopo ≠ 0 := by
  intro h0
  have hmax := h.maxVcpuFromTopo_toNat
  have hle := h.vcpu_le
  have hv' := UInt8.toNat_pos hv
  have hcomm : t.sockets.toNat * t.diesPerSocket.toNat * t.coresPerDie.toNat * t.threadsPerCore.toNat =
      t.threadsPerCore.toNat * t.coresPerDie.toNat * t.diesPerSocket.toNat * t.sockets.toNat := by ring
  rw [h0] at hmax
  simp only [UInt8.toNat_zero] at hmax
  omega

/-- For every topology that `handle_cpu_topology` accepts for a nonzero vCPU count, the guest's
split of the vCPU ids by leaf `0x1F` is the dense numbering exactly when the core and die counts
are powers of two or have nothing above them; and leaf 1 reports packages of
`threads * cores * dies` logical CPUs where leaf 4 reports `threads * cores * dies * sockets`. -/
theorem cpuid_topology_of_accepted {t : CpuTopology} {vcpuCount : UInt8} (hv : vcpuCount ≠ 0)
    (hacc : handleCpuTopology t vcpuCount = .ok t) (brandString : UInt32 → BsReg → UInt32)
    (vpmuFeature : VpmuFeatureLevel) :
    ((∀ c, c < t.maxVcpuFromTopo → leaf0x1fTopoId (t.vmSpec brandString vpmuFeature c) =
        some (sequentialId t.threadsPerCore.toNat t.coresPerDie.toNat t.diesPerSocket.toNat c.toNat)) ↔
      (t.coresPerDie.toNat.isPowerOfTwo ∨ t.diesPerSocket.toNat * t.sockets.toNat = 1) ∧
        (t.diesPerSocket.toNat.isPowerOfTwo ∨ t.sockets.toNat = 1)) ∧
    ∀ c (e₁ e₄ : CpuIdEntry),
      readBitsInRange e₄.eax LeafCacheParameters.Eax.cacheLevelBitrange = some 3 →
      ∃ e₁' e₄', updateFeatureInfoEntry e₁ (t.vmSpec brandString vpmuFeature c) = some e₁' ∧
        updateDeterministicCacheEntry e₄ (t.vmSpec brandString vpmuFeature c) = some e₄' ∧
        readBitsInRange e₁'.ebx Leaf0x1.Ebx.cpuCountBitrange =
          some (t.threadsPerCore.toNat * t.coresPerDie.toNat * t.diesPerSocket.toNat).toUInt32 ∧
        readBitsInRange e₄'.eax LeafCacheParameters.Eax.maxCpusPerCoreBitrange =
          some (t.threadsPerCore.toNat * t.coresPerDie.toNat * t.diesPerSocket.toNat *
            t.sockets.toNat - 1).toUInt32 ∧
        (t.threadsPerCore.toNat * t.coresPerDie.toNat * t.diesPerSocket.toNat * t.sockets.toNat ≤ 64 →
          readBitsInRange e₄'.eax Leaf0x4.Eax.maxCoresPerPackageBitrange =
            some (t.threadsPerCore.toNat * t.coresPerDie.toNat * t.diesPerSocket.toNat *
              t.sockets.toNat - 1).toUInt32) := by
  obtain ⟨-, hA⟩ := handleCpuTopology_eq_ok hacc
  have hpos := hA.maxVcpuFromTopo_ne_zero hv
  exact ⟨hA.leaf0x1f_numbering_iff hpos brandString vpmuFeature,
    fun c e₁ e₄ hlevel => hA.package_sizes hpos brandString vpmuFeature c e₁ e₄ hlevel⟩

/-- Three cores per die and two sockets: the first vCPU of the second socket. -/
def threeCoreTopology : CpuTopology := ⟨1, 3, 1, 2⟩

theorem three_not_isPowerOfTwo : ¬ (3 : Nat).isPowerOfTwo := by
  rintro ⟨k, hk⟩
  cases k with
  | zero => simp at hk
  | succ k => rw [Nat.pow_succ] at hk; omega

theorem cpuid_topology_of_three_cores :
    (6 : UInt8) ≠ 0 ∧ handleCpuTopology threeCoreTopology 6 = .ok threeCoreTopology ∧
      ¬ (∀ c, c < threeCoreTopology.maxVcpuFromTopo →
        leaf0x1fTopoId (threeCoreTopology.vmSpec (fun _ _ => 0) .Disabled c) =
          some (sequentialId threeCoreTopology.threadsPerCore.toNat threeCoreTopology.coresPerDie.toNat
            threeCoreTopology.diesPerSocket.toNat c.toNat)) ∧
      leaf0x1fTopoId (threeCoreTopology.vmSpec (fun _ _ => 0) .Disabled 3) = some ⟨0, 0, 3, 0⟩ ∧
      sequentialId 1 3 1 3 = ⟨1, 0, 0, 0⟩ := by
  have hv : (6 : UInt8) ≠ 0 := by decide
  have hacc : handleCpuTopology threeCoreTopology 6 = .ok threeCoreTopology := rfl
  refine ⟨hv, hacc, ?_, by decide, by decide⟩
  rw [(cpuid_topology_of_accepted hv hacc (fun _ _ => 0) .Disabled).1]
  simp only [threeCoreTopology, not_and_or]
  exact .inl (by simpa using three_not_isPowerOfTwo)

end KataContainers.Cpuid

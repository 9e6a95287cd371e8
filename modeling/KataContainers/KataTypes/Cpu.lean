import KataContainers.KataTypes.U32Set
import KataContainers.Lib.RustInt

/-!
# CPU resources of containers and of the sandbox

`kata_types::cpu`: `LinuxContainerCpuResources::try_from` reads an OCI `LinuxCpu` into the
milliseconds of vCPU time its quota asks for (`quota * 1000 / period`, the product saturating),
and `LinuxSandboxCpuResources::merge` adds a container's milliseconds to the sandbox's with `+=`,
which wraps in a release build, and extends its cpuset and nodeset.
-/

namespace KataContainers.KataTypes

open RustInt

/-- The fields of `oci::LinuxCpu` that `try_from` reads. -/
structure LinuxCpu where
  shares : Option UInt64
  quota : Option Int64
  period : Option UInt64
  cpus : Option String
  mems : Option String

inductive CpuError where
  | InvalidCpuSet (e : Error)
  | InvalidNodeSet (e : Error)

structure LinuxContainerCpuResources where
  shares : UInt64
  period : UInt64
  quota : Int64
  cpuset : U32Set
  nodeset : U32Set
  calculatedVcpuTimeMs : Option UInt64

namespace LinuxContainerCpuResources

/-- vCPUs to fulfil the request, `none` for an unconstrained one. -/
def getVcpus (r : LinuxContainerCpuResources) : Option UInt64 :=
  r.calculatedVcpuTimeMs.map fun v => saturatingAdd v 999 / 1000

def tryFrom (value : LinuxCpu) : Except CpuError LinuxContainerCpuResources := do
  let period := value.period.getD 0
  let quota := value.quota.getD (-1)
  let cpuset ← (fromStr (value.cpus.getD "")).mapError .InvalidCpuSet
  let nodeset ← (fromStr (value.mems.getD "")).mapError .InvalidNodeSet
  -- a quota of -1 asks for no extra vCPU
  let milliSec := if quota ≥ 0 ∧ period ≠ 0 then
      some (saturatingMul quota.toUInt64 1000 / period)
    else none
  pure ⟨value.shares.getD 0, period, quota, cpuset, nodeset, milliSec⟩

end LinuxContainerCpuResources

structure LinuxSandboxCpuResources where
  shares : UInt64
  calculatedVcpuTimeMs : UInt64
  cpuset : U32Set
  nodeset : U32Set

namespace LinuxSandboxCpuResources

def new (shares : UInt64) : LinuxSandboxCpuResources := ⟨shares, 0, U32Set.new, U32Set.new⟩

def getVcpus (s : LinuxSandboxCpuResources) : UInt64 :=
  if s.calculatedVcpuTimeMs = 0 ∧ s.cpuset.ids ≠ [] then s.cpuset.ids.length.toUInt64
  else saturatingAdd s.calculatedVcpuTimeMs 999 / 1000

def merge (s : LinuxSandboxCpuResources) (containerResource : LinuxContainerCpuResources) :
    LinuxSandboxCpuResources :=
  { s with
    calculatedVcpuTimeMs := match containerResource.calculatedVcpuTimeMs with
      | some v => s.calculatedVcpuTimeMs + v
      | none => s.calculatedVcpuTimeMs
    cpuset := s.cpuset.extend containerResource.cpuset.ids
    nodeset := s.nodeset.extend containerResource.nodeset.ids }

/-- The sandbox after merging the containers in turn. -/
def mergeAll (s : LinuxSandboxCpuResources) (containers : List LinuxContainerCpuResources) :
    LinuxSandboxCpuResources :=
  containers.foldl merge s

/- The fields of `new` and `merge`, and the fold of `mergeAll` one container at a time, which the
proofs below rewrite with. -/

@[simp] theorem new_calculatedVcpuTimeMs (shares : UInt64) : (new shares).calculatedVcpuTimeMs = 0 :=
  rfl

@[simp] theorem new_cpuset (shares : UInt64) : (new shares).cpuset = U32Set.new := rfl

@[simp] theorem new_nodeset (shares : UInt64) : (new shares).nodeset = U32Set.new := rfl

theorem merge_calculatedVcpuTimeMs (s : LinuxSandboxCpuResources) (c : LinuxContainerCpuResources) :
    (s.merge c).calculatedVcpuTimeMs =
      match c.calculatedVcpuTimeMs with
      | some v => s.calculatedVcpuTimeMs + v
      | none => s.calculatedVcpuTimeMs := rfl

theorem merge_cpuset (s : LinuxSandboxCpuResources) (c : LinuxContainerCpuResources) :
    (s.merge c).cpuset = s.cpuset.extend c.cpuset.ids := rfl

theorem merge_nodeset (s : LinuxSandboxCpuResources) (c : LinuxContainerCpuResources) :
    (s.merge c).nodeset = s.nodeset.extend c.nodeset.ids := rfl

@[simp] theorem mergeAll_nil (s : LinuxSandboxCpuResources) : s.mergeAll [] = s := rfl

theorem mergeAll_cons (s : LinuxSandboxCpuResources) (c : LinuxContainerCpuResources)
    (cs : List LinuxContainerCpuResources) : s.mergeAll (c :: cs) = (s.merge c).mergeAll cs := rfl

end LinuxSandboxCpuResources

/-! ### What merging computes -/

namespace LinuxSandboxCpuResources

/-- The milliseconds of `merge` are the sum of the containers' modulo `2 ^ 64`. -/
theorem mergeAll_calculated (s : LinuxSandboxCpuResources)
    (containers : List LinuxContainerCpuResources) :
    (s.mergeAll containers).calculatedVcpuTimeMs.toNat =
      (s.calculatedVcpuTimeMs.toNat +
        (containers.map fun c => (c.calculatedVcpuTimeMs.getD 0).toNat).sum) % 2 ^ 64 := by
  induction containers generalizing s with
  | nil =>
      simp [Nat.mod_eq_of_lt s.calculatedVcpuTimeMs.toNat_lt]
  | cons c cs ih =>
      rw [mergeAll_cons, ih]
      have hstep : (s.merge c).calculatedVcpuTimeMs.toNat =
          (s.calculatedVcpuTimeMs.toNat + (c.calculatedVcpuTimeMs.getD 0).toNat) % 2 ^ 64 := by
        cases hc : c.calculatedVcpuTimeMs with
        | some v => simp [merge_calculatedVcpuTimeMs, hc, UInt64.toNat_add]
        | none => simp [merge_calculatedVcpuTimeMs, hc, Nat.mod_eq_of_lt s.calculatedVcpuTimeMs.toNat_lt]
      rw [hstep, List.map_cons, List.sum_cons, Nat.mod_add_mod, Nat.add_assoc]

theorem mem_mergeAll_cpuset {s : LinuxSandboxCpuResources}
    {containers : List LinuxContainerCpuResources} {x : Nat} :
    x ∈ (s.mergeAll containers).cpuset.ids ↔ x ∈ s.cpuset.ids ∨ ∃ c ∈ containers, x ∈ c.cpuset.ids := by
  induction containers generalizing s with
  | nil => simp
  | cons c cs ih =>
      rw [mergeAll_cons, ih]
      simp only [merge_cpuset, U32Set.mem_extend, List.mem_cons, exists_eq_or_imp]
      tauto

theorem mem_mergeAll_nodeset {s : LinuxSandboxCpuResources}
    {containers : List LinuxContainerCpuResources} {x : Nat} :
    x ∈ (s.mergeAll containers).nodeset.ids ↔
      x ∈ s.nodeset.ids ∨ ∃ c ∈ containers, x ∈ c.nodeset.ids := by
  induction containers generalizing s with
  | nil => simp
  | cons c cs ih =>
      rw [mergeAll_cons, ih]
      simp only [merge_nodeset, U32Set.mem_extend, List.mem_cons, exists_eq_or_imp]
      tauto

/-- From a new sandbox, the cpuset and the nodeset are the increasing unions of the containers'. -/
theorem new_mergeAll_sets (shares : UInt64) (containers : List LinuxContainerCpuResources) :
    ((new shares).mergeAll containers).cpuset.ids =
        RustStd.sortDedup (containers.flatMap fun c => c.cpuset.ids) ∧
      ((new shares).mergeAll containers).nodeset.ids =
        RustStd.sortDedup (containers.flatMap fun c => c.nodeset.ids) := by
  constructor
  · refine (RustStd.sortDedup_eq_of_pairwise (U32Set.sorted _) fun x => ?_).symm
    simp [mem_mergeAll_cpuset, U32Set.new]
  · refine (RustStd.sortDedup_eq_of_pairwise (U32Set.sorted _) fun x => ?_).symm
    simp [mem_mergeAll_nodeset, U32Set.new]

theorem vcpus_mono {a b : UInt64} (h : a.toNat ≤ b.toNat) :
    (saturatingAdd a 999 / 1000).toNat ≤ (saturatingAdd b 999 / 1000).toNat := by
  simp only [UInt64.toNat_div, toNat_saturatingAdd, UInt64.reduceToNat]
  apply Nat.div_le_div_right
  omega

/-- While the sum of the containers' milliseconds fits in `u64`, the sandbox asks for at least
the vCPUs of each container. -/
theorem getVcpus_ge_of_no_overflow (shares : UInt64) (containers : List LinuxContainerCpuResources)
    (hfit : (containers.map fun c => (c.calculatedVcpuTimeMs.getD 0).toNat).sum < 2 ^ 64)
    {c : LinuxContainerCpuResources} (hc : c ∈ containers) {v : UInt64} (hv : c.getVcpus = some v) :
    v.toNat ≤ ((new shares).mergeAll containers).getVcpus.toNat := by
  obtain ⟨ms, hms, rfl⟩ := Option.map_eq_some_iff.mp hv
  have hsum : ((new shares).mergeAll containers).calculatedVcpuTimeMs.toNat =
      (containers.map fun c => (c.calculatedVcpuTimeMs.getD 0).toNat).sum := by
    rw [mergeAll_calculated]
    simp only [new_calculatedVcpuTimeMs, UInt64.toNat_zero, Nat.zero_add]
    exact Nat.mod_eq_of_lt hfit
  have hle : ms.toNat ≤ ((new shares).mergeAll containers).calculatedVcpuTimeMs.toNat := by
    rw [hsum]
    have hmem : (c.calculatedVcpuTimeMs.getD 0).toNat ∈
        containers.map fun c => (c.calculatedVcpuTimeMs.getD 0).toNat := List.mem_map_of_mem hc
    simpa [hms] using List.le_sum_of_mem hmem
  unfold getVcpus
  split_ifs with hzero
  · -- the sandbox asks for no time, so neither does the container
    have hms0 : ms.toNat = 0 := by
      have := hzero.1
      rw [← UInt64.toNat_inj] at this
      simp only [UInt64.toNat_zero] at this
      omega
    have : saturatingAdd ms 999 / 1000 = 0 := by
      apply UInt64.toNat.inj
      simp [toNat_saturatingAdd, hms0]
    rw [this]
    exact Nat.zero_le _
  · exact vcpus_mono hle

end LinuxSandboxCpuResources

/-- A quota whose milliseconds saturate: `2 ^ 62` µs over a period of 1 µs. -/
def saturatedCpu : LinuxCpu := ⟨none, some 4611686018427387904, some 1, none, none⟩

/-- A quota of 2 µs over 1000 µs: two milliseconds. -/
def smallCpu : LinuxCpu := ⟨none, some 2, some 1000, none, none⟩

/-- The resources of a container granted two milliseconds of every second. -/
def smallResources : LinuxContainerCpuResources := ⟨0, 1000, 2, U32Set.new, U32Set.new, some 2⟩

/-- A sandbox of that container and an unconstrained one asks for its one vCPU. -/
theorem getVcpus_ge_of_no_overflow_small :
    ([smallResources, { smallResources with calculatedVcpuTimeMs := none }].map
        fun c => (c.calculatedVcpuTimeMs.getD 0).toNat).sum < 2 ^ 64 ∧
      smallResources.getVcpus = some 1 ∧
      (1 : UInt64).toNat ≤ ((LinuxSandboxCpuResources.new 0).mergeAll
        [smallResources, { smallResources with calculatedVcpuTimeMs := none }]).getVcpus.toNat := by
  have hfit : ([smallResources, { smallResources with calculatedVcpuTimeMs := none }].map
      fun c => (c.calculatedVcpuTimeMs.getD 0).toNat).sum < 2 ^ 64 := by decide
  have hv : smallResources.getVcpus = some 1 := rfl
  exact ⟨hfit, hv, LinuxSandboxCpuResources.getVcpus_ge_of_no_overflow 0 _ hfit
    List.mem_cons_self hv⟩

/-- Merging a saturated container and a small one wraps the sandbox's milliseconds to 1, and the
sandbox asks for one vCPU where the first container alone asks for `u64::MAX / 1000`. -/
theorem sandbox_vcpus_wrap_below_container :
    ∃ a b, LinuxContainerCpuResources.tryFrom saturatedCpu = .ok a ∧
      LinuxContainerCpuResources.tryFrom smallCpu = .ok b ∧
      2 ^ 64 ≤ (a.calculatedVcpuTimeMs.getD 0).toNat + (b.calculatedVcpuTimeMs.getD 0).toNat ∧
      ((LinuxSandboxCpuResources.new 0).mergeAll [a, b]).calculatedVcpuTimeMs = 1 ∧
      ((LinuxSandboxCpuResources.new 0).mergeAll [a, b]).getVcpus = 1 ∧
      a.getVcpus = some 18446744073709551 :=
  ⟨⟨0, 1, 4611686018427387904, U32Set.new, U32Set.new, some u64Max⟩,
    ⟨0, 1000, 2, U32Set.new, U32Set.new, some 2⟩, rfl, rfl, by decide, rfl, rfl, rfl⟩

end KataContainers.KataTypes

import KataContainers.KataTypes.Cpu
import KataContainers.Lib.Binary64

/-!
# vCPUs of the sandbox in runtime-rs

`resource::cpu_mem::cpu`: `update_container_cpu_resources` keeps every container's
`LinuxContainerCpuResources` in a `HashMap`, and `calc_cpu_resources` sizes the sandbox from
them. It rewrites every quota to the largest period, `quota * (max_period / period)`, sums the
results in `f64`, divides by that period, adds the default number of vCPUs and rounds up; a
sandbox constrained only by cpusets gets one vCPU per cpu. The default is an `f32`, which
`as f64` keeps exactly, so it is the double of its value here. The `HashMap` is a list in its
iteration order, and the `HashSet` of cpus a `U32Set`.
-/

namespace KataContainers.Resource

open KataContainers.KataTypes Binary64 Binary64.F64

inductive ResourceUpdateOp where
  | Add
  | Del
  | Update

structure CpuResource where
  defaultVcpu : F64
  containerCpuResources : List (String × LinuxContainerCpuResources)

/-- `HashMap::insert`: the value `k` had, and the map with `v` at `k`. -/
def insertEntry (k : String) (v : LinuxContainerCpuResources) :
    List (String × LinuxContainerCpuResources) →
      Option LinuxContainerCpuResources × List (String × LinuxContainerCpuResources)
  | [] => (none, [(k, v)])
  | (k', v') :: rest =>
      if k' = k then (some v', (k, v) :: rest)
      else ((insertEntry k v rest).1, (k', v') :: (insertEntry k v rest).2)

def updateContainerCpuResources (r : CpuResource) (cid : String) (linuxCpus : Option LinuxCpu)
    (op : ResourceUpdateOp) : Except CpuError CpuResource :=
  match linuxCpus with
  | none => pure r
  | some cpu => do
      let containerResource ← LinuxContainerCpuResources.tryFrom cpu
      let resources := r.containerCpuResources
      match op with
      | .Add => pure { r with containerCpuResources := (insertEntry cid containerResource resources).2 }
      | .Update =>
          match insertEntry cid containerResource resources with
          | (some oldContainerResource, resources) =>
              -- a quota set before outranks an update of the cpuset only
              if oldContainerResource.quota > 0 ∧ containerResource.quota < 0 then
                pure { r with
                  containerCpuResources := (insertEntry cid oldContainerResource resources).2 }
              else pure { r with containerCpuResources := resources }
          | (none, resources) => pure { r with containerCpuResources := resources }
      | .Del => pure { r with containerCpuResources := resources.filter fun e => e.1 ≠ cid }

/-- One turn of the loop over the containers: the cpuset joins `cpuset_vcpu`, and a quota that
is not negative, with a period, adds `quota * (max_period / period)` to `total_quota`. -/
def addContainer (maxPeriod : F64) (acc : U32Set × F64) (cpuResource : LinuxContainerCpuResources) :
    U32Set × F64 :=
  let cpusetVcpu := acc.1.extend cpuResource.cpuset.ids
  let quota := ofInt cpuResource.quota.toInt
  let period := ofInt cpuResource.period.toNat
  if le zero quota && !beq period zero then (cpusetVcpu, acc.2 + quota * (maxPeriod / period))
  else (cpusetVcpu, acc.2)

/-- `calc_cpu_resources`, which never fails. -/
def calcCpuResources (r : CpuResource) : UInt32 :=
  let resources := r.containerCpuResources.map (·.2)
  if resources.isEmpty then r.defaultVcpu.ceil.toU32
  else
    let maxPeriod := ofInt ((resources.map fun c => c.period.toNat).foldr max 0)
    let acc := resources.foldl (addContainer maxPeriod) (U32Set.new, zero)
    let cpusetVcpu := acc.1
    let totalQuota := acc.2
    -- constrained only by cpusets
    if beq totalQuota zero && !cpusetVcpu.ids.isEmpty then cpusetVcpu.ids.length.toUInt32
    else
      let totalVcpu :=
        if lt zero totalQuota && !beq maxPeriod zero then r.defaultVcpu + totalQuota / maxPeriod
        else r.defaultVcpu
      totalVcpu.ceil.toU32

-- `test_rounding`: ten tenths of a vCPU make one
example : calcCpuResources ⟨zero, List.replicate 10
    ("c", ⟨0, 1000000, 100000, U32Set.new, U32Set.new, some 100⟩)⟩ = 1 := by
  decide +kernel

-- `test_indivisible_periods`, from a default of one vCPU
example : calcCpuResources ⟨ofInt 1, [("0", ⟨0, 1000000, 1000000, U32Set.new, U32Set.new, some 1000⟩),
      ("1", ⟨0, 300000, 900000, U32Set.new, U32Set.new, some 3000⟩)]⟩ = 5 ∧
    calcCpuResources ⟨ofInt 1, [("0", ⟨0, 1000000, 1000000, U32Set.new, U32Set.new, some 1000⟩),
      ("1", ⟨0, 299999, 900000, U32Set.new, U32Set.new, some 3000⟩)]⟩ = 6 := by
  decide +kernel

/-! ### What the comments intend -/

/-- The vCPUs the comments of `calc_cpu_resources` ask for: the default plus every container's
quota over its period, in exact arithmetic, rounded up. -/
def exactVcpus (d : ℚ) (resources : List LinuxContainerCpuResources) : ℤ :=
  ⌈d + ((resources.filter fun c => 0 ≤ c.quota.toInt ∧ 0 < c.period.toNat).map
      fun c => (c.quota.toInt : ℚ) / c.period.toNat).sum⌉

/-- The quotas that are not negative, summed. -/
def quotaSum (resources : List LinuxContainerCpuResources) : Nat :=
  (resources.map fun c => c.quota.toInt.toNat).sum

theorem foldr_max_of_forall_eq {l : List Int} {P : Int} (hP : 0 ≤ P) (hne : l ≠ [])
    (h : ∀ x ∈ l, x = P) : l.foldr max 0 = P := by
  induction l with
  | nil => contradiction
  | cons x rest ih =>
      rw [List.foldr_cons, h x List.mem_cons_self]
      rcases rest with _ | ⟨y, rest⟩
      · exact max_eq_left hP
      · rw [ih (List.cons_ne_nil y rest) fun z hz => h z (List.mem_cons_of_mem x hz), max_self]

theorem addContainer_snd (maxPeriod : F64) (acc : U32Set × F64) (c : LinuxContainerCpuResources) :
    (addContainer maxPeriod acc c).2 =
      if le zero (ofInt c.quota.toInt) && !beq (ofInt c.period.toNat) zero then
        acc.2 + ofInt c.quota.toInt * (maxPeriod / ofInt c.period.toNat)
      else acc.2 := by
  rw [addContainer]
  split <;> rfl

/-- With every period the largest, a quota that counts adds itself to `total_quota`: the
rescaling factor is exactly `1.0`. -/
theorem addContainer_equal_period {P : Nat} (hP : 0 < P) (hP53 : P < 2 ^ 53)
    {acc : U32Set × F64} {T : Nat} (hx : IsNat acc.2 T) (c : LinuxContainerCpuResources)
    (hc : c.period.toNat = P) (hsum : T + c.quota.toInt.toNat < 2 ^ 53) :
    IsNat (addContainer (ofInt P) acc c).2 (T + c.quota.toInt.toNat) := by
  have hper : IsNat (ofInt P) P := isNat_ofInt hP53
  rw [addContainer_snd, hc, hper.beq_zero hP]
  rcases le_or_gt 0 c.quota.toInt with hq | hq
  · -- a quota that counts
    have hn : c.quota.toInt = (c.quota.toInt.toNat : Int) := (Int.toNat_of_nonneg hq).symm
    have hquota : IsNat (ofInt c.quota.toInt) c.quota.toInt.toNat := by
      rw [hn]
      exact isNat_ofInt (by omega)
    rw [hquota.le_zero]
    simp only [Bool.not_false, Bool.and_self, ↓reduceIte]
    have hprod := hquota.mul (hper.div_self hP hP53) (by omega)
    rw [Nat.mul_one] at hprod
    exact hx.add hprod hsum
  · -- a negative quota asks for nothing
    rw [le_zero_ofInt_neg hq, Int.toNat_of_nonpos hq.le, Nat.add_zero]
    simp only [Bool.false_and, Bool.false_eq_true, ↓reduceIte]
    exact hx

theorem foldl_addContainer_equal_periods {P : Nat} (hP : 0 < P) (hP53 : P < 2 ^ 53)
    (resources : List LinuxContainerCpuResources) (hper : ∀ c ∈ resources, c.period.toNat = P)
    {acc : U32Set × F64} {T : Nat} (hx : IsNat acc.2 T) (hsum : T + quotaSum resources < 2 ^ 53) :
    IsNat (resources.foldl (addContainer (ofInt P)) acc).2 (T + quotaSum resources) := by
  induction resources generalizing acc T with
  | nil => simpa [quotaSum] using hx
  | cons c rest ih =>
      have hcons : quotaSum (c :: rest) = c.quota.toInt.toNat + quotaSum rest := by
        simp [quotaSum]
      rw [hcons] at hsum ⊢
      have hstep := addContainer_equal_period hP hP53 hx c (hper c List.mem_cons_self) (by omega)
      rw [List.foldl_cons, ← Nat.add_assoc]
      exact ih (fun c' hc' => hper c' (List.mem_cons_of_mem c hc')) hstep (by omega)

/-- Over one period the exact sum is the quota sum over that period. -/
theorem exactVcpus_equal_periods {P : Nat} (hP : 0 < P) (resources : List LinuxContainerCpuResources)
    (hper : ∀ c ∈ resources, c.period.toNat = P) :
    exactVcpus 0 resources = ⌈(quotaSum resources : ℚ) / P⌉ := by
  unfold exactVcpus
  rw [zero_add]
  congr 1
  induction resources with
  | nil => simp [quotaSum]
  | cons c rest ih =>
      have hc := hper c List.mem_cons_self
      have hrest := ih fun c' hc' => hper c' (List.mem_cons_of_mem c hc')
      have hcons : quotaSum (c :: rest) = c.quota.toInt.toNat + quotaSum rest := by
        simp [quotaSum]
      rw [hcons, Nat.cast_add, add_div, ← hrest]
      rcases le_or_gt 0 c.quota.toInt with hq | hq
      · rw [List.filter_cons_of_pos (by simp [hq, hc, hP]), List.map_cons, List.sum_cons, hc]
        congr 2
        exact_mod_cast (Int.toNat_of_nonneg hq).symm
      · rw [List.filter_cons_of_neg (by simp [hq]), Int.toNat_of_nonpos hq.le]
        simp

theorem ceil_div_natCast {S P : Nat} (hP : 0 < P) : ⌈(S : ℚ) / P⌉ = ((S + P - 1) / P : Nat) := by
  set k := (S + P - 1) / P with hk
  have hdm := Nat.div_add_mod' (S + P - 1) P
  have hmod := Nat.mod_lt (S + P - 1) hP
  rw [← hk] at hdm
  have hlo : k * P < S + P := by omega
  have hhi : S ≤ k * P := by omega
  have hPq : (0 : ℚ) < P := by exact_mod_cast hP
  rw [Int.ceil_eq_iff]
  constructor
  · rw [lt_div_iff₀ hPq]
    have : ((k * P : Nat) : ℚ) < S + P := by exact_mod_cast hlo
    push_cast at this ⊢
    linarith
  · rw [div_le_iff₀ hPq]
    have : (S : ℚ) ≤ ((k * P : Nat) : ℚ) := by exact_mod_cast hhi
    push_cast at this ⊢
    linarith

/-- When every container has the same period, below `2^53`, the nonnegative quotas sum below
`2^53` to more than zero and the default is `0.0`, `calc_cpu_resources` gives the exact ceiling
(as a `u32`): with one period the rescaling is exact, so only the final division rounds, and
it cannot cross an integer. -/
theorem calcCpuResources_equal_periods (containers : List (String × LinuxContainerCpuResources))
    (hne : containers ≠ []) {P : Nat} (hP : 0 < P) (hP53 : P < 2 ^ 53)
    (hper : ∀ c ∈ containers, c.2.period.toNat = P)
    (hpos : 0 < quotaSum (containers.map (·.2))) (hsum : quotaSum (containers.map (·.2)) < 2 ^ 53) :
    calcCpuResources ⟨zero, containers⟩ =
      (min (exactVcpus 0 (containers.map (·.2))).toNat (2 ^ 32 - 1)).toUInt32 := by
  set resources := containers.map (·.2) with hres
  have hper' : ∀ c ∈ resources, c.period.toNat = P := by
    intro c hc
    obtain ⟨e, he, rfl⟩ := List.mem_map.mp hc
    exact hper e he
  have hmax : (resources.map fun c => (c.period.toNat : Int)).foldr max 0 = P := by
    apply foldr_max_of_forall_eq (Int.natCast_nonneg P) (by simpa [hres] using hne)
    intro x hx
    obtain ⟨c, hc, rfl⟩ := List.mem_map.mp hx
    rw [hper' c hc]
  have htotal := @foldl_addContainer_equal_periods P hP hP53 resources hper' (U32Set.new, zero) 0
    isNat_zero (by omega)
  rw [Nat.zero_add] at htotal
  have hdiv := htotal.ceil_zero_add_div (isNat_ofInt hP53) hsum hP hP53
  rw [exactVcpus_equal_periods hP resources hper', ceil_div_natCast hP, Int.toNat_natCast,
    ← hdiv.toU32]
  unfold calcCpuResources
  simp only [← hres]
  rw [if_neg (by simpa [hres] using hne), hmax, htotal.beq_zero hpos, Bool.false_and, if_neg
    Bool.false_ne_true, htotal.lt_zero hpos, (isNat_ofInt hP53).beq_zero hP]
  rfl

/-- One container of 27 ms of every 3 ms, and one of 6 ms of every 3 ms: eleven vCPUs. -/
def samePeriodContainers : List (String × LinuxContainerCpuResources) :=
  [("a", ⟨0, 3, 27, U32Set.new, U32Set.new, some 9000⟩),
    ("b", ⟨0, 3, 6, U32Set.new, U32Set.new, some 2000⟩)]

theorem calcCpuResources_equal_periods_same :
    samePeriodContainers ≠ [] ∧ (∀ c ∈ samePeriodContainers, c.2.period.toNat = 3) ∧
      0 < quotaSum (samePeriodContainers.map (·.2)) ∧
      quotaSum (samePeriodContainers.map (·.2)) < 2 ^ 53 ∧
      calcCpuResources ⟨zero, samePeriodContainers⟩ =
        (min (exactVcpus 0 (samePeriodContainers.map (·.2))).toNat (2 ^ 32 - 1)).toUInt32 := by
  have hne : samePeriodContainers ≠ [] := by simp [samePeriodContainers]
  have hper : ∀ c ∈ samePeriodContainers, c.2.period.toNat = 3 := by decide
  have hpos : 0 < quotaSum (samePeriodContainers.map (·.2)) := by decide
  have hsum : quotaSum (samePeriodContainers.map (·.2)) < 2 ^ 53 := by decide
  exact ⟨hne, hper, hpos, hsum,
    calcCpuResources_equal_periods samePeriodContainers hne (by norm_num) (by norm_num) hper hpos hsum⟩

/-- Two containers whose periods do not divide each other: 27 ms of every 3 ms, that is nine
vCPUs, and a quota of zero over 7 ms. -/
def indivisibleContainers : List (String × LinuxContainerCpuResources) :=
  [("a", ⟨0, 3, 27, U32Set.new, U32Set.new, some 9000⟩),
    ("b", ⟨0, 7, 0, U32Set.new, U32Set.new, some 0⟩)]

/-- The containers ask for nine vCPUs exactly, but `7.0 / 3.0` rounds up, `27.0` times it is
`63.00000000000001`, and over the period `7.0` the sandbox gets ten, in both orders. -/
theorem calcCpuResources_overshoots_exact_ceiling :
    calcCpuResources ⟨zero, indivisibleContainers⟩ = 10 ∧
      calcCpuResources ⟨zero, indivisibleContainers.reverse⟩ = 10 ∧
      exactVcpus 0 (indivisibleContainers.map (·.2)) = 9 := by
  refine ⟨by decide +kernel, by decide +kernel, ?_⟩
  have h27 : (27 : Int64).toInt = 27 := rfl
  have h0 : (0 : Int64).toInt = 0 := rfl
  have h3 : (3 : UInt64).toNat = 3 := rfl
  have h7 : (7 : UInt64).toNat = 7 := rfl
  norm_num [exactVcpus, indivisibleContainers, h27, h0, h3, h7]

end KataContainers.Resource

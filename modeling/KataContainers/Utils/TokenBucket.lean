import KataContainers.Utils.RateLimiter
import Mathlib

/-!
# Token buckets

`TokenBucket` of `dbs_utils::rate_limiter`: `new` with its `gcd`-reduced refill fraction,
`auto_replenish`, `reduce`, `force_replenish`, and `RateLimiter::make_bucket`. `Instant` is a
nanosecond count, the times of the calls are inputs, and `elapsed()` saturates at zero as
`Instant::elapsed` does. `u64` arithmetic wraps as in a release build; a division by zero,
where Rust panics, is `none`. The `f64` ratio of `OverConsumption` is kept as its two terms.
-/

namespace KataContainers.RateLimiter

/-- `NANOSEC_IN_ONE_MILLISEC`. -/
def nanosecInOneMillisec : UInt64 := 1_000_000

/-- Euclid's loop of `gcd`, run for at most `fuel` rounds; `y.toNat + 1` rounds always
suffice, as `y` drops at every round. -/
def gcdLoop : Nat → UInt64 → UInt64 → UInt64
  | 0, x, _ => x
  | fuel + 1, x, y => if y = 0 then x else gcdLoop fuel y (x % y)

/-- `gcd`. -/
def gcd (x y : UInt64) : UInt64 := gcdLoop (y.toNat + 1) x y

theorem gcdLoop_toNat : ∀ (fuel : Nat) (x y : UInt64), y.toNat < fuel →
    (gcdLoop fuel x y).toNat = Nat.gcd x.toNat y.toNat
  | 0, _, _, h => absurd h (Nat.not_lt_zero _)
  | fuel + 1, x, y, h => by
    unfold gcdLoop
    split
    case isTrue hy => simp [hy]
    case isFalse hy =>
      have hpos : 0 < y.toNat := by
        rcases Nat.eq_zero_or_pos y.toNat with h0 | h0
        · exact absurd (UInt64.toNat_inj.mp (by simpa using h0)) hy
        · exact h0
      have hmod : (x % y).toNat < fuel := by
        rw [UInt64.toNat_mod]
        exact Nat.lt_of_lt_of_le (Nat.mod_lt _ hpos) (by omega)
      rw [gcdLoop_toNat fuel y (x % y) hmod, UInt64.toNat_mod, Nat.gcd_comm x.toNat,
        Nat.gcd_rec y.toNat x.toNat, Nat.gcd_comm]

/-- The loop computes the greatest common divisor. -/
theorem gcd_toNat (x y : UInt64) : (gcd x y).toNat = Nat.gcd x.toNat y.toNat :=
  gcdLoop_toNat _ x y (Nat.lt_succ_self _)

inductive BucketReduction where
  | Failure
  | Success
  /-- `OverConsumption(tokens as f64 / size as f64)`. -/
  | OverConsumption (tokens size : UInt64)
deriving DecidableEq, Repr

structure TokenBucket where
  size : UInt64
  initialOneTimeBurst : UInt64
  refillTime : UInt64
  oneTimeBurst : UInt64
  budget : UInt64
  lastUpdate : Nat
  processedCapacity : UInt64
  processedRefillTime : UInt64
deriving DecidableEq, Repr

namespace TokenBucket

/-- `TokenBucket::new`, created at the time `now`; when the common factor is zero the two
divisions panic. -/
def new (size oneTimeBurst completeRefillTimeMs : UInt64) (now : Nat) : Option TokenBucket := do
  let completeRefillTimeNs := completeRefillTimeMs * nanosecInOneMillisec
  let commonFactor := gcd size completeRefillTimeNs
  if commonFactor = 0 then none
  -- start off full, with the fraction `size / completeRefillTimeNs` in lowest terms
  return ⟨size, oneTimeBurst, completeRefillTimeMs, oneTimeBurst, size, now, size / commonFactor,
    completeRefillTimeNs / commonFactor⟩

/-- `auto_replenish` at the time `now`. -/
def autoReplenish (b : TokenBucket) (now : Nat) : Option TokenBucket := do
  let timeDelta := UInt64.ofNat (now - b.lastUpdate)
  if b.processedRefillTime = 0 then none
  let tokens := (timeDelta * b.processedCapacity) / b.processedRefillTime
  return { b with lastUpdate := now, budget := min (b.budget + tokens) b.size }

/-- The part of `reduce` after the one-time burst: the budget pays, replenished first when it
is short. -/
def reduceBudget (b : TokenBucket) (tokens : UInt64) (now : Nat) :
    Option (BucketReduction × TokenBucket) := do
  if tokens > b.budget then
    let b ← b.autoReplenish now
    if tokens > b.size then
      return (.OverConsumption (tokens - b.budget) b.size, { b with budget := 0 })
    if tokens > b.budget then return (.Failure, b)
    return (.Success, { b with budget := b.budget - tokens })
  return (.Success, { b with budget := b.budget - tokens })

/-- `reduce` at the time `now`: the one-time burst pays first. -/
def reduce (b : TokenBucket) (tokens : UInt64) (now : Nat) :
    Option (BucketReduction × TokenBucket) :=
  if b.oneTimeBurst > 0 then
    if b.oneTimeBurst ≥ tokens then
      some (.Success, { b with oneTimeBurst := b.oneTimeBurst - tokens, lastUpdate := now })
    else reduceBudget { b with oneTimeBurst := 0 } (tokens - b.oneTimeBurst) now
  else reduceBudget b tokens now

section Spec

variable {b b' : TokenBucket} {t : UInt64} {now : Nat} {r : BucketReduction}

theorem new_eq {size burst ms : UInt64} {now : Nat} (hs : size ≠ 0) :
    new size burst ms now = some ⟨size, burst, ms, burst, size, now,
      size / gcd size (ms * nanosecInOneMillisec),
      ms * nanosecInOneMillisec / gcd size (ms * nanosecInOneMillisec)⟩ := by
  have hg : gcd size (ms * nanosecInOneMillisec) ≠ 0 := by
    intro h0
    have h := congrArg UInt64.toNat h0
    rw [gcd_toNat, UInt64.toNat_zero, Nat.gcd_eq_zero_iff] at h
    exact hs (UInt64.toNat_inj.mp h.1)
  simp [new, hg]

theorem autoReplenish_eq (h : b.processedRefillTime ≠ 0) :
    b.autoReplenish now = some { b with lastUpdate := now, budget := min (b.budget +
      (UInt64.ofNat (now - b.lastUpdate) * b.processedCapacity) / b.processedRefillTime) b.size } := by
  simp [autoReplenish, h]

theorem autoReplenish_eq_none (h : b.processedRefillTime = 0) : b.autoReplenish now = none := by
  simp [autoReplenish, h]

/-- Replenishing keeps everything but the budget and the time, and the budget within the
size. -/
theorem autoReplenish_frame {b₁ : TokenBucket} (h : b.autoReplenish now = some b₁) :
    b₁.size = b.size ∧ b₁.oneTimeBurst = b.oneTimeBurst ∧ b₁.budget ≤ b.size ∧
      b₁.processedCapacity = b.processedCapacity ∧
      b₁.processedRefillTime = b.processedRefillTime ∧ b₁.lastUpdate = now := by
  by_cases h0 : b.processedRefillTime = 0
  · rw [autoReplenish_eq_none h0] at h
    exact absurd h (by simp)
  · rw [autoReplenish_eq h0, Option.some.injEq] at h
    subst h
    exact ⟨rfl, rfl, by rw [UInt64.le_iff_toNat_le, UInt64.toNat_min]; omega, rfl, rfl, rfl⟩

/-- Every outcome of the budget part of `reduce`, with its guards. -/
theorem reduceBudget_cases (h : b.reduceBudget t now = some (r, b')) :
    (t ≤ b.budget ∧ r = .Success ∧ b' = { b with budget := b.budget - t }) ∨
      ∃ b₁, b.budget < t ∧ b.autoReplenish now = some b₁ ∧
        ((b₁.size < t ∧ r = .OverConsumption (t - b₁.budget) b₁.size ∧
            b' = { b₁ with budget := 0 }) ∨
          (t ≤ b₁.size ∧ b₁.budget < t ∧ r = .Failure ∧ b' = b₁) ∨
          (t ≤ b₁.size ∧ t ≤ b₁.budget ∧ r = .Success ∧ b' = { b₁ with budget := b₁.budget - t })) := by
  unfold reduceBudget at h
  split at h
  case isFalse hle =>
    simp only [Option.pure_def, Option.some.injEq, Prod.mk.injEq] at h
    exact .inl ⟨UInt64.not_lt.mp hle, h.1.symm, h.2.symm⟩
  case isTrue hlt =>
    obtain ⟨b₁, hb₁, h⟩ := Option.bind_eq_some_iff.mp h
    refine .inr ⟨b₁, hlt, hb₁, ?_⟩
    split at h
    case isTrue hsize =>
      simp only [Option.pure_def, Option.some.injEq, Prod.mk.injEq] at h
      exact .inl ⟨hsize, h.1.symm, h.2.symm⟩
    case isFalse hsize =>
      split at h
      case isTrue hbud =>
        simp only [Option.pure_def, Option.some.injEq, Prod.mk.injEq] at h
        exact .inr (.inl ⟨UInt64.not_lt.mp hsize, hbud, h.1.symm, h.2.symm⟩)
      case isFalse hbud =>
        simp only [Option.pure_def, Option.some.injEq, Prod.mk.injEq] at h
        exact .inr (.inr ⟨UInt64.not_lt.mp hsize, UInt64.not_lt.mp hbud, h.1.symm, h.2.symm⟩)

/-- Every outcome of `reduce`: from the burst alone, from what is left of the burst and the
budget, or from the budget alone. -/
theorem reduce_cases (h : b.reduce t now = some (r, b')) :
    (b.oneTimeBurst ≠ 0 ∧ t ≤ b.oneTimeBurst ∧ r = .Success ∧
        b' = { b with oneTimeBurst := b.oneTimeBurst - t, lastUpdate := now }) ∨
      (b.oneTimeBurst ≠ 0 ∧ b.oneTimeBurst < t ∧
        reduceBudget { b with oneTimeBurst := 0 } (t - b.oneTimeBurst) now = some (r, b')) ∨
      (b.oneTimeBurst = 0 ∧ b.reduceBudget t now = some (r, b')) := by
  unfold reduce at h
  split at h
  case isTrue hpos =>
    have hne : b.oneTimeBurst ≠ 0 := fun h0 => by simp [h0] at hpos
    split at h
    case isTrue hge =>
      simp only [Option.some.injEq, Prod.mk.injEq] at h
      exact .inl ⟨hne, hge, h.1.symm, h.2.symm⟩
    case isFalse hge => exact .inr (.inl ⟨hne, UInt64.not_le.mp hge, h⟩)
  case isFalse hpos =>
    exact .inr (.inr ⟨by simpa using hpos, h⟩)

theorem reduceBudget_of_le (h : t ≤ b.budget) :
    b.reduceBudget t now = some (.Success, { b with budget := b.budget - t }) := by
  simp [reduceBudget, UInt64.not_lt.mpr h]

theorem reduceBudget_of_replenish {b₁ : TokenBucket} (hlt : b.budget < t)
    (h₁ : b.autoReplenish now = some b₁) (hsize : t ≤ b₁.size) (hle : t ≤ b₁.budget) :
    b.reduceBudget t now = some (.Success, { b₁ with budget := b₁.budget - t }) := by
  simp [reduceBudget, hlt, h₁, UInt64.not_lt.mpr hsize, UInt64.not_lt.mpr hle]

theorem reduce_of_no_burst (h : b.oneTimeBurst = 0) : b.reduce t now = b.reduceBudget t now := by
  simp [reduce, h]

end Spec

/-- `force_replenish`. -/
def forceReplenish (b : TokenBucket) (tokens : UInt64) : TokenBucket :=
  if b.oneTimeBurst > 0 then { b with oneTimeBurst := b.oneTimeBurst + tokens }
  else { b with budget := min (b.budget + tokens) b.size }

end TokenBucket

/-- `RateLimiter::make_bucket`: no bucket when the capacity or the refill time is zero. -/
def makeBucket (totalCapacity oneTimeBurst completeRefillTimeMs : UInt64) (now : Nat) :
    Option (Option TokenBucket) :=
  if totalCapacity ≠ 0 ∧ completeRefillTimeMs ≠ 0 then
    (TokenBucket.new totalCapacity oneTimeBurst completeRefillTimeMs now).map some
  else some none

/-- The calls a bucket serves, with the times of the `reduce` calls. -/
inductive BucketOp where
  | reduce (tokens : UInt64) (now : Nat)
  | forceReplenish (tokens : UInt64)
deriving DecidableEq, Repr

namespace TokenBucket

/-- One call, with the tokens it granted: those of a `reduce` that returned `Success`. -/
def step (b : TokenBucket) : BucketOp → Option (TokenBucket × Nat)
  | .reduce tokens now =>
      (b.reduce tokens now).map fun (r, b') => (b', if r = .Success then tokens.toNat else 0)
  | .forceReplenish tokens => some (b.forceReplenish tokens, 0)

/-- A run of calls, with the tokens granted along it. -/
def run (b : TokenBucket) : List BucketOp → Option (TokenBucket × Nat)
  | [] => some (b, 0)
  | op :: ops => do
      let (b, granted) ← b.step op
      let (b, granted') ← b.run ops
      return (b, granted + granted')

/-- The states a program can hold: the fields are private, so those of a bucket from
`TokenBucket::new` after any calls. -/
def Reachable (b : TokenBucket) : Prop :=
  ∃ size burst refillMs t₀ b₀ ops granted, new size burst refillMs t₀ = some b₀ ∧
    b₀.run ops = some (b, granted)

/-- What every reachable bucket keeps: the budget within the size, and the budget full while a
one-time burst is left, as the burst pays before the budget is touched. -/
structure Inv (b : TokenBucket) : Prop where
  budget_le : b.budget ≤ b.size
  full_of_burst : b.oneTimeBurst ≠ 0 → b.budget = b.size

section Invariant

variable {b b' : TokenBucket} {t : UInt64} {now : Nat} {r : BucketReduction}

theorem sub_le_of_le {x y z : UInt64} (hyx : y ≤ x) (hxz : x ≤ z) : x - y ≤ z := by
  rw [UInt64.le_iff_toNat_le] at *
  rw [UInt64.toNat_sub_of_le _ _ hyx]
  omega

/-- The budget part of `reduce` leaves the burst and the size alone and the budget within the
size. -/
theorem reduceBudget_frame (hle : b.budget ≤ b.size) (h : b.reduceBudget t now = some (r, b')) :
    b'.budget ≤ b'.size ∧ b'.oneTimeBurst = b.oneTimeBurst ∧ b'.size = b.size := by
  rcases reduceBudget_cases h with ⟨ht, -, rfl⟩ | ⟨b₁, -, hb₁, hcases⟩
  · exact ⟨sub_le_of_le ht hle, rfl, rfl⟩
  · obtain ⟨hsize, hburst, hle₁, -⟩ := autoReplenish_frame hb₁
    rcases hcases with ⟨-, -, rfl⟩ | ⟨-, -, -, rfl⟩ | ⟨-, ht, -, rfl⟩
    · exact ⟨by simp, hburst, hsize⟩
    · exact ⟨hsize ▸ hle₁, hburst, hsize⟩
    · exact ⟨sub_le_of_le ht (hsize ▸ hle₁), hburst, hsize⟩

theorem Inv.reduce (hb : b.Inv) (h : b.reduce t now = some (r, b')) : b'.Inv := by
  rcases reduce_cases h with ⟨hne, -, -, rfl⟩ | ⟨-, -, hr⟩ | ⟨h0, hr⟩
  · exact ⟨hb.budget_le, fun _ => hb.full_of_burst hne⟩
  · obtain ⟨hle, hburst, -⟩ := reduceBudget_frame (b := { b with oneTimeBurst := 0 })
      hb.budget_le hr
    exact ⟨hle, fun h' => absurd hburst h'⟩
  · obtain ⟨hle, hburst, -⟩ := reduceBudget_frame hb.budget_le hr
    exact ⟨hle, fun h' => absurd (hburst.trans h0) h'⟩

theorem Inv.forceReplenish (hb : b.Inv) (tokens : UInt64) : (b.forceReplenish tokens).Inv := by
  unfold TokenBucket.forceReplenish
  split
  case isTrue hpos =>
    have hfull := hb.full_of_burst (fun h0 => by simp [h0] at hpos)
    exact ⟨hb.budget_le, fun _ => hfull⟩
  case isFalse hpos =>
    have h0 : b.oneTimeBurst = 0 := by simpa using hpos
    exact ⟨by simp only; rw [UInt64.le_iff_toNat_le, UInt64.toNat_min]; omega,
      fun h' => absurd h0 h'⟩

theorem Inv.step (hb : b.Inv) {op : BucketOp} {granted : Nat}
    (h : b.step op = some (b', granted)) : b'.Inv := by
  cases op with
  | reduce tokens now =>
    obtain ⟨⟨r, b₁⟩, hr, he⟩ := Option.map_eq_some_iff.mp h
    simp only [Prod.mk.injEq] at he
    exact he.1 ▸ hb.reduce hr
  | forceReplenish tokens =>
    simp only [TokenBucket.step, Option.some.injEq, Prod.mk.injEq] at h
    exact h.1 ▸ hb.forceReplenish tokens

/-- One call after another splits a run into its first call and the rest. -/
theorem run_cons_eq_some {op : BucketOp} {ops : List BucketOp} {granted : Nat}
    (h : b.run (op :: ops) = some (b', granted)) :
    ∃ b₁ g₁ g₂, b.step op = some (b₁, g₁) ∧ b₁.run ops = some (b', g₂) ∧
      granted = g₁ + g₂ := by
  obtain ⟨⟨b₁, g₁⟩, h₁, h⟩ := Option.bind_eq_some_iff.mp h
  obtain ⟨⟨b₂, g₂⟩, h₂, h⟩ := Option.bind_eq_some_iff.mp h
  simp only [Option.pure_def, Option.some.injEq, Prod.mk.injEq] at h
  exact ⟨b₁, g₁, g₂, h₁, h.1 ▸ h₂, h.2.symm⟩

theorem run_cons_of_step {op : BucketOp} {ops : List BucketOp} {b₁ : TokenBucket} {g₁ : Nat}
    (h : b.step op = some (b₁, g₁)) :
    b.run (op :: ops) = (b₁.run ops).map fun (b', g₂) => (b', g₁ + g₂) := by
  simp only [run, h, Option.bind_eq_bind, Option.bind_some, Option.pure_def]
  cases b₁.run ops <;> rfl

theorem Inv.run {ops : List BucketOp} {granted : Nat} (hb : b.Inv)
    (h : b.run ops = some (b', granted)) : b'.Inv := by
  induction ops generalizing b granted with
  | nil =>
    simp only [TokenBucket.run, Option.some.injEq, Prod.mk.injEq] at h
    exact h.1 ▸ hb
  | cons op ops ih =>
    obtain ⟨b₁, g₁, g₂, h₁, h₂, -⟩ := run_cons_eq_some h
    exact ih (hb.step h₁) h₂

/-- A new bucket starts off full. -/
theorem new_budget {size burst ms : UInt64} {now : Nat} (h : new size burst ms now = some b) :
    b.budget = b.size ∧ b.oneTimeBurst = burst ∧ b.initialOneTimeBurst = burst := by
  simp only [new, Option.pure_def, Option.bind_eq_bind] at h
  split at h
  case isTrue => exact absurd h (by simp)
  case isFalse => simp only [Option.some.injEq] at h; subst h; simp

theorem inv_of_new {size burst ms : UInt64} {now : Nat} (h : new size burst ms now = some b) :
    b.Inv :=
  ⟨(new_budget h).1 ▸ UInt64.le_refl _, fun _ => (new_budget h).1⟩

theorem Reachable.inv (hb : b.Reachable) : b.Inv := by
  obtain ⟨size, burst, ms, t₀, b₀, ops, granted, hnew, hrun⟩ := hb
  exact (inv_of_new hnew).run hrun

/-- A `reduce` that fails took nothing: the burst is as it was, and the bucket is what
replenishing alone made of it. -/
theorem failed_reduce_charges_nothing (hb : b.Reachable) (h : b.reduce t now = some (.Failure, b')) :
    b'.oneTimeBurst = b.oneTimeBurst ∧ b.autoReplenish now = some b' := by
  have hinv := hb.inv
  rcases reduce_cases h with ⟨-, -, hr, -⟩ | ⟨hne, -, hr⟩ | ⟨-, hr⟩
  · exact absurd hr (by decide)
  · -- with a burst left the budget is full: what remains of the request either fits in the
    -- budget or is more than the whole size, so it cannot fail
    have hfull := hinv.full_of_burst hne
    rcases reduceBudget_cases hr with ⟨-, hS, -⟩ | ⟨b₁, hlt, hb₁, hcases⟩
    · exact absurd hS (by decide)
    · have hsize := (autoReplenish_frame hb₁).1
      rcases hcases with ⟨-, hO, -⟩ | ⟨hle, -, -, -⟩ | ⟨-, -, hS, -⟩
      · exact absurd hO (by simp)
      · simp only at hlt hsize
        rw [hsize, ← hfull] at hle
        exact absurd hle (UInt64.not_le.mpr hlt)
      · exact absurd hS (by decide)
  · rcases reduceBudget_cases hr with ⟨-, hS, -⟩ | ⟨b₁, -, hb₁, hcases⟩
    · exact absurd hS (by decide)
    · rcases hcases with ⟨-, hO, -⟩ | ⟨-, -, -, rfl⟩ | ⟨-, -, hS, -⟩
      · exact absurd hO (by simp)
      · exact ⟨(autoReplenish_frame hb₁).2.1, hb₁⟩
      · exact absurd hS (by decide)

theorem full_request_after_123_fails :
    (⟨1000, 0, 1000, 0, 877, 0, 1, 1000000⟩ : TokenBucket).reduce 1000 0 =
        some (.Failure, ⟨1000, 0, 1000, 0, 877, 0, 1, 1000000⟩) ∧
      (⟨1000, 0, 1000, 0, 877, 0, 1, 1000000⟩ : TokenBucket).oneTimeBurst = 0 ∧
      (⟨1000, 0, 1000, 0, 877, 0, 1, 1000000⟩ : TokenBucket).autoReplenish 0 =
        some ⟨1000, 0, 1000, 0, 877, 0, 1, 1000000⟩ := by
  have hred : (⟨1000, 0, 1000, 0, 877, 0, 1, 1000000⟩ : TokenBucket).reduce 1000 0 =
      some (.Failure, ⟨1000, 0, 1000, 0, 877, 0, 1, 1000000⟩) := by decide
  -- the bucket of `TokenBucket::new(1000, 0, 1000)` after a first `reduce(123)`
  have hreach : (⟨1000, 0, 1000, 0, 877, 0, 1, 1000000⟩ : TokenBucket).Reachable :=
    ⟨1000, 0, 1000, 0, ⟨1000, 0, 1000, 0, 1000, 0, 1, 1000000⟩, [.reduce 123 0], 123,
      by decide, by decide⟩
  exact ⟨hred, (failed_reduce_charges_nothing hreach hred).1, (failed_reduce_charges_nothing hreach hred).2⟩

end Invariant

section Overflow

variable {b : TokenBucket} {t : UInt64} {now : Nat}

theorem reduceBudget_eq_none (h0 : b.processedRefillTime = 0) (ht : b.budget < t) :
    b.reduceBudget t now = none := by
  simp [reduceBudget, ht, autoReplenish_eq_none h0]

/-- With a zero refill denominator every request beyond the burst and the budget reaches the
division of `auto_replenish` and panics. -/
theorem reduce_eq_none_of_refill_zero (h0 : b.processedRefillTime = 0)
    (ht : b.oneTimeBurst.toNat + b.budget.toNat < t.toNat) : b.reduce t now = none := by
  unfold reduce
  split
  case isTrue hpos =>
    have hlt : b.oneTimeBurst < t := by rw [UInt64.lt_iff_toNat_lt]; omega
    rw [if_neg (UInt64.not_le.mpr hlt)]
    apply reduceBudget_eq_none (b := { b with oneTimeBurst := 0 }) h0
    rw [UInt64.lt_iff_toNat_lt, UInt64.toNat_sub_of_le _ _ (UInt64.le_of_lt hlt)]
    simp only
    omega
  case isFalse hpos =>
    apply reduceBudget_eq_none h0
    rw [UInt64.lt_iff_toNat_lt]
    omega

theorem refill_ns_eq_zero {refillMs : UInt64} (hwrap : 2 ^ 58 ∣ refillMs.toNat) :
    refillMs * nanosecInOneMillisec = 0 := by
  obtain ⟨k, hk⟩ := hwrap
  apply UInt64.toNat_inj.mp
  rw [UInt64.toNat_mul, hk, UInt64.toNat_zero]
  have : 2 ^ 58 * k * nanosecInOneMillisec.toNat = 2 ^ 64 * (15625 * k) := by
    simp only [nanosecInOneMillisec, UInt64.reduceToNat]
    ring
  rw [this, Nat.mul_mod_right]

/-- A refill time that is a multiple of `2 ^ 58` milliseconds makes the nanosecond count wrap
to zero: `make_bucket` accepts it, the refill denominator is zero, and the first request
beyond the burst and the size divides by it. -/
theorem refill_ns_wraps_to_zero {size burst refillMs : UInt64} {now : Nat} (hs : size ≠ 0)
    (hms : refillMs ≠ 0) (hwrap : 2 ^ 58 ∣ refillMs.toNat) :
    2 ^ 64 ≤ refillMs.toNat * nanosecInOneMillisec.toNat ∧
      ∃ b, makeBucket size burst refillMs now = some (some b) ∧ b.processedRefillTime = 0 ∧
        ∀ t now', burst.toNat + size.toNat < t.toNat → b.reduce t now' = none := by
  have hns := refill_ns_eq_zero hwrap
  have hgcd : gcd size 0 = size := by
    apply UInt64.toNat_inj.mp
    rw [gcd_toNat, UInt64.toNat_zero, Nat.gcd_zero_right]
  have hmake : makeBucket size burst refillMs now =
      some (some ⟨size, burst, refillMs, burst, size, now, size / size, 0⟩) := by
    rw [makeBucket, if_pos ⟨hs, hms⟩, new_eq hs, hns, hgcd, UInt64.zero_div]
    rfl
  refine ⟨?_, _, hmake, rfl, fun t now' ht => reduce_eq_none_of_refill_zero rfl ht⟩
  -- a nonzero multiple of `2 ^ 58` times `10 ^ 6 ≥ 2 ^ 6`
  obtain ⟨k, hk⟩ := hwrap
  have hk0 : k ≠ 0 := fun h0 => hms (UInt64.toNat_inj.mp (by simp [hk, h0]))
  rw [hk]
  simp only [nanosecInOneMillisec, UInt64.reduceToNat]
  omega

theorem refill_ns_wraps_at_two_pow_58 :
    (1 : UInt64) ≠ 0 ∧ (0x400_0000_0000_0000 : UInt64) ≠ 0 ∧ 2 ^ 58 ∣ (0x400_0000_0000_0000 : UInt64).toNat ∧
      (2 ^ 64 ≤ (0x400_0000_0000_0000 : UInt64).toNat * nanosecInOneMillisec.toNat ∧
        ∃ b, makeBucket 1 0 (0x400_0000_0000_0000 : UInt64) 0 = some (some b) ∧
          b.processedRefillTime = 0 ∧
          ∀ t now', (0 : UInt64).toNat + (1 : UInt64).toNat < t.toNat → b.reduce t now' = none) :=
  ⟨by decide, by decide, by decide,
    @refill_ns_wraps_to_zero 1 0 0x400_0000_0000_0000 0 (by decide) (by decide) (by decide)⟩

end Overflow

/-- The rate a bucket promises over `elapsedNs` nanoseconds: its initial burst, one full
budget, the refills at `size` tokens per `refill_time` milliseconds, and the tokens forced in. -/
def rateBound (b₀ : TokenBucket) (elapsedNs forced : Nat) : Nat :=
  b₀.initialOneTimeBurst.toNat + b₀.size.toNat +
    b₀.size.toNat * elapsedNs / (b₀.refillTime.toNat * 1000000) + forced

/-- A refill time in milliseconds whose nanosecond count wraps to 64. -/
def wrappingRefillMs : UInt64 := 76480200929599801

section Rate

theorem mul_div_div_cancel {s n g : Nat} (hg : 0 < g) (hs : g ∣ s) (hn : g ∣ n) (hn0 : 0 < n) :
    n * (s / g) / (n / g) = s := by
  obtain ⟨a, rfl⟩ := hs
  obtain ⟨c, rfl⟩ := hn
  have hc : 0 < c := Nat.pos_of_mul_pos_left hn0
  rw [Nat.mul_div_cancel_left a hg, Nat.mul_div_cancel_left c hg, Nat.mul_right_comm,
    Nat.mul_div_cancel _ hc]

/-- Over 64 ns the reduced fraction `size / 64` refills exactly `size` tokens. -/
theorem wrapped_refill_tokens {s : UInt64} (hs : 0 < s.toNat) (hs' : s.toNat < 2 ^ 58) :
    64 * (s / gcd s 64) / (64 / gcd s 64) = s := by
  have hg : (gcd s 64).toNat = Nat.gcd s.toNat 64 := gcd_toNat s 64
  have hgpos : 0 < (gcd s 64).toNat := hg ▸ Nat.gcd_pos_of_pos_right _ (by decide)
  have hq : s.toNat / (gcd s 64).toNat ≤ s.toNat := Nat.div_le_self _ _
  have h64 : (64 : UInt64).toNat = 64 := rfl
  apply UInt64.toNat_inj.mp
  rw [UInt64.toNat_div, UInt64.toNat_mul, UInt64.toNat_div, UInt64.toNat_div, h64,
    Nat.mod_eq_of_lt (by omega)]
  exact mul_div_div_cancel hgpos (hg ▸ Nat.gcd_dvd_left _ _) (hg ▸ Nat.gcd_dvd_right _ _)
    (by decide)

/-- A refill time whose nanosecond count wraps refills a whole bucket in 64 ns: from a new
bucket of any size below `2 ^ 58`, two requests for the whole size, 64 ns apart, both succeed,
twice the promised rate. -/
theorem wrapped_refill_time_overgrants {s : UInt64} (hs : 0 < s.toNat) (hs' : s.toNat < 2 ^ 58) :
    ∃ b₀ b, makeBucket s 0 wrappingRefillMs 0 = some (some b₀) ∧
      b₀.run [.reduce s 0, .reduce s 64] = some (b, 2 * s.toNat) ∧
      rateBound b₀ 64 0 < 2 * s.toNat := by
  have hs0 : s ≠ 0 := fun h0 => by simp [h0] at hs
  have hns : wrappingRefillMs * nanosecInOneMillisec = 64 := by decide
  have hmake : makeBucket s 0 wrappingRefillMs 0 =
      some (some ⟨s, 0, wrappingRefillMs, 0, s, 0, s / gcd s 64, 64 / gcd s 64⟩) := by
    rw [makeBucket, if_pos ⟨hs0, by decide⟩, new_eq hs0, hns]
    rfl
  refine ⟨_, ⟨s, 0, wrappingRefillMs, 0, 0, 64, s / gcd s 64, 64 / gcd s 64⟩, hmake, ?_, ?_⟩
  · -- the first request drains the budget, the refill of the next 64 ns fills it again
    have hprt : 64 / gcd s 64 ≠ 0 := by
      intro h0
      rw [← wrapped_refill_tokens hs hs', h0, UInt64.div_zero] at hs
      exact absurd hs (by decide)
    have h₁ : (⟨s, 0, wrappingRefillMs, 0, s, 0, s / gcd s 64, 64 / gcd s 64⟩ : TokenBucket).step
        (.reduce s 0) =
        some (⟨s, 0, wrappingRefillMs, 0, 0, 0, s / gcd s 64, 64 / gcd s 64⟩, s.toNat) := by
      simp [step, reduce_of_no_burst, reduceBudget_of_le]
    have hrep : (⟨s, 0, wrappingRefillMs, 0, 0, 0, s / gcd s 64, 64 / gcd s 64⟩ :
        TokenBucket).autoReplenish 64 =
        some ⟨s, 0, wrappingRefillMs, 0, s, 64, s / gcd s 64, 64 / gcd s 64⟩ := by
      rw [autoReplenish_eq hprt]
      simp [wrapped_refill_tokens hs hs', UInt64.min_def]
    have h₂ : (⟨s, 0, wrappingRefillMs, 0, 0, 0, s / gcd s 64, 64 / gcd s 64⟩ : TokenBucket).step
        (.reduce s 64) =
        some (⟨s, 0, wrappingRefillMs, 0, 0, 64, s / gcd s 64, 64 / gcd s 64⟩, s.toNat) := by
      have hlt : (0 : UInt64) < s := UInt64.lt_iff_toNat_lt.mpr hs
      simp [step, reduce_of_no_burst, reduceBudget_of_replenish hlt hrep]
    rw [run_cons_of_step h₁, run_cons_of_step h₂]
    simp only [run, Option.map_some]
    congr 2
    omega
  · simp only [rateBound, wrappingRefillMs, UInt64.reduceToNat]
    omega

theorem wrapped_refill_time_grants_2000 :
    0 < (1000 : UInt64).toNat ∧ (1000 : UInt64).toNat < 2 ^ 58 ∧
      ∃ b₀ b, makeBucket 1000 0 wrappingRefillMs 0 = some (some b₀) ∧
        b₀.run [.reduce 1000 0, .reduce 1000 64] = some (b, 2 * (1000 : UInt64).toNat) ∧
        rateBound b₀ 64 0 < 2 * (1000 : UInt64).toNat :=
  ⟨by decide, by decide, wrapped_refill_time_overgrants (s := 1000) (by decide) (by decide)⟩

end Rate

end TokenBucket

end KataContainers.RateLimiter

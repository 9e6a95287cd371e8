import Mathlib.Data.Nat.Basic

/-!
# Rate limiter interface

The two calls that the device queues make on `dbs_utils::rate_limiter::RateLimiter`:
`consume` (take tokens, or report that the budget is exhausted) and `manual_replenish` (give
tokens back). A device model takes them over the limiter's own state, so that one queue model
serves every limiter configuration.
-/

namespace KataContainers.RateLimiter

/-- `TokenType`. -/
inductive TokenType where
  | Bytes
  | Ops
deriving DecidableEq, Repr

/-- `RateLimiter::consume` and `RateLimiter::manual_replenish` on a limiter state `ρ`. -/
structure RateLimiterOps (ρ : Type) where
  consume : ρ → UInt64 → TokenType → Bool × ρ
  manualReplenish : ρ → UInt64 → TokenType → ρ

/-- A limiter with no buckets configured: `consume` always succeeds and changes nothing. -/
def RateLimiterOps.unlimited : RateLimiterOps Unit :=
  ⟨fun r _ _ => (true, r), fun r _ _ => r⟩

end KataContainers.RateLimiter

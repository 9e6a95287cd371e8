import Mathlib.Data.List.Basic

/-!
# The agent policy gate

`agent::policy`: `allow_request`, `is_allowed` and `do_set_policy`, over the loaded
`AgentPolicy` of the `kata-agent-policy` crate. That crate is a parameter: evaluating a request
against the policy gives a denial, or an allowance together with the policy state after the
state patches the policy returned (the crate applies them only to allowed requests), or an
error.
-/

namespace KataContainers.Agent

/-- The `ttrpc::Code`s the modelled handlers return. -/
inductive Code where
  | INVALID_ARGUMENT
  | PERMISSION_DENIED
  | INTERNAL
deriving DecidableEq, Repr

structure TtrpcError where
  code : Code
  message : String
deriving DecidableEq, Repr

/-- `ttrpc_error`: the status carries the error's `Debug` text, here the quoted message. -/
def ttrpcError (code : Code) (err : String) : TtrpcError := ⟨code, err.quote⟩

inductive Decision (P : Type) where
  | deny (prints : String)
  | allow (prints : String) (state : P)

/-- The loaded policy: `AgentPolicy::allow_request` and `AgentPolicy::set_policy`. -/
structure AgentPolicy (P : Type) where
  allowRequest : P → String → String → Except String (Decision P)
  setPolicy : P → String → P × Except String Unit

section
variable {P : Type} (policy : AgentPolicy P)

/-- `allow_request` of `agent::policy`: the policy state after an allowed request. -/
def allowRequest (p : P) (ep request : String) : Except TtrpcError P :=
  match policy.allowRequest p ep request with
  | .ok (.allow _ p') => .ok p'
  | .ok (.deny prints) =>
      .error (ttrpcError .PERMISSION_DENIED s!"{ep} is blocked by policy: {prints}")
  | .error e => .error (ttrpcError .INTERNAL s!"{ep}: internal error {e}")

/-- `is_allowed`: the request, serialized, is checked under its message's name. -/
def isAllowed (p : P) (name json : String) : Except TtrpcError P :=
  allowRequest policy p name json

/-- `do_set_policy`: `SetPolicyRequest` is checked against the current policy before the new
policy text replaces it. -/
def doSetPolicy (p : P) (json policyText : String) : P × Except TtrpcError Unit :=
  match allowRequest policy p "SetPolicyRequest" json with
  | .error e => (p, .error e)
  | .ok p' =>
      match policy.setPolicy p' policyText with
      | (p'', .ok ()) => (p'', .ok ())
      | (p'', .error e) => (p'', .error (ttrpcError .INVALID_ARGUMENT e))

/-- A request the policy refuses, or fails to evaluate, is refused with a
`PERMISSION_DENIED` or `INTERNAL` status. -/
theorem allowRequest_error_code {p : P} {ep request : String} {e : TtrpcError}
    (h : allowRequest policy p ep request = .error e) :
    e.code = .PERMISSION_DENIED ∨ e.code = .INTERNAL := by
  unfold allowRequest at h
  split at h
  · cases h
  · cases h
    exact .inl rfl
  · cases h
    exact .inr rfl

/-- A refused `SetPolicyRequest` leaves the policy as it was. -/
theorem doSetPolicy_denied {p : P} {json policyText : String} {e : TtrpcError}
    (h : allowRequest policy p "SetPolicyRequest" json = .error e) :
    doSetPolicy policy p json policyText = (p, .error e) := by
  unfold doSetPolicy
  rw [h]

end

end KataContainers.Agent

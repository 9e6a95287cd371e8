import Mathlib.Logic.Basic

/-!
# Specifications of computations in `EStateM`

`Holds Q E x s`: run from `s`, the computation `x` returns a value and a state satisfying `Q`,
or fails with an error, and the state it leaves then satisfies `E`. Unlike a failing `Except`
computation, a failing `EStateM` one still has a state (what it changed before it failed, as a
`&mut self` method that returns early with `?`), so an invariant of the state is stated for
both outcomes. The rules compose specifications through `bind` and the branches of a `do`
block without unfolding the computations they are about; `Holds.run_ok` turns a specification
whose errors cannot happen into what the computation returns.
-/

namespace EStateSpec

variable {ε σ α β : Type} {Q Q' : α → σ → Prop} {E E' : ε → σ → Prop} {x : EStateM ε σ α} {s : σ}

def Holds (Q : α → σ → Prop) (E : ε → σ → Prop) (x : EStateM ε σ α) (s : σ) : Prop :=
  match x.run s with
  | .ok a s' => Q a s'
  | .error e s' => E e s'

theorem holds_of_run_ok {a : α} {s' : σ} (h : x.run s = .ok a s') : Holds Q E x s ↔ Q a s' := by
  simp only [Holds, h]

theorem holds_of_run_error {e : ε} {s' : σ} (h : x.run s = .error e s') : Holds Q E x s ↔ E e s' := by
  simp only [Holds, h]

@[simp] theorem holds_pure {a : α} : Holds Q E (pure a) s ↔ Q a s := Iff.rfl

@[simp] theorem holds_throw {e : ε} : Holds Q E (throw e : EStateM ε σ α) s ↔ E e s := Iff.rfl

@[simp] theorem holds_get {Q : σ → σ → Prop} : Holds Q E (get : EStateM ε σ σ) s ↔ Q s s := Iff.rfl

theorem holds_bind {f : α → EStateM ε σ β} {Q : β → σ → Prop} :
    Holds Q E (x >>= f) s ↔ Holds (fun a s' => Holds Q E (f a) s') E x s := by
  unfold Holds
  rw [EStateM.run_bind]
  cases x.run s <;> rfl

theorem Holds.mono (h : Holds Q E x s) (hQ : ∀ a s', Q a s' → Q' a s') (hE : ∀ e s', E e s' → E' e s') :
    Holds Q' E' x s := by
  unfold Holds at *
  cases hx : x.run s with
  | ok a s' =>
    rw [hx] at h
    exact hQ a s' h
  | error e s' =>
    rw [hx] at h
    exact hE e s' h

/-- A computation none of whose errors can happen returns. -/
theorem Holds.run_ok (h : Holds Q (fun _ _ => False) x s) : ∃ a s', x.run s = .ok a s' ∧ Q a s' := by
  unfold Holds at h
  cases hx : x.run s with
  | ok a s' =>
    rw [hx] at h
    exact ⟨a, s', rfl, h⟩
  | error e s' =>
    rw [hx] at h
    exact h.elim

/-- What a computation that always ends in a state satisfying `P` leaves, whatever its outcome. -/
theorem Holds.state {P : σ → Prop} (h : Holds (fun _ => P) (fun _ => P) x s) :
    P (match x.run s with
      | .ok _ s' => s'
      | .error _ s' => s') := by
  unfold Holds at h
  cases hx : x.run s with
  | ok a s' =>
    rw [hx] at h
    exact h
  | error e s' =>
    rw [hx] at h
    exact h

end EStateSpec

import Mathlib.Logic.Basic

/-!
# Specifications of computations in `Except`

`Holds E P x`: the computation `x` succeeds with a value satisfying `P`, or fails with an error
satisfying `E`. A specification of this shape states what a fallible function returns and which
errors it can raise at once; the rules below compose such specifications through `bind` and the
branches of a `do` block, so that a caller's specification follows from those of its callees
without unfolding them.
-/

namespace ExceptSpec

variable {ε α β : Type} {E E' : ε → Prop} {P P' : α → Prop} {Q : β → Prop}

def Holds (E : ε → Prop) (P : α → Prop) : Except ε α → Prop
  | .ok a => P a
  | .error e => E e

@[simp] theorem holds_ok {a : α} : Holds E P (.ok a) ↔ P a := Iff.rfl

@[simp] theorem holds_error {e : ε} : Holds E P (.error e : Except ε α) ↔ E e := Iff.rfl

@[simp] theorem holds_pure {a : α} : Holds E P (pure a : Except ε α) ↔ P a := Iff.rfl

/-- Every computation meets the specification that names its own result. -/
theorem holds_eq (x : Except ε α) : Holds (fun e => x = .error e) (fun a => x = .ok a) x := by
  cases x <;> rfl

theorem Holds.bind {x : Except ε α} {f : α → Except ε β} (hx : Holds E P x)
    (hf : ∀ a, P a → Holds E Q (f a)) : Holds E Q (x >>= f) := by
  cases x with
  | error e => exact hx
  | ok a => exact hf a hx

theorem Holds.map {x : Except ε α} {f : α → β} (hx : Holds E P x)
    (hf : ∀ a, P a → Q (f a)) : Holds E Q (f <$> x) := by
  cases x with
  | error e => exact hx
  | ok a => exact hf a hx

theorem Holds.ite {c : Prop} [Decidable c] {x y : Except ε α} (hx : c → Holds E P x)
    (hy : ¬c → Holds E P y) : Holds E P (if c then x else y) := by
  by_cases h : c
  · rw [if_pos h]
    exact hx h
  · rw [if_neg h]
    exact hy h

theorem Holds.mono {x : Except ε α} (hx : Holds E P x) (hE : ∀ e, E e → E' e)
    (hP : ∀ a, P a → P' a) : Holds E' P' x := by
  cases x with
  | error e => exact hE e hx
  | ok a => exact hP a hx

/-- Two specifications of one computation hold together; the errors are those of the first. -/
theorem Holds.and {x : Except ε α} (hP : Holds E P x) (hQ : Holds E' P' x) :
    Holds E (fun a => P a ∧ P' a) x := by
  cases x with
  | error e => exact hP
  | ok a => exact ⟨hP, hQ⟩

/-- A computation none of whose errors can happen returns. -/
theorem Holds.exists_ok {x : Except ε α} (h : Holds (fun _ => False) P x) :
    ∃ a, x = .ok a ∧ P a := by
  cases x with
  | error e => exact h.elim
  | ok a => exact ⟨a, rfl, h⟩

/-- An invariant that every step keeps holds after every run of steps. -/
theorem Holds.foldlM {f : α → β → Except ε α} {I : α → Prop}
    (hstep : ∀ a b, I a → Holds E I (f a b)) : ∀ (bs : List β) {a : α}, I a →
      Holds E I (bs.foldlM f a)
  | [], _, ha => ha
  | b :: bs, a, ha => by
    rw [List.foldlM_cons]
    exact (hstep a b ha).bind fun a' ha' => Holds.foldlM hstep bs ha'

/-- Two computations that agree up to `R`: both succeed with related values, or both fail with
the same error. -/
def Agrees (R : α → β → Prop) : Except ε α → Except ε β → Prop
  | .ok a, .ok b => R a b
  | .error e, .error e' => e = e'
  | _, _ => False

@[simp] theorem agrees_ok {R : α → β → Prop} {a : α} {b : β} :
    Agrees R (.ok a : Except ε α) (.ok b) ↔ R a b := Iff.rfl

@[simp] theorem agrees_error {R : α → β → Prop} {e e' : ε} :
    Agrees R (.error e : Except ε α) (.error e' : Except ε β) ↔ e = e' := Iff.rfl

end ExceptSpec

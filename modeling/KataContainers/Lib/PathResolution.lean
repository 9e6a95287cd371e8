import Mathlib.Data.List.Basic

/-!
# Path resolution under a root

Paths are lists of components over names of a type `α`; a directory is the list of names
from the root down to it. A lookup `links` says which directories-plus-name are symbolic links
and to which path (absolute or relative). Two ways of following links are described here:

* `Resolves`, resolution inside a chroot as the kernel does it: the target of each link is
  resolved on its own (from the root when absolute, from the link's directory otherwise) and
  the walk goes on from where the target led;
* `Spliced`, the single-pass walk `pass` that stops at the first link, splices the link's
  target in front of the components still to walk, and walks again.

They agree, link count included (`spliced_iff_resolves`). `..` pops a name and stays at the
root; a name that is not a link is kept, whether or not it exists.
-/

namespace PathResolution

inductive Comp (α : Type) where
  | cur
  | parent
  | normal (name : α)
deriving DecidableEq, Repr

structure Path (α : Type) where
  absolute : Bool
  comps : List (Comp α)
deriving DecidableEq, Repr

/-- Where the target of a link found in `dir` is resolved from. -/
def Path.base {α : Type} (t : Path α) (dir : List α) : List α := if t.absolute then [] else dir

/-- The outcome of one pass: the directory reached, or the first link met, in the directory
`dir`, with its target and the components after it. -/
inductive Pass (α : Type) where
  | done (dir : List α)
  | link (dir : List α) (target : Path α) (rest : List (Comp α))

variable {α : Type} (links : List α → Option (Path α))

/-- One pass over the components, stopping at the first link. -/
def pass : List α → List (Comp α) → Pass α
  | dir, [] => .done dir
  | dir, .cur :: rest => pass dir rest
  | dir, .parent :: rest => pass dir.dropLast rest
  | dir, .normal a :: rest =>
      match links (dir ++ [a]) with
      | some t => .link dir t rest
      | none => pass (dir ++ [a]) rest

/- The equations of `pass`, one per component; the proofs rewrite with these rather than
unfold the definition. -/

@[simp] theorem pass_nil (dir : List α) : pass links dir [] = .done dir := rfl

@[simp] theorem pass_cur (dir : List α) (rest : List (Comp α)) :
    pass links dir (.cur :: rest) = pass links dir rest := rfl

@[simp] theorem pass_parent (dir : List α) (rest : List (Comp α)) :
    pass links dir (.parent :: rest) = pass links dir.dropLast rest := rfl

theorem pass_normal_of_none {dir : List α} {a : α} (rest : List (Comp α))
    (h : links (dir ++ [a]) = none) :
    pass links dir (.normal a :: rest) = pass links (dir ++ [a]) rest := by
  change (match links (dir ++ [a]) with
    | some t => Pass.link dir t rest
    | none => pass links (dir ++ [a]) rest) = _
  rw [h]

theorem pass_normal_of_some {dir : List α} {a : α} (rest : List (Comp α)) {t : Path α}
    (h : links (dir ++ [a]) = some t) : pass links dir (.normal a :: rest) = .link dir t rest := by
  change (match links (dir ++ [a]) with
    | some t => Pass.link dir t rest
    | none => pass links (dir ++ [a]) rest) = _
  rw [h]

/-- Resolution in a chroot: `Resolves dir cs n res` walks `cs` from `dir`, follows `n` links
in all and ends in `res`. -/
inductive Resolves : List α → List (Comp α) → Nat → List α → Prop
  | nil (dir : List α) : Resolves dir [] 0 dir
  | cur {dir : List α} {rest : List (Comp α)} {n : Nat} {res : List α} :
      Resolves dir rest n res → Resolves dir (.cur :: rest) n res
  | parent {dir : List α} {rest : List (Comp α)} {n : Nat} {res : List α} :
      Resolves dir.dropLast rest n res → Resolves dir (.parent :: rest) n res
  | normal {dir : List α} {a : α} {rest : List (Comp α)} {n : Nat} {res : List α} :
      links (dir ++ [a]) = none → Resolves (dir ++ [a]) rest n res →
        Resolves dir (.normal a :: rest) n res
  | link {dir : List α} {a : α} {rest : List (Comp α)} {t : Path α} {mid : List α}
      {n m : Nat} {res : List α} :
      links (dir ++ [a]) = some t → Resolves (t.base dir) t.comps n mid → Resolves mid rest m res →
        Resolves dir (.normal a :: rest) (n + m + 1) res

/-- Resolution by splicing: walk until the first link, put its target in front of what is
left, and walk again from the target's base. -/
inductive Spliced : List α → List (Comp α) → Nat → List α → Prop
  | done {dir : List α} {cs : List (Comp α)} {res : List α} :
      pass links dir cs = .done res → Spliced dir cs 0 res
  | link {dir : List α} {cs : List (Comp α)} {d : List α} {t : Path α} {rest : List (Comp α)}
      {n : Nat} {res : List α} :
      pass links dir cs = .link d t rest → Spliced (t.base d) (t.comps ++ rest) n res →
        Spliced dir cs (n + 1) res

/-! ## The single pass -/

theorem pass_append_of_done {dir mid : List α} {xs : List (Comp α)} (ys : List (Comp α))
    (h : pass links dir xs = .done mid) : pass links dir (xs ++ ys) = pass links mid ys := by
  induction xs generalizing dir with
  | nil =>
      rw [pass_nil, Pass.done.injEq] at h
      rw [h, List.nil_append]
  | cons c xs ih =>
      cases c with
      | cur => exact ih h
      | parent => exact ih h
      | normal a =>
          cases hl : links (dir ++ [a]) with
          | none =>
              rw [pass_normal_of_none links _ hl] at h
              rw [List.cons_append, pass_normal_of_none links _ hl]
              exact ih h
          | some t =>
              rw [pass_normal_of_some links _ hl] at h
              cases h

theorem pass_append_of_link {dir d : List α} {xs rest : List (Comp α)} {t : Path α}
    (ys : List (Comp α)) (h : pass links dir xs = .link d t rest) :
    pass links dir (xs ++ ys) = .link d t (rest ++ ys) := by
  induction xs generalizing dir with
  | nil => cases h
  | cons c xs ih =>
      cases c with
      | cur => exact ih h
      | parent => exact ih h
      | normal a =>
          cases hl : links (dir ++ [a]) with
          | none =>
              rw [pass_normal_of_none links _ hl] at h
              rw [List.cons_append, pass_normal_of_none links _ hl]
              exact ih h
          | some t' =>
              rw [pass_normal_of_some links _ hl, Pass.link.injEq] at h
              obtain ⟨rfl, rfl, rfl⟩ := h
              rw [List.cons_append, pass_normal_of_some links _ hl]

/-- A directory none of whose names is a link. -/
def Clean (dir : List α) : Prop := ∀ k, 0 < k → k ≤ dir.length → links (dir.take k) = none

theorem clean_nil : Clean links ([] : List α) := fun k hk hle => by simp at hle; omega

theorem clean_dropLast {dir : List α} (h : Clean links dir) : Clean links dir.dropLast := by
  intro k hk hle
  rw [List.length_dropLast] at hle
  -- the prefixes of `dir.dropLast` are prefixes of `dir`
  have htake : dir.dropLast.take k = dir.take k := by
    rw [List.dropLast_eq_take, List.take_take, Nat.min_eq_left hle]
  rw [htake]
  exact h k hk (by omega)

theorem clean_snoc {dir : List α} {a : α} (h : Clean links dir)
    (ha : links (dir ++ [a]) = none) : Clean links (dir ++ [a]) := by
  intro k hk hle
  rw [List.length_append, List.length_singleton] at hle
  by_cases hlast : k = dir.length + 1
  · rw [hlast, List.take_of_length_le (by simp)]
    exact ha
  · rw [List.take_append_of_le_length (by omega)]
    exact h k hk (by omega)

/-- Walking from a clean directory meets only clean directories. -/
theorem pass_clean {dir : List α} {cs : List (Comp α)} (h : Clean links dir) :
    (∀ res, pass links dir cs = .done res → Clean links res) ∧
      (∀ d t rest, pass links dir cs = .link d t rest → Clean links d) := by
  induction cs generalizing dir with
  | nil =>
      refine ⟨fun res hp => ?_, fun d t rest hp => ?_⟩
      · rw [pass_nil, Pass.done.injEq] at hp
        exact hp ▸ h
      · cases hp
  | cons c cs ih =>
      cases c with
      | cur => exact ih h
      | parent => exact ih (clean_dropLast links h)
      | normal a =>
          cases hl : links (dir ++ [a]) with
          | none =>
              rw [pass_normal_of_none links _ hl]
              exact ih (clean_snoc links h hl)
          | some t =>
              rw [pass_normal_of_some links _ hl]
              refine ⟨fun res hp => ?_, fun d t' rest hp => ?_⟩
              · cases hp
              · rw [Pass.link.injEq] at hp
                exact hp.1 ▸ h

/-- Walking again over a clean path only descends it. -/
theorem pass_map_normal {dir : List α} (e : List α) (cs : List (Comp α))
    (h : Clean links (dir ++ e)) :
    pass links dir (e.map .normal ++ cs) = pass links (dir ++ e) cs := by
  induction e generalizing dir with
  | nil => simp
  | cons a e ih =>
      have ha : links (dir ++ [a]) = none := by
        have := h (dir.length + 1) (by omega) (by simp)
        simpa [List.take_append, List.take_of_length_le] using this
      have hclean : Clean links (dir ++ [a] ++ e) := by simpa using h
      rw [List.map_cons, List.cons_append, pass_normal_of_none links _ ha, ih hclean]
      simp

/-! ## Chroot resolution -/

theorem resolves_append {dir : List α} {xs ys : List (Comp α)} {n : Nat} {res : List α} :
    Resolves links dir (xs ++ ys) n res ↔
      ∃ mid n₁ n₂, n = n₁ + n₂ ∧ Resolves links dir xs n₁ mid ∧ Resolves links mid ys n₂ res := by
  induction xs generalizing dir n with
  | nil =>
      constructor
      · intro h
        exact ⟨dir, 0, n, by omega, .nil dir, by simpa using h⟩
      · rintro ⟨mid, n₁, n₂, rfl, h₁, h₂⟩
        cases h₁
        simpa using h₂
  | cons c xs ih =>
      constructor
      · intro h
        cases h with
        | cur h =>
            obtain ⟨mid, n₁, n₂, rfl, h₁, h₂⟩ := ih.mp h
            exact ⟨mid, n₁, n₂, rfl, .cur h₁, h₂⟩
        | parent h =>
            obtain ⟨mid, n₁, n₂, rfl, h₁, h₂⟩ := ih.mp h
            exact ⟨mid, n₁, n₂, rfl, .parent h₁, h₂⟩
        | normal hl h =>
            obtain ⟨mid, n₁, n₂, rfl, h₁, h₂⟩ := ih.mp h
            exact ⟨mid, n₁, n₂, rfl, .normal hl h₁, h₂⟩
        | link hl ht h =>
            obtain ⟨mid, n₁, n₂, rfl, h₁, h₂⟩ := ih.mp h
            exact ⟨mid, _ + n₁ + 1, n₂, by omega, .link hl ht h₁, h₂⟩
      · rintro ⟨mid, n₁, n₂, rfl, h₁, h₂⟩
        cases h₁ with
        | cur h₁ => exact .cur (ih.mpr ⟨mid, _, n₂, rfl, h₁, h₂⟩)
        | parent h₁ => exact .parent (ih.mpr ⟨mid, _, n₂, rfl, h₁, h₂⟩)
        | normal hl h₁ => exact .normal hl (ih.mpr ⟨mid, _, n₂, rfl, h₁, h₂⟩)
        | @link _ _ _ _ _ k m _ hl ht h₁ =>
            have := Resolves.link hl ht (ih.mpr ⟨mid, m, n₂, rfl, h₁, h₂⟩)
            rwa [show k + (m + n₂) + 1 = k + m + 1 + n₂ by omega] at this

/-- A pass that reaches `res` without a link is a resolution that follows none. -/
theorem resolves_of_pass_done {dir res : List α} {cs : List (Comp α)}
    (h : pass links dir cs = .done res) : Resolves links dir cs 0 res := by
  induction cs generalizing dir with
  | nil =>
      rw [pass_nil, Pass.done.injEq] at h
      exact h ▸ .nil dir
  | cons c cs ih =>
      cases c with
      | cur => exact .cur (ih h)
      | parent => exact .parent (ih h)
      | normal a =>
          cases hl : links (dir ++ [a]) with
          | none =>
              rw [pass_normal_of_none links _ hl] at h
              exact .normal hl (ih h)
          | some t =>
              rw [pass_normal_of_some links _ hl] at h
              cases h

/-- A pass that stops at a link: the components are the clean part walked, the link's name
and the rest. -/
theorem resolves_of_pass_link {dir d : List α} {cs rest : List (Comp α)} {t : Path α}
    {n : Nat} {res : List α} (h : pass links dir cs = .link d t rest)
    (hr : Resolves links (t.base d) (t.comps ++ rest) n res) :
    Resolves links dir cs (n + 1) res := by
  induction cs generalizing dir with
  | nil => cases h
  | cons c cs ih =>
      cases c with
      | cur => exact .cur (ih h)
      | parent => exact .parent (ih h)
      | normal a =>
          cases hl : links (dir ++ [a]) with
          | none =>
              rw [pass_normal_of_none links _ hl] at h
              exact .normal hl (ih h)
          | some t' =>
              rw [pass_normal_of_some links _ hl, Pass.link.injEq] at h
              obtain ⟨rfl, rfl, rfl⟩ := h
              obtain ⟨mid, n₁, n₂, rfl, h₁, h₂⟩ := (resolves_append links).mp hr
              have := Resolves.link hl h₁ h₂
              rwa [show n₁ + n₂ + 1 = n₁ + n₂ + 1 from rfl] at this

/-! ## Splicing -/

/-- `Spliced` looks only at what the pass does. -/
theorem spliced_congr {dir dir' : List α} {cs cs' : List (Comp α)}
    (h : pass links dir cs = pass links dir' cs') {n : Nat} {res : List α} :
    Spliced links dir cs n res ↔ Spliced links dir' cs' n res := by
  constructor
  · intro hs
    cases hs with
    | done hp => exact .done (h ▸ hp)
    | link hp hs => exact .link (h ▸ hp) hs
  · intro hs
    cases hs with
    | done hp => exact .done (h ▸ hp)
    | link hp hs => exact .link (h ▸ hp) hs

theorem spliced_append {dir mid res : List α} {xs ys : List (Comp α)} {n₁ n₂ : Nat}
    (h₁ : Spliced links dir xs n₁ mid) (h₂ : Spliced links mid ys n₂ res) :
    Spliced links dir (xs ++ ys) (n₁ + n₂) res := by
  induction h₁ with
  | done hp =>
      rw [Nat.zero_add]
      exact (spliced_congr links (pass_append_of_done links _ hp)).mpr h₂
  | @link dir cs d t rest n mid hp _ ih =>
      have := Spliced.link (pass_append_of_link links ys hp) (by simpa using ih h₂)
      rwa [show n + n₂ + 1 = n + 1 + n₂ by omega] at this

/-- Splicing a link's target in front of the rest and walking again resolves exactly as the
chroot does, following as many links. -/
theorem spliced_iff_resolves {dir : List α} {cs : List (Comp α)} {n : Nat} {res : List α} :
    Spliced links dir cs n res ↔ Resolves links dir cs n res := by
  constructor
  · intro h
    induction h with
    | done hp => exact resolves_of_pass_done links hp
    | link hp _ ih => exact resolves_of_pass_link links hp ih
  · intro h
    induction h with
    | nil dir => exact .done rfl
    | @cur dir rest n res _ ih => exact (spliced_congr links (pass_cur links dir rest)).mpr ih
    | @parent dir rest n res _ ih => exact (spliced_congr links (pass_parent links dir rest)).mpr ih
    | @normal dir a rest n res hl _ ih =>
        exact (spliced_congr links (pass_normal_of_none links rest hl)).mpr ih
    | @link dir a rest t mid n m res hl _ _ ih₁ ih₂ =>
        exact .link (pass_normal_of_some links rest hl) (spliced_append links ih₁ ih₂)

/-- Every directory a spliced walk from a clean directory ends in is clean. -/
theorem spliced_clean {dir : List α} {cs : List (Comp α)} {n : Nat} {res : List α}
    (h : Spliced links dir cs n res) (hc : Clean links dir) : Clean links res := by
  induction h with
  | done hp => exact (pass_clean links hc).1 _ hp
  | link hp _ ih =>
      apply ih
      unfold Path.base
      split
      · exact clean_nil links
      · exact (pass_clean links hc).2 _ _ _ hp

end PathResolution

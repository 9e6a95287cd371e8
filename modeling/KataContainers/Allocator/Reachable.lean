import KataContainers.Allocator.Invariant

/-!
# Reachable interval trees

Every operation of `IntervalTree` keeps a well-formed tree well formed or panics with one of the
panics of its interface, so every run from `IntervalTree::new()` ends in a well-formed tree or in
such a panic: the `unreachable!()` of `rotate` and the `expect("Node is broken")` of the
rotations are never reached. `allocate` and `free` are composed of lookups, deletions and
insertions of ranges that `Range::new` checked, with one exception: `free` inserts the range it
merged without that check, and can so insert the full range.
-/

namespace KataContainers.Allocator

open ExceptSpec

/-- A panic other than those of the rotations. -/
def Panic.NotRebalancing (e : Panic) : Prop := e ≠ .unreachable ∧ e ≠ .nodeBroken

instance (e : Panic) : Decidable e.NotRebalancing :=
  inferInstanceAs (Decidable (_ ∧ _))

namespace Range

theorem new_spec (min max : UInt64) :
    Holds (· = .invalidRange) (fun r => r.Valid ∧ r.min = min ∧ r.max = max) (Range.new min max) := by
  unfold Range.new
  split_ifs with hbad
  · rfl
  · simp only [Bool.or_eq_true, decide_eq_true_eq, not_or] at hbad
    exact ⟨UInt64.not_lt.mp hbad.1, rfl, rfl⟩

theorem alignTo_spec {r : Range} (hr : r.Valid) (align : UInt64) :
    Holds (· = .invalidRange) (fun o => ∀ a, o = some a → a.Valid) (r.alignTo align) := by
  unfold alignTo
  split
  · rintro a ⟨⟩
    exact hr
  · rintro a ⟨⟩
    exact hr
  · dsimp only
    split_ifs
    · rintro a ⟨⟩
    · refine (new_spec _ _).map ?_
      rintro a ha b ⟨⟩
      exact ha.1
    all_goals rintro a ⟨⟩

end Range

namespace Tree

variable {T : Type}

/-- `check_constraint` panics only in `Range::new`. -/
theorem checkConstraint_spec (c : Constraint) (t : Tree T) :
    Holds (· = .invalidRange) (fun _ => True) (checkConstraint c t) := by
  unfold checkConstraint
  split
  · trivial
  · dsimp only
    split_ifs
    · exact (Range.new_spec _ _).bind fun _ _ => trivial
    · refine (Range.new_spec _ _).bind fun key hkey => ?_
      refine (Range.alignTo_spec hkey.1 c.align).bind fun o _ => ?_
      cases o <;> trivial
    all_goals trivial

theorem firstMatch_spec (c : Constraint) : ∀ t : Tree T,
    Holds (· = .invalidRange) (fun _ => True) (firstMatch c t)
  | nil => trivial
  | node k d l r h m => by
    simp only [firstMatch]
    refine (firstMatch_spec c l).bind fun cand _ => ?_
    cases cand with
    | some x => trivial
    | none =>
      refine (checkConstraint_spec c _).bind fun b _ => ?_
      cases b
      · exact firstMatch_spec c r
      · trivial

end Tree

namespace IntervalTree

variable {T : Type}

/-- The representation invariant of the tree behind the interface. -/
def WellFormed (t : IntervalTree T) : Prop := t.root.WellFormed

theorem wellFormed_new : (new : IntervalTree T).WellFormed := Tree.wellFormed_nil

section Operations

variable {t : IntervalTree T} (hwf : t.WellFormed)
include hwf

theorem insert_wellFormed {key : Range} (hkey : key.Valid) (data : Option T) :
    Holds Panic.NotRebalancing WellFormed (t.insert key data) := by
  unfold IntervalTree.insert
  refine ((Tree.insert_spec hkey data hwf).mono ?_ fun _ h => h.wellFormed).map fun _ h => h
  rintro e ⟨he | he, -⟩ <;> subst he <;> decide

theorem delete_wellFormed (key : Range) :
    Holds Panic.NotRebalancing (fun r => r.1.WellFormed) (t.delete key) := by
  unfold IntervalTree.delete
  refine ((Tree.delete_spec key hwf).mono (fun _ h => h.elim) fun _ h => h).map ?_
  rintro ⟨data, root⟩ h
  exact h.wellFormed

theorem update_wellFormed (key : Range) (data : T) :
    Holds Panic.NotRebalancing (fun r => r.1.WellFormed) (t.update key data) := by
  unfold IntervalTree.update
  refine ((Tree.update_spec key (.Valued data) t.root).mono ?_ fun _ h => h).map ?_
  · rintro e rfl
    decide
  · rintro ⟨root, old⟩ h
    exact h.wellFormed hwf

theorem markAllocated_wellFormed (key : Range) :
    Holds Panic.NotRebalancing WellFormed (t.markAllocated key) := by
  unfold markAllocated
  split
  · exact (by decide : Panic.NotRebalancing .unwrapNone)
  · refine ((Tree.update_spec key .Allocated t.root).mono ?_ fun _ h => h).map ?_
    · rintro e rfl
      decide
    · rintro ⟨root, old⟩ h
      exact h.wellFormed hwf

omit hwf in
theorem findCandidate_spec (c : Constraint) :
    Holds Panic.NotRebalancing (fun _ => True) (t.root.findCandidate c) := by
  unfold Tree.findCandidate
  split <;> refine (Tree.firstMatch_spec c t.root).mono ?_ fun _ h => h <;> rintro e rfl <;> decide

omit hwf in
theorem new_notRebalancing (min max : UInt64) :
    Holds Panic.NotRebalancing Range.Valid (Range.new min max) := by
  refine (Range.new_spec min max).mono ?_ fun _ h => h.1
  rintro e rfl
  decide

theorem insertRange_wellFormed (min max : UInt64) :
    Holds Panic.NotRebalancing WellFormed (t.insertRange min max) :=
  (new_notRebalancing min max).bind fun _ hkey => insert_wellFormed hwf hkey none

theorem deleteRange_wellFormed (min max : UInt64) :
    Holds Panic.NotRebalancing WellFormed (t.deleteRange min max) := by
  unfold deleteRange
  refine (new_notRebalancing min max).bind fun key _ => (delete_wellFormed hwf key).bind ?_
  rintro ⟨t', _⟩ h
  exact h

end Operations

/-- `allocate` keeps the tree well formed: the candidate it splits is deleted, and the pieces it
inserts were checked by `Range::new`. -/
theorem allocate_wellFormed {t : IntervalTree T} (hwf : t.WellFormed) (c : Constraint) :
    Holds Panic.NotRebalancing (fun r => r.1.WellFormed) (t.allocate c) := by
  unfold allocate
  split_ifs with hsize
  · exact hwf
  refine (findCandidate_spec c).bind ?_
  rintro (_ | nodeKey) -
  · exact hwf
  refine (new_notRebalancing _ _).bind fun range hrange => ?_
  refine ((Range.alignTo_spec hrange c.align).mono (fun e he => by subst he; decide)
    fun _ h => h).bind fun aligned haligned => ?_
  -- the `unwrap()` of the aligned range
  refine Holds.bind (P := Range.Valid) ?_ fun alignedKey _ => ?_
  · cases aligned with
    | none => exact (by decide : Panic.NotRebalancing .unwrapNone)
    | some a => exact haligned a rfl
  refine (new_notRebalancing _ _).bind fun result hresult => ?_
  refine Holds.ite (fun _ => (markAllocated_wellFormed hwf nodeKey).bind fun _ h => h) fun _ => ?_
  -- the candidate is split: deleted, its pieces inserted, and the middle one marked allocated
  refine (delete_wellFormed hwf nodeKey).bind ?_
  rintro ⟨t₁, _⟩ h₁
  dsimp only
  refine (Holds.ite (fun _ => insertRange_wellFormed h₁ _ _) fun _ => holds_pure.mpr h₁).bind
    fun t₂ h₂ => ?_
  refine (insert_wellFormed h₂ hresult none).bind fun t₃ h₃ => ?_
  refine (Holds.ite (fun _ => insertRange_wellFormed h₃ _ _) fun _ => holds_pure.mpr h₃).bind
    fun t₄ h₄ => ?_
  exact (markAllocated_wellFormed h₄ result).bind fun _ h => h

/-- The merged range starts at or before the key. -/
theorem mergeMin_spec (t : IntervalTree T) (key : Range) :
    Holds Panic.NotRebalancing (· ≤ key.min) (t.mergeMin key) := by
  unfold mergeMin
  refine Holds.ite (fun hpos => ?_) fun _ => UInt64.le_refl _
  refine ((Range.new_spec _ _).mono (fun e he => by subst he; decide) fun _ h => h).map ?_
  rintro p ⟨-, hpmin, -⟩
  rcases hs : t.getSuperset p with _ | ⟨r, v⟩
  · exact UInt64.le_refl _
  · -- the free node before the key contains the point `key.min - 1`
    obtain ⟨hc, -⟩ := Tree.searchSuperset_spec hs
    simp only [Range.contain_eq, Bool.and_eq_true, decide_eq_true_eq] at hc
    dsimp only
    split_ifs
    · have hsub := UInt64.toNat_sub_of_le key.min 1 (by
        simp only [UInt64.le_iff_toNat_le, UInt64.lt_iff_toNat_lt, UInt64.toNat_one,
          UInt64.toNat_zero] at *
        omega)
      simp only [UInt64.le_iff_toNat_le, UInt64.lt_iff_toNat_lt, hpmin] at *
      simp only [UInt64.toNat_one] at hsub
      omega
    · exact UInt64.le_refl _

/-- The merged range ends at or after the key. -/
theorem mergeMax_spec (t : IntervalTree T) (key : Range) :
    Holds Panic.NotRebalancing (key.max ≤ ·) (t.mergeMax key) := by
  unfold mergeMax
  refine Holds.ite (fun hlt => ?_) fun _ => UInt64.le_refl _
  refine ((Range.new_spec _ _).mono (fun e he => by subst he; decide) fun _ h => h).map ?_
  rintro p ⟨-, -, hpmax⟩
  rcases hs : t.getSuperset p with _ | ⟨r, v⟩
  · exact UInt64.le_refl _
  · -- the free node after the key contains the point `key.max + 1`, which does not wrap
    obtain ⟨hc, -⟩ := Tree.searchSuperset_spec hs
    simp only [Range.contain_eq, Bool.and_eq_true, decide_eq_true_eq] at hc
    dsimp only
    split_ifs
    · have hadd := UInt64.toNat_add key.max 1
      have hmax : u64Max.toNat = 2 ^ 64 - 1 := rfl
      simp only [UInt64.le_iff_toNat_le, UInt64.lt_iff_toNat_lt, ge_iff_le, hpmax] at *
      simp only [UInt64.toNat_one] at hadd
      omega
    · exact UInt64.le_refl _

/-- `free` keeps a well-formed tree well formed when it frees a valid key: the range it merges
contains the key, and the free neighbours it absorbs are deleted before it is inserted. -/
theorem free_wellFormed {t : IntervalTree T} (hwf : t.WellFormed) {key : Range}
    (hkey : key.Valid) : Holds Panic.NotRebalancing (fun r => r.1.WellFormed) (t.free key) := by
  unfold free
  refine (delete_wellFormed hwf key).bind ?_
  rintro ⟨t₁, result⟩ h₁
  refine (mergeMin_spec t₁ key).bind fun min hmin => ?_
  refine (mergeMax_spec t₁ key).bind fun max hmax => ?_
  have hrange : Range.Valid ⟨min, max⟩ := by
    simp only [Range.valid_iff, UInt64.le_iff_toNat_le] at *
    omega
  dsimp only
  refine (Holds.ite (fun _ => deleteRange_wellFormed h₁ _ _) fun _ => holds_pure.mpr h₁).bind
    fun t₂ h₂ => ?_
  refine (Holds.ite (fun _ => deleteRange_wellFormed h₂ _ _) fun _ => holds_pure.mpr h₂).bind
    fun t₃ h₃ => ?_
  exact (insert_wellFormed h₃ hrange none).bind fun _ h => h

/-- Freeing an allocated `[6, 6]` between the free `[0, 5]` and `[7, u64::MAX]` merges the three
into the full range, which `Range::new` rejects; the next `allocate` of one unit then panics in
`check_constraint`. -/
theorem free_merges_full_range :
    ((run [.insert ⟨0, 5⟩ none, .insert ⟨6, 6⟩ none, .insert ⟨7, u64Max⟩ none] :
        Except Panic (IntervalTree Unit)).bind fun t =>
          (t.allocate ⟨1, 6, 6, 1, .Default⟩).map (·.2)) = .ok (some ⟨6, 6⟩) ∧
    ((run [.insert ⟨0, 5⟩ none, .insert ⟨6, 6⟩ none, .insert ⟨7, u64Max⟩ none,
        .allocate ⟨1, 6, 6, 1, .Default⟩, .free ⟨6, 6⟩] : Except Panic (IntervalTree Unit)).map
        fun t => Tree.entries t.root) = .ok [(⟨0, u64Max⟩, .Free)] ∧
    ((run [.insert ⟨0, 5⟩ none, .insert ⟨6, 6⟩ none, .insert ⟨7, u64Max⟩ none,
        .allocate ⟨1, 6, 6, 1, .Default⟩, .free ⟨6, 6⟩] : Except Panic (IntervalTree Unit)).bind
        fun t => (t.allocate (Constraint.new 1)).map (·.2)) = .error .invalidRange := by
  with_unfolding_all decide

/-- The keys an operation is given are valid ranges where it inserts them. -/
def Op.KeysValid : Op T → Prop
  | .insert key _ => key.Valid
  | .free key => key.Valid
  | .delete _ | .update _ _ | .allocate _ => True

instance (op : Op T) : Decidable op.KeysValid :=
  match op with
  | .insert key _ => inferInstanceAs (Decidable key.Valid)
  | .free key => inferInstanceAs (Decidable key.Valid)
  | .delete _ | .update _ _ | .allocate _ => isTrue trivial

theorem step_wellFormed {t : IntervalTree T} (hwf : t.WellFormed) :
    ∀ op : Op T, op.KeysValid → Holds Panic.NotRebalancing WellFormed (t.step op)
  | .insert _ data, hkey => insert_wellFormed hwf hkey data
  | .delete key, _ => (delete_wellFormed hwf key).map fun _ h => h
  | .update key data, _ => (update_wellFormed hwf key data).map fun _ h => h
  | .allocate c, _ => (allocate_wellFormed hwf c).map fun _ h => h
  | .free _, hkey => (free_wellFormed hwf hkey).map fun _ h => h

theorem foldlM_step_wellFormed : ∀ (ops : List (Op T)) {t : IntervalTree T}, t.WellFormed →
    (∀ op ∈ ops, op.KeysValid) → Holds Panic.NotRebalancing WellFormed (ops.foldlM step t)
  | [], _, hwf, _ => hwf
  | op :: ops, _, hwf, hops => by
    rw [List.foldlM_cons]
    exact (step_wellFormed hwf op (hops op (by simp))).bind fun _ h =>
      foldlM_step_wellFormed ops h fun o ho => hops o (by simp [ho])

/-- Every run of the interface from `IntervalTree::new()`, with valid keys where it inserts
them, ends in a tree whose keys are in order and pairwise disjoint, whose caches are exact and
whose nodes are balanced; or it panics, but never in the rotations. -/
theorem run_wellFormed (ops : List (Op T)) (hops : ∀ op ∈ ops, op.KeysValid) :
    match run ops with
    | .ok t =>
        (Tree.keys t.root).Pairwise (fun a b => a.cmp b = .lt ∧ a.intersect b = false) ∧
          Tree.Balanced t.root
    | .error e => e ≠ .unreachable ∧ e ≠ .nodeBroken := by
  have hrun := foldlM_step_wellFormed ops wellFormed_new hops
  unfold run
  cases h : ops.foldlM step new with
  | error e =>
    rw [h] at hrun
    exact hrun
  | ok t =>
    rw [h] at hrun
    exact ⟨Tree.WellFormed.pairwise_cmp hrun, hrun.balanced⟩

/-- A tree built from `IntervalTree::new()` by a run of the interface with valid keys where it
inserts them. -/
def Reachable (t : IntervalTree T) : Prop :=
  ∃ ops : List (Op T), (∀ op ∈ ops, op.KeysValid) ∧ run ops = .ok t

theorem Reachable.wellFormed {t : IntervalTree T} (ht : t.Reachable) : t.WellFormed := by
  obtain ⟨ops, hops, hrun⟩ := ht
  have h := foldlM_step_wellFormed ops wellFormed_new hops
  unfold run at hrun
  rw [hrun] at h
  exact h

theorem run_wellFormed_allocate_free :
    (∀ op ∈ ([.insert ⟨0, 0xFFFF⟩ none, .allocate (Constraint.new 0x10), .free ⟨0, 0xF⟩] :
      List (Op Unit)), op.KeysValid) ∧
    match run ([.insert ⟨0, 0xFFFF⟩ none, .allocate (Constraint.new 0x10), .free ⟨0, 0xF⟩] :
      List (Op Unit)) with
    | .ok t =>
        (Tree.keys t.root).Pairwise (fun a b => a.cmp b = .lt ∧ a.intersect b = false) ∧
          Tree.Balanced t.root
    | .error e => e ≠ .unreachable ∧ e ≠ .nodeBroken :=
  ⟨by decide, run_wellFormed
    [.insert ⟨0, 0xFFFF⟩ none, .allocate (Constraint.new 0x10), .free ⟨0, 0xF⟩] (by decide)⟩

end IntervalTree

end KataContainers.Allocator

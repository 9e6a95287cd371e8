import KataContainers.Allocator.Reachable

/-!
# Lookups and the overlap check of `insert`

In a well-formed tree `search` finds exactly the keys of the tree, and `search_superset` finds
a node holding the range whenever there is one, although it follows a single path: a node that
holds the range lies on the side of the current key where the range starts or ends. `insert`
compares the new key only with the keys on its own search path, and the same ordering makes
this check complete: a key that meets the new one lies on that path.
-/

namespace KataContainers.Allocator

open ExceptSpec

namespace Range

theorem intersect_comm (a b : Range) : a.intersect b = b.intersect a := by
  simp only [intersect_eq, decide_eq_decide, UInt64.le_iff_toNat_le, UInt64.toNat_max,
    UInt64.toNat_min]
  omega

/-- A range that a key before `k` holds ends before `k` starts. -/
theorem max_lt_of_before_of_contain {x k key : Range} (hxk : x.Before k)
    (hc : x.contain key = true) : key.max < k.min := by
  simp only [contain_eq, before_iff, Bool.and_eq_true, decide_eq_true_eq, ge_iff_le,
    UInt64.lt_iff_toNat_lt, UInt64.le_iff_toNat_le] at *
  omega

/-- A range that a key after `k` holds starts after `k` ends. -/
theorem lt_min_of_before_of_contain {k x key : Range} (hkx : k.Before x)
    (hc : x.contain key = true) : k.max < key.min := by
  simp only [contain_eq, before_iff, Bool.and_eq_true, decide_eq_true_eq, ge_iff_le,
    UInt64.lt_iff_toNat_lt, UInt64.le_iff_toNat_le] at *
  omega

/-- A range that ends before `k` starts and starts after `k` ends (so it is no valid range)
is held by `k`. -/
theorem contain_of_max_lt_of_lt_min {k key : Range} (hk : k.Valid) (h₁ : key.max < k.min)
    (h₂ : k.max < key.min) : k.contain key = true := by
  simp only [contain_eq, valid_iff, Bool.and_eq_true, decide_eq_true_eq, ge_iff_le,
    UInt64.lt_iff_toNat_lt, UInt64.le_iff_toNat_le] at *
  omega

/-- Two keys that hold one valid range are not one before the other. -/
theorem not_before_of_contain {x y p : Range} (hp : p.Valid) (hx : x.contain p = true)
    (hy : y.contain p = true) : ¬x.Before y := by
  simp only [contain_eq, valid_iff, before_iff, Bool.and_eq_true, decide_eq_true_eq, ge_iff_le,
    UInt64.lt_iff_toNat_lt, UInt64.le_iff_toNat_le] at *
  omega

end Range

namespace Tree

variable {T : Type}

theorem isNode_of_mem_entries {t : Tree T} {e : Range × NodeState T} (he : e ∈ entries t) :
    t.isNode = true := by
  cases t with
  | nil => simp at he
  | node _ _ _ _ _ _ => rfl

section Children

variable {k q : Range} {d : NodeState T} {l r : Tree T} {h : Nat} {m : UInt64}
  (hwf : WellFormed (node k d l r h m))
include hwf

/-- A key that `k` compares below is not in the left child. -/
theorem not_mem_keys_left_of_cmp_lt (hcmp : k.cmp q = .lt) : q ∉ keys l := by
  obtain ⟨hwl, -, -, hlk, -⟩ := wellFormed_node_iff.mp hwf
  intro hq
  exact Range.ne_of_before_of_cmp_lt (hlk q hq) (hwl.ordered.2 q hq) hcmp rfl

/-- A key that `k` compares above is not in the right child. -/
theorem not_mem_keys_right_of_cmp_gt (hcmp : k.cmp q = .gt) : q ∉ keys r := by
  obtain ⟨-, -, hk, -, hkr, -⟩ := wellFormed_node_iff.mp hwf
  intro hq
  exact Range.ne_of_before_of_cmp_gt (hkr q hq) hk hcmp rfl

theorem not_mem_keys_left_self : k ∉ keys l := by
  obtain ⟨hwl, -, -, hlk, -⟩ := wellFormed_node_iff.mp hwf
  intro hk
  exact (hlk k hk).ne (hwl.ordered.2 k hk) rfl

theorem not_mem_keys_right_self : k ∉ keys r := by
  obtain ⟨-, -, hk, -, hkr, -⟩ := wellFormed_node_iff.mp hwf
  intro hkr'
  exact (hkr k hkr').ne hk rfl

end Children

/-- `search` finds exactly the entries of the tree. -/
theorem search_eq_some_iff : ∀ {t : Tree T}, WellFormed t → ∀ {key : Range} {s : NodeState T},
    search key t = some s ↔ (key, s) ∈ entries t
  | nil, _, _, _ => by simp [search]
  | node k d l r h m, hwf, key, s => by
    obtain ⟨hwl, hwr, -⟩ := wellFormed_node_iff.mp hwf
    have hne : k.cmp key ≠ .eq → key ≠ k := fun hcmp heq => hcmp (Range.cmp_eq_eq.mpr heq.symm)
    rw [mem_entries_node]
    rcases hcmp : k.cmp key with _ | _ | _
    case lt =>
      -- past `k`: only the right child can hold `key`
      have hl := not_mem_keys_left_of_cmp_lt hwf hcmp
      have hk := hne (by rw [hcmp]; decide)
      simp only [search, hcmp, search_eq_some_iff hwr]
      constructor
      · exact fun h => .inr (.inr h)
      · rintro (h | h | h)
        · exact absurd (mem_keys.mpr ⟨s, h⟩) hl
        · exact absurd (Prod.mk.inj h).1 hk
        · exact h
    case eq =>
      obtain rfl := Range.cmp_eq_eq.mp hcmp
      simp only [search, hcmp]
      constructor
      · rintro ⟨⟩
        exact .inr (.inl rfl)
      · rintro (h | h | h)
        · exact absurd (mem_keys.mpr ⟨s, h⟩) (not_mem_keys_left_self hwf)
        · rw [(Prod.mk.inj h).2]
        · exact absurd (mem_keys.mpr ⟨s, h⟩) (not_mem_keys_right_self hwf)
    case gt =>
      have hr := not_mem_keys_right_of_cmp_gt hwf hcmp
      have hk := hne (by rw [hcmp]; decide)
      simp only [search, hcmp, search_eq_some_iff hwl]
      constructor
      · exact fun h => .inl h
      · rintro (h | h | h)
        · exact h
        · exact absurd (Prod.mk.inj h).1 hk
        · exact absurd (mem_keys.mpr ⟨s, h⟩) hr

/-- `search_superset` does not miss a node that holds the range: such a node lies in the child
that the search goes into. -/
theorem searchSuperset_isSome_of_mem : ∀ {t : Tree T}, WellFormed t →
    ∀ {key x : Range} {s : NodeState T}, (x, s) ∈ entries t → x.contain key = true →
      (searchSuperset key t).isSome = true
  | nil, _, _, _, _, hx, _ => by simp at hx
  | node k d l r h m, hwf, key, x, s, hx, hc => by
    obtain ⟨hwl, hwr, hk, hlk, hkr, -⟩ := wellFormed_node_iff.mp hwf
    by_cases hkc : k.contain key = true
    · simp [searchSuperset, hkc]
    rcases mem_entries_node.mp hx with hx | hx | hx
    · -- a key of the left child: the range ends before `k`
      have hlt := Range.max_lt_of_before_of_contain (hlk x (mem_keys.mpr ⟨s, hx⟩)) hc
      simp only [searchSuperset]
      rw [if_neg hkc, if_pos (by simp [hlt, isNode_of_mem_entries hx])]
      exact searchSuperset_isSome_of_mem hwl hx hc
    · exact absurd ((Prod.mk.inj hx).1 ▸ hc) hkc
    · -- a key of the right child: the range starts after `k`, and cannot also end before it
      have hgt := Range.lt_min_of_before_of_contain (hkr x (mem_keys.mpr ⟨s, hx⟩)) hc
      have hnot : ¬key.max < k.min := fun hlt =>
        hkc (Range.contain_of_max_lt_of_lt_min hk hlt hgt)
      simp only [searchSuperset]
      rw [if_neg hkc, if_neg (by simp [hnot]), if_pos (by simp [hgt, isNode_of_mem_entries hx])]
      exact searchSuperset_isSome_of_mem hwr hx hc

theorem searchSuperset_isSome_iff {t : Tree T} (hwf : WellFormed t) (key : Range) :
    (searchSuperset key t).isSome = true ↔ ∃ x s, (x, s) ∈ entries t ∧ x.contain key = true := by
  constructor
  · intro h
    obtain ⟨⟨x, s⟩, hs⟩ := Option.isSome_iff_exists.mp h
    exact ⟨x, s, (searchSuperset_spec hs).2, (searchSuperset_spec hs).1⟩
  · rintro ⟨x, s, hx, hc⟩
    exact searchSuperset_isSome_of_mem hwf hx hc

/-- Two entries of a well-formed tree lie one before the other. -/
theorem before_or_before {t : Tree T} (hwf : WellFormed t) {e e' : Range × NodeState T}
    (he : e ∈ entries t) (he' : e' ∈ entries t) (hne : e ≠ e') :
    e.1.Before e'.1 ∨ e'.1.Before e.1 := by
  have hpair : (entries t).Pairwise fun a b => a.1.Before b.1 ∨ b.1.Before a.1 := by
    have h := hwf.ordered.1
    rw [keys, List.pairwise_map] at h
    exact h.imp Or.inl
  have : Std.Symm fun a b : Range × NodeState T => a.1.Before b.1 ∨ b.1.Before a.1 :=
    ⟨fun _ _ h => h.symm⟩
  exact hpair.forall he he' hne

/-- Of the entries of a well-formed tree, one at most holds a given valid range. -/
theorem eq_of_contain {t : Tree T} (hwf : WellFormed t) {p : Range} (hp : p.Valid)
    {e e' : Range × NodeState T} (he : e ∈ entries t) (he' : e' ∈ entries t)
    (hc : e.1.contain p = true) (hc' : e'.1.contain p = true) : e = e' := by
  by_contra hne
  rcases before_or_before hwf he he' hne with h | h
  · exact Range.not_before_of_contain hp hc hc' h
  · exact Range.not_before_of_contain hp hc' hc h

/-- A key that meets `q` lies on the search path of `q`, so `insert` reaches it and panics. -/
theorem insert_error_of_intersect (data : Option T) {q : Range} (hq : q.Valid) :
    ∀ {t : Tree T}, WellFormed t → ∀ {x : Range}, x ∈ keys t → x.intersect q = true →
      ∃ e, insert q data t = .error e
  | nil, _, _, hx, _ => by simp at hx
  | node k d l r h m, hwf, x, hx, hi => by
    obtain ⟨hwl, hwr, hk, hlk, hkr, -⟩ := wellFormed_node_iff.mp hwf
    rw [keys_node, List.mem_append, List.mem_cons] at hx
    rcases hcmp : k.cmp q with _ | _ | _
    case lt =>
      by_cases hkq : k.intersect q = true
      · exact ⟨.keysIntersect, by simp only [insert, hcmp, if_pos hkq]⟩
      have hbefore : k.Before q := Range.before_of_cmp_lt hk hq hcmp (by simpa using hkq)
      rcases hx with hx | rfl | hx
      · -- a key of the left child ends before `q` starts
        have hfalse := Range.intersect_eq_false_of_before (hwl.ordered.2 x hx) hq
          ((hlk x hx).trans hk hbefore)
        simp [hfalse] at hi
      · exact absurd hi hkq
      · obtain ⟨e, he⟩ := insert_error_of_intersect data hq hwr hx hi
        refine ⟨e, ?_⟩
        simp only [insert, hcmp, if_neg hkq]
        rw [he]
        rfl
    case eq => exact ⟨.keyExists, by simp only [insert, hcmp]⟩
    case gt =>
      by_cases hkq : k.intersect q = true
      · exact ⟨.keysIntersect, by simp only [insert, hcmp, if_pos hkq]⟩
      have hbefore : q.Before k := Range.before_of_cmp_gt hk hq hcmp (by simpa using hkq)
      rcases hx with hx | rfl | hx
      · obtain ⟨e, he⟩ := insert_error_of_intersect data hq hwl hx hi
        refine ⟨e, ?_⟩
        simp only [insert, hcmp, if_neg hkq]
        rw [he]
        rfl
      · exact absurd hi hkq
      · -- a key of the right child starts after `q` ends
        have hfalse := Range.intersect_eq_false_of_before hq (hwr.ordered.2 x hx)
          (hbefore.trans hk (hkr x hx))
        rw [Range.intersect_comm] at hi
        simp [hfalse] at hi

end Tree

namespace IntervalTree

variable {T : Type}

theorem get_eq_some_iff {t : IntervalTree T} (hwf : t.WellFormed) {key : Range}
    {s : NodeState T} : t.get key = some s ↔ (key, s) ∈ Tree.entries t.root :=
  Tree.search_eq_some_iff hwf

/-- `get_by_id` answers the value of the node holding the point, and `None` if that node is
free or allocated, or if no node holds it. -/
theorem getById_eq_some_iff {t : IntervalTree T} (hwf : t.WellFormed) (id : UInt64) (v : T) :
    t.getById id = some v ↔
      ∃ r, (r, NodeState.Valued v) ∈ Tree.entries t.root ∧ r.contain (Range.newPoint id) = true := by
  have hp : (Range.newPoint id).Valid := UInt64.le_refl id
  unfold getById
  rcases hs : t.root.searchSuperset (Range.newPoint id) with _ | ⟨x, s⟩
  · dsimp only
    simp only [reduceCtorEq, false_iff, not_exists, not_and]
    intro r hr hc
    have hsome := (Tree.searchSuperset_isSome_iff hwf _).mpr ⟨r, _, hr, hc⟩
    rw [hs] at hsome
    cases hsome
  · obtain ⟨hc, hmem⟩ := Tree.searchSuperset_spec hs
    dsimp only
    constructor
    · intro hv
      cases s with
      | Valued w =>
        obtain rfl : w = v := Option.some.inj hv
        exact ⟨x, hmem, hc⟩
      | Free => cases hv
      | Allocated => cases hv
    · rintro ⟨r, hr, hrc⟩
      -- one node only holds the point
      rw [(Prod.mk.inj (Tree.eq_of_contain hwf hp hmem hr hc hrc)).2]
      rfl

/-- Superset lookups are exact: `get_superset` (and `get_superset_mut`, the same search) finds a
node whenever one holds the range, and then one that does; `get_by_id` answers the value of the
node holding the point; and `get` finds exactly the keys. -/
theorem getSuperset_exact {t : IntervalTree T} (ht : t.Reachable) (k : Range) :
    ((t.getSuperset k).isSome = true ↔
        ∃ r s, (r, s) ∈ Tree.entries t.root ∧ r.contain k = true) ∧
      (∀ r s, t.getSuperset k = some (r, s) → (r, s) ∈ Tree.entries t.root ∧ r.contain k = true) ∧
      t.getSupersetMut k = t.getSuperset k ∧
      (∀ id v, t.getById id = some v ↔
        ∃ r, (r, NodeState.Valued v) ∈ Tree.entries t.root ∧
          r.contain (Range.newPoint id) = true) ∧
      ((t.get k).isSome = true ↔ k ∈ Tree.keys t.root) := by
  have hwf := ht.wellFormed
  refine ⟨Tree.searchSuperset_isSome_iff hwf k, fun r s h => ?_, rfl,
    fun id v => getById_eq_some_iff hwf id v, ?_⟩
  · obtain ⟨hc, hmem⟩ := Tree.searchSuperset_spec h
    exact ⟨hmem, hc⟩
  · rw [Option.isSome_iff_exists, Tree.mem_keys]
    exact exists_congr fun s => get_eq_some_iff hwf

theorem getSuperset_exact_leaf :
    (⟨.node ⟨0x200, 0x2ff⟩ .Free .nil .nil 1 0x2ff⟩ : IntervalTree Unit).Reachable ∧
      (((⟨.node ⟨0x200, 0x2ff⟩ .Free .nil .nil 1 0x2ff⟩ : IntervalTree Unit).getSuperset
          ⟨0x210, 0x220⟩).isSome = true ↔
        ∃ r s, (r, s) ∈ Tree.entries (.node ⟨0x200, 0x2ff⟩ .Free .nil .nil 1 0x2ff : Tree Unit) ∧
          r.contain ⟨0x210, 0x220⟩ = true) :=
  have ht : (⟨.node ⟨0x200, 0x2ff⟩ .Free .nil .nil 1 0x2ff⟩ : IntervalTree Unit).Reachable :=
    ⟨[.insert ⟨0x200, 0x2ff⟩ none], by decide, rfl⟩
  ⟨ht, (getSuperset_exact ht ⟨0x210, 0x220⟩).1⟩

/-- A reachable tree with one free node `[0x200, 0x2ff]`: `get_superset` finds the node for the
point `0x210`, and `get_by_id(0x210)` is `None`. -/
theorem getById_free_node :
    (⟨.node ⟨0x200, 0x2ff⟩ .Free .nil .nil 1 0x2ff⟩ : IntervalTree Unit).Reachable ∧
      (⟨.node ⟨0x200, 0x2ff⟩ .Free .nil .nil 1 0x2ff⟩ : IntervalTree Unit).getSuperset
        (Range.newPoint 0x210) = some (⟨0x200, 0x2ff⟩, .Free) ∧
      (⟨.node ⟨0x200, 0x2ff⟩ .Free .nil .nil 1 0x2ff⟩ : IntervalTree Unit).getById 0x210 = none :=
  ⟨⟨[.insert ⟨0x200, 0x2ff⟩ none], by decide, rfl⟩, by decide, by decide⟩

theorem insert_eq_error_iff {t : IntervalTree T} (hwf : t.WellFormed) {k : Range} (hk : k.Valid)
    (d : Option T) :
    (∃ e, t.insert k d = .error e) ↔ ∃ x ∈ Tree.keys t.root, x.intersect k = true := by
  have hspec := Tree.insert_spec hk d hwf
  unfold IntervalTree.insert
  constructor
  · rintro ⟨e, he⟩
    rcases hr : t.root.insert k d with e' | root'
    · rw [hr] at hspec
      exact hspec.2
    · rw [hr] at he
      cases he
  · rintro ⟨x, hx, hi⟩
    obtain ⟨e, he⟩ := Tree.insert_error_of_intersect d hk hwf hx hi
    exact ⟨e, by rw [he]; rfl⟩

/-- After an insert that does not panic, `get` finds the new entry, and every other key as
before. -/
theorem get_insert {t t' : IntervalTree T} (hwf : t.WellFormed) {k : Range} (hk : k.Valid)
    {d : Option T} (h : t.insert k d = .ok t') :
    t'.get k = some (Tree.newValue d) ∧ ∀ k', k' ≠ k → t'.get k' = t.get k' := by
  have hspec := Tree.insert_spec hk d hwf
  unfold IntervalTree.insert at h
  rcases hr : t.root.insert k d with e | root'
  · rw [hr] at h
    cases h
  rw [hr] at h hspec
  obtain rfl : t' = ⟨root'⟩ := (Except.ok.inj h).symm
  have hwf' := hspec.wellFormed
  refine ⟨(Tree.search_eq_some_iff hwf').mpr ((hspec.mem_entries _).mpr (.inl rfl)),
    fun k' hne => Option.ext fun s => ?_⟩
  rw [get_eq_some_iff hwf, get_eq_some_iff hwf', hspec.mem_entries]
  constructor
  · rintro (heq | hmem)
    · exact absurd (Prod.mk.inj heq).1 hne
    · exact hmem
  · exact .inr

/-- `insert` checks the new key only against the keys on its search path, and panics exactly
when the key equals or meets a key of the tree; otherwise it adds the one entry. -/
theorem insert_panics_iff_intersects {t : IntervalTree T} (ht : t.Reachable) {k : Range}
    (hk : k.Valid) (d : Option T) :
    ((∃ e, t.insert k d = .error e) ↔ ∃ x ∈ Tree.keys t.root, x = k ∨ x.intersect k = true) ∧
      ∀ t', t.insert k d = .ok t' →
        t'.get k = some (Tree.newValue d) ∧ ∀ k', k' ≠ k → t'.get k' = t.get k' := by
  have hwf := ht.wellFormed
  refine ⟨?_, fun t' h => get_insert hwf hk h⟩
  rw [insert_eq_error_iff hwf hk d]
  constructor
  · rintro ⟨x, hx, hi⟩
    exact ⟨x, hx, .inr hi⟩
  · rintro ⟨x, hx, rfl | hi⟩
    · exact ⟨x, hx, Range.intersect_self hk⟩
    · exact ⟨x, hx, hi⟩

theorem insert_panics_iff_intersects_leaf :
    (⟨.node ⟨0, 5⟩ .Free .nil .nil 1 5⟩ : IntervalTree Unit).Reachable ∧ Range.Valid ⟨3, 9⟩ ∧
      ((∃ e, (⟨.node ⟨0, 5⟩ .Free .nil .nil 1 5⟩ : IntervalTree Unit).insert ⟨3, 9⟩ none =
          .error e) ↔
        ∃ x ∈ Tree.keys (.node ⟨0, 5⟩ .Free .nil .nil 1 5 : Tree Unit),
          x = ⟨3, 9⟩ ∨ x.intersect ⟨3, 9⟩ = true) :=
  have ht : (⟨.node ⟨0, 5⟩ .Free .nil .nil 1 5⟩ : IntervalTree Unit).Reachable :=
    ⟨[.insert ⟨0, 5⟩ none], by decide, rfl⟩
  have hk : Range.Valid ⟨3, 9⟩ := by decide
  ⟨ht, hk, (insert_panics_iff_intersects ht hk none).1⟩

end IntervalTree

end KataContainers.Allocator

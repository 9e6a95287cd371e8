import KataContainers.Allocator.IntervalTree
import KataContainers.Lib.ExceptSpec

/-!
# The representation invariant of the interval tree

In order, the keys of a well-formed tree are valid ranges, each ending before the next one
starts; every node's cache holds its height and the largest range end below it; and the heights
of a node's children differ by at most one. `updated_node` rebuilds a balanced node from
balanced children whose heights differ by at most two, and from this one fact `insert`, `delete`
and `update` keep the invariant, and never reach the panics of the rotations.
-/

namespace KataContainers.Allocator

open ExceptSpec

namespace Range

/-- A range as `Range::new` builds it, the full range apart. -/
def Valid (r : Range) : Prop := r.min ≤ r.max

/-- `a` ends before `b` starts. -/
def Before (a b : Range) : Prop := a.max < b.min

instance (r : Range) : Decidable r.Valid := inferInstanceAs (Decidable (r.min ≤ r.max))

instance (a b : Range) : Decidable (a.Before b) := inferInstanceAs (Decidable (a.max < b.min))

theorem valid_iff {r : Range} : r.Valid ↔ r.min ≤ r.max := Iff.rfl

theorem before_iff {a b : Range} : a.Before b ↔ a.max < b.min := Iff.rfl

theorem cmp_eq_lt {a b : Range} :
    a.cmp b = .lt ↔ a.min < b.min ∨ a.min = b.min ∧ a.max < b.max := by
  rw [cmp_eq]
  rcases hcmp : compare a.min b.min with _ | _ | _
  · simp [Std.compare_eq_lt.mp hcmp]
  · have hmin := Std.compare_eq_iff_eq.mp hcmp
    simp [hmin, Std.compare_eq_lt]
  · have hmin := Std.compare_eq_gt.mp hcmp
    simp only [reduceCtorEq, false_iff, not_or, not_and]
    grind

theorem cmp_eq_gt {a b : Range} :
    a.cmp b = .gt ↔ b.min < a.min ∨ a.min = b.min ∧ b.max < a.max := by
  rw [cmp_eq]
  rcases hcmp : compare a.min b.min with _ | _ | _
  · have hmin := Std.compare_eq_lt.mp hcmp
    simp only [reduceCtorEq, false_iff, not_or, not_and]
    grind
  · have hmin := Std.compare_eq_iff_eq.mp hcmp
    simp [hmin, Std.compare_eq_gt]
  · simp [Std.compare_eq_gt.mp hcmp]

theorem cmp_eq_eq {a b : Range} : a.cmp b = .eq ↔ a = b := by
  rw [cmp_eq]
  rcases hcmp : compare a.min b.min with _ | _ | _
  · have hmin := Std.compare_eq_lt.mp hcmp
    simp only [reduceCtorEq, false_iff]
    grind
  · have hmin := Std.compare_eq_iff_eq.mp hcmp
    simp [hmin, Range.ext_iff]
  · have hmin := Std.compare_eq_gt.mp hcmp
    simp only [reduceCtorEq, false_iff]
    grind

theorem intersect_eq_false {a b : Range} :
    a.intersect b = false ↔ Min.min a.max b.max < Max.max a.min b.min := by
  simp [intersect_eq]

/- The facts below are about the ends of ranges as natural numbers, where `omega` decides them. -/

theorem before_of_cmp_lt {a b : Range} (ha : a.Valid) (hb : b.Valid) (hcmp : a.cmp b = .lt)
    (hdisj : a.intersect b = false) : a.Before b := by
  rw [cmp_eq_lt] at hcmp
  rw [intersect_eq_false] at hdisj
  simp only [valid_iff, before_iff, UInt64.lt_iff_toNat_lt, UInt64.le_iff_toNat_le, UInt64.toNat_max,
    UInt64.toNat_min, ← UInt64.toNat_inj] at *
  omega

theorem before_of_cmp_gt {a b : Range} (ha : a.Valid) (hb : b.Valid) (hcmp : a.cmp b = .gt)
    (hdisj : a.intersect b = false) : b.Before a := by
  rw [cmp_eq_gt] at hcmp
  rw [intersect_eq_false] at hdisj
  simp only [valid_iff, before_iff, UInt64.lt_iff_toNat_lt, UInt64.le_iff_toNat_le, UInt64.toNat_max,
    UInt64.toNat_min, ← UInt64.toNat_inj] at *
  omega

theorem Before.trans {a b c : Range} (hab : a.Before b) (hb : b.Valid) (hbc : b.Before c) :
    a.Before c := by
  simp only [valid_iff, before_iff, UInt64.lt_iff_toNat_lt, UInt64.le_iff_toNat_le] at *
  omega

theorem Before.ne {a b : Range} (hab : a.Before b) (ha : a.Valid) : a ≠ b := by
  rintro rfl
  simp only [valid_iff, before_iff, UInt64.lt_iff_toNat_lt, UInt64.le_iff_toNat_le] at *
  omega

theorem intersect_self {a : Range} (ha : a.Valid) : a.intersect a = true := by
  simp only [intersect_eq, valid_iff, decide_eq_true_eq, UInt64.le_iff_toNat_le, UInt64.toNat_max,
    UInt64.toNat_min] at *
  omega

/-- A key before `k` is not a key `q` that `k` compares below. -/
theorem ne_of_before_of_cmp_lt {a k q : Range} (hak : a.Before k) (ha : a.Valid)
    (hcmp : k.cmp q = .lt) : a ≠ q := by
  rintro rfl
  rw [cmp_eq_lt] at hcmp
  simp only [valid_iff, before_iff, UInt64.lt_iff_toNat_lt, UInt64.le_iff_toNat_le,
    ← UInt64.toNat_inj] at *
  omega

/-- A key after `k` is not a key `q` that `k` compares above. -/
theorem ne_of_before_of_cmp_gt {k b q : Range} (hkb : k.Before b) (hk : k.Valid)
    (hcmp : k.cmp q = .gt) : b ≠ q := by
  rintro rfl
  rw [cmp_eq_gt] at hcmp
  simp only [valid_iff, before_iff, UInt64.lt_iff_toNat_lt, UInt64.le_iff_toNat_le,
    ← UInt64.toNat_inj] at *
  omega

/-- A valid range compares below the ranges it ends before. -/
theorem cmp_lt_of_before {a b : Range} (ha : a.Valid) (hab : a.Before b) : a.cmp b = .lt := by
  rw [cmp_eq_lt]
  left
  simp only [valid_iff, before_iff, UInt64.lt_iff_toNat_lt, UInt64.le_iff_toNat_le] at *
  omega

theorem intersect_eq_false_of_before {a b : Range} (ha : a.Valid) (hb : b.Valid)
    (hab : a.Before b) : a.intersect b = false := by
  rw [intersect_eq_false]
  simp only [valid_iff, before_iff, UInt64.lt_iff_toNat_lt, UInt64.le_iff_toNat_le, UInt64.toNat_max,
    UInt64.toNat_min] at *
  omega

end Range

/-- Valid ranges, each ending before the next one starts. -/
def OrderedKeys (ks : List Range) : Prop := ks.Pairwise Range.Before ∧ ∀ x ∈ ks, x.Valid

theorem orderedKeys_nil : OrderedKeys [] := ⟨.nil, fun _ h => nomatch h⟩

theorem OrderedKeys.sublist {ks ks' : List Range} (h : OrderedKeys ks) (hsub : ks'.Sublist ks) :
    OrderedKeys ks' :=
  ⟨h.1.sublist hsub, fun x hx => h.2 x (hsub.subset hx)⟩

theorem orderedKeys_append_cons {ls rs : List Range} {k : Range} :
    OrderedKeys (ls ++ k :: rs) ↔ OrderedKeys ls ∧ OrderedKeys rs ∧ k.Valid ∧
      (∀ a ∈ ls, a.Before k) ∧ ∀ b ∈ rs, k.Before b := by
  unfold OrderedKeys
  simp only [List.pairwise_append, List.pairwise_cons, List.mem_append, List.mem_cons]
  constructor
  · rintro ⟨⟨hl, ⟨hk, hr⟩, hcross⟩, hvalid⟩
    exact ⟨⟨hl, fun x hx => hvalid x (.inl hx)⟩, ⟨hr, fun x hx => hvalid x (.inr (.inr hx))⟩,
      hvalid k (.inr (.inl rfl)), fun a ha => hcross a ha k (.inl rfl), hk⟩
  · rintro ⟨⟨hl, hvl⟩, ⟨hr, hvr⟩, hvk, hlk, hkr⟩
    refine ⟨⟨hl, ⟨hkr, hr⟩, ?_⟩, ?_⟩
    · rintro a ha b (rfl | hb)
      · exact hlk a ha
      · exact (hlk a ha).trans hvk (hkr b hb)
    · rintro x (hx | rfl | hx)
      exacts [hvl x hx, hvk, hvr x hx]

namespace Tree

variable {T : Type}

/-- The entries in order, each a key with its state. -/
def entries : Tree T → List (Range × NodeState T)
  | nil => []
  | node k d l r _ _ => entries l ++ (k, d) :: entries r

def keys (t : Tree T) : List Range := (entries t).map Prod.fst

/-- The height of the tree's shape, whatever its caches hold. -/
def depth : Tree T → Nat
  | nil => 0
  | node _ _ l r _ _ => Max.max l.depth r.depth + 1

section Simp

variable {k : Range} {d : NodeState T} {l r : Tree T} {h : Nat} {m : UInt64}

@[simp] theorem entries_nil : entries (nil : Tree T) = [] := rfl

@[simp] theorem entries_node : entries (node k d l r h m) = entries l ++ (k, d) :: entries r := rfl

@[simp] theorem keys_nil : keys (nil : Tree T) = [] := rfl

theorem keys_eq (t : Tree T) : keys t = (entries t).map Prod.fst := rfl

@[simp] theorem keys_node : keys (node k d l r h m) = keys l ++ k :: keys r := by
  simp [keys_eq]

@[simp] theorem height_nil : (nil : Tree T).height = 0 := rfl

@[simp] theorem height_node : (node k d l r h m).height = h := rfl

@[simp] theorem maxKey_node : (node k d l r h m).maxKey = m := rfl

@[simp] theorem entries_withCachedInfo :
    entries (withCachedInfo k d l r) = entries l ++ (k, d) :: entries r := rfl

@[simp] theorem height_withCachedInfo :
    (withCachedInfo k d l r).height = Max.max l.height r.height + 1 := rfl

end Simp

theorem mem_keys {t : Tree T} {x : Range} : x ∈ keys t ↔ ∃ s, (x, s) ∈ entries t := by
  simp [keys_eq]

theorem mem_entries_node {k : Range} {d : NodeState T} {l r : Tree T} {h : Nat} {m : UInt64}
    {e : Range × NodeState T} :
    e ∈ entries (node k d l r h m) ↔ e ∈ entries l ∨ e = (k, d) ∨ e ∈ entries r := by
  simp

theorem not_mem_keys_node {k : Range} {d : NodeState T} {l r : Tree T} {h : Nat} {m : UInt64}
    {q : Range} : q ∉ keys (node k d l r h m) ↔ q ∉ keys l ∧ q ≠ k ∧ q ∉ keys r := by
  simp [not_or]

theorem keys_eq_append_of_entries_eq {t l r : Tree T} (h : entries t = entries l ++ entries r) :
    keys t = keys l ++ keys r := by
  simp [keys_eq, h]

/-- (c), (d) and (e) at every node: the cached height is one more than the larger of the
children's, the cached `max_key` is the largest of the children's and of the key's end, and
the children's heights differ by at most one. -/
def Balanced : Tree T → Prop
  | nil => True
  | node k _ l r h m =>
      Balanced l ∧ Balanced r ∧ h = Max.max l.height r.height + 1 ∧
        m = Max.max l.maxKey (Max.max r.maxKey k.max) ∧
        l.height ≤ r.height + 1 ∧ r.height ≤ l.height + 1

@[simp] theorem balanced_nil : Balanced (nil : Tree T) := trivial

@[simp] theorem balanced_withCachedInfo {k : Range} {d : NodeState T} {l r : Tree T} :
    Balanced (withCachedInfo k d l r) ↔
      Balanced l ∧ Balanced r ∧ l.height ≤ r.height + 1 ∧ r.height ≤ l.height + 1 := by
  simp [Balanced, withCachedInfo_eq]

/-- The representation invariant. -/
structure WellFormed (t : Tree T) : Prop where
  ordered : OrderedKeys (keys t)
  balanced : Balanced t

theorem wellFormed_node_iff {k : Range} {d : NodeState T} {l r : Tree T} {h : Nat} {m : UInt64} :
    WellFormed (node k d l r h m) ↔ WellFormed l ∧ WellFormed r ∧ k.Valid ∧
      (∀ a ∈ keys l, a.Before k) ∧ (∀ b ∈ keys r, k.Before b) ∧
      h = Max.max l.height r.height + 1 ∧ m = Max.max l.maxKey (Max.max r.maxKey k.max) ∧
      l.height ≤ r.height + 1 ∧ r.height ≤ l.height + 1 := by
  constructor
  · rintro ⟨hord, hbl, hbr, hh, hm, hb₁, hb₂⟩
    rw [keys_node, orderedKeys_append_cons] at hord
    obtain ⟨hol, hor, hk, hlk, hkr⟩ := hord
    exact ⟨⟨hol, hbl⟩, ⟨hor, hbr⟩, hk, hlk, hkr, hh, hm, hb₁, hb₂⟩
  · rintro ⟨⟨hol, hbl⟩, ⟨hor, hbr⟩, hk, hlk, hkr, hh, hm, hb₁, hb₂⟩
    refine ⟨?_, hbl, hbr, hh, hm, hb₁, hb₂⟩
    rw [keys_node, orderedKeys_append_cons]
    exact ⟨hol, hor, hk, hlk, hkr⟩

theorem wellFormed_nil : WellFormed (nil : Tree T) := ⟨orderedKeys_nil, trivial⟩

/-- (a) and (b): in order, each key compares below the next and does not intersect it. -/
theorem WellFormed.pairwise_cmp {t : Tree T} (hwf : WellFormed t) :
    (keys t).Pairwise fun a b => a.cmp b = .lt ∧ a.intersect b = false :=
  hwf.ordered.1.imp_of_mem fun ha hb hab =>
    ⟨Range.cmp_lt_of_before (hwf.ordered.2 _ ha) hab,
      Range.intersect_eq_false_of_before (hwf.ordered.2 _ ha) (hwf.ordered.2 _ hb) hab⟩

/-- `Node::new` of a valid key is a well-formed leaf. -/
theorem wellFormed_newNode {q : Range} (hq : q.Valid) (data : Option T) :
    WellFormed (newNode q data) := by
  refine ⟨?_, trivial, trivial, rfl, ?_, by simp, by simp⟩
  · show OrderedKeys (keys (node q _ nil nil 1 q.max))
    rw [keys_node]
    exact orderedKeys_append_cons.mpr ⟨orderedKeys_nil, orderedKeys_nil, hq, by simp, by simp⟩
  · simp only [maxKey, ← UInt64.toNat_inj, UInt64.toNat_max, UInt64.toNat_zero]
    omega

/-- The caches of a balanced tree are the height of its shape and the largest end of its keys. -/
theorem Balanced.height_eq : ∀ {t : Tree T}, Balanced t → t.height = t.depth
  | nil, _ => rfl
  | node _ _ l r _ _, ⟨hl, hr, hh, _⟩ => by
    rw [height_node, hh, hl.height_eq, hr.height_eq, depth]

/-- The largest end of a list of keys, `0` for none. -/
def keysMax (ks : List Range) : UInt64 := ks.foldr (fun x m => Max.max x.max m) 0

theorem keysMax_append_cons (ls rs : List Range) (k : Range) :
    keysMax (ls ++ k :: rs) = Max.max (keysMax ls) (Max.max (keysMax rs) k.max) := by
  induction ls with
  | nil =>
    simp only [keysMax, List.nil_append, List.foldr_cons, List.foldr_nil]
    simp only [← UInt64.toNat_inj, UInt64.toNat_max, UInt64.toNat_zero]
    omega
  | cons a ls ih =>
    simp only [keysMax, List.cons_append, List.foldr_cons] at ih ⊢
    rw [ih]
    simp only [← UInt64.toNat_inj, UInt64.toNat_max]
    omega

theorem Balanced.maxKey_eq : ∀ {t : Tree T}, Balanced t → t.maxKey = keysMax (keys t)
  | nil, _ => rfl
  | node k _ l r _ _, ⟨hl, hr, _, hm, _⟩ => by
    rw [maxKey_node, hm, hl.maxKey_eq, hr.maxKey_eq, keys_node, keysMax_append_cons]

/-! ### Rebalancing -/

section Rebalance

variable {k : Range} {d : NodeState T}

/-- What `updated_node` makes of the children `l` and `r` around the entry `(k, d)`: a balanced
tree of the same entries in the same order, as high as the higher child or one more, and one
more when the children were balanced already. -/
structure Rebalanced (k : Range) (d : NodeState T) (l r t : Tree T) : Prop where
  balanced : Balanced t
  entries_eq : entries t = entries l ++ (k, d) :: entries r
  height_ge : Max.max l.height r.height ≤ t.height
  height_le : t.height ≤ Max.max l.height r.height + 1
  height_eq : l.height ≤ r.height + 1 → r.height ≤ l.height + 1 →
    t.height = Max.max l.height r.height + 1

theorem rotateLeftSuccessor_double {lk lrk : Range} {ld lrd : NodeState T}
    {ll lrl lrr r : Tree T} {lh lrh : Nat} {lm lrm : UInt64} (hlean : ll.height < lrh) :
    rotateLeftSuccessor (withCachedInfo k d (node lk ld ll (node lrk lrd lrl lrr lrh lrm) lh lm) r) =
      .ok (withCachedInfo lrk lrd (withCachedInfo lk ld ll lrl) (withCachedInfo k d lrr r)) := by
  simp only [withCachedInfo_eq, rotateLeftSuccessor]
  rw [if_pos (show ll.height < (node lrk lrd lrl lrr lrh lrm).height from hlean)]
  rfl

theorem rotateLeftSuccessor_single {lk : Range} {ld : NodeState T} {ll lr r : Tree T} {lh : Nat}
    {lm : UInt64} (hlean : ¬ll.height < lr.height) :
    rotateLeftSuccessor (withCachedInfo k d (node lk ld ll lr lh lm) r) =
      .ok (withCachedInfo lk ld ll (withCachedInfo k d lr r)) := by
  simp only [withCachedInfo_eq, rotateLeftSuccessor]
  rw [if_neg hlean]
  rfl

theorem rotateRightSuccessor_double {rk rlk : Range} {rd rld : NodeState T}
    {l rll rlr rr : Tree T} {rh rlh : Nat} {rm rlm : UInt64} (hlean : rr.height < rlh) :
    rotateRightSuccessor (withCachedInfo k d l (node rk rd (node rlk rld rll rlr rlh rlm) rr rh rm)) =
      .ok (withCachedInfo rlk rld (withCachedInfo k d l rll) (withCachedInfo rk rd rlr rr)) := by
  simp only [withCachedInfo_eq, rotateRightSuccessor]
  rw [if_pos (show (node rlk rld rll rlr rlh rlm).height > rr.height from hlean)]
  rfl

theorem rotateRightSuccessor_single {rk : Range} {rd : NodeState T} {l rl rr : Tree T} {rh : Nat}
    {rm : UInt64} (hlean : ¬rl.height > rr.height) :
    rotateRightSuccessor (withCachedInfo k d l (node rk rd rl rr rh rm)) =
      .ok (withCachedInfo rk rd (withCachedInfo k d l rl) rr) := by
  simp only [withCachedInfo_eq, rotateRightSuccessor]
  rw [if_neg hlean]
  rfl

/-- A node whose children are balanced needs no rotation. -/
theorem rebalanced_withCachedInfo {l r : Tree T} (hl : Balanced l) (hr : Balanced r)
    (hlr : l.height ≤ r.height + 1) (hrl : r.height ≤ l.height + 1) :
    Rebalanced k d l r (withCachedInfo k d l r) where
  balanced := balanced_withCachedInfo.mpr ⟨hl, hr, hlr, hrl⟩
  entries_eq := rfl
  height_ge := by simp
  height_le := by simp
  height_eq _ _ := rfl

/-- The left child two levels higher than the right one: `rotate_left_successor` rotates right,
after rotating the left child left when that child leans right. -/
theorem rotateLeftSuccessor_spec {l r : Tree T} (hl : Balanced l) (hr : Balanced r)
    (hdiff : l.height = r.height + 2) :
    Holds (fun _ => False) (Rebalanced k d l r) (rotateLeftSuccessor (withCachedInfo k d l r)) := by
  cases l with
  | nil => simp at hdiff
  | node lk ld ll lr lh lm =>
    obtain ⟨hll, hlr, rfl, -, hb₁, hb₂⟩ := hl
    simp only [height_node] at hdiff
    by_cases hlean : ll.height < lr.height
    · -- the left child leans right, so its right child becomes the root
      cases lr with
      | nil => simp at hlean
      | node lrk lrd lrl lrr lrh lrm =>
        obtain ⟨hlrl, hlrr, rfl, -, hc₁, hc₂⟩ := hlr
        simp only [height_node] at hlean hdiff hb₁ hb₂
        rw [rotateLeftSuccessor_double hlean, holds_ok]
        refine ⟨?_, by simp, ?_, ?_, fun _ _ => ?_⟩
        · simp only [balanced_withCachedInfo, height_withCachedInfo]
          exact ⟨⟨hll, hlrl, by omega, by omega⟩, ⟨hlrr, hr, by omega, by omega⟩, by omega, by omega⟩
        all_goals simp only [height_withCachedInfo, height_node] at *; omega
    · rw [rotateLeftSuccessor_single hlean, holds_ok]
      refine ⟨?_, by simp, ?_, ?_, fun _ _ => ?_⟩
      · simp only [balanced_withCachedInfo, height_withCachedInfo]
        exact ⟨hll, ⟨hlr, hr, by omega, by omega⟩, by omega, by omega⟩
      all_goals simp only [height_withCachedInfo, height_node] at *; omega

/-- The right child two levels higher than the left one: the mirror image. -/
theorem rotateRightSuccessor_spec {l r : Tree T} (hl : Balanced l) (hr : Balanced r)
    (hdiff : r.height = l.height + 2) :
    Holds (fun _ => False) (Rebalanced k d l r) (rotateRightSuccessor (withCachedInfo k d l r)) := by
  cases r with
  | nil => simp at hdiff
  | node rk rd rl rr rh rm =>
    obtain ⟨hrl, hrr, rfl, -, hb₁, hb₂⟩ := hr
    simp only [height_node] at hdiff
    by_cases hlean : rl.height > rr.height
    · -- the right child leans left, so its left child becomes the root
      cases rl with
      | nil => simp at hlean
      | node rlk rld rll rlr rlh rlm =>
        obtain ⟨hrll, hrlr, rfl, -, hc₁, hc₂⟩ := hrl
        simp only [height_node] at hlean hdiff hb₁ hb₂
        rw [rotateRightSuccessor_double hlean, holds_ok]
        refine ⟨?_, by simp, ?_, ?_, fun _ _ => ?_⟩
        · simp only [balanced_withCachedInfo, height_withCachedInfo]
          exact ⟨⟨hl, hrll, by omega, by omega⟩, ⟨hrlr, hrr, by omega, by omega⟩, by omega, by omega⟩
        all_goals simp only [height_withCachedInfo, height_node] at *; omega
    · rw [rotateRightSuccessor_single hlean, holds_ok]
      refine ⟨?_, by simp, ?_, ?_, fun _ _ => ?_⟩
      · simp only [balanced_withCachedInfo, height_withCachedInfo]
        exact ⟨⟨hl, hrl, by omega, by omega⟩, hrr, by omega, by omega⟩
      all_goals simp only [height_withCachedInfo, height_node] at *; omega

theorem rotate_withCachedInfo {l r : Tree T} :
    rotate (withCachedInfo k d l r) =
      if -1 ≤ (l.height : Int) - r.height ∧ (l.height : Int) - r.height ≤ 1 then
        .ok (withCachedInfo k d l r)
      else if (l.height : Int) - r.height = 2 then rotateLeftSuccessor (withCachedInfo k d l r)
      else if (l.height : Int) - r.height = -2 then rotateRightSuccessor (withCachedInfo k d l r)
      else .error .unreachable := rfl

/-- `updated_node` on balanced children whose heights differ by at most two: the rotations
succeed, and `unreachable!()` is not reached. -/
theorem updatedNode_spec {l r : Tree T} {h : Nat} {m : UInt64} (hl : Balanced l)
    (hr : Balanced r) (hlr : l.height ≤ r.height + 2) (hrl : r.height ≤ l.height + 2) :
    Holds (fun _ => False) (Rebalanced k d l r) (updatedNode (node k d l r h m)) := by
  -- the stale cache of the node is recomputed before the rotation
  show Holds _ _ (rotate (withCachedInfo k d l r))
  rw [rotate_withCachedInfo]
  split_ifs with hbal h2 hm2
  · exact rebalanced_withCachedInfo hl hr (by omega) (by omega)
  · exact rotateLeftSuccessor_spec hl hr (by omega)
  · exact rotateRightSuccessor_spec hl hr (by omega)
  · exfalso
    omega

namespace Rebalanced

variable {l r l' r' t : Tree T}

/-- Under a balanced node, the children grew by at most one level: the rebuilt node is as high
as the node or one level higher. -/
theorem height_grow (ht : Rebalanced k d l' r' t)
    (hbal : l.height ≤ r.height + 1 ∧ r.height ≤ l.height + 1)
    (hl : l.height ≤ l'.height ∧ l'.height ≤ l.height + 1)
    (hr : r.height ≤ r'.height ∧ r'.height ≤ r.height + 1) :
    Max.max l.height r.height + 1 ≤ t.height ∧ t.height ≤ Max.max l.height r.height + 2 := by
  have hge := ht.height_ge
  have hle := ht.height_le
  by_cases hbal' : l'.height ≤ r'.height + 1 ∧ r'.height ≤ l'.height + 1
  · have heq := ht.height_eq hbal'.1 hbal'.2
    omega
  · omega

/-- Under a balanced node, the children shrank by at most one level: the rebuilt node is as high
as the node or one level lower. -/
theorem height_shrink (ht : Rebalanced k d l' r' t)
    (hbal : l.height ≤ r.height + 1 ∧ r.height ≤ l.height + 1)
    (hl : l'.height ≤ l.height ∧ l.height ≤ l'.height + 1)
    (hr : r'.height ≤ r.height ∧ r.height ≤ r'.height + 1) :
    Max.max l.height r.height ≤ t.height ∧ t.height ≤ Max.max l.height r.height + 1 := by
  have hge := ht.height_ge
  have hle := ht.height_le
  by_cases hbal' : l'.height ≤ r'.height + 1 ∧ r'.height ≤ l'.height + 1
  · have heq := ht.height_eq hbal'.1 hbal'.2
    omega
  · omega

end Rebalanced

end Rebalance

/-! ### Insertion -/

section Insert

variable {q : Range} {s : NodeState T}

/-- `insert q` panics only on a key of the tree that equals or intersects `q`. -/
def InsertPanic (q : Range) (t : Tree T) (e : Panic) : Prop :=
  (e = .keyExists ∨ e = .keysIntersect) ∧ ∃ x ∈ keys t, x.intersect q = true

theorem InsertPanic.mono {t t' : Tree T} {e : Panic} (he : InsertPanic q t e)
    (hsub : ∀ x ∈ keys t, x ∈ keys t') : InsertPanic q t' e :=
  let ⟨x, hx, hi⟩ := he.2
  ⟨he.1, x, hsub x hx, hi⟩

/-- What `insert q` with state `s` makes of a well-formed tree `t`: a well-formed tree with the
entry `(q, s)` added, as high as `t` or one level higher. -/
structure Inserted (q : Range) (s : NodeState T) (t t' : Tree T) : Prop where
  wellFormed : WellFormed t'
  mem_entries : ∀ e, e ∈ entries t' ↔ e = (q, s) ∨ e ∈ entries t
  height_ge : t.height ≤ t'.height
  height_le : t'.height ≤ t.height + 1

theorem Inserted.mem_keys {t t' : Tree T} (h : Inserted q s t t') {x : Range} :
    x ∈ keys t' ↔ x = q ∨ x ∈ keys t := by
  simp only [Tree.mem_keys, h.mem_entries, Prod.mk.injEq, exists_or, exists_and_left,
    exists_eq, and_true]

theorem Rebalanced.keys_eq {k : Range} {d : NodeState T} {l r t : Tree T}
    (ht : Rebalanced k d l r t) : keys t = keys l ++ k :: keys r := by
  simp [Tree.keys_eq, ht.entries_eq]

theorem insert_spec (hq : q.Valid) (data : Option T) :
    ∀ {t : Tree T}, WellFormed t →
      Holds (InsertPanic q t) (Inserted q (newValue data) t) (insert q data t)
  | nil, _ => by
    refine ⟨wellFormed_newNode hq data, ?_, by simp, by simp [newNode]⟩
    intro e
    simp [newNode]
  | node k d l r h m, hwf => by
    obtain ⟨hwl, hwr, hk, hlk, hkr, hh, -, hb₁, hb₂⟩ := wellFormed_node_iff.mp hwf
    have hmem : k ∈ keys (node k d l r h m) := by simp
    rcases hcmp : k.cmp q with _ | _ | _
    · -- the key goes right, past `k`
      by_cases hdisj : k.intersect q = true
      · simp only [insert, hcmp, hdisj, if_true, holds_error]
        exact ⟨.inr rfl, k, hmem, hdisj⟩
      have hkq : k.Before q := Range.before_of_cmp_lt hk hq hcmp (by simpa using hdisj)
      simp only [insert, hcmp, hdisj]
      refine ((insert_spec hq data hwr).mono (fun e he => he.mono (by simp_all)) fun _ h => h).bind
        fun r' hins => ?_
      have hr' := And.intro hins.height_ge hins.height_le
      refine (updatedNode_spec hwl.balanced hins.wellFormed.balanced (by omega)
        (by omega)).mono (fun _ h => h.elim) fun t' ht' => ?_
      have hgrow := ht'.height_grow ⟨hb₁, hb₂⟩ ⟨Nat.le_refl _, by omega⟩ hr'
      refine ⟨⟨?_, ht'.balanced⟩, fun e => ?_, by simp only [height_node]; omega,
        by simp only [height_node]; omega⟩
      · rw [ht'.keys_eq, orderedKeys_append_cons]
        refine ⟨hwl.ordered, hins.wellFormed.ordered, hk, hlk, fun b hb => ?_⟩
        rcases hins.mem_keys.mp hb with rfl | hb
        exacts [hkq, hkr b hb]
      · rw [ht'.entries_eq, entries_node]
        simp only [List.mem_append, List.mem_cons, hins.mem_entries]
        tauto
    · -- `Node::insert` panics on an equal key
      simp only [insert, hcmp, holds_error]
      obtain rfl := Range.cmp_eq_eq.mp hcmp
      exact ⟨.inl rfl, k, hmem, Range.intersect_self hk⟩
    · -- the key goes left, before `k`
      by_cases hdisj : k.intersect q = true
      · simp only [insert, hcmp, hdisj, if_true, holds_error]
        exact ⟨.inr rfl, k, hmem, hdisj⟩
      have hqk : q.Before k := Range.before_of_cmp_gt hk hq hcmp (by simpa using hdisj)
      simp only [insert, hcmp, hdisj]
      refine ((insert_spec hq data hwl).mono (fun e he => he.mono (by simp_all)) fun _ h => h).bind
        fun l' hins => ?_
      have hl' := And.intro hins.height_ge hins.height_le
      refine (updatedNode_spec hins.wellFormed.balanced hwr.balanced (by omega)
        (by omega)).mono (fun _ h => h.elim) fun t' ht' => ?_
      have hgrow := ht'.height_grow ⟨hb₁, hb₂⟩ hl' ⟨Nat.le_refl _, by omega⟩
      refine ⟨⟨?_, ht'.balanced⟩, fun e => ?_, by simp only [height_node]; omega,
        by simp only [height_node]; omega⟩
      · rw [ht'.keys_eq, orderedKeys_append_cons]
        refine ⟨hins.wellFormed.ordered, hwr.ordered, hk, fun a ha => ?_, hkr⟩
        rcases hins.mem_keys.mp ha with rfl | ha
        exacts [hqk, hlk a ha]
      · rw [ht'.entries_eq, entries_node]
        simp only [List.mem_append, List.mem_cons, hins.mem_entries]
        tauto

end Insert

/-! ### Deletion -/

section Delete

variable {q : Range}

/-- What `delete_root` makes of the children `l` and `r`: a balanced tree of their entries, as
high as the higher child or one level higher. -/
structure Joined (l r t : Tree T) : Prop where
  balanced : Balanced t
  entries_eq : entries t = entries l ++ entries r
  height_ge : Max.max l.height r.height ≤ t.height
  height_le : t.height ≤ Max.max l.height r.height + 1

/-- `get_new_root`: the first entry of a balanced node, in a node without children, and the
balanced rest, as high as the node or one level lower. -/
theorem getNewRoot_spec : ∀ {l : Tree T} {k : Range} {d : NodeState T} {r : Tree T} {h : Nat}
    {m : UInt64}, Balanced (node k d l r h m) →
    Holds (fun _ => False)
      (fun (minNode, rest) => ∃ k₀ d₀ h₀ m₀, minNode = node k₀ d₀ nil nil h₀ m₀ ∧
        entries (node k d l r h m) = (k₀, d₀) :: entries rest ∧ Balanced rest ∧
        rest.height ≤ h ∧ h ≤ rest.height + 1)
      (getNewRoot (node k d l r h m))
  | nil, k, d, r, h, m, ⟨_, hbr, hh, _⟩ => by
    simp only [height_nil] at hh
    exact ⟨k, d, h, m, rfl, by simp, hbr, by omega, by omega⟩
  | node lk ld ll lr lh lm, k, d, r, h, m, ⟨hbl, hbr, hh, _, hb₁, hb₂⟩ => by
    -- the first entry is in the left child, which shrinks by at most one level
    simp only [height_node] at hh hb₁ hb₂
    simp only [getNewRoot]
    refine (getNewRoot_spec hbl).bind ?_
    rintro ⟨minNode, l'⟩ ⟨k₀, d₀, h₀, m₀, hmin, hent, hbl', hh₁, hh₂⟩
    refine (updatedNode_spec hbl' hbr (by omega) (by omega)).bind fun t ht => ?_
    have hshrink := ht.height_shrink (l := node lk ld ll lr lh lm) ⟨hb₁, hb₂⟩ ⟨hh₁, hh₂⟩
      ⟨Nat.le_refl _, Nat.le_succ _⟩
    simp only [height_node] at hshrink
    refine ⟨k₀, d₀, h₀, m₀, hmin, ?_, ht.balanced, (by omega : t.height ≤ h),
      (by omega : h ≤ t.height + 1)⟩
    rw [entries_node, hent, ht.entries_eq]
    rfl


/-- `combine_subtrees`: the first entry of `r` becomes the root over `l` and the rest of `r`. -/
theorem combineSubtrees_spec {l r : Tree T} (hl : Balanced l) (hr : Balanced r)
    (hrn : r.isNode = true) (hbal : l.height ≤ r.height + 1 ∧ r.height ≤ l.height + 1) :
    Holds (fun _ => False) (Joined l r) (combineSubtrees l r) := by
  cases r with
  | nil => simp [isNode] at hrn
  | node rk rd rl rr rh rm =>
    simp only [height_node] at hbal
    unfold combineSubtrees
    refine (getNewRoot_spec hr).bind ?_
    rintro ⟨minNode, rest⟩ ⟨k₀, d₀, h₀, m₀, hmin, hent, hbrest, hh₁, hh₂⟩
    dsimp only at hmin hent hbrest hh₁ hh₂ ⊢
    subst hmin
    refine (updatedNode_spec hl hbrest (by omega) (by omega)).mono (fun _ h => h.elim)
      fun t ht => ?_
    have hshrink := ht.height_shrink (r := node rk rd rl rr rh rm) hbal ⟨Nat.le_refl _, Nat.le_succ _⟩
      ⟨hh₁, hh₂⟩
    simp only [height_node] at hshrink
    refine ⟨ht.balanced, ?_, by simp only [height_node]; omega, by simp only [height_node]; omega⟩
    rw [ht.entries_eq, hent]

theorem deleteRoot_spec {l r : Tree T} (hl : Balanced l) (hr : Balanced r)
    (hbal : l.height ≤ r.height + 1 ∧ r.height ≤ l.height + 1) :
    Holds (fun _ => False) (Joined l r) (deleteRoot l r) := by
  cases l with
  | nil =>
    cases r with
    | nil => exact ⟨trivial, rfl, by simp, by simp⟩
    | node _ _ _ _ _ _ => exact ⟨hr, by simp, by simp, by simp⟩
  | node _ _ _ _ _ _ =>
    cases r with
    | nil => exact ⟨hl, by simp, by simp, by simp⟩
    | node _ _ _ _ _ _ => exact combineSubtrees_spec hl hr rfl hbal

/-- What `delete q` makes of a well-formed tree `t`: the value of `q`'s node, if there is one,
and a well-formed tree without `q`'s entry, as high as `t` or one level lower. -/
structure Deleted (q : Range) (t : Tree T) (data : Option T) (t' : Tree T) : Prop where
  wellFormed : WellFormed t'
  mem_entries : ∀ e, e ∈ entries t' ↔ e ∈ entries t ∧ e.1 ≠ q
  data_eq : (∃ s, (q, s) ∈ entries t ∧ data = s.toOption) ∨ (q ∉ keys t ∧ data = none)
  height_le : t'.height ≤ t.height
  height_ge : t.height ≤ t'.height + 1

theorem Deleted.mem_keys {t t' : Tree T} {data : Option T} (h : Deleted q t data t') {x : Range}
    (hx : x ∈ keys t') : x ∈ keys t := by
  obtain ⟨s, hs⟩ := Tree.mem_keys.mp hx
  exact Tree.mem_keys.mpr ⟨s, ((h.mem_entries _).mp hs).1⟩

/-- Deleting a key that is not in the tree leaves it as it is. -/
theorem deleted_of_not_mem {t : Tree T} (hwf : WellFormed t) (hq : q ∉ keys t) :
    Deleted q t none t where
  wellFormed := hwf
  mem_entries e := ⟨fun he => ⟨he, fun heq => hq (Tree.mem_keys.mpr ⟨e.2, heq ▸ he⟩)⟩, And.left⟩
  data_eq := .inr ⟨hq, rfl⟩
  height_le := Nat.le_refl _
  height_ge := Nat.le_succ _

theorem delete_spec (q : Range) : ∀ {t : Tree T}, WellFormed t →
    Holds (fun _ => False) (fun (data, t') => Deleted q t data t') (delete q t)
  | nil, hwf => deleted_of_not_mem hwf (by simp)
  | node k d l r h m, hwf => by
    obtain ⟨hwl, hwr, hk, hlk, hkr, hh, -, hb₁, hb₂⟩ := wellFormed_node_iff.mp hwf
    have ihl := delete_spec q hwl
    have ihr := delete_spec q hwr
    -- the entries of the children that `q` cannot be
    have hnl : ∀ e ∈ entries l, e.1 ≠ k := fun e he =>
      (hlk e.1 (Tree.mem_keys.mpr ⟨e.2, he⟩)).ne (hwl.ordered.2 _ (Tree.mem_keys.mpr ⟨e.2, he⟩))
    have hnr : ∀ e ∈ entries r, e.1 ≠ k := fun e he =>
      ((hkr e.1 (Tree.mem_keys.mpr ⟨e.2, he⟩)).ne hk).symm
    rcases hcmp : k.cmp q with _ | _ | _
    · -- `q` is past `k`: it is not in the left child
      have hkq : k ≠ q := fun heq => by simp [heq, Range.cmp_eq_eq.mpr] at hcmp
      have hql : q ∉ keys l := fun hq =>
        Range.ne_of_before_of_cmp_lt (hlk q hq) (hwl.ordered.2 q hq) hcmp rfl
      cases r with
      | nil =>
        rw [delete.eq_def]
        simp only [hcmp]
        exact deleted_of_not_mem hwf (by simp [hql, Ne.symm hkq])
      | node rk rd rl rr rh rm =>
        rw [delete.eq_def]
        simp only [hcmp]
        refine ihr.bind ?_
        rintro ⟨data, r'⟩ hdel
        have hr' := And.intro hdel.height_le hdel.height_ge
        refine (updatedNode_spec hwl.balanced hdel.wellFormed.balanced (by omega) (by omega)).bind
          fun t' ht' => ?_
        have hshrink := ht'.height_shrink ⟨hb₁, hb₂⟩ ⟨Nat.le_refl _, Nat.le_succ _⟩ hr'
        refine ⟨⟨?_, ht'.balanced⟩, fun e => ?_, ?_, (by omega : t'.height ≤ h),
          (by omega : h ≤ t'.height + 1)⟩
        · rw [ht'.keys_eq, orderedKeys_append_cons]
          exact ⟨hwl.ordered, hdel.wellFormed.ordered, hk, hlk, fun b hb => hkr b (hdel.mem_keys hb)⟩
        · rw [ht'.entries_eq, entries_node]
          simp only [List.mem_append, List.mem_cons, hdel.mem_entries]
          constructor
          · rintro (he | rfl | ⟨he, hne⟩)
            exacts [⟨.inl he, fun heq => hql (Tree.mem_keys.mpr ⟨e.2, heq ▸ he⟩)⟩,
              ⟨.inr (.inl rfl), hkq⟩, ⟨.inr (.inr he), hne⟩]
          · rintro ⟨he | rfl | he, hne⟩
            exacts [.inl he, .inr (.inl rfl), .inr (.inr ⟨he, hne⟩)]
        · rcases hdel.data_eq with ⟨s, hs, hd⟩ | ⟨hqr, hd⟩
          · exact .inl ⟨s, mem_entries_node.mpr (.inr (.inr hs)), hd⟩
          · exact .inr ⟨not_mem_keys_node.mpr ⟨hql, Ne.symm hkq, hqr⟩, hd⟩
    · -- `q` is the root: `delete_root` joins the children
      rw [delete.eq_def]
      simp only [hcmp]
      obtain rfl := Range.cmp_eq_eq.mp hcmp
      refine (deleteRoot_spec hwl.balanced hwr.balanced ⟨hb₁, hb₂⟩).bind fun t' hj => ?_
      refine ⟨⟨?_, hj.balanced⟩, fun e => ?_, .inl ⟨d, by simp, rfl⟩,
        (by have := hj.height_le; omega : t'.height ≤ h),
        (by have := hj.height_ge; omega : h ≤ t'.height + 1)⟩
      · rw [keys_eq_append_of_entries_eq hj.entries_eq]
        refine hwf.ordered.sublist ?_
        rw [keys_node]
        exact (List.sublist_cons_self k (keys r)).append_left (keys l)
      · rw [hj.entries_eq, entries_node]
        simp only [List.mem_append, List.mem_cons]
        constructor
        · rintro (he | he)
          exacts [⟨.inl he, hnl e he⟩, ⟨.inr (.inr he), hnr e he⟩]
        · rintro ⟨he | rfl | he, hne⟩
          exacts [.inl he, absurd rfl hne, .inr he]
    · -- `q` is before `k`: it is not in the right child
      have hkq : k ≠ q := fun heq => by simp [heq, Range.cmp_eq_eq.mpr] at hcmp
      have hqr : q ∉ keys r := fun hq =>
        Range.ne_of_before_of_cmp_gt (hkr q hq) hk hcmp rfl
      cases l with
      | nil =>
        rw [delete.eq_def]
        simp only [hcmp]
        exact deleted_of_not_mem hwf (by simp [hqr, Ne.symm hkq])
      | node lk ld ll lr lh lm =>
        rw [delete.eq_def]
        simp only [hcmp]
        refine ihl.bind ?_
        rintro ⟨data, l'⟩ hdel
        have hl' := And.intro hdel.height_le hdel.height_ge
        refine (updatedNode_spec hdel.wellFormed.balanced hwr.balanced (by omega) (by omega)).bind
          fun t' ht' => ?_
        have hshrink := ht'.height_shrink ⟨hb₁, hb₂⟩ hl' ⟨Nat.le_refl _, Nat.le_succ _⟩
        refine ⟨⟨?_, ht'.balanced⟩, fun e => ?_, ?_, (by omega : t'.height ≤ h),
          (by omega : h ≤ t'.height + 1)⟩
        · rw [ht'.keys_eq, orderedKeys_append_cons]
          exact ⟨hdel.wellFormed.ordered, hwr.ordered, hk, fun a ha => hlk a (hdel.mem_keys ha), hkr⟩
        · rw [ht'.entries_eq, entries_node]
          simp only [List.mem_append, List.mem_cons, hdel.mem_entries]
          constructor
          · rintro (⟨he, hne⟩ | rfl | he)
            exacts [⟨.inl he, hne⟩, ⟨.inr (.inl rfl), hkq⟩,
              ⟨.inr (.inr he), fun heq => hqr (Tree.mem_keys.mpr ⟨e.2, heq ▸ he⟩)⟩]
          · rintro ⟨he | rfl | he, hne⟩
            exacts [.inl ⟨he, hne⟩, .inr (.inl rfl), .inr (.inr he)]
        · rcases hdel.data_eq with ⟨s, hs, hd⟩ | ⟨hql, hd⟩
          · exact .inl ⟨s, mem_entries_node.mpr (.inl hs), hd⟩
          · exact .inr ⟨not_mem_keys_node.mpr ⟨hql, Ne.symm hkq, hqr⟩, hd⟩

end Delete

/-! ### Updates and lookups -/

section Update

/-- `update` changes states only: the tree keeps its keys, heights and caches. -/
structure SameShape (t t' : Tree T) : Prop where
  keys_eq : keys t' = keys t
  height_eq : t'.height = t.height
  maxKey_eq : t'.maxKey = t.maxKey
  balanced : Balanced t → Balanced t'

theorem SameShape.wellFormed {t t' : Tree T} (h : SameShape t t') (hwf : WellFormed t) :
    WellFormed t' :=
  ⟨h.keys_eq ▸ hwf.ordered, h.balanced hwf.balanced⟩

/-- A node whose child keeps its shape keeps its own. -/
theorem sameShape_node {k : Range} {d : NodeState T} {l r l' r' : Tree T} {h : Nat} {m : UInt64}
    (hl : SameShape l l') (hr : SameShape r r') :
    SameShape (node k d l r h m) (node k d l' r' h m) where
  keys_eq := by simp [hl.keys_eq, hr.keys_eq]
  height_eq := rfl
  maxKey_eq := rfl
  balanced := fun ⟨hbl, hbr, hh, hm, hb₁, hb₂⟩ =>
    ⟨hl.balanced hbl, hr.balanced hbr, by rw [hl.height_eq, hr.height_eq]; exact hh,
      by rw [hl.maxKey_eq, hr.maxKey_eq]; exact hm, by rw [hl.height_eq, hr.height_eq]; exact hb₁,
      by rw [hl.height_eq, hr.height_eq]; exact hb₂⟩

theorem sameShape_refl (t : Tree T) : SameShape t t := ⟨rfl, rfl, rfl, id⟩

/-- `Node::update` panics only on a transition it refuses, and otherwise keeps the shape. -/
theorem update_spec (q : Range) (s : NodeState T) : ∀ t : Tree T,
    Holds (· = .updateUnallocated) (fun (t', _) => SameShape t t') (update q s t)
  | nil => sameShape_refl nil
  | node k d l r h m => by
    rw [update.eq_def]
    rcases hcmp : k.cmp q with _ | _ | _
    · simp only [hcmp]
      refine (update_spec q s r).bind ?_
      rintro ⟨r', old⟩ hr'
      exact sameShape_node (sameShape_refl l) hr'
    · simp only [hcmp]
      split_ifs
      · rfl
      · exact ⟨by simp, rfl, rfl, id⟩
    · simp only [hcmp]
      refine (update_spec q s l).bind ?_
      rintro ⟨l', old⟩ hl'
      exact sameShape_node hl' (sameShape_refl r)

end Update

/-- `search_superset` finds a node whose key contains the range. -/
theorem searchSuperset_spec {key : Range} : ∀ {t : Tree T} {x : Range} {v : NodeState T},
    searchSuperset key t = some (x, v) → x.contain key = true ∧ (x, v) ∈ entries t
  | nil, _, _, hs => nomatch hs
  | node k d l r _ _, x, v, hs => by
    simp only [searchSuperset] at hs
    split_ifs at hs with hk hl hr
    · cases hs
      exact ⟨hk, by simp⟩
    · obtain ⟨hc, hmem⟩ := searchSuperset_spec hs
      exact ⟨hc, mem_entries_node.mpr (.inl hmem)⟩
    · obtain ⟨hc, hmem⟩ := searchSuperset_spec hs
      exact ⟨hc, mem_entries_node.mpr (.inr (.inr hmem))⟩

end Tree

end KataContainers.Allocator

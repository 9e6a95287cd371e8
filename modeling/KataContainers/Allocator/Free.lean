import KataContainers.Allocator.Allocate

/-!
# What `free` frees

`free` deletes the key, finds the free entries right before and after it by `get_superset` of
the points next to it, deletes them by ranges rebuilt from the key and the ends it merged, and
inserts the merged range free. In a well-formed tree the rebuilt ranges are the keys of those
entries and the merged range meets no other key, so `free` of a key of the tree does not panic:
it makes the points of the key free and keeps every entry that is not free. After `allocate` it
gives back the free points, the allocated keys and the valued entries of the tree before.
-/

namespace KataContainers.Allocator

open ExceptSpec

namespace Tree

variable {T : Type}

/-- The start of the range that `free` merges on the left of `key`: that of the free entry
ending right before `key`, or `key.min` when there is none. -/
def MergeLeft (es : List (Range × NodeState T)) (key : Range) (lo : UInt64) : Prop :=
  (∃ y, (y, .Free) ∈ es ∧ y.max.toNat + 1 = key.min.toNat ∧ lo = y.min) ∨
    (lo = key.min ∧ ∀ y, (y, .Free) ∈ es → y.max.toNat + 1 ≠ key.min.toNat)

/-- The end of the range that `free` merges on the right of `key`: that of the free entry
starting right after `key`, or `key.max` when there is none. -/
def MergeRight (es : List (Range × NodeState T)) (key : Range) (hi : UInt64) : Prop :=
  (∃ w, (w, .Free) ∈ es ∧ w.min.toNat = key.max.toNat + 1 ∧ hi = w.max) ∨
    (hi = key.max ∧ ∀ w, (w, .Free) ∈ es → w.min.toNat ≠ key.max.toNat + 1)

variable {es es' : List (Range × NodeState T)} {key : Range} {lo hi : UInt64}

theorem MergeLeft.congr (h : MergeLeft es key lo)
    (hes : ∀ y, y.max.toNat + 1 = key.min.toNat → ((y, .Free) ∈ es ↔ (y, .Free) ∈ es')) :
    MergeLeft es' key lo := by
  rcases h with ⟨y, hy, hend, rfl⟩ | ⟨rfl, hnone⟩
  · exact Or.inl ⟨y, (hes y hend).mp hy, hend, rfl⟩
  · exact Or.inr ⟨rfl, fun y hy hend => hnone y ((hes y hend).mpr hy) hend⟩

theorem MergeRight.congr (h : MergeRight es key hi)
    (hes : ∀ w, w.min.toNat = key.max.toNat + 1 → ((w, .Free) ∈ es ↔ (w, .Free) ∈ es')) :
    MergeRight es' key hi := by
  rcases h with ⟨w, hw, hstart, rfl⟩ | ⟨rfl, hnone⟩
  · exact Or.inl ⟨w, (hes w hstart).mp hw, hstart, rfl⟩
  · exact Or.inr ⟨rfl, fun w hw hstart => hnone w ((hes w hstart).mpr hw) hstart⟩

/-- A merge to the left of the key is a merge with the free entry `[lo, key.min - 1]`. -/
theorem MergeLeft.mem_of_lt (h : MergeLeft es key lo) (hlt : lo < key.min) :
    ((⟨lo, key.min - 1⟩ : Range), NodeState.Free) ∈ es := by
  rcases h with ⟨y, hy, hend, rfl⟩ | ⟨rfl, -⟩
  · have hy' : y = ⟨y.min, key.min - 1⟩ := by
      ext
      · rfl
      · rw [UInt64.toNat_sub_of_le _ _ (UInt64.le_iff_toNat_le.mpr (by
          rw [UInt64.toNat_one]; omega)), UInt64.toNat_one]
        omega
    rw [← hy']
    exact hy
  · exact absurd hlt (UInt64.lt_irrefl _)

/-- A merge to the right of the key is a merge with the free entry `[key.max + 1, hi]`. -/
theorem MergeRight.mem_of_lt (h : MergeRight es key hi) (hlt : key.max < hi) :
    ((⟨key.max + 1, hi⟩ : Range), NodeState.Free) ∈ es := by
  rcases h with ⟨w, hw, hstart, rfl⟩ | ⟨rfl, -⟩
  · have hw' : w = ⟨key.max + 1, w.max⟩ := by
      have := UInt64.toNat_lt w.min
      ext
      · rw [UInt64.toNat_add, UInt64.toNat_one, Nat.mod_eq_of_lt (by omega)]
        omega
      · rfl
    rw [← hw']
    exact hw
  · exact absurd hlt (UInt64.lt_irrefl _)

theorem MergeLeft.le (h : MergeLeft es key lo) (hv : ∀ e ∈ es, e.1.Valid) : lo ≤ key.min := by
  rcases h with ⟨y, hy, hend, rfl⟩ | ⟨rfl, -⟩
  · have := UInt64.le_iff_toNat_le.mp (hv _ hy)
    exact UInt64.le_iff_toNat_le.mpr (by simp only at this; omega)
  · exact UInt64.le_refl _

theorem MergeRight.le (h : MergeRight es key hi) (hv : ∀ e ∈ es, e.1.Valid) : key.max ≤ hi := by
  rcases h with ⟨w, hw, hstart, rfl⟩ | ⟨rfl, -⟩
  · have := UInt64.le_iff_toNat_le.mp (hv _ hw)
    exact UInt64.le_iff_toNat_le.mpr (by simp only at this; omega)
  · exact UInt64.le_refl _

theorem WellFormed.valid {t : Tree T} (hwf : WellFormed t) {e : Range × NodeState T}
    (he : e ∈ entries t) : e.1.Valid :=
  hwf.ordered.2 e.1 (mem_keys.mpr ⟨e.2, he⟩)

/-- Two entries of a well-formed tree whose keys end at the same address are one entry. -/
theorem eq_of_max_eq {t : Tree T} (hwf : WellFormed t) {e e' : Range × NodeState T}
    (he : e ∈ entries t) (he' : e' ∈ entries t) (h : e.1.max.toNat = e'.1.max.toNat) : e = e' := by
  by_contra hne
  have hv := UInt64.le_iff_toNat_le.mp (hwf.valid he)
  have hv' := UInt64.le_iff_toNat_le.mp (hwf.valid he')
  rcases before_or_before hwf he he' hne with hb | hb
  · have := UInt64.lt_iff_toNat_lt.mp hb
    omega
  · have := UInt64.lt_iff_toNat_lt.mp hb
    omega

/-- Two entries of a well-formed tree whose keys start at the same address are one entry. -/
theorem eq_of_min_eq {t : Tree T} (hwf : WellFormed t) {e e' : Range × NodeState T}
    (he : e ∈ entries t) (he' : e' ∈ entries t) (h : e.1.min.toNat = e'.1.min.toNat) : e = e' := by
  by_contra hne
  have hv := UInt64.le_iff_toNat_le.mp (hwf.valid he)
  have hv' := UInt64.le_iff_toNat_le.mp (hwf.valid he')
  rcases before_or_before hwf he he' hne with hb | hb
  · have := UInt64.lt_iff_toNat_lt.mp hb
    omega
  · have := UInt64.lt_iff_toNat_lt.mp hb
    omega

theorem mem_map_setState_of_ne {es : List (Range × NodeState T)} {q k : Range} {s s' : NodeState T}
    (hq : q ∈ es.map Prod.fst) (hk : k ≠ q) : (k, s') ∈ es.map (setState q s) ↔ (k, s') ∈ es := by
  rw [mem_map_setState hq]
  constructor
  · rintro (⟨h, -⟩ | h)
    · exact h
    · exact absurd (Prod.mk.inj h).1 hk
  · exact fun h => .inl ⟨h, hk⟩

section Merge

variable {t : Tree T} (hwf : WellFormed t) {s : NodeState T} (hkey : (key, s) ∈ entries t)
  (hlo : MergeLeft (entries t) key lo) (hhi : MergeRight (entries t) key hi)
include hwf hkey hlo hhi

/-- The merged range meets no key of the tree other than the key and the free entries next to
it that it absorbs: every other key lies beyond one of those. -/
theorem intersect_merged_eq_false {k : Range} {s' : NodeState T} (hk : (k, s') ∈ entries t)
    (hne : k ≠ key) (hL : lo < key.min → k ≠ ⟨lo, key.min - 1⟩)
    (hR : key.max < hi → k ≠ ⟨key.max + 1, hi⟩) : k.intersect ⟨lo, hi⟩ = false := by
  have hkv := UInt64.le_iff_toNat_le.mp (hwf.valid hk)
  have hkeyv := UInt64.le_iff_toNat_le.mp (hwf.valid hkey)
  have hlo' := UInt64.le_iff_toNat_le.mp (hlo.le fun _ => hwf.valid)
  have hhi' := UInt64.le_iff_toNat_le.mp (hhi.le fun _ => hwf.valid)
  rw [Range.intersect_eq_false, UInt64.lt_iff_toNat_lt, UInt64.toNat_min, UInt64.toNat_max]
  simp only at hkv hkeyv hlo' hhi' ⊢
  rcases before_or_before hwf hk hkey (fun h => hne (Prod.mk.inj h).1) with hb | hb
  · -- a key before the key meets the merged range only if it meets the free entry on the left
    have hb' : k.max.toNat < key.min.toNat := UInt64.lt_iff_toNat_lt.mp hb
    by_cases hlt : lo < key.min
    case neg =>
      have := UInt64.le_iff_toNat_le.mp (UInt64.not_lt.mp hlt)
      omega
    have hy := hlo.mem_of_lt hlt
    have hsub : (key.min - 1).toNat = key.min.toNat - 1 :=
      UInt64.toNat_sub_of_le _ _ (UInt64.le_iff_toNat_le.mpr (by
        have := UInt64.lt_iff_toNat_lt.mp hlt
        rw [UInt64.toNat_one]; omega))
    rcases before_or_before hwf hk hy (fun h => hL hlt (Prod.mk.inj h).1) with h | h
    · have : k.max.toNat < lo.toNat := UInt64.lt_iff_toNat_lt.mp h
      omega
    · have : key.min.toNat - 1 < k.min.toNat := hsub ▸ UInt64.lt_iff_toNat_lt.mp h
      omega
  · -- and a key after it only if it meets the free entry on the right
    have hb' : key.max.toNat < k.min.toNat := UInt64.lt_iff_toNat_lt.mp hb
    by_cases hlt : key.max < hi
    case neg =>
      have := UInt64.le_iff_toNat_le.mp (UInt64.not_lt.mp hlt)
      omega
    have hw := hhi.mem_of_lt hlt
    have hadd : (key.max + 1).toNat = key.max.toNat + 1 := by
      have := UInt64.lt_iff_toNat_lt.mp hlt
      have := UInt64.toNat_lt hi
      rw [UInt64.toNat_add, UInt64.toNat_one, Nat.mod_eq_of_lt (by omega)]
    rcases before_or_before hwf hk hw (fun h => hR hlt (Prod.mk.inj h).1) with h | h
    · have : k.max.toNat < key.max.toNat + 1 := hadd ▸ UInt64.lt_iff_toNat_lt.mp h
      omega
    · have : hi.toNat < k.min.toNat := UInt64.lt_iff_toNat_lt.mp h
      omega

end Merge

end Tree

namespace IntervalTree

variable {T : Type}

section Steps

variable {t : IntervalTree T} (hwf : t.WellFormed)
include hwf

theorem delete_deleted (key : Range) :
    Holds (fun _ => False) (fun res => Tree.Deleted key t.root res.2 res.1.root) (t.delete key) := by
  unfold IntervalTree.delete
  refine (Tree.delete_spec key hwf).map ?_
  rintro ⟨data, root⟩ h
  exact h

/-- `delete(&Range::new(min, max))` of a range that `Range::new` accepts. -/
theorem deleteRange_entries {min max : UInt64} (hle : min ≤ max)
    (hfull : ¬(min = 0 ∧ max = u64Max)) :
    Holds (fun _ => False)
      (fun t' => t'.WellFormed ∧ ∀ e, e ∈ Tree.entries t'.root ↔
        e ∈ Tree.entries t.root ∧ e.1 ≠ ⟨min, max⟩)
      (t.deleteRange min max) := by
  unfold deleteRange
  rw [Range.new_eq_ok hle hfull]
  refine (delete_deleted hwf _).bind ?_
  rintro ⟨t', _⟩ h
  exact ⟨h.wellFormed, h.mem_entries⟩

theorem insert_inserted {key : Range} (hkey : key.Valid) (data : Option T) :
    Holds (Tree.InsertPanic key t.root) (fun t' => Tree.Inserted key (Tree.newValue data) t.root t'.root)
      (t.insert key data) := by
  unfold IntervalTree.insert
  exact (Tree.insert_spec hkey data hwf).map fun _ h => h

/-- The point right before a key that starts after 0 is `key.min - 1`. -/
theorem mergeMin_merge {key : Range} (hkey : key.Valid)
    (hsep : ∀ k ∈ Tree.keys t.root, k.Before key ∨ key.Before k) :
    Holds (fun _ => False) (Tree.MergeLeft (Tree.entries t.root) key) (t.mergeMin key) := by
  have hkey' := UInt64.le_iff_toNat_le.mp hkey
  unfold mergeMin
  by_cases hpos : key.min > 0
  case neg =>
    rw [if_neg hpos]
    have h0 : key.min.toNat = 0 := by
      have := mt UInt64.lt_iff_toNat_lt.mpr hpos
      simp only [UInt64.toNat_zero] at this
      omega
    exact Or.inr ⟨rfl, fun y _ hend => by omega⟩
  rw [if_pos hpos]
  have hpos' : 0 < key.min.toNat := UInt64.lt_iff_toNat_lt.mp hpos
  have hsub : (key.min - 1).toNat = key.min.toNat - 1 :=
    UInt64.toNat_sub_of_le _ _ (UInt64.le_iff_toNat_le.mpr (by rw [UInt64.toNat_one]; omega))
  have hnew : Range.new (key.min - 1) (key.min - 1) = .ok (Range.newPoint (key.min - 1)) := by
    refine Range.new_eq_ok (UInt64.le_refl _) fun ⟨h0, hm⟩ => ?_
    rw [h0] at hm
    exact absurd hm (by decide)
  refine Holds.map (P := (· = Range.newPoint (key.min - 1))) (by rw [hnew]; rfl) ?_
  rintro _ rfl
  -- an entry holds the point before the key exactly when it ends there
  have hholds : ∀ y s, (y, s) ∈ Tree.entries t.root →
      (y.contain (Range.newPoint (key.min - 1)) = true ↔ y.max.toNat + 1 = key.min.toNat) := by
    intro y s hy
    have hyv : y.min.toNat ≤ y.max.toNat := UInt64.le_iff_toNat_le.mp (hwf.valid hy)
    rw [Range.contain_iff_toNat]
    simp only [Range.newPoint, hsub]
    rcases hsep y (Tree.mem_keys.mpr ⟨s, hy⟩) with hb | hb
    · have : y.max.toNat < key.min.toNat := UInt64.lt_iff_toNat_lt.mp hb
      omega
    · have : key.max.toNat < y.min.toNat := UInt64.lt_iff_toNat_lt.mp hb
      omega
  rcases hs : t.getSuperset (Range.newPoint (key.min - 1)) with _ | ⟨y, v⟩
  · -- no entry holds the point: no free entry ends right before the key
    refine Or.inr ⟨rfl, fun y hy hend => ?_⟩
    have hsome := (Tree.searchSuperset_isSome_iff hwf _).mpr ⟨y, _, hy, (hholds y _ hy).mpr hend⟩
    rw [show t.root.searchSuperset _ = none from hs] at hsome
    exact Bool.false_ne_true hsome
  obtain ⟨hc, hmem⟩ := Tree.searchSuperset_spec hs
  have hend := (hholds y v hmem).mp hc
  show Tree.MergeLeft _ key (if v.isFree then y.min else key.min)
  split_ifs with hfree
  · have hv : v = .Free := by cases v <;> simp_all [NodeState.isFree]
    subst hv
    exact Or.inl ⟨y, hmem, hend, rfl⟩
  · -- the entry that holds the point is the only one ending there, and it is not free
    refine Or.inr ⟨rfl, fun y' hy' hend' => hfree ?_⟩
    have := Tree.eq_of_contain hwf (UInt64.le_refl _) hy' hmem ((hholds y' _ hy').mpr hend') hc
    obtain ⟨-, rfl⟩ := Prod.mk.inj this
    rfl

/-- The point right after a key that ends before `u64::MAX` is `key.max + 1`. -/
theorem mergeMax_merge {key : Range} (hkey : key.Valid)
    (hsep : ∀ k ∈ Tree.keys t.root, k.Before key ∨ key.Before k) :
    Holds (fun _ => False) (Tree.MergeRight (Tree.entries t.root) key) (t.mergeMax key) := by
  have hkey' := UInt64.le_iff_toNat_le.mp hkey
  unfold mergeMax
  by_cases hlt : key.max < u64Max
  case neg =>
    rw [if_neg hlt]
    have hm : key.max.toNat = 2 ^ 64 - 1 := by
      have := mt UInt64.lt_iff_toNat_lt.mpr hlt
      have := UInt64.toNat_lt key.max
      rw [Range.u64Max_toNat] at *
      omega
    refine Or.inr ⟨rfl, fun w _ hstart => ?_⟩
    have := UInt64.toNat_lt w.min
    omega
  rw [if_pos hlt]
  have hlt' : key.max.toNat < 2 ^ 64 - 1 := Range.u64Max_toNat ▸ UInt64.lt_iff_toNat_lt.mp hlt
  have hadd : (key.max + 1).toNat = key.max.toNat + 1 := by
    rw [UInt64.toNat_add, UInt64.toNat_one, Nat.mod_eq_of_lt (by omega)]
  have hnew : Range.new (key.max + 1) (key.max + 1) = .ok (Range.newPoint (key.max + 1)) := by
    refine Range.new_eq_ok (UInt64.le_refl _) fun ⟨h0, hm⟩ => ?_
    have := congrArg UInt64.toNat h0
    rw [hadd, UInt64.toNat_zero] at this
    omega
  refine Holds.map (P := (· = Range.newPoint (key.max + 1))) (by rw [hnew]; rfl) ?_
  rintro _ rfl
  -- an entry holds the point after the key exactly when it starts there
  have hholds : ∀ w s, (w, s) ∈ Tree.entries t.root →
      (w.contain (Range.newPoint (key.max + 1)) = true ↔ w.min.toNat = key.max.toNat + 1) := by
    intro w s hw
    have hwv : w.min.toNat ≤ w.max.toNat := UInt64.le_iff_toNat_le.mp (hwf.valid hw)
    rw [Range.contain_iff_toNat]
    simp only [Range.newPoint, hadd]
    rcases hsep w (Tree.mem_keys.mpr ⟨s, hw⟩) with hb | hb
    · have : w.max.toNat < key.min.toNat := UInt64.lt_iff_toNat_lt.mp hb
      omega
    · have : key.max.toNat < w.min.toNat := UInt64.lt_iff_toNat_lt.mp hb
      omega
  rcases hs : t.getSuperset (Range.newPoint (key.max + 1)) with _ | ⟨w, v⟩
  · -- no entry holds the point: no free entry starts right after the key
    refine Or.inr ⟨rfl, fun w hw hstart => ?_⟩
    have hsome := (Tree.searchSuperset_isSome_iff hwf _).mpr
      ⟨w, _, hw, (hholds w _ hw).mpr hstart⟩
    rw [show t.root.searchSuperset _ = none from hs] at hsome
    exact Bool.false_ne_true hsome
  obtain ⟨hc, hmem⟩ := Tree.searchSuperset_spec hs
  have hstart := (hholds w v hmem).mp hc
  show Tree.MergeRight _ key (if v.isFree then w.max else key.max)
  split_ifs with hfree
  · have hv : v = .Free := by cases v <;> simp_all [NodeState.isFree]
    subst hv
    exact Or.inl ⟨w, hmem, hstart, rfl⟩
  · refine Or.inr ⟨rfl, fun w' hw' hstart' => hfree ?_⟩
    have := Tree.eq_of_contain hwf (UInt64.le_refl _) hw' hmem ((hholds w' _ hw').mpr hstart') hc
    obtain ⟨-, rfl⟩ := Prod.mk.inj this
    rfl

end Steps

/-- What `free key` makes of a well-formed tree holding `key`, with `lo` and `hi` the ends of the
merged range: the key and the free entries right before and after it give way to one free entry
over all three. -/
structure Merged (t : IntervalTree T) (key : Range) (lo hi : UInt64) (t' : IntervalTree T) :
    Prop where
  wellFormed : t'.WellFormed
  left : Tree.MergeLeft (Tree.entries t.root) key lo
  right : Tree.MergeRight (Tree.entries t.root) key hi
  mem_entries : ∀ e, e ∈ Tree.entries t'.root ↔ e = (⟨lo, hi⟩, .Free) ∨
    (e ∈ Tree.entries t.root ∧ e.1 ≠ key ∧ (lo < key.min → e.1 ≠ ⟨lo, key.min - 1⟩) ∧
      (key.max < hi → e.1 ≠ ⟨key.max + 1, hi⟩))

/-- `free` of a key of a well-formed tree does not panic: it answers the value of the key and
merges the key with the free entries next to it. -/
theorem free_spec {t : IntervalTree T} (hwf : t.WellFormed) {key : Range} {s : NodeState T}
    (hkey : (key, s) ∈ Tree.entries t.root) :
    Holds (fun _ => False) (fun res => res.2 = s.toOption ∧ ∃ lo hi, Merged t key lo hi res.1)
      (t.free key) := by
  have hkv : key.Valid := hwf.valid hkey
  have hkv' : key.min.toNat ≤ key.max.toNat := UInt64.le_iff_toNat_le.mp hkv
  unfold free
  refine (delete_deleted hwf key).bind ?_
  rintro ⟨t₁, result⟩ h₁
  have hmem₁ := h₁.mem_entries
  have hres : result = s.toOption := by
    rcases h₁.data_eq with ⟨s', hs', rfl⟩ | ⟨hnot, -⟩
    · rw [Tree.state_unique hwf hs' hkey]
    · exact absurd (Tree.mem_keys.mpr ⟨s, hkey⟩) hnot
  -- the keys left lie on either side of the key
  have hsep : ∀ k ∈ Tree.keys t₁.root, k.Before key ∨ key.Before k := by
    intro k hk
    obtain ⟨s', hs'⟩ := Tree.mem_keys.mp hk
    obtain ⟨hs', hne⟩ := (hmem₁ _).mp hs'
    exact Tree.before_or_before hwf hs' hkey fun h => hne (Prod.mk.inj h).1
  -- the free entries next to the key are those of the tree before the deletion
  have hnext : ∀ y : Range, y ≠ key →
      ((y, NodeState.Free) ∈ Tree.entries t₁.root ↔ (y, .Free) ∈ Tree.entries t.root) := by
    intro y hy
    rw [hmem₁]
    exact ⟨And.left, fun h => ⟨h, hy⟩⟩
  refine (mergeMin_merge h₁.wellFormed hkv hsep).bind fun lo hlo => ?_
  refine (mergeMax_merge h₁.wellFormed hkv hsep).bind fun hi hhi => ?_
  have hlo' := hlo.congr fun y hend => hnext y fun h => by rw [h] at hend; omega
  have hhi' := hhi.congr fun w hstart => hnext w fun h => by rw [h] at hstart; omega
  have hlok := UInt64.le_iff_toNat_le.mp (hlo'.le fun _ => hwf.valid)
  have hhik := UInt64.le_iff_toNat_le.mp (hhi'.le fun _ => hwf.valid)
  -- the free entry on the left, deleted by the range rebuilt from its ends
  have hL : Holds (fun _ => False)
      (fun t₂ : IntervalTree T => t₂.WellFormed ∧ ∀ e, e ∈ Tree.entries t₂.root ↔
        e ∈ Tree.entries t₁.root ∧ (lo < key.min → e.1 ≠ ⟨lo, key.min - 1⟩))
      (if lo < key.min then t₁.deleteRange lo (key.min - 1) else pure t₁) := by
    split_ifs with hlt
    · have hlt' := UInt64.lt_iff_toNat_lt.mp hlt
      have hsub : (key.min - 1).toNat = key.min.toNat - 1 :=
        UInt64.toNat_sub_of_le _ _ (UInt64.le_iff_toNat_le.mpr (by rw [UInt64.toNat_one]; omega))
      have hnotfull : ¬(lo = 0 ∧ key.min - 1 = u64Max) := by
        rintro ⟨-, hm⟩
        have := congrArg UInt64.toNat hm
        have := UInt64.toNat_lt key.min
        rw [hsub, Range.u64Max_toNat] at *
        omega
      refine (deleteRange_entries h₁.wellFormed (UInt64.le_iff_toNat_le.mpr (by omega))
        hnotfull).mono (fun _ h => h) ?_
      rintro t₂ ⟨hw, he⟩
      exact ⟨hw, fun e => by rw [he]; simp only [hlt, true_implies]⟩
    · exact ⟨h₁.wellFormed, fun e => by simp only [hlt, false_implies, and_true]⟩
  refine hL.bind ?_
  rintro t₂ ⟨hwf₂, h₂⟩
  -- the free entry on the right
  have hR : Holds (fun _ => False)
      (fun t₃ : IntervalTree T => t₃.WellFormed ∧ ∀ e, e ∈ Tree.entries t₃.root ↔
        e ∈ Tree.entries t₂.root ∧ (key.max < hi → e.1 ≠ ⟨key.max + 1, hi⟩))
      (if hi > key.max then t₂.deleteRange (key.max + 1) hi else pure t₂) := by
    split_ifs with hlt
    · have hlt' := UInt64.lt_iff_toNat_lt.mp hlt
      have hadd : (key.max + 1).toNat = key.max.toNat + 1 := by
        have := UInt64.toNat_lt hi
        rw [UInt64.toNat_add, UInt64.toNat_one, Nat.mod_eq_of_lt (by omega)]
      have hnotfull : ¬(key.max + 1 = 0 ∧ hi = u64Max) := by
        rintro ⟨h0, -⟩
        have := congrArg UInt64.toNat h0
        rw [hadd, UInt64.toNat_zero] at this
        omega
      refine (deleteRange_entries hwf₂ (UInt64.le_iff_toNat_le.mpr (by omega))
        hnotfull).mono (fun _ h => h) ?_
      rintro t₃ ⟨hw, he⟩
      exact ⟨hw, fun e => by rw [he]; simp only [gt_iff_lt.mp hlt, true_implies]⟩
    · exact ⟨hwf₂, fun e => by simp only [gt_iff_lt.not.mp hlt, false_implies, and_true]⟩
  refine hR.bind ?_
  rintro t₃ ⟨hwf₃, h₃⟩
  have hvalid : Range.Valid ⟨lo, hi⟩ := show lo ≤ hi from UInt64.le_iff_toNat_le.mpr (by omega)
  -- no key left meets the merged range
  have hpanic : ∀ e, Tree.InsertPanic ⟨lo, hi⟩ t₃.root e → False := by
    rintro e ⟨-, k, hk, hint⟩
    obtain ⟨s', hs'⟩ := Tree.mem_keys.mp hk
    obtain ⟨hs', hR'⟩ := (h₃ _).mp hs'
    obtain ⟨hs', hL'⟩ := (h₂ _).mp hs'
    obtain ⟨hs', hne⟩ := (hmem₁ _).mp hs'
    rw [Tree.intersect_merged_eq_false hwf hkey hlo' hhi' hs' hne hL' hR'] at hint
    exact Bool.false_ne_true hint
  refine ((insert_inserted hwf₃ hvalid none).mono (fun e he => hpanic e he) fun _ h => h).bind ?_
  intro t₄ h₄
  refine ⟨hres, lo, hi, h₄.wellFormed, hlo', hhi', fun e => ?_⟩
  rw [h₄.mem_entries, h₃, h₂, hmem₁]
  simp only [Tree.newValue, and_assoc]

section Freed

variable {t t' : IntervalTree T} {key : Range} {lo hi : UInt64} (h : Merged t key lo hi t')
include h

/-- The merged entry makes free every point between its ends. -/
theorem Merged.stateAt_merged {p : UInt64} (hlo : lo.toNat ≤ p.toNat) (hhi : p.toNat ≤ hi.toNat) :
    t'.StateAt p .Free :=
  ⟨⟨lo, hi⟩, (h.mem_entries _).mpr (.inl rfl), Range.covers_iff_toNat.mpr ⟨hlo, hhi⟩⟩

variable (hwf : t.WellFormed)
include hwf

theorem Merged.lo_le : lo.toNat ≤ key.min.toNat :=
  UInt64.le_iff_toNat_le.mp (h.left.le fun _ => hwf.valid)

theorem Merged.le_hi : key.max.toNat ≤ hi.toNat :=
  UInt64.le_iff_toNat_le.mp (h.right.le fun _ => hwf.valid)

/-- `free` makes the points of the key free, and no other point changes from free to not free
or back: the merged range covers exactly the key and the free entries it absorbs. -/
theorem Merged.stateAt_free {s : NodeState T} (hkey : (key, s) ∈ Tree.entries t.root)
    (p : UInt64) : t'.StateAt p .Free ↔ t.StateAt p .Free ∨ key.Covers p := by
  have hlok := h.lo_le hwf
  have hhik := h.le_hi hwf
  have hkv : key.min.toNat ≤ key.max.toNat := UInt64.le_iff_toNat_le.mp (hwf.valid hkey)
  -- the ends of the two free entries next to the key, which do not wrap
  have hsub (hlt : lo < key.min) : (key.min - 1).toNat = key.min.toNat - 1 :=
    UInt64.toNat_sub_of_le _ _ (UInt64.le_iff_toNat_le.mpr (by
      have := UInt64.lt_iff_toNat_lt.mp hlt
      rw [UInt64.toNat_one]; omega))
  have hadd (hlt : key.max < hi) : (key.max + 1).toNat = key.max.toNat + 1 := by
    have := UInt64.lt_iff_toNat_lt.mp hlt
    have := UInt64.toNat_lt hi
    rw [UInt64.toNat_add, UInt64.toNat_one, Nat.mod_eq_of_lt (by omega)]
  constructor
  · rintro ⟨y, hy, hcov⟩
    rcases (h.mem_entries _).mp hy with hm | ⟨hy, -⟩
    case inr => exact .inl ⟨y, hy, hcov⟩
    -- a point of the merged range lies in the key or in a free entry next to it
    obtain rfl := (Prod.mk.inj hm).1
    rw [Range.covers_iff_toNat] at hcov
    by_cases hleft : p.toNat < key.min.toNat
    · have hlt : lo < key.min := UInt64.lt_iff_toNat_lt.mpr (by simp only at hcov; omega)
      have := hsub hlt
      refine .inl ⟨_, h.left.mem_of_lt hlt, Range.covers_iff_toNat.mpr ?_⟩
      simp only at hcov ⊢
      omega
    by_cases hright : key.max.toNat < p.toNat
    · have hlt : key.max < hi := UInt64.lt_iff_toNat_lt.mpr (by simp only at hcov; omega)
      have := hadd hlt
      refine .inl ⟨_, h.right.mem_of_lt hlt, Range.covers_iff_toNat.mpr ?_⟩
      simp only at hcov ⊢
      omega
    exact .inr (Range.covers_iff_toNat.mpr (by omega))
  · rintro (⟨u, hu, hcov⟩ | hcov)
    case inr =>
      rw [Range.covers_iff_toNat] at hcov
      exact h.stateAt_merged (by omega) (by omega)
    rw [Range.covers_iff_toNat] at hcov
    -- a free entry is kept unless it is one of those the merged range absorbs
    by_cases hk : u = key
    · subst hk
      exact h.stateAt_merged (by omega) (by omega)
    by_cases hL : lo < key.min ∧ u = ⟨lo, key.min - 1⟩
    · obtain ⟨hlt, rfl⟩ := hL
      have := hsub hlt
      simp only at hcov
      exact h.stateAt_merged (by omega) (by omega)
    by_cases hR : key.max < hi ∧ u = ⟨key.max + 1, hi⟩
    · obtain ⟨hlt, rfl⟩ := hR
      have := hadd hlt
      simp only at hcov
      exact h.stateAt_merged (by omega) (by omega)
    refine ⟨u, (h.mem_entries _).mpr (.inr ⟨hu, hk, fun hlt heq => hL ⟨hlt, heq⟩,
      fun hlt heq => hR ⟨hlt, heq⟩⟩), Range.covers_iff_toNat.mpr hcov⟩

/-- `free` keeps every entry that is not free, except the key's. -/
theorem Merged.mem_of_ne_free {k : Range} {s' : NodeState T} (hs' : s' ≠ .Free) :
    (k, s') ∈ Tree.entries t'.root ↔ (k, s') ∈ Tree.entries t.root ∧ k ≠ key := by
  rw [h.mem_entries]
  constructor
  · rintro (hm | ⟨hk, hne, -, -⟩)
    · exact absurd (Prod.mk.inj hm).2 hs'
    · exact ⟨hk, hne⟩
  · -- the entries the merged range absorbs are free
    rintro ⟨hk, hne⟩
    refine .inr ⟨hk, hne, fun hlt heq => ?_, fun hlt heq => ?_⟩
    · subst heq
      exact hs' (Tree.state_unique hwf hk (h.left.mem_of_lt hlt))
    · subst heq
      exact hs' (Tree.state_unique hwf hk (h.right.mem_of_lt hlt))

/-- The merged entry holds the key and the free entries right before and after it. -/
theorem Merged.absorbs {s : NodeState T} (hkey : (key, s) ∈ Tree.entries t.root) :
    ((⟨lo, hi⟩ : Range), NodeState.Free) ∈ Tree.entries t'.root ∧
      (⟨lo, hi⟩ : Range).contain key = true ∧
      (∀ y, (y, NodeState.Free) ∈ Tree.entries t.root → y.max.toNat + 1 = key.min.toNat →
        (⟨lo, hi⟩ : Range).contain y = true) ∧
      ∀ w, (w, NodeState.Free) ∈ Tree.entries t.root → w.min.toNat = key.max.toNat + 1 →
        (⟨lo, hi⟩ : Range).contain w = true := by
  have hlok := h.lo_le hwf
  have hhik := h.le_hi hwf
  have hkv : key.min.toNat ≤ key.max.toNat := UInt64.le_iff_toNat_le.mp (hwf.valid hkey)
  refine ⟨(h.mem_entries _).mpr (.inl rfl), Range.contain_iff_toNat.mpr ⟨hlok, hhik⟩,
    fun y hy hend => ?_, fun w hw hstart => ?_⟩
  · -- the free entry ending right before the key is the one whose start is `lo`
    rcases h.left with ⟨y', hy', hend', rfl⟩ | ⟨-, hnone⟩
    case inr => exact absurd hend (hnone y hy)
    obtain rfl := (Prod.mk.inj (Tree.eq_of_max_eq hwf hy hy' (by simp only; omega))).1
    rw [Range.contain_iff_toNat]
    simp only
    omega
  · rcases h.right with ⟨w', hw', hstart', rfl⟩ | ⟨-, hnone⟩
    case inr => exact absurd hstart (hnone w hw)
    obtain rfl := (Prod.mk.inj (Tree.eq_of_min_eq hwf hw hw' (by simp only; omega))).1
    rw [Range.contain_iff_toNat]
    simp only
    omega

end Freed

/-- `update` of an allocated key to a value does not panic: it answers no old value and gives
the key the value. -/
theorem update_allocated {t : IntervalTree T} (hwf : t.WellFormed) {key : Range}
    (hkey : (key, NodeState.Allocated) ∈ Tree.entries t.root) (v : T) :
    ∃ t', t.update key v = .ok (t', none) ∧ t'.WellFormed ∧
      Tree.entries t'.root = (Tree.entries t.root).map (Tree.setState key (.Valued v)) := by
  -- the one transition the update makes, from allocated to valued, is not refused
  have hupd : Holds (fun _ => False) _ (Tree.update key (.Valued v) t.root) :=
    (Tree.update_entries key (.Valued v) hwf).mono (fun _ ⟨d, hd, href⟩ => by
      rw [Tree.state_unique hwf hd hkey] at href
      exact Bool.false_ne_true href) fun _ h => h
  obtain ⟨⟨root, old⟩, hok, hent, hold⟩ := hupd.exists_ok
  have hval : t.update key v = .ok (⟨root⟩, old) := by
    unfold IntervalTree.update
    rw [hok]
    rfl
  have hwf' := update_wellFormed hwf key v
  rw [hval] at hwf'
  have hnone : old = none := hold .Allocated hkey
  rw [hnone] at hval
  exact ⟨⟨root⟩, hval, hwf', hent⟩

/-- After `allocate` cut the piece `r` out of the free entry `x`, the entries other than `r` that
are not free are those of the tree before. -/
theorem mem_allocate_of_ne_free {t t' : IntervalTree T} (hwf : t.WellFormed) {x r : Range}
    (hx : (x, NodeState.Free) ∈ Tree.entries t.root) (hr : r.Valid) (hxr : x.contain r = true)
    (hent : ∀ e, e ∈ Tree.entries t'.root ↔ (e ∈ Tree.entries t.root ∧ e.1 ≠ x) ∨
      e = (r, .Allocated) ∨ (x.min < r.min ∧ e = (⟨x.min, r.min - 1⟩, .Free)) ∨
        (r.max < x.max ∧ e = (⟨r.max + 1, x.max⟩, .Free)))
    {k : Range} {s : NodeState T} (hs : s ≠ .Free) :
    (k, s) ∈ Tree.entries t'.root ∧ k ≠ r ↔ (k, s) ∈ Tree.entries t.root := by
  rw [hent]
  constructor
  · rintro ⟨⟨hk, -⟩ | hA | ⟨-, hL⟩ | ⟨-, hR⟩, hne⟩
    · exact hk
    · exact absurd (Prod.mk.inj hA).1 hne
    · exact absurd (Prod.mk.inj hL).2 hs
    · exact absurd (Prod.mk.inj hR).2 hs
  · -- an entry that is not free is neither the candidate nor the piece inside it
    intro hk
    have hkx : k ≠ x := fun heq => hs (Tree.state_unique hwf (heq ▸ hk) hx)
    have hkr : k ≠ r := by
      rintro rfl
      have := Tree.eq_of_contain hwf hr hk hx k.contain_refl hxr
      exact hkx (Prod.mk.inj this).1
    exact ⟨.inl ⟨hk, hkx⟩, hkr⟩

/-- `t'` has the free points, the allocated keys and the valued entries of `t`. -/
def SameContents (t t' : IntervalTree T) : Prop :=
  (∀ p, t'.StateAt p .Free ↔ t.StateAt p .Free) ∧
    (∀ k, (k, NodeState.Allocated) ∈ Tree.entries t'.root ↔
      (k, NodeState.Allocated) ∈ Tree.entries t.root) ∧
    ∀ k v, (k, NodeState.Valued v) ∈ Tree.entries t'.root ↔
      (k, NodeState.Valued v) ∈ Tree.entries t.root

/-- In `t'` one free entry holds `r` and the free entries of `t` that end right before it and
start right after it. -/
def MergedAround (t : IntervalTree T) (r : Range) (t' : IntervalTree T) : Prop :=
  ∃ z, (z, NodeState.Free) ∈ Tree.entries t'.root ∧ z.contain r = true ∧
    (∀ y, (y, NodeState.Free) ∈ Tree.entries t.root → y.max.toNat + 1 = r.min.toNat →
      z.contain y = true) ∧
    ∀ w, (w, NodeState.Free) ∈ Tree.entries t.root → w.min.toNat = r.max.toNat + 1 →
      z.contain w = true

theorem Merged.mergedAround {t t' : IntervalTree T} (hwf : t.WellFormed) {key : Range}
    {s : NodeState T} (hkey : (key, s) ∈ Tree.entries t.root) {lo hi : UInt64}
    (h : Merged t key lo hi t') : MergedAround t key t' :=
  let ⟨hmem, hc, hy, hw⟩ := h.absorbs hwf hkey
  ⟨⟨lo, hi⟩, hmem, hc, hy, hw⟩

/-- `free` of the piece `r` that `allocate` cut out of the free entry `x`, after a change of the
tree from `t₁` to `t₂` that keeps the entry of every other key, gives back the free points of
the tree before and its entries that are not free. -/
theorem sameContents_free {t t₁ t₂ t₃ : IntervalTree T} (hwf : t.WellFormed) {x r : Range}
    (hx : (x, NodeState.Free) ∈ Tree.entries t.root) (hr : r.Valid) (hxr : x.contain r = true)
    (hwf₁ : t₁.WellFormed)
    (hent : ∀ e, e ∈ Tree.entries t₁.root ↔ (e ∈ Tree.entries t.root ∧ e.1 ≠ x) ∨
      e = (r, .Allocated) ∨ (x.min < r.min ∧ e = (⟨x.min, r.min - 1⟩, .Free)) ∨
        (r.max < x.max ∧ e = (⟨r.max + 1, x.max⟩, .Free)))
    (hupd : ∀ k s, k ≠ r → ((k, s) ∈ Tree.entries t₂.root ↔ (k, s) ∈ Tree.entries t₁.root))
    (hwf₂ : t₂.WellFormed) {s : NodeState T} (hr₂ : (r, s) ∈ Tree.entries t₂.root)
    (hs : s ≠ .Free) {lo hi : UInt64} (hm : Merged t₂ r lo hi t₃) : SameContents t t₃ := by
  have hr₁ : (r, NodeState.Allocated) ∈ Tree.entries t₁.root := (hent _).mpr (.inr (.inl rfl))
  -- the free points after the change are those after the allocation: `r` is free in neither
  have hstate₂ : ∀ p, t₂.StateAt p .Free ↔ t₁.StateAt p .Free := by
    intro p
    constructor
    · rintro ⟨y, hy, hcov⟩
      have hyr : y ≠ r := by
        rintro rfl
        exact hs (Tree.state_unique hwf₂ hr₂ hy)
      exact ⟨y, (hupd y .Free hyr).mp hy, hcov⟩
    · rintro ⟨y, hy, hcov⟩
      have hyr : y ≠ r := by
        rintro rfl
        exact nomatch Tree.state_unique hwf₁ hr₁ hy
      exact ⟨y, (hupd y .Free hyr).mpr hy, hcov⟩
  have hnotfree : ∀ k s', s' ≠ .Free →
      ((k, s') ∈ Tree.entries t₃.root ↔ (k, s') ∈ Tree.entries t.root) := by
    intro k s' hs'
    rw [hm.mem_of_ne_free hwf₂ hs', ← mem_allocate_of_ne_free hwf hx hr hxr hent hs']
    constructor
    · rintro ⟨hk, hne⟩
      exact ⟨(hupd k s' hne).mp hk, hne⟩
    · rintro ⟨hk, hne⟩
      exact ⟨(hupd k s' hne).mpr hk, hne⟩
  refine ⟨fun p => ?_, fun k => hnotfree k .Allocated (fun h => nomatch h),
    fun k v => hnotfree k (.Valued v) (fun h => nomatch h)⟩
  rw [hm.stateAt_free hwf₂ hr₂, hstate₂]
  by_cases hp : r.Covers p
  · -- a point of the piece was free in the candidate
    have hcov := Range.covers_iff_toNat.mp hp
    have hxr' := Range.contain_iff_toNat.mp hxr
    exact iff_of_true (.inr hp) ⟨x, hx, Range.covers_iff_toNat.mpr (by omega)⟩
  · rw [or_iff_left hp]
    exact stateAt_outside hwf hx hr hxr hent hp .Free

theorem free_undoes_allocate {t t₁ : IntervalTree T} (ht : t.Reachable) {c : Constraint}
    {r : Range} (halloc : t.allocate c = .ok (t₁, some r)) :
    (∃ t₃, t₁.free r = .ok (t₃, none) ∧ SameContents t t₃ ∧ MergedAround t₁ r t₃) ∧
    ∀ v, ∃ t₂, t₁.update r v = .ok (t₂, none) ∧
      ∃ t₃, t₂.free r = .ok (t₃, some v) ∧ SameContents t t₃ ∧ MergedAround t₂ r t₃ := by
  have hwf := ht.wellFormed
  have hs : c.size ≠ 0 := fun h0 => by simp [t.allocate_size_zero h0] at halloc
  have hres := allocate_spec hwf hs
  rw [halloc] at hres
  obtain ⟨hwf₁, hrv, x, hx, hxr, hent⟩ := hres.piece
  have hr₁ : (r, NodeState.Allocated) ∈ Tree.entries t₁.root := (hent _).mpr (.inr (.inl rfl))
  constructor
  · -- freed while still allocated
    obtain ⟨⟨t₃, res⟩, hok, hres₃, lo, hi, hm⟩ := (free_spec hwf₁ hr₁).exists_ok
    change res = none at hres₃
    subst hres₃
    exact ⟨t₃, hok, sameContents_free hwf hx hrv hxr hwf₁ hent (fun _ _ _ => Iff.rfl) hwf₁ hr₁
      (fun h => nomatch h) hm, hm.mergedAround hwf₁ hr₁⟩
  · -- freed after the update gave it a value
    intro v
    obtain ⟨t₂, hupd, hwf₂, hent₂⟩ := update_allocated hwf₁ hr₁ v
    have hkeys : r ∈ Tree.keys t₁.root := Tree.mem_keys.mpr ⟨_, hr₁⟩
    have hr₂ : (r, NodeState.Valued v) ∈ Tree.entries t₂.root := by
      rw [hent₂]
      exact (Tree.mem_map_setState hkeys).mpr (.inr rfl)
    have hsame : ∀ k s, k ≠ r →
        ((k, s) ∈ Tree.entries t₂.root ↔ (k, s) ∈ Tree.entries t₁.root) := by
      intro k s hk
      rw [hent₂]
      exact Tree.mem_map_setState_of_ne hkeys hk
    obtain ⟨⟨t₃, res⟩, hok, hres₃, lo, hi, hm⟩ := (free_spec hwf₂ hr₂).exists_ok
    change res = some v at hres₃
    subst hres₃
    exact ⟨t₂, hupd, t₃, hok, sameContents_free hwf hx hrv hxr hwf₁ hent hsame hwf₂ hr₂
      (fun h => nomatch h) hm, hm.mergedAround hwf₂ hr₂⟩

theorem free_undoes_allocate_leaf :
    (⟨.node ⟨0, 0xff⟩ .Free .nil .nil 1 0xff⟩ : IntervalTree Unit).Reachable ∧
      (⟨.node ⟨0, 0xff⟩ .Free .nil .nil 1 0xff⟩ : IntervalTree Unit).allocate
        ⟨0x10, 0x18, 0xff, 0x10, .FirstMatch⟩ =
        .ok (⟨.node ⟨0x20, 0x2f⟩ .Allocated (.node ⟨0, 0x1f⟩ .Free .nil .nil 1 0x1f)
          (.node ⟨0x30, 0xff⟩ .Free .nil .nil 1 0xff) 2 0xff⟩, some ⟨0x20, 0x2f⟩) ∧
      ∃ t₃, (⟨.node ⟨0x20, 0x2f⟩ .Allocated (.node ⟨0, 0x1f⟩ .Free .nil .nil 1 0x1f)
          (.node ⟨0x30, 0xff⟩ .Free .nil .nil 1 0xff) 2 0xff⟩ : IntervalTree Unit).free
          ⟨0x20, 0x2f⟩ = .ok (t₃, none) ∧
        SameContents ⟨.node ⟨0, 0xff⟩ .Free .nil .nil 1 0xff⟩ t₃ ∧
        MergedAround ⟨.node ⟨0x20, 0x2f⟩ .Allocated (.node ⟨0, 0x1f⟩ .Free .nil .nil 1 0x1f)
          (.node ⟨0x30, 0xff⟩ .Free .nil .nil 1 0xff) 2 0xff⟩ ⟨0x20, 0x2f⟩ t₃ :=
  have ht : (⟨.node ⟨0, 0xff⟩ .Free .nil .nil 1 0xff⟩ : IntervalTree Unit).Reachable :=
    ⟨[.insert ⟨0, 0xff⟩ none], by decide, rfl⟩
  have hrun : (⟨.node ⟨0, 0xff⟩ .Free .nil .nil 1 0xff⟩ : IntervalTree Unit).allocate
        ⟨0x10, 0x18, 0xff, 0x10, .FirstMatch⟩ =
        .ok (⟨.node ⟨0x20, 0x2f⟩ .Allocated (.node ⟨0, 0x1f⟩ .Free .nil .nil 1 0x1f)
          (.node ⟨0x30, 0xff⟩ .Free .nil .nil 1 0xff) 2 0xff⟩, some ⟨0x20, 0x2f⟩) := rfl
  ⟨ht, hrun, (free_undoes_allocate ht hrun).1⟩

end IntervalTree

end KataContainers.Allocator

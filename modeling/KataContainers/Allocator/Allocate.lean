import KataContainers.Allocator.Lookup
import KataContainers.Lib.Align

/-!
# What `allocate` allocates

`check_constraint` accepts a free node exactly when the alignment is 0, 1 or a power of two and
the node, clipped to the constraint's bounds, holds the requested size from its least aligned
address; `first_match` answers the first such node in key order. `allocate` cuts the piece out
of that node: the tree keeps every other entry and every other point as it was, the free rest of
the node in at most two free pieces, and the piece itself allocated.
-/

namespace KataContainers.Allocator

open ExceptSpec

namespace Range

/-- The one valid range that `Range::new` rejects. -/
def IsFull (r : Range) : Prop := r.min = 0 ∧ r.max = u64Max

/-- `p` is a point of the range. -/
def Covers (r : Range) (p : UInt64) : Prop := r.min ≤ p ∧ p ≤ r.max

theorem u64Max_toNat : u64Max.toNat = 2 ^ 64 - 1 := rfl

theorem new_eq_ok {min max : UInt64} (hle : min ≤ max) (hfull : ¬(min = 0 ∧ max = u64Max)) :
    Range.new min max = .ok ⟨min, max⟩ := by
  unfold Range.new
  rw [if_neg]
  simp only [gt_iff_lt, Bool.or_eq_true, decide_eq_true_eq, Bool.and_eq_true, beq_iff_eq, not_or,
    not_and]
  exact ⟨UInt64.not_lt.mpr hle, fun h0 hmax => hfull ⟨h0, hmax⟩⟩

/-- `Range::new` builds valid ranges other than the full one. -/
theorem new_spec_full (min max : UInt64) :
    Holds (· = .invalidRange) (fun r => r.Valid ∧ ¬r.IsFull ∧ r.min = min ∧ r.max = max)
      (Range.new min max) := by
  unfold Range.new
  split_ifs with hbad
  · rfl
  · simp only [gt_iff_lt, Bool.or_eq_true, decide_eq_true_eq, Bool.and_eq_true, beq_iff_eq,
      not_or, not_and] at hbad
    exact ⟨UInt64.not_lt.mp hbad.1, fun ⟨h0, hmax⟩ => hbad.2 h0 hmax, rfl, rfl⟩

/-- The length of a range other than the full one does not wrap. -/
theorem len_toNat {r : Range} (hr : r.Valid) (hfull : ¬r.IsFull) :
    r.len.toNat = r.max.toNat - r.min.toNat + 1 := by
  have hle : r.min.toNat ≤ r.max.toNat := UInt64.le_iff_toNat_le.mp hr
  have hmax := UInt64.toNat_lt r.max
  have hnf : ¬(r.min.toNat = 0 ∧ r.max.toNat = 2 ^ 64 - 1) := fun ⟨h0, hm⟩ =>
    hfull ⟨UInt64.toNat_inj.mp (by rw [h0]; rfl), UInt64.toNat_inj.mp (by rw [hm]; rfl)⟩
  simp only [len, UInt64.toNat_add, UInt64.toNat_sub_of_le _ _ hr, UInt64.toNat_one]
  rw [Nat.mod_eq_of_lt (by omega)]

/-- `align_to` for a power of two `align ≥ 2`: the range from the least multiple of `align` at
or after its start, if that lies in the range. -/
theorem alignTo_pow2 {r : Range} (hr : r.Valid) (hfull : ¬r.IsFull) {align : UInt64} {j : Nat}
    (ha : align.toNat = 2 ^ j) (h2 : 2 ≤ align.toNat) :
    Holds (fun _ => False)
      (fun o => match o with
        | some x => x.min.toNat = Align.roundUp r.min.toNat align.toNat ∧ x.max = r.max ∧ x.Valid
        | none => r.max.toNat < Align.roundUp r.min.toNat align.toNat)
      (r.alignTo align) := by
  have hne0 : align ≠ 0 := by rintro rfl; simp at h2
  have hpow : align &&& (align - 1) = 0 := (Align.and_sub_one_eq_zero_iff hne0).mpr ⟨j, ha⟩
  have hsub : (align - 1).toNat = align.toNat - 1 :=
    UInt64.toNat_sub_of_le _ _ (UInt64.le_iff_toNat_le.mpr (by simp; omega))
  obtain ⟨hge, hmod, -, -⟩ := Align.roundUp_properties r.min.toNat align.toNat (by omega)
  have hmin := UInt64.le_iff_toNat_le.mp hr
  have hmaxlt := UInt64.toNat_lt r.max
  unfold alignTo
  split
  · simp at h2
  · simp at h2
  rw [if_neg (by simp [hpow])]
  dsimp only
  split_ifs with hover hle
  · -- the rounded start lies in the range, and is not 0 unless the range starts at 0
    have hround : ((r.min + (align - 1)) &&& ~~~(align - 1)).toNat =
        Align.roundUp r.min.toNat align.toNat := by
      rw [Align.toNat_and_not_sub_one ha, UInt64.toNat_add, Nat.mod_eq_of_lt hover, hsub]
      rfl
    have hnf : ¬((r.min + (align - 1)) &&& ~~~(align - 1) = 0 ∧ r.max = u64Max) := by
      rintro ⟨h0, hm⟩
      have h0' := congrArg UInt64.toNat h0
      rw [hround, UInt64.toNat_zero] at h0'
      exact hfull ⟨UInt64.toNat_inj.mp (by rw [UInt64.toNat_zero]; omega), hm⟩
    rw [new_eq_ok hle hnf]
    exact ⟨hround, rfl, hle⟩
  · have hround : ((r.min + (align - 1)) &&& ~~~(align - 1)).toNat =
        Align.roundUp r.min.toNat align.toNat := by
      rw [Align.toNat_and_not_sub_one ha, UInt64.toNat_add, Nat.mod_eq_of_lt hover, hsub]
      rfl
    have := UInt64.lt_iff_toNat_lt.mp (UInt64.not_le.mp hle)
    rw [hround] at this
    exact this
  · -- the rounding overflows: the least multiple at or after the start is at least `2 ^ 64`
    have hj : j < 64 := by
      have := UInt64.toNat_lt align
      rw [ha] at this
      exact (Nat.pow_lt_pow_iff_right (by decide)).mp this
    have hdvd : (2 ^ 64) % align.toNat = 0 := by
      rw [ha]
      exact Nat.mod_eq_zero_of_dvd (Nat.pow_dvd_pow 2 (by omega))
    have hbig := Align.roundDown_ge (by omega : 2 ^ 64 ≤ r.min.toNat + (align.toNat - 1)) hdvd
    show r.max.toNat < Align.roundUp r.min.toNat align.toNat
    unfold Align.roundUp
    omega

/-- `align_to` of an alignment of at least 2 that is no power of two. -/
theorem alignTo_not_pow2 (r : Range) {align : UInt64} (h2 : 2 ≤ align.toNat)
    (hnot : ¬∃ j, align.toNat = 2 ^ j) : r.alignTo align = .ok none := by
  have hne0 : align ≠ 0 := by rintro rfl; simp at h2
  have hpow : align &&& (align - 1) ≠ 0 := fun h => hnot ((Align.and_sub_one_eq_zero_iff hne0).mp h)
  unfold alignTo
  split
  · simp at h2
  · simp at h2
  rw [if_pos (by simp [hpow])]

theorem alignTo_of_le_one (r : Range) {align : UInt64} (h : align.toNat ≤ 1) :
    r.alignTo align = .ok (some r) := by
  have : align = 0 ∨ align = 1 := by
    simp only [← UInt64.toNat_inj, UInt64.toNat_zero, UInt64.toNat_one]
    omega
  rcases this with rfl | rfl <;> rfl

theorem covers_iff_toNat {r : Range} {p : UInt64} :
    r.Covers p ↔ r.min.toNat ≤ p.toNat ∧ p.toNat ≤ r.max.toNat := by
  simp only [Covers, UInt64.le_iff_toNat_le]

theorem contain_iff_toNat {a b : Range} :
    a.contain b = true ↔ a.min.toNat ≤ b.min.toNat ∧ b.max.toNat ≤ a.max.toNat := by
  simp only [contain_eq, Bool.and_eq_true, decide_eq_true_eq, ge_iff_le, UInt64.le_iff_toNat_le]

theorem contain_refl (k : Range) : k.contain k = true := by
  simp only [contain_eq, Bool.and_eq_true, decide_eq_true_eq, ge_iff_le]
  exact ⟨UInt64.le_refl _, UInt64.le_refl _⟩

end Range

namespace Constraint

variable (c : Constraint)

/-- A start the alignment allows: any address for an alignment of 0 or 1, a multiple of the
alignment otherwise. -/
def AlignedAt (a : Nat) : Prop := c.align.toNat ≤ 1 ∨ a % c.align.toNat = 0

/-- `k` holds `c.size` addresses within `[c.min, c.max]` from a start the alignment allows. -/
def Admits (k : Range) : Prop :=
  ∃ a, c.AlignedAt a ∧ Max.max k.min.toNat c.min.toNat ≤ a ∧
    a + c.size.toNat ≤ Min.min k.max.toNat c.max.toNat + 1

/-- The alignments that `align_to` rounds to: 0, 1 and the powers of two. -/
def AlignSupported : Prop := c.align.toNat ≤ 1 ∨ ∃ j, c.align.toNat = 2 ^ j

/-- An entry that `check_constraint` accepts. -/
def Fits {T : Type} (e : Range × NodeState T) : Prop :=
  e.2 = .Free ∧ c.AlignSupported ∧ c.Admits e.1

/-- The least address at or after the clipped start of `x` that the alignment allows, as
`allocate` computes it with `align_to`. -/
def start (x : Range) : Nat :=
  if c.align.toNat ≤ 1 then Max.max x.min.toNat c.min.toNat
  else Align.roundUp (Max.max x.min.toNat c.min.toNat) c.align.toNat

variable {c}

theorem admits_iff_of_align_le_one {k : Range} (h : c.align.toNat ≤ 1) :
    c.Admits k ↔ Max.max k.min.toNat c.min.toNat + c.size.toNat ≤ Min.min k.max.toNat c.max.toNat + 1 := by
  constructor
  · rintro ⟨a, -, hlo, hhi⟩
    omega
  · intro hfit
    exact ⟨_, .inl h, le_refl _, hfit⟩

/-- For an alignment of at least 2, a piece fits when it fits from the least multiple of the
alignment at or after the clipped start. -/
theorem admits_iff_roundUp {k : Range} (h2 : 2 ≤ c.align.toNat) :
    c.Admits k ↔ Align.roundUp (Max.max k.min.toNat c.min.toNat) c.align.toNat + c.size.toNat ≤
      Min.min k.max.toNat c.max.toNat + 1 := by
  obtain ⟨hge, hmod, -, hleast⟩ :=
    Align.roundUp_properties (Max.max k.min.toNat c.min.toNat) c.align.toNat (by omega)
  constructor
  · rintro ⟨a, ha | ha, hlo, hhi⟩
    · omega
    · have := hleast a hlo ha
      omega
  · intro hfit
    exact ⟨_, .inr hmod, hge, hfit⟩

/-- The start is allowed by the alignment, lies at or after the clipped start, and is the least
such address. -/
theorem start_least (x : Range) :
    c.AlignedAt (c.start x) ∧ Max.max x.min.toNat c.min.toNat ≤ c.start x ∧
      ∀ b, c.AlignedAt b → Max.max x.min.toNat c.min.toNat ≤ b → c.start x ≤ b := by
  unfold start
  split_ifs with h
  · exact ⟨.inl h, le_refl _, fun _ _ hb => hb⟩
  · obtain ⟨hge, hmod, -, hleast⟩ :=
      Align.roundUp_properties (Max.max x.min.toNat c.min.toNat) c.align.toNat (by omega)
    refine ⟨.inr hmod, hge, fun b hb hle => ?_⟩
    rcases hb with hb | hb
    · omega
    · exact hleast b hle hb

/-- A piece of the requested size fits from the start. -/
theorem start_add_size_le {x : Range} (hadm : c.Admits x) :
    c.start x + c.size.toNat ≤ Min.min x.max.toNat c.max.toNat + 1 := by
  unfold start
  split_ifs with h
  · exact (admits_iff_of_align_le_one h).mp hadm
  · exact (admits_iff_roundUp (by omega)).mp hadm

/-- A piece of the requested size from the start lies in `x`. -/
theorem contain_piece {x r : Range} (hadm : c.Admits x) (hrmin : r.min.toNat = c.start x)
    (hrmax : r.max.toNat + 1 = r.min.toNat + c.size.toNat) : x.contain r = true := by
  have hfit := c.start_add_size_le hadm
  obtain ⟨-, hge, -⟩ := c.start_least x
  rw [Range.contain_iff_toNat]
  omega

/-- `align_to` of the clipped range of `x` starts at `c.start x`, for an alignment it rounds
to. -/
theorem alignTo_clip {x range : Range} (hsup : c.AlignSupported) (hr : range.Valid)
    (hfull : ¬range.IsFull) (hmin : range.min.toNat = Max.max x.min.toNat c.min.toNat) :
    Holds (fun _ => True) (fun o => ∀ a, o = some a → a.min.toNat = c.start x ∧ a.max = range.max)
      (range.alignTo c.align) := by
  by_cases h1 : c.align.toNat ≤ 1
  · rw [Range.alignTo_of_le_one range h1]
    rintro a ⟨⟩
    exact ⟨by rw [start, if_pos h1, hmin], rfl⟩
  obtain ⟨j, hj⟩ := hsup.resolve_left h1
  refine (Range.alignTo_pow2 hr hfull hj (by omega)).mono (fun _ h => h.elim) fun o ho => ?_
  rintro a rfl
  obtain ⟨hamin, hamax, -⟩ := ho
  exact ⟨by rw [start, if_neg h1, hamin, hmin], hamax⟩

theorem align_le_one_iff {a : UInt64} : (a == 0 || a == 1) = true ↔ a.toNat ≤ 1 := by
  simp only [Bool.or_eq_true, beq_iff_eq, ← UInt64.toNat_inj, UInt64.toNat_zero,
    UInt64.toNat_one]
  omega

end Constraint

namespace Tree

variable {T : Type}

/-- `check_constraint` accepts exactly the entries that fit; it can panic only in `Range::new`,
on a free node whose clipped range is the full range. -/
theorem checkConstraint_node {c : Constraint} (hs : c.size ≠ 0) (k : Range) (d : NodeState T)
    (l r : Tree T) (h : Nat) (m : UInt64) :
    Holds (fun _ => True) (fun b => b = true ↔ c.Fits (k, d))
      (checkConstraint c (node k d l r h m)) := by
  have hsize : 0 < c.size.toNat := by
    have : c.size.toNat ≠ 0 := fun h0 => hs (UInt64.toNat_inj.mp (by rw [h0]; rfl))
    omega
  simp only [checkConstraint]
  by_cases hfree : d.isFree = true
  case neg =>
    rw [if_neg hfree]
    show false = true ↔ c.Fits (k, d)
    simp only [Bool.false_eq_true, false_iff]
    rintro ⟨hd, -⟩
    exact hfree (by simp only at hd; rw [hd]; rfl)
  rw [if_pos hfree]
  have hd : d = .Free := by cases d <;> simp_all [NodeState.isFree]
  by_cases hle : Max.max k.min c.min ≤ Min.min k.max c.max
  case neg =>
    -- the node and the constraint's bounds do not meet
    rw [if_neg hle]
    show false = true ↔ c.Fits (k, d)
    simp only [Bool.false_eq_true, false_iff]
    rintro ⟨-, -, a, -, hlo, hhi⟩
    have := UInt64.lt_iff_toNat_lt.mp (UInt64.not_le.mp hle)
    simp only [UInt64.toNat_max, UInt64.toNat_min] at this hlo hhi
    omega
  rw [if_pos hle]
  refine ((Range.new_spec_full _ _).mono (fun _ _ => trivial) fun _ h => h).bind ?_
  rintro key ⟨hkv, hkf, hkmin, hkmax⟩
  have hlen := Range.len_toNat hkv hkf
  have hlo : key.min.toNat = Max.max k.min.toNat c.min.toNat := by rw [hkmin, UInt64.toNat_max]
  have hhi : key.max.toNat = Min.min k.max.toNat c.max.toNat := by rw [hkmax, UInt64.toNat_min]
  have hkle := UInt64.le_iff_toNat_le.mp hkv
  split_ifs with halign
  · -- an alignment of 0 or 1: the clipped range must be long enough
    have hle1 := Constraint.align_le_one_iff.mp halign
    show decide (key.len ≥ c.size) = true ↔ c.Fits (k, d)
    rw [decide_eq_true_iff, ge_iff_le, UInt64.le_iff_toNat_le, hlen]
    simp only [Constraint.Fits, hd, true_and]
    rw [Constraint.admits_iff_of_align_le_one hle1]
    constructor
    · intro hfit
      exact ⟨.inl hle1, by omega⟩
    · rintro ⟨-, hfit⟩
      omega
  have h2 : 2 ≤ c.align.toNat := by
    have := mt Constraint.align_le_one_iff.mpr halign
    omega
  by_cases hpow : ∃ j, c.align.toNat = 2 ^ j
  case neg =>
    -- `align_to` rejects an alignment that is no power of two
    rw [Range.alignTo_not_pow2 key h2 hpow]
    show false = true ↔ c.Fits (k, d)
    simp only [Bool.false_eq_true, false_iff]
    rintro ⟨-, hsup | hsup, -⟩
    · omega
    · exact hpow hsup
  obtain ⟨j, hj⟩ := hpow
  have hsup : c.AlignSupported := .inr ⟨j, hj⟩
  refine ((Range.alignTo_pow2 hkv hkf hj h2).mono (fun _ h => h.elim) fun _ h => h).bind ?_
  rintro (_ | x) hx
  · -- no multiple of the alignment in the clipped range
    show false = true ↔ c.Fits (k, d)
    simp only [Bool.false_eq_true, false_iff]
    rintro ⟨-, -, hadm⟩
    rw [Constraint.admits_iff_roundUp h2, ← hlo, ← hhi] at hadm
    simp only at hx
    omega
  · -- the piece must fit from the least multiple of the alignment
    obtain ⟨hxmin, hxmax, hxv⟩ := hx
    have hxf : ¬x.IsFull := by
      rintro ⟨h0, hm⟩
      have hround := Align.roundUp_properties key.min.toNat c.align.toNat (by omega)
      rw [h0, UInt64.toNat_zero] at hxmin
      exact hkf ⟨UInt64.toNat_inj.mp (by rw [UInt64.toNat_zero]; omega), hxmax ▸ hm⟩
    have hxlen := Range.len_toNat hxv hxf
    have hxle := UInt64.le_iff_toNat_le.mp hxv
    show decide (x.len ≥ c.size) = true ↔ c.Fits (k, d)
    rw [decide_eq_true_iff, ge_iff_le, UInt64.le_iff_toNat_le, hxlen]
    simp only [Constraint.Fits, hd, hsup, true_and]
    rw [Constraint.admits_iff_roundUp h2, ← hlo, ← hhi, ← hxmin, hxmax] at *
    omega

/-- The answer of a first-fit search of the entries `es`: the first entry that fits, a free one,
or nothing when none fits. -/
def FirstMatch (c : Constraint) (es : List (Range × NodeState T)) : Option Range → Prop
  | none => ∀ e ∈ es, ¬c.Fits e
  | some x => ∃ pre suf, es = pre ++ (x, .Free) :: suf ∧
      c.Fits ((x, .Free) : Range × NodeState T) ∧ ∀ e ∈ pre, ¬c.Fits e

theorem FirstMatch.mem_some {c : Constraint} {es : List (Range × NodeState T)} {x : Range}
    (h : FirstMatch c es (some x)) : (x, .Free) ∈ es ∧ c.Admits x := by
  obtain ⟨pre, suf, hes, ⟨-, -, hadm⟩, -⟩ := h
  exact ⟨by rw [hes]; simp, hadm⟩

/-- `first_match` answers the first entry in key order that `check_constraint` accepts, having
rejected every entry before it; or nothing, having rejected them all. -/
theorem firstMatch_first {c : Constraint} (hs : c.size ≠ 0) : ∀ t : Tree T,
    Holds (fun _ => True) (FirstMatch c (entries t)) (firstMatch c t)
  | nil => fun _ h => nomatch h
  | node k d l r h m => by
    simp only [firstMatch, pure_bind]
    refine (firstMatch_first hs l).bind ?_
    rintro (_ | x) hl
    case some =>
      -- found in the left child
      obtain ⟨pre, suf, hent, hfit, hpre⟩ := hl
      simp only [holds_pure]
      exact ⟨pre, suf ++ (k, d) :: entries r, by rw [entries_node, hent]; simp, hfit, hpre⟩
    -- the node itself, then the right child
    dsimp only
    refine (checkConstraint_node hs k d l r h m).bind fun b hb => ?_
    cases b
    case true =>
      rw [if_pos rfl, holds_pure]
      obtain ⟨hd, hfit⟩ := And.intro (hb.mp rfl).1 (hb.mp rfl)
      subst hd
      exact ⟨entries l, entries r, rfl, hfit, hl⟩
    rw [if_neg (by decide)]
    have hk : ¬c.Fits (k, d) := fun hfit => absurd (hb.mpr hfit) (by decide)
    refine (firstMatch_first hs r).mono (fun _ _ => trivial) ?_
    rintro (_ | x) hr
    · intro e he
      rcases mem_entries_node.mp he with he | rfl | he
      exacts [hl e he, hk, hr e he]
    · obtain ⟨pre, suf, hent, hfit, hpre⟩ := hr
      refine ⟨entries l ++ (k, d) :: pre, suf, by rw [entries_node, hent]; simp, hfit, ?_⟩
      intro e he
      simp only [List.mem_append, List.mem_cons] at he
      rcases he with he | rfl | he
      exacts [hl e he, hk, hpre e he]

theorem findCandidate_first {c : Constraint} (hs : c.size ≠ 0) (t : Tree T) :
    Holds (fun _ => True) (FirstMatch c (entries t)) (findCandidate c t) := by
  unfold findCandidate
  split <;> exact firstMatch_first hs t

/-- The entry `e` with the state of the key `q` replaced by `s`. -/
def setState (q : Range) (s : NodeState T) (e : Range × NodeState T) : Range × NodeState T :=
  if e.1 = q then (q, s) else e

theorem map_setState_of_not_mem {es : List (Range × NodeState T)} {q : Range} {s : NodeState T}
    (h : ∀ e ∈ es, e.1 ≠ q) : es.map (setState q s) = es := by
  induction es with
  | nil => rfl
  | cons e es ih =>
    rw [List.forall_mem_cons] at h
    rw [List.map_cons, ih h.2, setState, if_neg h.1]

theorem mem_map_setState {es : List (Range × NodeState T)} {q : Range} {s : NodeState T}
    (hq : q ∈ es.map Prod.fst) {e : Range × NodeState T} :
    e ∈ es.map (setState q s) ↔ (e ∈ es ∧ e.1 ≠ q) ∨ e = (q, s) := by
  rw [List.mem_map]
  constructor
  · rintro ⟨e₀, he₀, rfl⟩
    unfold setState
    split_ifs with h
    · exact .inr rfl
    · exact .inl ⟨he₀, h⟩
  · rintro (⟨he, hne⟩ | rfl)
    · exact ⟨e, he, if_neg hne⟩
    · obtain ⟨e₀, he₀, hfst⟩ := List.mem_map.mp hq
      exact ⟨e₀, he₀, if_pos hfst⟩

/-- `update` replaces the state of the entry `q`, leaves every other entry, and answers the old
value of `q`; it panics only on a transition of the state of `q` that it refuses. -/
theorem update_entries (q : Range) (s : NodeState T) : ∀ {t : Tree T}, WellFormed t →
    Holds (fun _ => ∃ d, (q, d) ∈ entries t ∧ refusesUpdate d s = true)
      (fun res => entries res.1 = (entries t).map (setState q s) ∧
        ∀ d, (q, d) ∈ entries t → res.2 = d.toOption)
      (update q s t)
  | nil, _ => ⟨rfl, fun _ h => nomatch h⟩
  | node k d l r h m, hwf => by
    obtain ⟨hwl, hwr, -⟩ := wellFormed_node_iff.mp hwf
    have hlk : ∀ e ∈ entries l, e.1 ≠ k := fun e he heq =>
      not_mem_keys_left_self hwf (heq ▸ mem_keys.mpr ⟨e.2, he⟩)
    have hrk : ∀ e ∈ entries r, e.1 ≠ k := fun e he heq =>
      not_mem_keys_right_self hwf (heq ▸ mem_keys.mpr ⟨e.2, he⟩)
    rw [update.eq_def]
    rcases hcmp : k.cmp q with _ | _ | _
    case lt =>
      -- the entry is in the right child, if anywhere
      simp only [hcmp]
      have hl : ∀ e ∈ entries l, e.1 ≠ q := fun e he heq =>
        not_mem_keys_left_of_cmp_lt hwf hcmp (heq ▸ mem_keys.mpr ⟨e.2, he⟩)
      have hkq : k ≠ q := fun heq => by simp [heq, Range.cmp_eq_eq.mpr] at hcmp
      refine ((update_entries q s hwr).mono (fun _ h =>
        h.imp fun _ hd => ⟨mem_entries_node.mpr (.inr (.inr hd.1)), hd.2⟩) fun _ h => h).bind ?_
      rintro ⟨r', old⟩ ⟨hent, hold⟩
      refine ⟨?_, fun d' hd' => ?_⟩
      · show entries (node k d l r' h m) = _
        rw [entries_node, entries_node, List.map_append, List.map_cons,
          map_setState_of_not_mem hl, hent]
        simp [setState, hkq]
      · rcases mem_entries_node.mp hd' with hd' | hd' | hd'
        · exact absurd rfl (hl _ hd')
        · exact absurd (Prod.mk.inj hd').1.symm hkq
        · exact hold d' hd'
    case eq =>
      obtain rfl := Range.cmp_eq_eq.mp hcmp
      simp only [hcmp]
      split_ifs with href
      · exact ⟨d, mem_entries_node.mpr (.inr (.inl rfl)), href⟩
      refine ⟨?_, fun d' hd' => ?_⟩
      · show entries (node k s l r h m) = _
        rw [entries_node, entries_node, List.map_append, List.map_cons,
          map_setState_of_not_mem hlk, map_setState_of_not_mem hrk]
        simp [setState]
      · rcases mem_entries_node.mp hd' with hd' | hd' | hd'
        · exact absurd rfl (hlk _ hd')
        · rw [(Prod.mk.inj hd').2]
        · exact absurd rfl (hrk _ hd')
    case gt =>
      simp only [hcmp]
      have hr : ∀ e ∈ entries r, e.1 ≠ q := fun e he heq =>
        not_mem_keys_right_of_cmp_gt hwf hcmp (heq ▸ mem_keys.mpr ⟨e.2, he⟩)
      have hkq : k ≠ q := fun heq => by simp [heq, Range.cmp_eq_eq.mpr] at hcmp
      refine ((update_entries q s hwl).mono (fun _ h =>
        h.imp fun _ hd => ⟨mem_entries_node.mpr (.inl hd.1), hd.2⟩) fun _ h => h).bind ?_
      rintro ⟨l', old⟩ ⟨hent, hold⟩
      refine ⟨?_, fun d' hd' => ?_⟩
      · show entries (node k d l' r h m) = _
        rw [entries_node, entries_node, List.map_append, List.map_cons,
          map_setState_of_not_mem hr, hent]
        simp [setState, hkq]
      · rcases mem_entries_node.mp hd' with hd' | hd' | hd'
        · exact hold d' hd'
        · exact absurd (Prod.mk.inj hd').1.symm hkq
        · exact absurd rfl (hr _ hd')

/-- In a well-formed tree a key has one state. -/
theorem state_unique {t : Tree T} (hwf : WellFormed t) {k : Range} {s s' : NodeState T}
    (hs : (k, s) ∈ entries t) (hs' : (k, s') ∈ entries t) : s = s' := by
  have hk : k.Valid := hwf.ordered.2 k (mem_keys.mpr ⟨s, hs⟩)
  exact (Prod.mk.inj (eq_of_contain hwf hk hs hs' (k.contain_refl) (k.contain_refl))).2

end Tree

namespace IntervalTree

variable {T : Type}

section Entries

variable {t : IntervalTree T} (hwf : t.WellFormed)
include hwf

theorem delete_entries (key : Range) :
    Holds (fun _ => True)
      (fun res => res.1.WellFormed ∧ ∀ e, e ∈ Tree.entries res.1.root ↔
        e ∈ Tree.entries t.root ∧ e.1 ≠ key)
      (t.delete key) := by
  unfold IntervalTree.delete
  refine ((Tree.delete_spec key hwf).mono (fun _ h => h.elim) fun _ h => h).map ?_
  rintro ⟨data, root⟩ h
  exact ⟨h.wellFormed, h.mem_entries⟩

theorem insert_entries {key : Range} (hkey : key.Valid) (data : Option T) :
    Holds (fun _ => True)
      (fun t' => t'.WellFormed ∧ ∀ e, e ∈ Tree.entries t'.root ↔
        e = (key, Tree.newValue data) ∨ e ∈ Tree.entries t.root)
      (t.insert key data) := by
  unfold IntervalTree.insert
  refine ((Tree.insert_spec hkey data hwf).mono (fun _ _ => trivial) fun _ h => h).map ?_
  intro root h
  exact ⟨h.wellFormed, h.mem_entries⟩

theorem insertRange_entries (min max : UInt64) :
    Holds (fun _ => True)
      (fun t' => t'.WellFormed ∧ ∀ e, e ∈ Tree.entries t'.root ↔
        e = (⟨min, max⟩, .Free) ∨ e ∈ Tree.entries t.root)
      (t.insertRange min max) := by
  unfold insertRange
  refine ((Range.new_spec min max).mono (fun _ _ => trivial) fun _ h => h).bind ?_
  rintro key ⟨hkey, rfl, rfl⟩
  exact insert_entries hwf hkey none

/-- Marking a key allocated replaces its state and leaves every other entry. -/
theorem markAllocated_entries {key : Range} (hkey : key ∈ Tree.keys t.root) :
    Holds (fun _ => True)
      (fun t' => t'.WellFormed ∧ ∀ e, e ∈ Tree.entries t'.root ↔
        (e ∈ Tree.entries t.root ∧ e.1 ≠ key) ∨ e = (key, .Allocated))
      (t.markAllocated key) := by
  have hent : Holds (fun _ => True)
      (fun t' => ∀ e, e ∈ Tree.entries t'.root ↔
        (e ∈ Tree.entries t.root ∧ e.1 ≠ key) ∨ e = (key, .Allocated))
      (t.markAllocated key) := by
    unfold markAllocated
    split
    · trivial
    · refine ((Tree.update_entries key .Allocated hwf).mono (fun _ _ => trivial)
        fun _ h => h).map ?_
      rintro ⟨root, old⟩ ⟨hent, -⟩ e
      show e ∈ Tree.entries root ↔ _
      rw [hent]
      exact Tree.mem_map_setState hkey
  exact ((markAllocated_wellFormed hwf key).mono (fun _ _ => trivial) fun _ h => h).and hent

end Entries

/-- What `allocate` answers when it returns: nothing, with the tree unchanged, when no entry
fits; or the piece `r` of `c.size` addresses from `c.start x` of the first entry `x` that fits,
with `x` replaced by the piece, allocated, and the free rest of `x` on either side of it. -/
def AllocateResult (c : Constraint) (t : IntervalTree T) : IntervalTree T × Option Range → Prop
  | (t', none) => t' = t ∧ Tree.FirstMatch c (Tree.entries t.root) none
  | (t', some r) => t'.WellFormed ∧ ∃ x, Tree.FirstMatch c (Tree.entries t.root) (some x) ∧
      r.Valid ∧ r.min.toNat = c.start x ∧ r.max.toNat + 1 = r.min.toNat + c.size.toNat ∧
      ∀ e, e ∈ Tree.entries t'.root ↔ (e ∈ Tree.entries t.root ∧ e.1 ≠ x) ∨ e = (r, .Allocated) ∨
        (x.min < r.min ∧ e = (⟨x.min, r.min - 1⟩, .Free)) ∨
        (r.max < x.max ∧ e = (⟨r.max + 1, x.max⟩, .Free))

theorem allocate_size_zero (t : IntervalTree T) {c : Constraint} (h0 : c.size = 0) :
    t.allocate c = .ok (t, none) := by
  unfold allocate
  rw [if_pos (by simp [h0])]

/-- The piece that `allocate` answers lies in the free entry it was cut from. -/
theorem AllocateResult.piece {t t' : IntervalTree T} {c : Constraint} {r : Range}
    (h : AllocateResult c t (t', some r)) :
    t'.WellFormed ∧ r.Valid ∧ ∃ x, (x, NodeState.Free) ∈ Tree.entries t.root ∧
      x.contain r = true ∧ ∀ e, e ∈ Tree.entries t'.root ↔
        (e ∈ Tree.entries t.root ∧ e.1 ≠ x) ∨ e = (r, .Allocated) ∨
          (x.min < r.min ∧ e = (⟨x.min, r.min - 1⟩, .Free)) ∨
          (r.max < x.max ∧ e = (⟨r.max + 1, x.max⟩, .Free)) := by
  obtain ⟨hwf', x, hx, hrv, hrmin, hrmax, hent⟩ := h
  obtain ⟨hxmem, hadm⟩ := hx.mem_some
  exact ⟨hwf', hrv, x, hxmem, Constraint.contain_piece hadm hrmin hrmax, hent⟩

/-- The piece that `allocate` cuts out: `c.size` addresses from `start`, which do not wrap. -/
theorem result_max_toNat {start size : UInt64} (hs : 0 < size.toNat)
    (hfit : start.toNat + size.toNat ≤ 2 ^ 64) :
    (start + size - 1).toNat + 1 = start.toNat + size.toNat := by
  rw [UInt64.toNat_sub, UInt64.toNat_add, UInt64.toNat_one]
  by_cases hlt : start.toNat + size.toNat < 2 ^ 64
  · rw [Nat.mod_eq_of_lt hlt]
    omega
  · rw [show start.toNat + size.toNat = 2 ^ 64 by omega]
    rfl

/-- The two free pieces around the allocated one and the entries other than the candidate all
have keys other than the piece's. -/
theorem key_ne_result {t : Tree T} (hwf : t.WellFormed) {x result : Range}
    (hx : (x, NodeState.Free) ∈ Tree.entries t) (hresv : result.Valid)
    (hxr : x.contain result = true) {e : Range × NodeState T}
    (he : (e ∈ Tree.entries t ∧ e.1 ≠ x) ∨ (x.min < result.min ∧ e = (⟨x.min, result.min - 1⟩, .Free)) ∨
      (result.max < x.max ∧ e = (⟨result.max + 1, x.max⟩, .Free))) :
    e.1 ≠ result := by
  have hle := UInt64.le_iff_toNat_le.mp hresv
  rcases he with ⟨he, hne⟩ | ⟨hlt, rfl⟩ | ⟨hlt, rfl⟩
  · -- an entry holding the piece would be the candidate
    intro heq
    have hc : e.1.contain result = true := heq ▸ result.contain_refl
    exact hne (congrArg Prod.fst (Tree.eq_of_contain hwf hresv he hx hc hxr))
  · intro heq
    have hmax := congrArg Range.max heq
    have hlt' := UInt64.lt_iff_toNat_lt.mp hlt
    have hsub := UInt64.toNat_sub_of_le result.min 1 (UInt64.le_iff_toNat_le.mpr (by
      rw [UInt64.toNat_one]; omega))
    simp only at hmax
    rw [← UInt64.toNat_inj, hsub, UInt64.toNat_one] at hmax
    omega
  · intro heq
    have hmin := congrArg Range.min heq
    have hlt' := UInt64.lt_iff_toNat_lt.mp hlt
    have hadd := UInt64.toNat_add result.max 1
    have hxmax := UInt64.toNat_lt x.max
    simp only at hmin
    rw [← UInt64.toNat_inj, hadd, UInt64.toNat_one, Nat.mod_eq_of_lt (by omega)] at hmin
    omega

/-- `allocate` takes the first free entry that fits and cuts the piece out of it, or answers
nothing when no entry fits. -/
theorem allocate_spec {t : IntervalTree T} (hwf : t.WellFormed) {c : Constraint}
    (hs : c.size ≠ 0) : Holds (fun _ => True) (AllocateResult c t) (t.allocate c) := by
  have hsize : 0 < c.size.toNat := by
    have : c.size.toNat ≠ 0 := fun h0 => hs (UInt64.toNat_inj.mp (by rw [h0]; rfl))
    omega
  unfold allocate
  rw [if_neg (by simpa using hs)]
  refine (Tree.findCandidate_first hs t.root).bind ?_
  rintro (_ | x) hx
  · exact ⟨rfl, hx⟩
  obtain ⟨pre, suf, hent, ⟨-, hsup, hadm⟩, -⟩ := id hx
  change c.Admits x at hadm
  have hxmem : (x, NodeState.Free) ∈ Tree.entries t.root := by rw [hent]; simp
  have hxkey : x ∈ Tree.keys t.root := Tree.mem_keys.mpr ⟨_, hxmem⟩
  have hxv := UInt64.le_iff_toNat_le.mp (hwf.ordered.2 x hxkey)
  have hfit := c.start_add_size_le hadm
  obtain ⟨-, hge, -⟩ := c.start_least x
  refine ((Range.new_spec_full _ _).mono (fun _ _ => trivial) fun _ h => h).bind ?_
  rintro range ⟨hrv, hrf, hrmin, hrmax⟩
  have hrmin' : range.min.toNat = Max.max x.min.toNat c.min.toNat := by
    rw [hrmin, UInt64.toNat_max]
  have hrmax' : range.max.toNat = Min.min x.max.toNat c.max.toNat := by
    rw [hrmax, UInt64.toNat_min]
  refine (c.alignTo_clip hsup hrv hrf hrmin').bind ?_
  rintro (_ | aligned) ha
  · trivial
  obtain ⟨hamin, hamax⟩ := ha aligned rfl
  -- the `unwrap()` of the aligned range
  refine Holds.bind (P := (· = aligned)) rfl ?_
  intro alignedKey hk
  subst alignedKey
  refine ((Range.new_spec_full _ _).mono (fun _ _ => trivial) fun _ h => h).bind ?_
  rintro result ⟨hresv, hresf, hresmin, hresmax⟩
  have hres : result.max.toNat + 1 = result.min.toNat + c.size.toNat := by
    rw [hresmax, hresmin]
    have := UInt64.toNat_lt x.max
    exact result_max_toNat hsize (by omega)
  have hresmin' : result.min.toNat = c.start x := by rw [hresmin, hamin]
  have hxr : x.contain result = true := by
    rw [Range.contain_iff_toNat]
    omega
  by_cases hfast : (x.min == aligned.min && x.len == c.size) = true
  · -- the candidate is the piece: it is marked allocated as it is
    rw [if_pos hfast]
    simp only [Bool.and_eq_true, beq_iff_eq] at hfast
    obtain ⟨hxmin, hlen⟩ := hfast
    have hxf : ¬x.IsFull := by
      rintro ⟨h0, hm⟩
      apply hs
      rw [← hlen, Range.len, h0, hm]
      rfl
    have hxlen := Range.len_toNat (UInt64.le_iff_toNat_le.mpr hxv) hxf
    rw [hlen] at hxlen
    refine (markAllocated_entries hwf hxkey).bind ?_
    rintro t' ⟨hwf', hent'⟩
    refine ⟨hwf', x, hx, UInt64.le_iff_toNat_le.mpr hxv, by rw [hxmin, hamin], by omega,
      fun e => ?_⟩
    rw [hent']
    simp only [UInt64.lt_irrefl, false_and, or_false]
  -- the candidate is split: deleted, its free rest inserted around the piece
  rw [if_neg hfast]
  refine (delete_entries hwf x).bind ?_
  rintro ⟨t₁, _⟩ ⟨hwf₁, h₁⟩
  dsimp only
  have hleft : Holds (fun _ => True)
      (fun t₂ : IntervalTree T => t₂.WellFormed ∧ ∀ e, e ∈ Tree.entries t₂.root ↔
        (x.min < result.min ∧ e = (⟨x.min, result.min - 1⟩, .Free)) ∨ e ∈ Tree.entries t₁.root)
      (if result.min > x.min then t₁.insertRange x.min (result.min - 1) else pure t₁) := by
    split_ifs with hlt
    · refine (insertRange_entries hwf₁ _ _).mono (fun _ _ => trivial) ?_
      rintro t₂ ⟨hw, he⟩
      exact ⟨hw, fun e => by rw [he]; simp only [gt_iff_lt.mp hlt, true_and]⟩
    · exact ⟨hwf₁, fun e => by simp only [gt_iff_lt.not.mp hlt, false_and, false_or]⟩
  have hright (t₃ : IntervalTree T) (hwf₃ : t₃.WellFormed) : Holds (fun _ => True)
      (fun t₄ : IntervalTree T => t₄.WellFormed ∧ ∀ e, e ∈ Tree.entries t₄.root ↔
        (result.max < x.max ∧ e = (⟨result.max + 1, x.max⟩, .Free)) ∨ e ∈ Tree.entries t₃.root)
      (if result.max < x.max then t₃.insertRange (result.max + 1) x.max else pure t₃) := by
    split_ifs with hlt
    · refine (insertRange_entries hwf₃ _ _).mono (fun _ _ => trivial) ?_
      rintro t₄ ⟨hw, he⟩
      exact ⟨hw, fun e => by rw [he]; simp only [hlt, true_and]⟩
    · exact ⟨hwf₃, fun e => by simp only [hlt, false_and, false_or]⟩
  rw [hresmin] at hleft
  refine hleft.bind ?_
  rintro t₂ ⟨hwf₂, h₂⟩
  refine (insert_entries hwf₂ hresv none).bind ?_
  rintro t₃ ⟨hwf₃, h₃⟩
  refine (hright t₃ hwf₃).bind ?_
  rintro t₄ ⟨hwf₄, h₄⟩
  have hkey₄ : result ∈ Tree.keys t₄.root :=
    Tree.mem_keys.mpr ⟨.Free, (h₄ _).mpr (.inr ((h₃ _).mpr (.inl rfl)))⟩
  refine (markAllocated_entries hwf₄ hkey₄).bind ?_
  rintro t₅ ⟨hwf₅, h₅⟩
  refine ⟨hwf₅, x, hx, hresv, hresmin', hres, fun e => ?_⟩
  rw [← hresmin] at h₂
  have hne := fun he => key_ne_result hwf hxmem hresv hxr (e := e) he
  simp only [h₅, h₄, h₃, h₂, h₁, Tree.newValue]
  constructor
  · rintro (⟨hR | hF | hL | hO, hne'⟩ | hA)
    · exact .inr (.inr (.inr hR))
    · exact absurd (congrArg Prod.fst hF) hne'
    · exact .inr (.inr (.inl hL))
    · exact .inl hO
    · exact .inr (.inl hA)
  · rintro (hO | hA | hL | hR)
    · exact .inl ⟨.inr (.inr (.inr hO)), hne (.inl hO)⟩
    · exact .inr hA
    · exact .inl ⟨.inr (.inr (.inl hL)), hne (.inr (.inl hL))⟩
    · exact .inl ⟨.inl hR, hne (.inr (.inr hR))⟩

/-- The state of the point `p` in the tree: that of an entry whose key covers it. -/
def StateAt (t : IntervalTree T) (p : UInt64) (s : NodeState T) : Prop :=
  ∃ y, (y, s) ∈ Tree.entries t.root ∧ y.Covers p

/-- Cutting the piece `r` out of the free entry `x` changes the state of no point outside `r`:
a point of `x` outside `r` lies in one of the two free pieces left of `x`. -/
theorem stateAt_outside {t t' : IntervalTree T} (hwf : t.WellFormed) {x r : Range}
    (hx : (x, NodeState.Free) ∈ Tree.entries t.root) (hr : r.Valid) (hxr : x.contain r = true)
    (hent : ∀ e, e ∈ Tree.entries t'.root ↔ (e ∈ Tree.entries t.root ∧ e.1 ≠ x) ∨
      e = (r, .Allocated) ∨ (x.min < r.min ∧ e = (⟨x.min, r.min - 1⟩, .Free)) ∨
        (r.max < x.max ∧ e = (⟨r.max + 1, x.max⟩, .Free)))
    {p : UInt64} (hp : ¬r.Covers p) (s : NodeState T) : t'.StateAt p s ↔ t.StateAt p s := by
  rw [Range.contain_iff_toNat] at hxr
  rw [Range.covers_iff_toNat] at hp
  have hr' := UInt64.le_iff_toNat_le.mp hr
  have hrmax := UInt64.toNat_lt r.max
  have hxmax := UInt64.toNat_lt x.max
  -- the ends of the free pieces, which do not wrap
  have hleft (hlt : x.min < r.min) : (r.min - 1).toNat = r.min.toNat - 1 := by
    have := UInt64.lt_iff_toNat_lt.mp hlt
    rw [UInt64.toNat_sub_of_le _ _ (UInt64.le_iff_toNat_le.mpr (by rw [UInt64.toNat_one]; omega)),
      UInt64.toNat_one]
  have hright (hlt : r.max < x.max) : (r.max + 1).toNat = r.max.toNat + 1 := by
    have := UInt64.lt_iff_toNat_lt.mp hlt
    rw [UInt64.toNat_add, UInt64.toNat_one, Nat.mod_eq_of_lt (by omega)]
  constructor
  · rintro ⟨y, hy, hcov⟩
    rw [Range.covers_iff_toNat] at hcov
    rcases (hent _).mp hy with ⟨hy, -⟩ | hA | ⟨hlt, hL⟩ | ⟨hlt, hR⟩
    · exact ⟨y, hy, Range.covers_iff_toNat.mpr hcov⟩
    · -- the piece covers only its own points
      obtain ⟨rfl, -⟩ := Prod.mk.inj hA
      exact absurd hcov hp
    · obtain ⟨rfl, rfl⟩ := Prod.mk.inj hL
      have := hleft hlt
      simp only at hcov
      exact ⟨x, hx, Range.covers_iff_toNat.mpr (by omega)⟩
    · obtain ⟨rfl, rfl⟩ := Prod.mk.inj hR
      have := hright hlt
      simp only at hcov
      exact ⟨x, hx, Range.covers_iff_toNat.mpr (by omega)⟩
  · rintro ⟨y, hy, hcov⟩
    by_cases hyx : y = x
    case neg => exact ⟨y, (hent _).mpr (.inl ⟨hy, hyx⟩), hcov⟩
    -- a point of the candidate outside the piece, on the left of it or on the right
    subst hyx
    obtain rfl : s = .Free := Tree.state_unique hwf hy hx
    rw [Range.covers_iff_toNat] at hcov
    by_cases hpl : p.toNat < r.min.toNat
    · have hlt : y.min < r.min := UInt64.lt_iff_toNat_lt.mpr (by omega)
      have := hleft hlt
      exact ⟨_, (hent _).mpr (.inr (.inr (.inl ⟨hlt, rfl⟩))),
        Range.covers_iff_toNat.mpr (by simp only; omega)⟩
    · have hlt : r.max < y.max := UInt64.lt_iff_toNat_lt.mpr (by omega)
      have := hright hlt
      exact ⟨_, (hent _).mpr (.inr (.inr (.inr ⟨hlt, rfl⟩))),
        Range.covers_iff_toNat.mpr (by simp only; omega)⟩

/-- The first entry that fits comes before every other free entry that admits the piece, when
the alignment is one that `align_to` rounds to. -/
theorem firstMatch_least {t : IntervalTree T} (hwf : t.WellFormed) {c : Constraint} {x : Range}
    (hx : Tree.FirstMatch c (Tree.entries t.root) (some x)) :
    ∀ y, (y, NodeState.Free) ∈ Tree.entries t.root → y.Before x → ¬c.Admits y := by
  obtain ⟨pre, suf, hent, ⟨-, hsup, -⟩, hpre⟩ := hx
  intro y hy hyx hadm
  have hsorted := hwf.ordered.1
  rw [Tree.keys, List.pairwise_map, hent, List.pairwise_append, List.pairwise_cons] at hsorted
  have hyv := UInt64.le_iff_toNat_le.mp (hwf.ordered.2 y (Tree.mem_keys.mpr ⟨_, hy⟩))
  have hxv := UInt64.le_iff_toNat_le.mp
    (hwf.ordered.2 x (Tree.mem_keys.mpr ⟨_, hent ▸ List.mem_append_right _ List.mem_cons_self⟩))
  have hyx' := UInt64.lt_iff_toNat_lt.mp hyx
  rw [hent, List.mem_append, List.mem_cons] at hy
  rcases hy with hy | hy | hy
  · exact hpre _ hy ⟨rfl, hsup, hadm⟩
  · -- the candidate does not end before it starts
    obtain rfl := (Prod.mk.inj hy).1
    omega
  · -- an entry after the candidate starts after it ends
    have hxy : x.Before y := hsorted.2.1.1 _ hy
    have := UInt64.lt_iff_toNat_lt.mp hxy
    omega

theorem allocate_first_fit {t : IntervalTree T} (ht : t.Reachable) (c : Constraint) :
    (c.size = 0 → t.allocate c = .ok (t, none)) ∧
    (∀ t', t.allocate c = .ok (t', none) → t' = t ∧
      (c.size ≠ 0 → c.AlignSupported →
        ∀ x, (x, NodeState.Free) ∈ Tree.entries t.root → ¬c.Admits x)) ∧
    ∀ t' r, t.allocate c = .ok (t', some r) →
      r.len = c.size ∧ c.min ≤ r.min ∧ r.max ≤ c.max ∧ (2 ≤ c.align → r.min % c.align = 0) ∧
      (∃ x, (x, NodeState.Free) ∈ Tree.entries t.root ∧ x.contain r = true ∧ c.Admits x ∧
        (∀ y, (y, NodeState.Free) ∈ Tree.entries t.root → y.Before x → ¬c.Admits y) ∧
        Max.max x.min c.min ≤ r.min ∧
        ∀ b : UInt64, c.AlignedAt b.toNat → Max.max x.min c.min ≤ b → r.min ≤ b) ∧
      t'.get r = some .Allocated ∧
      ∀ p, ¬r.Covers p → ∀ s, t'.StateAt p s ↔ t.StateAt p s := by
  have hwf := ht.wellFormed
  refine ⟨t.allocate_size_zero, fun t' h => ?_, fun t' r h => ?_⟩
  · by_cases hs : c.size = 0
    · rw [t.allocate_size_zero hs] at h
      exact ⟨(Prod.mk.inj (Except.ok.inj h)).1.symm, fun h0 => absurd hs h0⟩
    have hres := allocate_spec hwf hs
    rw [h] at hres
    obtain ⟨rfl, hnone⟩ := hres
    exact ⟨rfl, fun _ hsup x hx hadm => hnone _ hx ⟨rfl, hsup, hadm⟩⟩
  -- an answer comes from the split or the fast path, never from a size of 0
  have hs : c.size ≠ 0 := fun h0 => by simp [t.allocate_size_zero h0] at h
  have hres := allocate_spec hwf hs
  rw [h] at hres
  obtain ⟨hwf', x, hx, hrv, hrmin, hrmax, hent⟩ := hres
  obtain ⟨hxmem, hadm⟩ := hx.mem_some
  have hfit := c.start_add_size_le hadm
  obtain ⟨haligned, hge, hleast⟩ := c.start_least x
  have hxr := Constraint.contain_piece hadm hrmin hrmax
  have hrf : ¬r.IsFull := by
    rintro ⟨h0, hm⟩
    have := UInt64.toNat_lt c.size
    have h0' : r.min.toNat = 0 := by rw [h0]; rfl
    have hm' : r.max.toNat = 2 ^ 64 - 1 := by rw [hm]; rfl
    omega
  have hlen := Range.len_toNat hrv hrf
  have hrv' := UInt64.le_iff_toNat_le.mp hrv
  have hmin : (Max.max x.min c.min).toNat ≤ r.min.toNat := by
    rw [UInt64.toNat_max]
    omega
  refine ⟨UInt64.toNat_inj.mp (show r.len.toNat = c.size.toNat by omega),
    UInt64.le_iff_toNat_le.mpr (by omega),
    UInt64.le_iff_toNat_le.mpr (by omega), fun h2 => ?_, ⟨x, hxmem, hxr, hadm,
    firstMatch_least hwf hx, UInt64.le_iff_toNat_le.mpr hmin, fun b hb hbge => ?_⟩,
    (get_eq_some_iff hwf').mpr ((hent _).mpr (.inr (.inl rfl))),
    fun p hp s => stateAt_outside hwf hxmem hrv hxr hent hp s⟩
  · -- an alignment of at least 2 is one the start is a multiple of
    have h2' := UInt64.le_iff_toNat_le.mp h2
    rcases haligned with h1 | hmod
    · simp at h2'
      omega
    · rw [← UInt64.toNat_inj, UInt64.toNat_mod, hrmin, hmod, UInt64.toNat_zero]
  · have := hleast b.toNat hb (by rw [← UInt64.toNat_max]; exact UInt64.le_iff_toNat_le.mp hbge)
    exact UInt64.le_iff_toNat_le.mpr (by omega)

theorem allocate_first_fit_leaf :
    (⟨.node ⟨0, 0xff⟩ .Free .nil .nil 1 0xff⟩ : IntervalTree Unit).Reachable ∧
      (⟨.node ⟨0, 0xff⟩ .Free .nil .nil 1 0xff⟩ : IntervalTree Unit).allocate
        ⟨0x10, 0x18, 0xff, 0x10, .FirstMatch⟩ =
        .ok (⟨.node ⟨0x20, 0x2f⟩ .Allocated (.node ⟨0, 0x1f⟩ .Free .nil .nil 1 0x1f)
          (.node ⟨0x30, 0xff⟩ .Free .nil .nil 1 0xff) 2 0xff⟩, some ⟨0x20, 0x2f⟩) ∧
      (0x18 : UInt64) ≤ 0x20 ∧ (0x20 : UInt64) % 0x10 = 0 :=
  have ht : (⟨.node ⟨0, 0xff⟩ .Free .nil .nil 1 0xff⟩ : IntervalTree Unit).Reachable :=
    ⟨[.insert ⟨0, 0xff⟩ none], by decide, rfl⟩
  have hrun : (⟨.node ⟨0, 0xff⟩ .Free .nil .nil 1 0xff⟩ : IntervalTree Unit).allocate
        ⟨0x10, 0x18, 0xff, 0x10, .FirstMatch⟩ =
        .ok (⟨.node ⟨0x20, 0x2f⟩ .Allocated (.node ⟨0, 0x1f⟩ .Free .nil .nil 1 0x1f)
          (.node ⟨0x30, 0xff⟩ .Free .nil .nil 1 0xff) 2 0xff⟩, some ⟨0x20, 0x2f⟩) := rfl
  have hfit := ((allocate_first_fit ht ⟨0x10, 0x18, 0xff, 0x10, .FirstMatch⟩).2.2 _ _ hrun)
  ⟨ht, hrun, hfit.2.1, hfit.2.2.2.1 (by decide)⟩

/-- An alignment of 3 is no power of two: `align_to` answers `None` for it, so `allocate`
answers `None` although the free `[0, 0xf]` holds the aligned `[3, 3]`. -/
theorem allocate_align_three_none :
    (⟨.node ⟨0, 0xf⟩ .Free .nil .nil 1 0xf⟩ : IntervalTree Unit).Reachable ∧
      (⟨.node ⟨0, 0xf⟩ .Free .nil .nil 1 0xf⟩ : IntervalTree Unit).allocate
        ⟨1, 0, 0xf, 3, .FirstMatch⟩ = .ok (⟨.node ⟨0, 0xf⟩ .Free .nil .nil 1 0xf⟩, none) ∧
      Constraint.Admits ⟨1, 0, 0xf, 3, .FirstMatch⟩ ⟨0, 0xf⟩ :=
  ⟨⟨[.insert ⟨0, 0xf⟩ none], by decide, rfl⟩, rfl, ⟨3, .inr rfl, by decide, by decide⟩⟩

end IntervalTree

end KataContainers.Allocator

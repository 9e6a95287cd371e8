import Mathlib

/-!
# Binary64 arithmetic, rounding to nearest with ties to even

A finite double is a sign and a magnitude, and the magnitude is kept *scaled*: as the integer
multiple of the smallest subnormal `2^-1074` that it is. The scaled magnitudes of doubles are the
numbers `m * 2^p` with `m < 2^53` below `2^2098`, the scaled `2^1024` (`IsMag`). An operation
forms its exact result as a quotient `a / d` of naturals in scaled units and rounds it once
(`round`): to the nearest multiple of the unit in the last place of its binade, a tie to the even
multiple, and to an infinity from `2^2098` on. Comparisons and the conversions to integers are
exact. Closed computations over these numbers go through the kernel's arithmetic on naturals,
so they are checked with `decide +kernel`.
-/

namespace Binary64

/-- `a / d` rounded to the nearest natural, a tie to the even one. -/
def rne (a d : Nat) : Nat :=
  if 2 * (a % d) < d then a / d
  else if d < 2 * (a % d) then a / d + 1
  else if a / d % 2 = 0 then a / d
  else a / d + 1

/- The definitions of this section as equations: the proofs rewrite with these and do not unfold
the definitions. -/

theorem rne_eq (a d : Nat) :
    rne a d =
      if 2 * (a % d) < d then a / d
      else if d < 2 * (a % d) then a / d + 1
      else if a / d % 2 = 0 then a / d
      else a / d + 1 := rfl

/-- The exponent of the unit in the last place of `a / d`, in scaled units: the binade of
`a / d` less the 52 bits of the fraction, and `0` among the subnormals. -/
def ulpExp (a d : Nat) : Nat := (a / d).log2 - 52

theorem ulpExp_eq (a d : Nat) : ulpExp a d = (a / d).log2 - 52 := rfl

/-- `a / d` rounded to the grid of doubles, with no bound on the exponent. -/
def roundMag (a d : Nat) : Nat := rne a (d * 2 ^ ulpExp a d) * 2 ^ ulpExp a d

theorem roundMag_eq (a d : Nat) : roundMag a d = rne a (d * 2 ^ ulpExp a d) * 2 ^ ulpExp a d := rfl

/-- The scaled value of `1.0`. -/
def unit : Nat := 2 ^ 1074

/-- A scaled magnitude that a finite double holds. -/
structure IsMag (mag : Nat) : Prop where
  grid : ∃ m p, m < 2 ^ 53 ∧ mag = m * 2 ^ p
  lt : mag < 2 ^ 2098

/-- A double: a finite one by its sign and scaled magnitude, an infinity, or NaN. -/
inductive F64 where
  | finite (neg : Bool) (mag : Nat) (h : IsMag mag)
  | inf (neg : Bool)
  | nan

theorem rne_cases (a d : Nat) :
    (rne a d = a / d ∧ 2 * (a % d) ≤ d) ∨ (rne a d = a / d + 1 ∧ d ≤ 2 * (a % d)) := by
  rw [rne_eq]
  split_ifs <;> first | exact .inl ⟨rfl, by omega⟩ | exact .inr ⟨rfl, by omega⟩

theorem div_le_rne (a d : Nat) : a / d ≤ rne a d := by
  rcases rne_cases a d with ⟨h, -⟩ | ⟨h, -⟩ <;> omega

theorem rne_le_succ (a d : Nat) : rne a d ≤ a / d + 1 := by
  rcases rne_cases a d with ⟨h, -⟩ | ⟨h, -⟩ <;> omega

/-- More than half a step past a multiple rounds up. -/
theorem div_lt_rne {a d : Nat} (h : d < 2 * (a % d)) : a / d < rne a d := by
  rcases rne_cases a d with ⟨-, h'⟩ | ⟨h', -⟩ <;> omega

theorem rne_mul_left (k : Nat) {d : Nat} (hd : 0 < d) : rne (k * d) d = k := by
  have hdiv : k * d / d = k := Nat.mul_div_cancel k hd
  have hmod : k * d % d = 0 := Nat.mul_mod_left k d
  rcases rne_cases (k * d) d with ⟨h, -⟩ | ⟨-, h⟩
  · rw [h, hdiv]
  · omega

theorem rne_mul_right (a d : Nat) {c : Nat} (hc : 0 < c) : rne (a * c) (d * c) = rne a d := by
  have hdiv : a * c / (d * c) = a / d := Nat.mul_div_mul_right a d hc
  have hmod : a * c % (d * c) = a % d * c := Nat.mul_mod_mul_right c a d
  rw [rne_eq, rne_eq]
  simp only [hdiv, hmod, ← Nat.mul_assoc, Nat.mul_lt_mul_right hc]

theorem ulpExp_mul_right (a d : Nat) {c : Nat} (hc : 0 < c) : ulpExp (a * c) (d * c) = ulpExp a d := by
  rw [ulpExp_eq, ulpExp_eq, Nat.mul_div_mul_right a d hc]

/-- Scaling both sides of the quotient by the same factor rounds to the same value. -/
theorem roundMag_mul_right (a d : Nat) {c : Nat} (hc : 0 < c) :
    roundMag (a * c) (d * c) = roundMag a d := by
  rw [roundMag_eq, roundMag_eq, ulpExp_mul_right a d hc, Nat.mul_right_comm d c, rne_mul_right _ _ hc]

/-- Shifted to its last place, a quotient has at most 53 bits. -/
theorem div_two_pow_ulpExp_lt (q : Nat) : q / 2 ^ (q.log2 - 52) < 2 ^ 53 := by
  rw [Nat.div_lt_iff_lt_mul (Nat.two_pow_pos _), ← Nat.pow_add]
  calc q < 2 ^ (q.log2 + 1) := Nat.lt_log2_self
    _ ≤ 2 ^ (53 + (q.log2 - 52)) := Nat.pow_le_pow_right (by norm_num) (by omega)

theorem rne_ulpExp_le (a d : Nat) : rne a (d * 2 ^ ulpExp a d) ≤ 2 ^ 53 := by
  have hq := div_two_pow_ulpExp_lt (a / d)
  rw [Nat.div_div_eq_div_mul] at hq
  have := rne_le_succ a (d * 2 ^ ulpExp a d)
  rw [ulpExp_eq] at this ⊢
  omega

/-- A rounded quotient lies on the grid of doubles; a carry out of the 53 bits moves it to
the next binade. -/
theorem roundMag_grid (a d : Nat) : ∃ m p, m < 2 ^ 53 ∧ roundMag a d = m * 2 ^ p := by
  rcases (rne_ulpExp_le a d).lt_or_eq with h | h
  · exact ⟨_, _, h, rfl⟩
  · refine ⟨2 ^ 52, ulpExp a d + 1, by norm_num, ?_⟩
    rw [roundMag_eq, h, Nat.pow_succ]
    ring

/-- A value on the grid is its own rounding. -/
theorem roundMag_of_grid {m p d : Nat} (hm : m < 2 ^ 53) (hd : 0 < d) :
    roundMag (m * 2 ^ p * d) d = m * 2 ^ p := by
  have hq : m * 2 ^ p * d / d = m * 2 ^ p := Nat.mul_div_cancel _ hd
  -- the last place of `m * 2^p` is at most `2^p`, so `m * 2^p` is a multiple of it
  have hle : ulpExp (m * 2 ^ p * d) d ≤ p := by
    rw [ulpExp_eq, hq]
    rcases Nat.eq_zero_or_pos m with rfl | hm0
    · simp
    · have hlt : m * 2 ^ p < 2 ^ (p + 53) := by
        rw [Nat.pow_add, Nat.mul_comm (2 ^ p)]
        exact Nat.mul_lt_mul_of_pos_right hm (Nat.two_pow_pos p)
      have := (Nat.log2_lt (by positivity)).mpr hlt
      omega
  obtain ⟨k, hk⟩ : ∃ k, p = ulpExp (m * 2 ^ p * d) d + k := ⟨_, (Nat.add_sub_of_le hle).symm⟩
  rw [roundMag_eq]
  generalize ulpExp (m * 2 ^ p * d) d = e at hk
  subst hk
  rw [show m * 2 ^ (e + k) * d = m * 2 ^ k * (d * 2 ^ e) by ring, rne_mul_left _ (by positivity)]
  ring

theorem unit_eq : unit = 2 ^ 1074 := by rw [unit]

-- no proof unfolds `unit` into a power to evaluate; they rewrite with `unit_eq`
attribute [irreducible] unit

theorem unit_pos : 0 < unit := by
  rw [unit_eq]
  positivity

/-- `(x + u - 1) / u`, the ceiling of `x / u`, of a value strictly inside `(k * u, (k + 1) * u]`. -/
theorem ceil_div_of_between {x k u : Nat} (h1 : k * u < x) (h2 : x ≤ (k + 1) * u) :
    (x + u - 1) / u = k + 1 := by
  have e1 : (k + 1) * u = k * u + u := Nat.succ_mul k u
  have e2 : (k + 1 + 1) * u = k * u + u + u := by rw [Nat.succ_mul, e1]
  apply Nat.div_eq_of_lt_le <;> omega

theorem ceil_div_mul (k : Nat) {u : Nat} (hu : 0 < u) : (k * u + u - 1) / u = k := by
  have e1 : (k + 1) * u = k * u + u := Nat.succ_mul k u
  apply Nat.div_eq_of_lt_le <;> omega

theorem ulpExp_le_of_lt {S P : Nat} (hS : S < 2 ^ 53) : ulpExp (S * unit) P ≤ 1074 := by
  rw [ulpExp_eq]
  rcases Nat.eq_zero_or_pos (S * unit / P) with h | h
  · simp [h]
  · have hlt : S * unit / P < 2 ^ (53 + 1074) :=
      calc S * unit / P ≤ S * unit := Nat.div_le_self _ _
        _ < 2 ^ 53 * unit := Nat.mul_lt_mul_of_pos_right hS unit_pos
        _ = 2 ^ (53 + 1074) := by rw [unit_eq, Nat.pow_add]
    have := (Nat.log2_lt (by omega)).mpr hlt
    omega

/-- At a quotient below `2^53`, one unit of the quotient holds more than half a divisor's worth
of last places. -/
theorem lt_two_mul_of_ulpExp {S P : Nat} (hP : 0 < P) (hP' : P < 2 * unit) (hS : S < 2 ^ 53) :
    P < 2 * 2 ^ (1074 - ulpExp (S * unit) P) := by
  have hle := ulpExp_le_of_lt (P := P) hS
  rcases Nat.eq_zero_or_pos (ulpExp (S * unit) P) with h0 | hpos
  · rw [h0, Nat.sub_zero, ← unit_eq]
    exact hP'
  · -- in a normal binade the quotient is at least `2^(e + 52)`
    set e := ulpExp (S * unit) P with he
    have hlog : e = (S * unit / P).log2 - 52 := rfl
    have hne : S * unit / P ≠ 0 := by
      intro hz
      rw [hlog, hz] at hpos
      simp at hpos
    have hq : 2 ^ (e + 52) ≤ S * unit / P := (Nat.le_log2 hne).mp (by omega)
    have h1 : 2 ^ (e + 52) * P ≤ S * unit := (Nat.le_div_iff_mul_le hP).mp hq
    have h2 : S * unit < 2 ^ 53 * unit := Nat.mul_lt_mul_of_pos_right hS unit_pos
    have h3 : 2 ^ 53 * unit = 2 ^ (e + 52) * (2 * 2 ^ (1074 - e)) := by
      rw [unit_eq, ← Nat.pow_succ', ← Nat.pow_add, ← Nat.pow_add]
      congr 1
      omega
    have h4 : 2 ^ (e + 52) * P < 2 ^ (e + 52) * (2 * 2 ^ (1074 - e)) := by omega
    exact Nat.lt_of_mul_lt_mul_left h4

/-- Rounding the quotient of two naturals whose numerator is below `2^53` keeps its ceiling:
the quotient is at least `1 / P` past the integer below it, more than half a last place. -/
theorem ceil_roundMag {S P : Nat} (hP : 0 < P) (hP' : P < 2 * unit) (hS : S < 2 ^ 53) :
    (roundMag (S * unit) P + unit - 1) / unit = (S + P - 1) / P := by
  have hle := ulpExp_le_of_lt (P := P) hS
  have hW := lt_two_mul_of_ulpExp hP hP' hS
  rw [roundMag_eq]
  generalize ulpExp (S * unit) P = e at hle hW
  -- one unit is `W` last places
  set W := 2 ^ (1074 - e) with hWdef
  have hunit : unit = W * 2 ^ e := by rw [unit_eq, hWdef, ← Nat.pow_add, Nat.sub_add_cancel hle]
  have hD : 0 < P * 2 ^ e := by positivity
  have hsplit : S * unit = S / P * W * (P * 2 ^ e) + S % P * unit := by
    rw [hunit]
    nth_rewrite 1 [← Nat.div_add_mod S P]
    ring
  rcases Nat.eq_zero_or_pos (S % P) with hr | hr
  · -- an exact quotient
    have hrne : rne (S * unit) (P * 2 ^ e) = S / P * W := by
      rw [hsplit, hr, Nat.zero_mul, Nat.add_zero, rne_mul_left _ hD]
    have hSP : S = S / P * P := by
      have := Nat.div_add_mod' S P
      omega
    rw [hrne, Nat.mul_assoc, ← hunit, ceil_div_mul _ unit_pos]
    nth_rewrite 2 [hSP]
    rw [ceil_div_mul _ hP]
  · -- between two multiples: the rounding stays strictly above the lower one
    have hlo : S / P * W < rne (S * unit) (P * 2 ^ e) := by
      have hfl : S / P * W ≤ S * unit / (P * 2 ^ e) :=
        (Nat.le_div_iff_mul_le hD).mpr (by rw [hsplit]; omega)
      rcases hfl.lt_or_eq with hlt | heq
      · exact lt_of_lt_of_le hlt (div_le_rne _ _)
      · refine lt_of_eq_of_lt heq (div_lt_rne ?_)
        have hmod : S * unit % (P * 2 ^ e) = S % P * unit := by
          have hdm := Nat.div_add_mod (S * unit) (P * 2 ^ e)
          rw [← heq, Nat.mul_comm (P * 2 ^ e)] at hdm
          omega
        rw [hmod, hunit]
        calc P * 2 ^ e < 2 * W * 2 ^ e := Nat.mul_lt_mul_of_pos_right hW (Nat.two_pow_pos e)
          _ = 2 * (1 * (W * 2 ^ e)) := by ring
          _ ≤ 2 * (S % P * (W * 2 ^ e)) := by gcongr; omega
    have hhi : rne (S * unit) (P * 2 ^ e) ≤ (S / P + 1) * W := by
      have hexp : (S / P + 1) * W * (P * 2 ^ e) = S / P * W * (P * 2 ^ e) + P * unit := by
        rw [hunit]
        ring
      have hlt : S % P * unit < P * unit := Nat.mul_lt_mul_of_pos_right (Nat.mod_lt S hP) unit_pos
      have hfl : S * unit / (P * 2 ^ e) < (S / P + 1) * W := by
        rw [Nat.div_lt_iff_lt_mul hD, hexp, hsplit]
        omega
      have := rne_le_succ (S * unit) (P * 2 ^ e)
      omega
    have h1 : S / P * unit < rne (S * unit) (P * 2 ^ e) * 2 ^ e :=
      calc S / P * unit = S / P * W * 2 ^ e := by rw [Nat.mul_assoc, ← hunit]
        _ < _ := Nat.mul_lt_mul_of_pos_right hlo (Nat.two_pow_pos e)
    have h2 : rne (S * unit) (P * 2 ^ e) * 2 ^ e ≤ (S / P + 1) * unit :=
      calc _ ≤ (S / P + 1) * W * 2 ^ e := Nat.mul_le_mul_right _ hhi
        _ = (S / P + 1) * unit := by rw [Nat.mul_assoc, ← hunit]
    have hS1 : S / P * P < S := by
      have := Nat.div_add_mod' S P
      omega
    have hS2 : S ≤ (S / P + 1) * P := by
      have := Nat.div_add_mod' S P
      have := Nat.mod_lt S hP
      rw [Nat.succ_mul]
      omega
    rw [ceil_div_of_between h1 h2, ceil_div_of_between hS1 hS2]

/-- A rounded quotient is at most twice the quotient's integer part, and one more. -/
theorem roundMag_le (a d : Nat) : roundMag a d ≤ 2 * (a / d) + 1 := by
  have hr := rne_le_succ a (d * 2 ^ ulpExp a d)
  have hdiv : a / (d * 2 ^ ulpExp a d) * 2 ^ ulpExp a d ≤ a / d := by
    rw [← Nat.div_div_eq_div_mul]
    exact Nat.div_mul_le_self _ _
  -- the last place is at most the quotient, or `1` among the subnormals
  have hulp : 2 ^ ulpExp a d ≤ a / d + 1 := by
    rcases Nat.eq_zero_or_pos (ulpExp a d) with h0 | hpos
    · rw [h0]
      omega
    · have hne : a / d ≠ 0 := by
        intro hz
        simp [ulpExp_eq, hz] at hpos
      have := Nat.log2_self_le hne
      have : 2 ^ ulpExp a d ≤ 2 ^ (a / d).log2 := Nat.pow_le_pow_right (by norm_num) (by
        rw [ulpExp_eq]
        omega)
      omega
  calc roundMag a d ≤ (a / (d * 2 ^ ulpExp a d) + 1) * 2 ^ ulpExp a d :=
        Nat.mul_le_mul_right _ hr
    _ = a / (d * 2 ^ ulpExp a d) * 2 ^ ulpExp a d + 2 ^ ulpExp a d := Nat.succ_mul _ _
    _ ≤ 2 * (a / d) + 1 := by omega

/-- A positive quotient does not round to zero. -/
theorem roundMag_pos {a d : Nat} (h : 0 < a / d) : 0 < roundMag a d := by
  have hle : 2 ^ ulpExp a d ≤ a / d := by
    have := Nat.log2_self_le (Nat.pos_iff_ne_zero.mp h)
    have : 2 ^ ulpExp a d ≤ 2 ^ (a / d).log2 := Nat.pow_le_pow_right (by norm_num) (by
      rw [ulpExp_eq]
      omega)
    omega
  have hq : 0 < a / (d * 2 ^ ulpExp a d) := by
    rw [← Nat.div_div_eq_div_mul]
    exact Nat.div_pos hle (Nat.two_pow_pos _)
  rw [roundMag_eq]
  exact Nat.mul_pos (lt_of_lt_of_le hq (div_le_rne _ _)) (Nat.two_pow_pos _)

theorem two_pow_mul_unit_lt {k : Nat} (hk : k < 1024) : 2 ^ k * unit < 2 ^ 2098 := by
  rw [unit_eq, ← Nat.pow_add]
  gcongr <;> omega

theorem isMag_zero : IsMag 0 := ⟨⟨0, 0, by norm_num, rfl⟩, by positivity⟩

/-- An integer below `2^53` is a double. -/
theorem isMag_nat {n : Nat} (hn : n < 2 ^ 53) : IsMag (n * unit) where
  grid := ⟨n, 1074, hn, by rw [unit_eq]⟩
  lt := lt_trans (Nat.mul_lt_mul_of_pos_right hn unit_pos) (two_pow_mul_unit_lt (by norm_num))

namespace F64

/-- `a / d`, in scaled units, rounded to a double of sign `neg`. -/
def round (neg : Bool) (a d : Nat) : F64 :=
  if h : roundMag a d < 2 ^ 2098 then .finite neg (roundMag a d) ⟨roundMag_grid a d, h⟩
  else .inf neg

theorem round_eq_of_roundMag {neg : Bool} {a d m : Nat} (hm : IsMag m) (h : roundMag a d = m) :
    round neg a d = finite neg m hm := by
  subst h
  unfold round
  rw [dif_pos hm.lt]

theorem round_of_not_lt {neg : Bool} {a d : Nat} (h : ¬ roundMag a d < 2 ^ 2098) :
    round neg a d = inf neg := by
  unfold round
  rw [dif_neg h]

-- past this point no proof unfolds `round`, whose test against `2^2098` would be evaluated
attribute [irreducible] round

/-- `0.0`. -/
def zero : F64 := .finite false 0 isMag_zero

theorem zero_eq : zero = .finite false 0 isMag_zero := rfl

/-- `n as f64`, from any integer type. -/
def ofInt (n : Int) : F64 := round (decide (n < 0)) (n.natAbs * unit) 1

def signed (neg : Bool) (mag : Nat) : Int := if neg then -(mag : Int) else mag

theorem signed_eq (neg : Bool) (mag : Nat) : signed neg mag = if neg then -(mag : Int) else mag :=
  rfl

def add : F64 → F64 → F64
  | nan, _ | _, nan => nan
  | inf s, inf t => if s = t then inf s else nan
  | inf s, finite .. => inf s
  | finite .., inf t => inf t
  | finite s a _, finite t b _ =>
      -- an exact zero is `+0`, unless both are `-0`
      if signed s a + signed t b = 0 then finite (s && t) 0 isMag_zero
      else round (decide (signed s a + signed t b < 0)) (signed s a + signed t b).natAbs 1

def mul : F64 → F64 → F64
  | nan, _ | _, nan => nan
  | inf s, inf t => inf (s != t)
  | inf s, finite t b _ | finite t b _, inf s => if b = 0 then nan else inf (s != t)
  | finite s a _, finite t b _ => round (s != t) (a * b) unit

def div : F64 → F64 → F64
  | nan, _ | _, nan => nan
  | inf _, inf _ => nan
  | inf s, finite t _ _ => inf (s != t)
  | finite s _ _, inf t => finite (s != t) 0 isMag_zero
  | finite s a _, finite t b _ =>
      if b = 0 then (if a = 0 then nan else inf (s != t))
      else round (s != t) (a * unit) b

theorem add_finite (s t : Bool) {a b : Nat} (ha : IsMag a) (hb : IsMag b) :
    add (finite s a ha) (finite t b hb) =
      if signed s a + signed t b = 0 then finite (s && t) 0 isMag_zero
      else round (decide (signed s a + signed t b < 0)) (signed s a + signed t b).natAbs 1 := rfl

instance : Add F64 := ⟨add⟩
instance : Mul F64 := ⟨mul⟩
instance : Div F64 := ⟨div⟩

/-- The place of a double on the line, both zeros at `0`; NaN has none (`partialCmp`). -/
def key : F64 → Int
  | finite s a _ => signed s a
  | inf s => signed s (2 ^ 2098)
  | nan => 0

/-- `PartialOrd::partial_cmp`. -/
def partialCmp : F64 → F64 → Option Ordering
  | nan, _ | _, nan => none
  | x, y => some (compare x.key y.key)

/-- `<`. -/
def lt (x y : F64) : Bool := partialCmp x y == some .lt

/-- `<=`. -/
def le (x y : F64) : Bool := partialCmp x y == some .lt || partialCmp x y == some .eq

theorem le_eq (x y : F64) : le x y = (partialCmp x y == some .lt || partialCmp x y == some .eq) :=
  rfl

/-- `==`; `!=` is its negation. -/
def beq (x y : F64) : Bool := partialCmp x y == some .eq

/-- `f64::ceil`. -/
def ceil : F64 → F64
  | finite false a _ => round false ((a + unit - 1) / unit * unit) 1
  | finite true a _ => round true (a / unit * unit) 1
  | x => x

/-- `x as u32`: toward zero, saturating, and NaN to `0`. -/
def toU32 : F64 → UInt32
  | finite false a _ => (min (a / unit) (2 ^ 32 - 1)).toUInt32
  | finite true _ _ => 0
  | inf false => 4294967295
  | inf true | nan => 0

/-- A double is its own rounding. -/
theorem round_of_isMag {neg : Bool} {m d : Nat} (hm : IsMag m) (hd : 0 < d) :
    round neg (m * d) d = finite neg m hm := by
  obtain ⟨k, p, hk, rfl⟩ := hm.grid
  exact round_eq_of_roundMag hm (roundMag_of_grid hk hd)

theorem round_nat {neg : Bool} {n d : Nat} (hn : n < 2 ^ 53) (hd : 0 < d) :
    round neg (n * unit * d) d = finite neg (n * unit) (isMag_nat hn) :=
  round_of_isMag (isMag_nat hn) hd

theorem finite_congr {neg : Bool} {m m' : Nat} (h : m = m') (hm : IsMag m) (hm' : IsMag m') :
    finite neg m hm = finite neg m' hm' := by
  subst h
  rfl

theorem round_nat_one {neg : Bool} {n : Nat} (hn : n < 2 ^ 53) :
    round neg (n * unit) 1 = finite neg (n * unit) (isMag_nat hn) := by
  have := @round_nat neg n 1 hn Nat.one_pos
  rwa [Nat.mul_one] at this

theorem ofInt_natCast {n : Nat} (hn : n < 2 ^ 53) : ofInt n = finite false (n * unit) (isMag_nat hn) := by
  unfold ofInt
  rw [Int.natAbs_natCast, show decide ((n : Int) < 0) = false by simp]
  exact round_nat_one hn

theorem zero_add_finite {m : Nat} (hm : IsMag m) : zero + finite false m hm = finite false m hm := by
  change add _ _ = _
  rw [zero_eq, add_finite]
  simp only [signed_eq, Bool.false_eq_true, ↓reduceIte, Nat.cast_zero, zero_add, Nat.cast_eq_zero]
  split_ifs with h0
  · subst h0
    rfl
  · rw [show decide ((m : Int) < 0) = false by simp, Int.natAbs_natCast]
    have := @round_of_isMag false m 1 hm Nat.one_pos
    rwa [Nat.mul_one] at this

theorem add_nat {a b : Nat} (ha : IsMag (a * unit)) (hb : IsMag (b * unit)) (hab : a + b < 2 ^ 53) :
    finite false (a * unit) ha + finite false (b * unit) hb =
      finite false ((a + b) * unit) (isMag_nat hab) := by
  change add _ _ = _
  rw [add_finite]
  simp only [signed_eq, Bool.false_eq_true, ↓reduceIte, Bool.and_self]
  have hsum : ((a * unit : Nat) : Int) + ((b * unit : Nat) : Int) = (((a + b) * unit : Nat) : Int) := by
    rw [Nat.add_mul, Nat.cast_add]
  rw [hsum]
  split_ifs with h0
  · have : (a + b) * unit = 0 := by exact_mod_cast h0
    simp only [this]
  · rw [decide_eq_false (Int.not_lt.mpr (Int.natCast_nonneg _)), Int.natAbs_natCast]
    exact round_nat_one hab

theorem partialCmp_finite (s t : Bool) {a b : Nat} (ha : IsMag a) (hb : IsMag b) :
    partialCmp (finite s a ha) (finite t b hb) = some (compare (signed s a) (signed t b)) := rfl

theorem le_zero_finite {m : Nat} (hm : IsMag m) : le zero (finite false m hm) = true := by
  have h0 : (0 : Int) ≤ m := Int.natCast_nonneg m
  rw [le_eq, zero_eq, partialCmp_finite]
  rcases h0.lt_or_eq with h | h
  · simp [signed_eq, compare_lt_iff_lt.mpr h]
  · simp [signed_eq, ← h]

/-- A double rounded toward the negatives is below zero unless it rounds to zero. -/
theorem le_zero_round_true {a d : Nat} (h : 0 < roundMag a d) : le zero (round true a d) = false := by
  by_cases hlt : roundMag a d < 2 ^ 2098
  · rw [round_eq_of_roundMag ⟨roundMag_grid a d, hlt⟩ rfl]
    rw [le_eq, zero_eq, partialCmp_finite]
    have : signed true (roundMag a d) < signed false 0 := by
      simp only [signed_eq, if_true, Bool.false_eq_true, if_false, Nat.cast_zero]
      omega
    simp [compare_gt_iff_gt.mpr this]
  · -- rounded to minus infinity, whose place is `-2^2098`
    rw [round_of_not_lt hlt, le_eq, zero_eq]
    have hcmp : partialCmp (finite false 0 isMag_zero) (inf true) =
        some (compare (signed false 0) (signed true (2 ^ 2098))) := rfl
    have : signed true (2 ^ 2098) < signed false 0 := by
      simp only [signed_eq, if_true, Bool.false_eq_true, if_false, Nat.cast_zero]
      omega
    rw [hcmp, compare_gt_iff_gt.mpr this]
    rfl

theorem beq_finite_zero {m : Nat} (hm : IsMag m) (h : 0 < m) : beq (finite false m hm) zero = false := by
  unfold beq
  rw [zero_eq, partialCmp_finite]
  have : signed false 0 < signed false m := by
    simp only [signed_eq, Bool.false_eq_true, if_false, Nat.cast_zero]
    omega
  simp [compare_gt_iff_gt.mpr this]

theorem lt_zero_finite {m : Nat} (hm : IsMag m) (h : 0 < m) : lt zero (finite false m hm) = true := by
  unfold lt
  rw [zero_eq, partialCmp_finite]
  have : signed false 0 < signed false m := by
    simp only [signed_eq, Bool.false_eq_true, if_false, Nat.cast_zero]
    omega
  simp [compare_lt_iff_lt.mpr this]

theorem ceil_finite {m : Nat} (hm : IsMag m) (hk : (m + unit - 1) / unit < 2 ^ 53) :
    ceil (finite false m hm) = finite false ((m + unit - 1) / unit * unit) (isMag_nat hk) :=
  round_nat_one hk

theorem toU32_nat {k : Nat} (hk : IsMag (k * unit)) :
    toU32 (finite false (k * unit) hk) = (min k (2 ^ 32 - 1)).toUInt32 := by
  change (min (k * unit / unit) (2 ^ 32 - 1)).toUInt32 = _
  rw [Nat.mul_div_cancel _ unit_pos]

theorem mul_nat {a b : Nat} (ha : IsMag (a * unit)) (hb : IsMag (b * unit)) (hab : a * b < 2 ^ 53) :
    finite false (a * unit) ha * finite false (b * unit) hb =
      finite false (a * b * unit) (isMag_nat hab) := by
  change round false _ unit = _
  rw [show a * unit * (b * unit) = a * b * unit * unit by ring]
  exact round_nat hab unit_pos

theorem div_nat {a b : Nat} (ha : IsMag (a * unit)) (hb : IsMag (b * unit)) (ha53 : a < 2 ^ 53)
    (hb0 : 0 < b) : ∃ h, finite false (a * unit) ha / finite false (b * unit) hb =
      finite false (roundMag (a * unit) b) h := by
  have hbu : b * unit ≠ 0 := Nat.mul_ne_zero (by omega) unit_pos.ne'
  have hlt : roundMag (a * unit) b < 2 ^ 2098 :=
    calc roundMag (a * unit) b ≤ 2 * (a * unit / b) + 1 := roundMag_le _ _
      _ ≤ 2 * (a * unit) + 1 := by gcongr; exact Nat.div_le_self _ _
      _ < 2 * (2 ^ 53 * unit) + 1 := by
        have := Nat.mul_lt_mul_of_pos_right ha53 unit_pos
        omega
      _ = 2 ^ 54 * unit + 1 := by rw [← Nat.mul_assoc, ← Nat.pow_succ']
      _ ≤ 2 ^ 2098 := two_pow_mul_unit_lt (by norm_num)
  refine ⟨⟨roundMag_grid _ _, hlt⟩, ?_⟩
  change (if b * unit = 0 then _ else round false (a * unit * unit) (b * unit)) = _
  rw [if_neg hbu]
  exact round_eq_of_roundMag _ (roundMag_mul_right _ _ unit_pos)

theorem le_zero_ofInt_neg {n : Int} (h : n < 0) : le zero (ofInt n) = false := by
  unfold ofInt
  rw [decide_eq_true h]
  apply le_zero_round_true
  apply roundMag_pos
  rw [Nat.div_one]
  exact Nat.mul_pos (Int.natAbs_pos.mpr (by omega)) unit_pos

/-! ### Doubles of naturals -/

/-- `x` is the double of the natural `n`. -/
def IsNat (x : F64) (n : Nat) : Prop := ∃ h, x = finite false (n * unit) h

theorem isNat_zero : IsNat zero 0 := ⟨isMag_nat (by norm_num), finite_congr (by simp) _ _⟩

theorem isNat_ofInt {n : Nat} (hn : n < 2 ^ 53) : IsNat (ofInt n) n := ⟨isMag_nat hn, ofInt_natCast hn⟩

section IsNat

variable {x y : F64} {a b : Nat}

theorem IsNat.add (hx : IsNat x a) (hy : IsNat y b) (h : a + b < 2 ^ 53) : IsNat (x + y) (a + b) := by
  obtain ⟨ha, rfl⟩ := hx
  obtain ⟨hb, rfl⟩ := hy
  exact ⟨isMag_nat h, add_nat ha hb h⟩

theorem IsNat.mul (hx : IsNat x a) (hy : IsNat y b) (h : a * b < 2 ^ 53) : IsNat (x * y) (a * b) := by
  obtain ⟨ha, rfl⟩ := hx
  obtain ⟨hb, rfl⟩ := hy
  exact ⟨isMag_nat h, mul_nat ha hb h⟩

/-- A quotient of doubles of naturals below `2^53` is the rounded quotient. -/
theorem IsNat.div (hx : IsNat x a) (hy : IsNat y b) (ha : a < 2 ^ 53) (hb : 0 < b) :
    ∃ h, x / y = finite false (roundMag (a * unit) b) h := by
  obtain ⟨ha', rfl⟩ := hx
  obtain ⟨hb', rfl⟩ := hy
  exact div_nat ha' hb' ha hb

theorem IsNat.div_self (hx : IsNat x a) (ha : 0 < a) (ha53 : a < 2 ^ 53) : IsNat (x / x) 1 := by
  obtain ⟨h, hdiv⟩ := hx.div hx ha53 ha
  have hone : roundMag (a * unit) a = 1 * unit := by
    have := roundMag_of_grid (m := 1) (p := 1074) (by norm_num) ha
    rw [← unit_eq, Nat.one_mul, Nat.mul_comm] at this
    rw [Nat.one_mul]
    exact this
  exact ⟨isMag_nat (by norm_num), hdiv.trans (finite_congr hone _ _)⟩

theorem IsNat.le_zero (hx : IsNat x a) : le zero x = true := by
  obtain ⟨h, rfl⟩ := hx
  exact le_zero_finite h

theorem IsNat.beq_zero (hx : IsNat x a) (ha : 0 < a) : beq x zero = false := by
  obtain ⟨h, rfl⟩ := hx
  exact beq_finite_zero h (Nat.mul_pos ha unit_pos)

theorem IsNat.lt_zero (hx : IsNat x a) (ha : 0 < a) : lt zero x = true := by
  obtain ⟨h, rfl⟩ := hx
  exact lt_zero_finite h (Nat.mul_pos ha unit_pos)

theorem IsNat.toU32 (hx : IsNat x a) : x.toU32 = (min a (2 ^ 32 - 1)).toUInt32 := by
  obtain ⟨h, rfl⟩ := hx
  exact toU32_nat h

/-- `(0.0 + a / b).ceil` of naturals below `2^53` is the exact ceiling of `a / b`. -/
theorem IsNat.ceil_zero_add_div (hx : IsNat x a) (hy : IsNat y b) (ha : a < 2 ^ 53) (hb : 0 < b)
    (hb53 : b < 2 ^ 53) : IsNat (zero + x / y).ceil ((a + b - 1) / b) := by
  obtain ⟨h, hdiv⟩ := hx.div hy ha hb
  have hb' : b < 2 * unit := by
    have := two_pow_mul_unit_lt (k := 0) (by norm_num)
    rw [unit_eq] at this ⊢
    omega
  have hceil := ceil_roundMag hb hb' ha
  -- the ceiling is at most the numerator
  have hk : (roundMag (a * unit) b + unit - 1) / unit < 2 ^ 53 := by
    rw [hceil]
    have : a ≤ b * a := Nat.le_mul_of_pos_left a hb
    calc (a + b - 1) / b ≤ a := (Nat.div_le_iff_le_mul_add_pred hb).mpr (by omega)
      _ < 2 ^ 53 := ha
  rw [hdiv, zero_add_finite, ceil_finite h hk]
  exact ⟨isMag_nat (hceil ▸ hk), finite_congr (by rw [hceil]) _ _⟩

end IsNat

end F64

end Binary64

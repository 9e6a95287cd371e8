import Mathlib

/-!
# Parsing integers and normalising vectors as Rust's standard library does

`str::split(c)` for a character `c` is `List.splitOn c` on the characters.
`<uN as FromStr>::from_str` (radix 10) takes at most one leading `+`, then one or more ASCII digits
whose value is below `2 ^ N`: the empty string is `Empty`, a lone sign or a non-digit is
`InvalidDigit`, a larger value is `PosOverflow`. `Vec::sort_unstable` followed by `Vec::dedup`
leaves the elements in increasing order without repeats.
-/

namespace RustStd

/-- The value of decimal digits, most significant first. -/
def digitsValue (ds : List Char) : Nat :=
  ds.foldl (fun acc c => acc * 10 + (c.toNat - '0'.toNat)) 0

/-- `ds` is a decimal numeral without a sign, of value `n` below `2 ^ bits`. -/
def IsDecimal (bits : Nat) (ds : List Char) (n : Nat) : Prop :=
  ds ≠ [] ∧ (∀ c ∈ ds, c.isDigit = true) ∧ digitsValue ds = n ∧ n < 2 ^ bits

/-- `uN::from_str` for `N = bits`, with `none` for each of its errors. -/
def parseUnsigned (bits : Nat) (src : List Char) : Option Nat :=
  let digits := if src.head? = some '+' then src.tail else src
  if digits ≠ [] ∧ digits.all Char.isDigit ∧ digitsValue digits < 2 ^ bits then
    some (digitsValue digits)
  else none

example : parseUnsigned 32 "+17".toList = some 17 := by decide
example : parseUnsigned 32 "4294967296".toList = none := by decide

theorem parseDigits_eq_some_iff {bits : Nat} {ds : List Char} {n : Nat} :
    (if ds ≠ [] ∧ ds.all Char.isDigit ∧ digitsValue ds < 2 ^ bits then some (digitsValue ds)
      else none) = some n ↔ IsDecimal bits ds n := by
  unfold IsDecimal
  split_ifs with h
  · obtain ⟨hne, hall, hlt⟩ := h
    simp only [Option.some.injEq]
    constructor
    · rintro rfl
      exact ⟨hne, List.all_eq_true.mp hall, rfl, hlt⟩
    · rintro ⟨-, -, hv, -⟩
      exact hv
  · simp only [false_iff]
    rintro ⟨hne, hall, rfl, hlt⟩
    exact h ⟨hne, List.all_eq_true.mpr hall, hlt⟩

/-- What `from_str` accepts: a decimal numeral, with or without one `+`. -/
theorem parseUnsigned_eq_some_iff {bits : Nat} {src : List Char} {n : Nat} :
    parseUnsigned bits src = some n ↔
      IsDecimal bits src n ∨ ∃ ds, src = '+' :: ds ∧ IsDecimal bits ds n := by
  have hplus : ('+' : Char).isDigit = false := by decide
  unfold parseUnsigned
  split_ifs with hhead
  · obtain ⟨rest, rfl⟩ : ∃ rest, src = '+' :: rest := by
      cases src with
      | nil => cases hhead
      | cons c rest =>
          simp only [List.head?_cons, Option.some.injEq] at hhead
          exact ⟨rest, by rw [hhead]⟩
    rw [List.tail_cons, parseDigits_eq_some_iff]
    constructor
    · intro h
      exact .inr ⟨rest, rfl, h⟩
    · rintro (⟨-, hall, -⟩ | ⟨ds, hds, h⟩)
      · simp [hplus] at hall
      · cases hds
        exact h
  · rw [parseDigits_eq_some_iff]
    constructor
    · exact .inl
    · rintro (h | ⟨ds, rfl, -⟩)
      · exact h
      · simp at hhead

/-- A parsed numeral holds only digits and `+`. -/
theorem not_mem_of_parseUnsigned {bits : Nat} {src : List Char} {n : Nat}
    (h : parseUnsigned bits src = some n) {x : Char} (hx : x ≠ '+') (hd : x.isDigit = false) :
    x ∉ src := by
  intro hmem
  rcases parseUnsigned_eq_some_iff.mp h with ⟨-, hall, -⟩ | ⟨ds, rfl, -, hall, -⟩
  · simp [hall x hmem] at hd
  · rcases List.mem_cons.mp hmem with rfl | hmem
    · exact hx rfl
    · simp [hall x hmem] at hd

/-- `split(x)` of two pieces joined by `x`. -/
theorem splitOn_append_cons {α : Type} [BEq α] [LawfulBEq α] {x : α} {a b : List α}
    (ha : x ∉ a) (hb : x ∉ b) : (a ++ x :: b).splitOn x = [a, b] := by
  rw [List.splitOn_append_cons_self_of_not_mem ha, List.splitOn_eq_singleton hb]

/-- No piece of `split(x)` holds `x`. -/
theorem not_mem_of_mem_splitOn {α : Type} [BEq α] [LawfulBEq α] {x : α} :
    ∀ {xs l : List α}, l ∈ xs.splitOn x → x ∉ l
  | [], l, hl => by
      rw [List.splitOn_nil, List.mem_singleton] at hl
      rw [hl]
      exact List.not_mem_nil
  | y :: ys, l, hl => by
      rw [List.splitOn_cons_eq_if_modifyHead] at hl
      split_ifs at hl with hy
      · rcases List.mem_cons.mp hl with rfl | hl
        · exact List.not_mem_nil
        · exact not_mem_of_mem_splitOn hl
      · -- the first piece gained `y`, which is not `x`
        have hne := List.splitOn_ne_nil x ys
        obtain ⟨p, ps, hps⟩ := List.exists_cons_of_ne_nil hne
        rw [hps, List.modifyHead_cons, List.mem_cons] at hl
        rcases hl with rfl | hl
        · rw [List.mem_cons, not_or]
          exact ⟨fun h => hy (by rw [h, beq_self_eq_true]),
            not_mem_of_mem_splitOn (hps ▸ List.mem_cons_self)⟩
        · exact not_mem_of_mem_splitOn (hps ▸ List.mem_cons_of_mem p hl)

/-- A numeral holds only digits. -/
theorem IsDecimal.not_mem {bits : Nat} {ds : List Char} {n : Nat} (h : IsDecimal bits ds n)
    {x : Char} (hx : x.isDigit = false) : x ∉ ds := fun hmem => by
  simp [h.2.1 x hmem] at hx

/-! ### `str::replace` -/

/-- The walk of `str::replace` with a nonempty pattern: `skip` characters of the last match are
still to pass over. -/
def replaceGo (pat rep : List Char) : Nat → List Char → List Char
  | _, [] => []
  | skip + 1, _ :: cs => replaceGo pat rep skip cs
  | 0, c :: cs =>
      if pat.isPrefixOf (c :: cs) then rep ++ replaceGo pat rep (pat.length - 1) cs
      else c :: replaceGo pat rep 0 cs

/-- `str::replace(pat, to)`: every occurrence of `pat`, from the left and without overlaps. An
empty pattern matches before and after every character. -/
def replace (s pat rep : List Char) : List Char :=
  if pat = [] then rep ++ s.flatMap fun c => c :: rep else replaceGo pat rep 0 s

example : replace "/x/y/x/2".toList "/x/".toList [] = "y2".toList := by decide

/- The equations of the walk, stated once so that the proofs below rewrite with them rather than
each generating the equation lemmas of the definition. -/

theorem replaceGo_zero_cons (pat rep : List Char) (c : Char) (cs : List Char) :
    replaceGo pat rep 0 (c :: cs) =
      if pat.isPrefixOf (c :: cs) then rep ++ replaceGo pat rep (pat.length - 1) cs
      else c :: replaceGo pat rep 0 cs := rfl

theorem replace_of_ne_nil {pat : List Char} (hpat : pat ≠ []) (s rep : List Char) :
    replace s pat rep = replaceGo pat rep 0 s := if_neg hpat

theorem replaceGo_skip (pat rep : List Char) (l r : List Char) :
    replaceGo pat rep l.length (l ++ r) = replaceGo pat rep 0 r := by
  induction l with
  | nil => rfl
  | cons c l ih => exact ih

/-- A leading occurrence is replaced, and the walk goes on after it. -/
theorem replace_prefix {pat : List Char} (hpat : pat ≠ []) (rep r : List Char) :
    replace (pat ++ r) pat rep = rep ++ replace r pat rep := by
  obtain ⟨p, ps, rfl⟩ := List.exists_cons_of_ne_nil hpat
  rw [replace_of_ne_nil hpat, replace_of_ne_nil hpat, List.cons_append, replaceGo_zero_cons,
    if_pos (by simp), List.length_cons, Nat.add_sub_cancel, replaceGo_skip]

/-- Text without the pattern is left as it is. -/
theorem replace_of_not_infix {pat : List Char} (hpat : pat ≠ []) (rep : List Char) {r : List Char}
    (hr : ¬ pat <:+: r) : replace r pat rep = r := by
  rw [replace_of_ne_nil hpat]
  induction r with
  | nil => rfl
  | cons c cs ih =>
      have hprefix : pat.isPrefixOf (c :: cs) = false := by
        rw [Bool.eq_false_iff, ne_eq, List.isPrefixOf_iff_prefix]
        exact fun h => hr h.isInfix
      rw [replaceGo_zero_cons, hprefix, if_neg Bool.false_ne_true,
        ih fun h => hr (h.trans (List.suffix_cons c cs).isInfix)]

theorem replaceGo_nil_sublist (pat : List Char) :
    ∀ (skip : Nat) (s : List Char), (replaceGo pat [] skip s).Sublist s
  | _, [] => List.Sublist.slnil
  | skip + 1, _ :: cs => (replaceGo_nil_sublist pat skip cs).cons _
  | 0, c :: cs => by
      rw [replaceGo_zero_cons]
      split_ifs
      · exact (replaceGo_nil_sublist pat _ cs).cons _
      · exact (replaceGo_nil_sublist pat 0 cs).cons_cons c

/-- Replacing a nonempty pattern by nothing only removes characters. -/
theorem replace_nil_sublist {pat : List Char} (hpat : pat ≠ []) (s : List Char) :
    (replace s pat []).Sublist s := by
  rw [replace_of_ne_nil hpat]
  exact replaceGo_nil_sublist pat 0 s

/-- A loop over a list that returns at the first failure succeeds exactly when every element does. -/
theorem mapM_eq_some_iff {β γ : Type} {f : β → Option γ} {l : List β} {l' : List γ} :
    l.mapM f = some l' ↔ List.Forall₂ (fun a b => f a = some b) l l' := by
  induction l generalizing l' with
  | nil =>
      cases l' <;> simp
  | cons a l ih =>
      cases l' with
      | nil =>
          rw [List.mapM_cons]
          cases f a <;> cases l.mapM f <;> simp
      | cons b l' =>
          rw [List.forall₂_cons, ← ih, List.mapM_cons]
          cases f a <;> cases l.mapM f <;> simp

/-! ### The errors of `from_str` -/

inductive IntErrorKind where
  | Empty
  | InvalidDigit
  | PosOverflow
  | NegOverflow
deriving DecidableEq, Repr

/-- The `Display` of a `ParseIntError` of each kind. -/
def IntErrorKind.description : IntErrorKind → String
  | .Empty => "cannot parse integer from empty string"
  | .InvalidDigit => "invalid digit found in string"
  | .PosOverflow => "number too large to fit in target type"
  | .NegOverflow => "number too small to fit in target type"

/-- The digit loop of `from_str_radix`: a non-digit is `InvalidDigit`, a value that leaves
`uN` is `PosOverflow`, whichever comes first. -/
def scanDigits (bits : Nat) : Nat → List Char → Except IntErrorKind Nat
  | acc, [] => .ok acc
  | acc, c :: cs =>
      if c.isDigit then
        if acc * 10 + (c.toNat - '0'.toNat) < 2 ^ bits then
          scanDigits bits (acc * 10 + (c.toNat - '0'.toNat)) cs
        else .error .PosOverflow
      else .error .InvalidDigit

/-- `uN::from_str` for `N = bits` with its errors. -/
def fromStrRadix10 (bits : Nat) (src : List Char) : Except IntErrorKind Nat :=
  match src with
  | [] => .error .Empty
  | ['+'] | ['-'] => .error .InvalidDigit
  | '+' :: digits => scanDigits bits 0 digits
  | digits => scanDigits bits 0 digits

example : fromStrRadix10 8 "25x6".toList = .error .InvalidDigit := by decide
example : fromStrRadix10 8 "2560x".toList = .error .PosOverflow := by decide

/-- `char::to_digit(16)`. -/
def hexDigitValue (c : Char) : Option Nat :=
  if '0' ≤ c ∧ c ≤ '9' then some (c.toNat - '0'.toNat)
  else if 'a' ≤ c ∧ c ≤ 'f' then some (c.toNat - 'a'.toNat + 10)
  else if 'A' ≤ c ∧ c ≤ 'F' then some (c.toNat - 'A'.toNat + 10)
  else none

/-- The digit loop of `from_str_radix(_, 16)` for values below `bound`. -/
def scanHex (bound : Nat) (overflow : IntErrorKind) : Nat → List Char → Except IntErrorKind Nat
  | acc, [] => .ok acc
  | acc, c :: cs =>
      match hexDigitValue c with
      | none => .error .InvalidDigit
      | some d =>
          if acc * 16 + d < bound then scanHex bound overflow (acc * 16 + d) cs
          else .error overflow

/-- `uN::from_str_radix(src, 16)` for `N = bits`. -/
def fromStrRadix16 (bits : Nat) (src : List Char) : Except IntErrorKind Nat :=
  match src with
  | [] => .error .Empty
  | ['+'] | ['-'] => .error .InvalidDigit
  | '+' :: digits => scanHex (2 ^ bits) .PosOverflow 0 digits
  | digits => scanHex (2 ^ bits) .PosOverflow 0 digits

/-- `iN::from_str_radix(src, 16)` for `N = bits`; a negative number accumulates below zero. -/
def fromStrRadix16Signed (bits : Nat) (src : List Char) : Except IntErrorKind Int :=
  match src with
  | [] => .error .Empty
  | ['+'] | ['-'] => .error .InvalidDigit
  | '+' :: digits => (scanHex (2 ^ (bits - 1)) .PosOverflow 0 digits).map Int.ofNat
  | '-' :: digits => (scanHex (2 ^ (bits - 1) + 1) .NegOverflow 0 digits).map fun n => -(n : Int)
  | digits => (scanHex (2 ^ (bits - 1)) .PosOverflow 0 digits).map Int.ofNat

example : fromStrRadix16 8 "1F".toList = .ok 31 := by decide
example : fromStrRadix16Signed 64 "-1".toList = .ok (-1) := by decide

/-- `{:0wx}`: lowercase hex digits, zero-padded to `width`. -/
def formatHex (width n : Nat) : List Char :=
  let digits := Nat.toDigits 16 n
  List.replicate (width - digits.length) '0' ++ digits

example : formatHex 4 26 = "001a".toList := by decide

/-- `{:?}` of a string: quoted, with `"`, `\\` and the usual control characters escaped. -/
def debugStr (s : List Char) : List Char :=
  '"' :: s.flatMap (fun c => match c with
    | '"' => ['\\', '"']
    | '\\' => ['\\', '\\']
    | '\n' => ['\\', 'n']
    | '\r' => ['\\', 'r']
    | '\t' => ['\\', 't']
    | c => [c]) ++ ['"']

theorem le_foldl_digits (acc : Nat) (ds : List Char) :
    acc ≤ ds.foldl (fun acc c => acc * 10 + (c.toNat - '0'.toNat)) acc := by
  induction ds generalizing acc with
  | nil => exact le_refl acc
  | cons c ds ih =>
      rw [List.foldl_cons]
      exact le_trans (by omega) (ih _)

theorem scanDigits_eq_ok_iff {bits acc : Nat} (hacc : acc < 2 ^ bits) {ds : List Char} {n : Nat} :
    scanDigits bits acc ds = .ok n ↔
      ds.all Char.isDigit ∧ ds.foldl (fun acc c => acc * 10 + (c.toNat - '0'.toNat)) acc = n ∧
        n < 2 ^ bits := by
  induction ds generalizing acc with
  | nil =>
      simp only [scanDigits, Except.ok.injEq, List.all_nil, List.foldl_nil, true_and]
      constructor
      · rintro rfl
        exact ⟨rfl, hacc⟩
      · rintro ⟨rfl, -⟩
        rfl
  | cons c ds ih =>
      simp only [scanDigits, List.all_cons, List.foldl_cons, Bool.and_eq_true]
      split_ifs with hdigit hfit
      · rw [ih hfit]
        simp [hdigit]
      · -- the value only grows, so the whole numeral leaves `uN` as well
        simp only [false_iff, not_and]
        intro _ hval
        have := le_foldl_digits (acc * 10 + (c.toNat - '0'.toNat)) ds
        omega
      · simp [hdigit]

theorem scanDigits_zero_eq_ok_iff {bits : Nat} {ds : List Char} {n : Nat} :
    scanDigits bits 0 ds = .ok n ↔ ds.all Char.isDigit ∧ digitsValue ds = n ∧ n < 2 ^ bits :=
  scanDigits_eq_ok_iff (Nat.two_pow_pos bits)

/-- `fromStrRadix10` succeeds exactly where `parseUnsigned` does, with the same value. -/
theorem fromStrRadix10_eq_ok_iff {bits : Nat} {src : List Char} {n : Nat} :
    fromStrRadix10 bits src = .ok n ↔ parseUnsigned bits src = some n := by
  have hdigits : ∀ ds : List Char, ds ≠ [] →
      (scanDigits bits 0 ds = .ok n ↔
        (if ds ≠ [] ∧ ds.all Char.isDigit ∧ digitsValue ds < 2 ^ bits then some (digitsValue ds)
          else none) = some n) := by
    intro ds hne
    rw [scanDigits_zero_eq_ok_iff, parseDigits_eq_some_iff, IsDecimal, List.all_eq_true]
    exact ⟨fun h => ⟨hne, h⟩, fun h => h.2⟩
  have hminus : ('-' : Char).isDigit = false := by decide
  unfold fromStrRadix10 parseUnsigned
  split
  case h_1 => simp
  case h_2 => simp
  case h_3 => simp [hminus]
  case h_4 _ digits hne =>
      simp only [List.head?_cons, List.tail_cons, if_true]
      exact hdigits digits hne
  case h_5 _ hempty _ _ hplus =>
      have hhead : src.head? ≠ some '+' := by
        cases src with
        | nil => exact absurd rfl hempty
        | cons c rest =>
            simp only [List.head?_cons, ne_eq, Option.some.injEq]
            exact fun h => hplus rest (by rw [h])
      simp only [if_neg hhead]
      exact hdigits src hempty

/-! ### Sorting and removing repeats -/

variable {α : Type*} [LinearOrder α]

/-- `sort_unstable` then `dedup`, which removes repeats that are neighbours. -/
def sortDedup (l : List α) : List α :=
  (l.mergeSort fun a b => decide (a ≤ b)).destutter (· ≠ ·)

theorem sortDedup_eq_dedup (l : List α) :
    sortDedup l = (l.mergeSort fun a b => decide (a ≤ b)).dedup :=
  List.Pairwise.destutter_eq_dedup (List.pairwise_mergeSort' (· ≤ ·) l)

@[simp] theorem mem_sortDedup {l : List α} {x : α} : x ∈ sortDedup l ↔ x ∈ l := by
  rw [sortDedup_eq_dedup, List.mem_dedup, List.mem_mergeSort]

theorem pairwise_sortDedup (l : List α) : (sortDedup l).Pairwise (· < ·) := by
  rw [sortDedup_eq_dedup]
  have hle := (List.pairwise_mergeSort' (· ≤ ·) l).sublist (List.dedup_sublist _)
  have hne : (List.mergeSort l fun a b => decide (a ≤ b)).dedup.Nodup := List.nodup_dedup _
  exact (hle.and hne).imp fun h => lt_of_le_of_ne h.1 h.2

/-- An increasing list is determined by its members. -/
theorem sortDedup_eq_of_pairwise {l l' : List α} (h : l'.Pairwise (· < ·))
    (hmem : ∀ x, x ∈ l' ↔ x ∈ l) : sortDedup l = l' :=
  (pairwise_sortDedup l).eq_of_mem_iff h fun x => by rw [mem_sortDedup, hmem]

example : sortDedup [3, 1, 2, 3, 1] = [1, 2, 3] := by
  simp [sortDedup, List.mergeSort]
  decide

end RustStd

import Mathlib

/-!
# Windows of a list

`iter().skip(i).take(n)` over a slice, and the same window overwritten with one value
(`iter_mut().skip(i).take(n)` and `*x = a`): the window stops at the end of the list. The
lemmas say what a write does to each element and to the count of a value, and when the window
is exactly `n` long.
-/

namespace ListWindow

variable {α : Type}

/-- The elements at `i, …, i + n - 1` that exist. -/
def window (l : List α) (i n : Nat) : List α := (l.drop i).take n

/-- `l` with the window at `i` of length `n` overwritten with `a`. -/
def setWindow (l : List α) (i n : Nat) (a : α) : List α :=
  l.take i ++ (window l i n).map (fun _ => a) ++ l.drop (i + n)

theorem length_window (l : List α) (i n : Nat) :
    (window l i n).length = min n (l.length - i) := by
  simp [window]

theorem length_window_of_le {l : List α} {i n : Nat} (h : i + n ≤ l.length) :
    (window l i n).length = n := by
  rw [length_window]
  omega

@[simp] theorem length_setWindow (l : List α) (i n : Nat) (a : α) :
    (setWindow l i n a).length = l.length := by
  simp only [setWindow, List.length_append, List.length_take, List.length_map, length_window,
    List.length_drop]
  omega

/-- The list splits at the two ends of the window. -/
theorem take_append_window_append_drop (l : List α) (i n : Nat) :
    l.take i ++ window l i n ++ l.drop (i + n) = l := by
  rw [window, List.append_assoc, ← List.drop_drop, List.take_append_drop, List.take_append_drop]

theorem getElem?_setWindow (l : List α) (i n : Nat) (a : α) (j : Nat) :
    (setWindow l i n a)[j]? = if i ≤ j ∧ j < i + n ∧ j < l.length then some a else l[j]? := by
  unfold setWindow window
  have hlen : (List.take i l).length = min i l.length := List.length_take
  by_cases hl : j < l.length
  case neg =>
    rw [if_neg (by omega), List.getElem?_eq_none (by simp; omega),
      List.getElem?_eq_none (by omega)]
  by_cases hj : j < i
  · rw [if_neg (by omega), List.append_assoc, List.getElem?_append_left (by omega),
      List.getElem?_take, if_pos hj]
  rw [List.append_assoc, List.getElem?_append_right (by omega)]
  have hmid : ((List.drop i l).take n).length = min n (l.length - i) := by simp
  by_cases hw : j < i + n
  · rw [if_pos ⟨by omega, hw, hl⟩, List.getElem?_append_left (by simp; omega),
      List.getElem?_map, List.getElem?_take, if_pos (by omega), List.getElem?_drop]
    have : l[i + (j - min i l.length)]? = some l[j] := by
      rw [show i + (j - min i l.length) = j by omega]
      exact List.getElem?_eq_getElem hl
    simp [this]
  · rw [if_neg (by omega), List.getElem?_append_right (by simp; omega), List.getElem?_drop]
    congr 1
    simp only [List.length_map, hmid]
    omega

/-- What a write does to each element. -/
theorem getD_setWindow (l : List α) (i n : Nat) (a d : α) (j : Nat) :
    (setWindow l i n a).getD j d = if i ≤ j ∧ j < i + n ∧ j < l.length then a else l.getD j d := by
  rw [List.getD_eq_getElem?_getD, getElem?_setWindow]
  split_ifs
  · rfl
  · rw [List.getD_eq_getElem?_getD]

/-- The window holds the elements at its indices that exist. -/
theorem mem_window_iff {l : List α} {i n : Nat} {x : α} (d : α) :
    x ∈ window l i n ↔ ∃ j, i ≤ j ∧ j < i + n ∧ j < l.length ∧ l.getD j d = x := by
  constructor
  · intro hx
    obtain ⟨k, hk, rfl⟩ := List.mem_iff_getElem.mp hx
    have hkl : k < min n (l.length - i) := length_window l i n ▸ hk
    refine ⟨i + k, by omega, by omega, by omega, ?_⟩
    simp only [window, List.getElem_take, List.getElem_drop]
    exact List.getD_eq_getElem _ _ _
  · rintro ⟨j, hi, hn, hl, rfl⟩
    rw [List.getD_eq_getElem _ _ hl]
    have hw : j - i < (window l i n).length := by
      rw [length_window]
      omega
    have : (window l i n)[j - i] = l[j] := by
      simp only [window, List.getElem_take, List.getElem_drop]
      congr 1
      omega
    rw [← this]
    exact List.getElem_mem hw

variable [BEq α] [LawfulBEq α]

/-- A write moves the window's occurrences of `b` out, and puts in as many as the window is
long if `a` is `b`. -/
theorem count_setWindow (l : List α) (i n : Nat) (a b : α) :
    (setWindow l i n a).count b + (window l i n).count b =
      l.count b + if a == b then (window l i n).length else 0 := by
  have hsplit : l.count b =
      (l.take i).count b + (window l i n).count b + (l.drop (i + n)).count b := by
    rw [← List.count_append, ← List.count_append, take_append_window_append_drop]
  simp only [setWindow, List.count_append, List.map_const', List.count_replicate]
  omega

/-- A window of copies of `a` has `a` as often as it is long, and nothing else. -/
theorem count_window_of_all {l : List α} {i n : Nat} {a : α}
    (h : (window l i n).all (· == a) = true) (b : α) :
    (window l i n).count b = if a == b then (window l i n).length else 0 := by
  rw [List.all_eq_true] at h
  split_ifs with hab
  · rw [List.count_eq_length]
    intro c hc
    have := h c hc
    simp only [beq_iff_eq] at this hab
    rw [this, hab]
  · rw [List.count_eq_zero]
    intro hb
    have := h b hb
    simp only [beq_iff_eq] at this
    rw [this] at hab
    simp at hab

end ListWindow

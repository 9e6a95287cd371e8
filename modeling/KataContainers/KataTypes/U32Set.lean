import KataContainers.Lib.RustStd

/-!
# Sets of CPU and NUMA node ids

`kata_types::utils::u32_set`: a `U32Set` is a `Vec<u32>` that `add`, `extend` and `From` keep
sorted and without repeats, and `from_str` parses the list format of `cpuset.cpus` and
`cpuset.mems`: items separated by commas, each one id or a range `a-b` with `a < b`. Its numbers
are read by `u32::from_str`, so each may carry one leading `+`.
-/

namespace KataContainers.KataTypes

open RustStd

/-- The ids in increasing order; every constructor of the source sorts and removes repeats. -/
structure U32Set where
  ids : List Nat
  sorted : ids.Pairwise (· < ·)
deriving DecidableEq

inductive Error where
  | InvalidList (list : String)
deriving DecidableEq, Repr

namespace U32Set

def new : U32Set := ⟨[], List.Pairwise.nil⟩

/-- `From<Vec<u32>>`. -/
def ofList (cpus : List Nat) : U32Set := ⟨sortDedup cpus, pairwise_sortDedup cpus⟩

def extend (s : U32Set) (cpus : List Nat) : U32Set := ofList (s.ids ++ cpus)

def add (s : U32Set) (cpu : Nat) : U32Set := ofList (s.ids ++ [cpu])

theorem ext_ids {s t : U32Set} (h : s.ids = t.ids) : s = t := by
  cases s
  cases t
  cases h
  rfl

@[simp] theorem mem_ofList {cpus : List Nat} {x : Nat} : x ∈ (ofList cpus).ids ↔ x ∈ cpus :=
  mem_sortDedup

@[simp] theorem mem_extend {s : U32Set} {cpus : List Nat} {x : Nat} :
    x ∈ (s.extend cpus).ids ↔ x ∈ s.ids ∨ x ∈ cpus := by
  simp [extend]

end U32Set

/-- One item between commas: the ids it pushes, or `none` where the loop returns
`Err(InvalidList)`. -/
def parseItem (splitCpu : List Char) : Option (List Nat) :=
  if !splitCpu.contains '-' then
    if !splitCpu.isEmpty then (parseUnsigned 32 splitCpu).map fun cpuId => [cpuId]
    else none
  else
    match splitCpu.splitOn '-' with
    | [field₀, field₁] =>
        match parseUnsigned 32 field₀, parseUnsigned 32 field₁ with
        | some start, some stop =>
            if start < stop then some (List.range' start (stop - start + 1)) else none
        | _, _ => none
    | _ => none

/-- `U32Set::from_str`. -/
def fromStr (cpusStr : String) : Except Error U32Set :=
  if cpusStr.isEmpty then .ok U32Set.new
  else
    match (cpusStr.toList.splitOn ',').mapM parseItem with
    | some cpus => .ok (U32Set.ofList cpus.flatten)
    | none => .error (.InvalidList cpusStr)

theorem fromStr_eq (cpusStr : String) :
    fromStr cpusStr =
      if cpusStr.isEmpty then .ok U32Set.new
      else
        match (cpusStr.toList.splitOn ',').mapM parseItem with
        | some cpus => .ok (U32Set.ofList cpus.flatten)
        | none => .error (.InvalidList cpusStr) := rfl

/-! ### The list grammar -/

/-- An item of the list with the ids it stands for, its numerals read by `num`. -/
inductive ItemOf (num : List Char → Nat → Prop) : List Char → List Nat → Prop
  | single {t : List Char} {n : Nat} : num t n → ItemOf num t [n]
  | range {a b : List Char} {m n : Nat} : num a m → num b n → m < n →
      ItemOf num (a ++ '-' :: b) (List.range' m (n - m + 1))

/-- `s` is a list of items separated by commas, and `set` the ids they stand for, in increasing
order without repeats. -/
def ListGrammar (num : List Char → Nat → Prop) (s : List Char) (set : List Nat) : Prop :=
  ∃ items vals, s = [','].intercalate items ∧ List.Forall₂ (ItemOf num) items vals ∧
    set.Pairwise (· < ·) ∧ ∀ x, x ∈ set ↔ ∃ v ∈ vals, x ∈ v

/-- A number as `u32::from_str` reads it: decimal digits, with or without one `+`. -/
def U32Numeral (t : List Char) (n : Nat) : Prop :=
  IsDecimal 32 t n ∨ ∃ ds, t = '+' :: ds ∧ IsDecimal 32 ds n

theorem parseUnsigned_eq_some_iff_numeral {t : List Char} {n : Nat} :
    parseUnsigned 32 t = some n ↔ U32Numeral t n :=
  parseUnsigned_eq_some_iff

theorem not_mem_of_numeral {t : List Char} {n : Nat} (h : U32Numeral t n) {x : Char}
    (hx : x ≠ '+') (hd : x.isDigit = false) : x ∉ t :=
  not_mem_of_parseUnsigned (parseUnsigned_eq_some_iff_numeral.mpr h) hx hd

theorem numeral_ne_nil {t : List Char} {n : Nat} (h : U32Numeral t n) : t ≠ [] := by
  rcases h with ⟨hne, -⟩ | ⟨ds, rfl, -⟩
  · exact hne
  · exact List.cons_ne_nil _ _

theorem ItemOf.ne_nil {t : List Char} {v : List Nat} (h : ItemOf U32Numeral t v) : t ≠ [] := by
  cases h with
  | single hn => exact numeral_ne_nil hn
  | range ha hb hlt => simp

theorem ItemOf.comma_not_mem {t : List Char} {v : List Nat} (h : ItemOf U32Numeral t v) :
    ',' ∉ t := by
  cases h with
  | single hn => exact not_mem_of_numeral hn (by decide) (by decide)
  | range ha hb hlt =>
      simp only [List.mem_append, List.mem_cons, not_or]
      exact ⟨not_mem_of_numeral ha (by decide) (by decide), by decide,
        not_mem_of_numeral hb (by decide) (by decide)⟩

/-- Every item the parser accepts is an item of the grammar, and the converse. -/
theorem parseItem_eq_some_iff {t : List Char} {v : List Nat} :
    parseItem t = some v ↔ ItemOf U32Numeral t v := by
  constructor
  · intro h
    unfold parseItem at h
    split_ifs at h with hdash hempty
    · obtain ⟨n, hn, rfl⟩ := Option.map_eq_some_iff.mp h
      exact .single (parseUnsigned_eq_some_iff_numeral.mp hn)
    · split at h
      case h_1 field₀ field₁ hsplit =>
        split at h
        case h_1 start stop h₀ h₁ =>
          split_ifs at h with hlt
          cases h
          have ht : t = field₀ ++ '-' :: field₁ := by
            have hj := @List.intercalate_splitOn Char t _ _ '-'
            rw [hsplit] at hj
            simpa using hj.symm
          rw [ht]
          exact .range (parseUnsigned_eq_some_iff_numeral.mp h₀)
            (parseUnsigned_eq_some_iff_numeral.mp h₁) hlt
        case h_2 => cases h
      case h_2 => cases h
  · intro h
    cases h with
    | single hn =>
        have hdash : '-' ∉ t := not_mem_of_numeral hn (by decide) (by decide)
        have hne : t ≠ [] := numeral_ne_nil hn
        simp [parseItem, hdash, hne, parseUnsigned_eq_some_iff_numeral.mpr hn]
    | @range a b m n ha hb hlt =>
        have hsplit := splitOn_append_cons (x := '-') (not_mem_of_numeral ha (by decide) (by decide))
          (not_mem_of_numeral hb (by decide) (by decide))
        simp [parseItem, hsplit, parseUnsigned_eq_some_iff_numeral.mpr ha,
          parseUnsigned_eq_some_iff_numeral.mpr hb, hlt]

theorem ItemOf.mono {num num' : List Char → Nat → Prop} (hnum : ∀ t n, num t n → num' t n)
    {t : List Char} {v : List Nat} (h : ItemOf num t v) : ItemOf num' t v := by
  cases h with
  | single hn => exact .single (hnum _ _ hn)
  | range ha hb hlt => exact .range (hnum _ _ ha) (hnum _ _ hb) hlt

/-- Items of the grammar are parsed to their ids, and hold no comma. -/
theorem items_parse {items : List (List Char)} {vals : List (List Nat)}
    (h : List.Forall₂ (ItemOf U32Numeral) items vals) :
    items.mapM parseItem = some vals ∧ ∀ t ∈ items, t ≠ [] ∧ ',' ∉ t := by
  induction h with
  | nil => exact ⟨rfl, by simp⟩
  | @cons t v ts vs hitem _ ih =>
      refine ⟨?_, ?_⟩
      · rw [List.mapM_cons, parseItem_eq_some_iff.mpr hitem, ih.1]
        rfl
      · intro t' ht'
        rcases List.mem_cons.mp ht' with rfl | ht'
        · exact ⟨hitem.ne_nil, hitem.comma_not_mem⟩
        · exact ih.2 t' ht'

theorem intercalate_ne_nil {t : List Char} {ts : List (List Char)} (ht : t ≠ []) :
    [','].intercalate (t :: ts) ≠ [] := by
  cases ts with
  | nil => simpa using ht
  | cons t' ts => simp [List.intercalate_cons_cons, ht]

theorem fromStr_error {s : String} {e : Error} (h : fromStr s = .error e) : e = .InvalidList s := by
  rw [fromStr_eq] at h
  split_ifs at h
  split at h
  · cases h
  · cases h
    rfl

theorem fromStr_eq_ok_of_grammar {s : String} {set : U32Set}
    (h : ListGrammar U32Numeral s.toList set.ids) : fromStr s = .ok set := by
  obtain ⟨items, vals, hs, hall, hsorted, hmem⟩ := h
  obtain ⟨hparse, hitems⟩ := items_parse hall
  cases items with
  | nil =>
      cases hall
      have hempty : s = "" := String.toList_eq_nil_iff.mp (by simpa using hs)
      have hids : set.ids = [] := List.eq_nil_iff_forall_not_mem.mpr fun x hx => by
        simpa using (hmem x).mp hx
      rw [fromStr_eq, if_pos (String.isEmpty_iff.mpr hempty)]
      exact congrArg Except.ok (U32Set.ext_ids hids.symm)
  | cons t ts =>
      have hne : s.toList ≠ [] := hs ▸ intercalate_ne_nil (hitems t (.head _)).1
      have hempty : s.isEmpty = false := by
        rw [Bool.eq_false_iff]
        intro h
        exact hne (String.toList_eq_nil_iff.mpr (String.isEmpty_iff.mp h))
      have hsplit : s.toList.splitOn ',' = t :: ts := by
        rw [hs]
        exact List.splitOn_intercalate ',' (fun l hl => (hitems l hl).2) (List.cons_ne_nil _ _)
      rw [fromStr_eq, if_neg (by simp [hempty]), hsplit, hparse]
      refine congrArg Except.ok (U32Set.ext_ids ?_)
      exact sortDedup_eq_of_pairwise hsorted fun x => by simp [hmem, List.mem_flatten]

theorem grammar_of_fromStr_eq_ok {s : String} {set : U32Set} (h : fromStr s = .ok set) :
    ListGrammar U32Numeral s.toList set.ids := by
  rw [fromStr_eq] at h
  split_ifs at h with hempty
  · cases h
    have hs : s.toList = [] := String.toList_eq_nil_iff.mpr (String.isEmpty_iff.mp hempty)
    exact ⟨[], [], by simp [hs], .nil, List.Pairwise.nil, by simp [U32Set.new]⟩
  · split at h
    case h_1 cpus hmap =>
      cases h
      refine ⟨s.toList.splitOn ',', cpus, (List.intercalate_splitOn ',').symm, ?_,
        (U32Set.ofList _).sorted, fun x => by simp [List.mem_flatten]⟩
      exact (mapM_eq_some_iff.mp hmap).imp fun _ _ h => parseItem_eq_some_iff.mp h
    case h_2 => cases h

/-- `from_str` accepts exactly the lists of the grammar whose numbers are read by
`u32::from_str`, with their ids; every other string is `InvalidList` of itself. -/
theorem fromStr_accepts_list_grammar (s : String) :
    (∀ set, fromStr s = .ok set ↔ ListGrammar U32Numeral s.toList set.ids) ∧
      ∀ e, fromStr s = .error e → e = .InvalidList s :=
  ⟨fun _ => ⟨grammar_of_fromStr_eq_ok, fromStr_eq_ok_of_grammar⟩, fun _ => fromStr_error⟩

/-- `+1` is accepted, but it is no list of decimal numerals. -/
theorem fromStr_accepts_plus_sign :
    fromStr "+1" = .ok (U32Set.ofList [1]) ∧ ¬ ∃ set, ListGrammar (IsDecimal 32) "+1".toList set := by
  have hempty : ("+1" : String).isEmpty = false := by decide
  have hsplit : ("+1" : String).toList.splitOn ',' = [['+', '1']] := by decide
  have hparse : [['+', '1']].mapM parseItem = some [[1]] := by decide
  refine ⟨?_, ?_⟩
  · rw [fromStr_eq, if_neg (by simp [hempty]), hsplit, hparse]
    rfl
  · rintro ⟨set, items, vals, hs, hall, -, -⟩
    have hall' : List.Forall₂ (ItemOf U32Numeral) items vals :=
      hall.imp fun _ _ h => h.mono fun _ _ hn => Or.inl hn
    have hitems := (items_parse hall').2
    have hne : items ≠ [] := by
      rintro rfl
      simp at hs
    have hitems_eq : items = [['+', '1']] := by
      rw [← hsplit, hs]
      exact (List.splitOn_intercalate ',' (fun l hl => (hitems l hl).2) hne).symm
    subst hitems_eq
    obtain ⟨v, hv⟩ : ∃ v, ItemOf (IsDecimal 32) ['+', '1'] v := by
      cases hall with
      | cons hv _ => exact ⟨_, hv⟩
    generalize ht : ['+', '1'] = t at hv
    cases hv with
    | single hn =>
        subst ht
        simp [IsDecimal] at hn
    | range ha hb hlt =>
        have hdash : '-' ∈ ['+', '1'] := by
          rw [ht]
          simp
        simp at hdash

end KataContainers.KataTypes

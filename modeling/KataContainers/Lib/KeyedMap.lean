import Mathlib

/-!
# Ordered maps whose keys compare through a projection

A `BTreeMap<K, V>` whose `Ord for K` looks only at `key k : Nat`: two keys with the same
projection are the same key to the map, whatever else they hold. The map is its entries in
increasing order of `key`. `insert` keeps the key already stored and replaces its value,
returning the old one (the contract of `BTreeMap::insert`); `remove` drops the entry with the
given projection; `lastLE m b` is `m.range(..=k).next_back()` for a `k` with `key k = b`.
-/

namespace KeyedMap

variable {K V : Type} (key : K → Nat)

/-- The entries' projections increase strictly. -/
def Sorted (m : List (K × V)) : Prop := m.Pairwise fun a b => key a.1 < key b.1

/-- The entry whose key has projection `b`. -/
def find (m : List (K × V)) (b : Nat) : Option (K × V) := m.find? fun e => key e.1 == b

def insert : List (K × V) → K → V → List (K × V) × Option V
  | [], k, v => ([(k, v)], none)
  | (k', v') :: rest, k, v =>
      if key k < key k' then ((k, v) :: (k', v') :: rest, none)
      else if key k = key k' then ((k', v) :: rest, some v')
      else ((k', v') :: (insert rest k v).1, (insert rest k v).2)

def remove : List (K × V) → K → List (K × V)
  | [], _ => []
  | (k', v') :: rest, k => if key k = key k' then rest else (k', v') :: remove rest k

/-- The entry with the greatest projection at most `b`. -/
def lastLE (m : List (K × V)) (b : Nat) : Option (K × V) :=
  (m.filter fun e => key e.1 ≤ b).getLast?

variable {key}

theorem insert_nil (k : K) (v : V) : insert key ([] : List (K × V)) k v = ([(k, v)], none) := rfl

theorem insert_cons (k' : K) (v' : V) (rest : List (K × V)) (k : K) (v : V) :
    insert key ((k', v') :: rest) k v =
      if key k < key k' then ((k, v) :: (k', v') :: rest, none)
      else if key k = key k' then ((k', v) :: rest, some v')
      else ((k', v') :: (insert key rest k v).1, (insert key rest k v).2) := rfl

theorem remove_nil (k : K) : remove key ([] : List (K × V)) k = [] := rfl

theorem remove_cons (k' : K) (v' : V) (rest : List (K × V)) (k : K) :
    remove key ((k', v') :: rest) k = if key k = key k' then rest else (k', v') :: remove key rest k :=
  rfl

@[simp] theorem sorted_nil : Sorted key ([] : List (K × V)) := List.Pairwise.nil

theorem sorted_cons {e : K × V} {m : List (K × V)} :
    Sorted key (e :: m) ↔ (∀ e' ∈ m, key e.1 < key e'.1) ∧ Sorted key m :=
  List.pairwise_cons

@[simp] theorem find_nil (b : Nat) : find key ([] : List (K × V)) b = none := rfl

theorem find_cons (k' : K) (v' : V) (m : List (K × V)) (b : Nat) :
    find key ((k', v') :: m) b = if key k' = b then some (k', v') else find key m b := by
  simp only [find, List.find?_cons]
  split <;> simp_all

/-- Past the head of a sorted map, nothing has a projection at most the head's. -/
theorem find_eq_none_of_le {k' : K} {v' : V} {m : List (K × V)} (hs : Sorted key ((k', v') :: m))
    {b : Nat} (hb : b ≤ key k') : find key m b = none := by
  rw [sorted_cons] at hs
  rw [find, List.find?_eq_none]
  intro e' he'
  have := hs.1 e' he'
  dsimp only at this
  simp only [beq_iff_eq]
  omega

theorem find_some {m : List (K × V)} {b : Nat} {e : K × V} (h : find key m b = some e) :
    e ∈ m ∧ key e.1 = b := by
  unfold find at h
  exact ⟨List.mem_of_find?_eq_some h, by simpa using List.find?_some h⟩

theorem find_of_mem {m : List (K × V)} (hs : Sorted key m) {e : K × V} (he : e ∈ m) :
    find key m (key e.1) = some e := by
  induction m with
  | nil => simp at he
  | cons e' m ih =>
      obtain ⟨k', v'⟩ := e'
      rw [find_cons]
      rcases List.mem_cons.mp he with rfl | he
      · simp
      · have hlt := (sorted_cons.mp hs).1 e he
        rw [if_neg (by simp at hlt; omega)]
        exact ih (sorted_cons.mp hs).2 he

/-! ## `insert` -/

theorem insert_snd (m : List (K × V)) (hs : Sorted key m) (k : K) (v : V) :
    (insert key m k v).2 = (find key m (key k)).map (·.2) := by
  induction m with
  | nil => rfl
  | cons e m ih =>
      obtain ⟨k', v'⟩ := e
      rw [find_cons]
      rcases lt_trichotomy (key k) (key k') with hlt | heq | hgt
      · rw [insert_cons, if_pos hlt, if_neg (by omega), find_eq_none_of_le hs hlt.le]
        rfl
      · rw [insert_cons, if_neg (by omega), if_pos heq, if_pos heq.symm]
        rfl
      · rw [insert_cons, if_neg (by omega), if_neg (by omega), if_neg (by omega)]
        exact ih (sorted_cons.mp hs).2

/-- What `insert` stores under each projection: at `key k` the key already there, else `k`,
with the value `v`; elsewhere what was there. -/
theorem find_insert (m : List (K × V)) (hs : Sorted key m) (k : K) (v : V) (b : Nat) :
    find key (insert key m k v).1 b =
      if b = key k then some (((find key m b).map (·.1)).getD k, v) else find key m b := by
  induction m with
  | nil =>
      simp only [insert_nil, find_cons, find_nil]
      by_cases hb : b = key k
      · simp [hb]
      · simp [hb, Ne.symm hb]
  | cons e m ih =>
      obtain ⟨k', v'⟩ := e
      have hrest := (sorted_cons.mp hs).2
      rcases lt_trichotomy (key k) (key k') with hlt | heq | hgt
      · -- the new entry goes first
        rw [insert_cons, if_pos hlt]
        by_cases hb : b = key k
        · subst hb
          simp [find_cons, find_eq_none_of_le hs hlt.le, Nat.ne_of_gt hlt]
        · simp only [find_cons]
          rw [if_neg (Ne.symm hb), if_neg hb]
      · -- the key already stored is kept, its value replaced
        rw [insert_cons, if_neg (by omega), if_pos heq]
        by_cases hb : b = key k
        · subst hb
          simp [find_cons, heq]
        · simp only [find_cons]
          rw [if_neg (by omega), if_neg hb, if_neg (by omega)]
      · rw [insert_cons, if_neg (by omega), if_neg (by omega)]
        simp only [find_cons]
        rw [ih hrest]
        by_cases hb : b = key k
        · rw [if_neg (by omega), if_pos hb, if_pos hb, if_neg (by omega)]
        · rw [if_neg hb, if_neg hb]

theorem mem_insert {m : List (K × V)} {k : K} {v : V} {e : K × V}
    (he : e ∈ (insert key m k v).1) : e ∈ m ∨ key e.1 = key k := by
  induction m with
  | nil =>
      simp only [insert_nil, List.mem_singleton] at he
      exact .inr (by rw [he])
  | cons e' m ih =>
      obtain ⟨k', v'⟩ := e'
      rw [insert_cons] at he
      split_ifs at he with hlt heq
      · rcases List.mem_cons.mp he with rfl | he
        · exact .inr rfl
        · exact .inl he
      · rcases List.mem_cons.mp he with rfl | he
        · exact .inr heq.symm
        · exact .inl (List.mem_cons_of_mem _ he)
      · rcases List.mem_cons.mp he with rfl | he
        · exact .inl List.mem_cons_self
        · exact (ih he).imp_left (List.mem_cons_of_mem _)

theorem sorted_insert {m : List (K × V)} (hs : Sorted key m) (k : K) (v : V) :
    Sorted key (insert key m k v).1 := by
  induction m with
  | nil => simp [insert_nil, Sorted]
  | cons e m ih =>
      obtain ⟨k', v'⟩ := e
      obtain ⟨hhead, hrest⟩ := sorted_cons.mp hs
      rw [insert_cons]
      split_ifs with hlt heq
      · refine sorted_cons.mpr ⟨?_, hs⟩
        intro e he
        rcases List.mem_cons.mp he with rfl | he
        · exact hlt
        · exact lt_trans hlt (hhead e he)
      · exact sorted_cons.mpr ⟨hhead, hrest⟩
      · refine sorted_cons.mpr ⟨fun e he => ?_, ih hrest⟩
        rcases mem_insert he with he | he
        · exact hhead e he
        · rw [he]
          dsimp only
          omega

/-! ## `remove` -/

theorem remove_sublist : ∀ (m : List (K × V)) (k : K), (remove key m k).Sublist m
  | [], _ => List.Sublist.slnil
  | (k', v') :: rest, k => by
      rw [remove_cons]
      split_ifs
      · exact List.sublist_cons_self _ _
      · exact (remove_sublist rest k).cons_cons _

theorem find_remove (m : List (K × V)) (hs : Sorted key m) (k : K) (b : Nat) :
    find key (remove key m k) b = if b = key k then none else find key m b := by
  induction m with
  | nil => simp [remove_nil]
  | cons e m ih =>
      obtain ⟨k', v'⟩ := e
      have hrest := (sorted_cons.mp hs).2
      by_cases heq : key k = key k'
      · -- the stored entry goes, and nothing after it has its projection
        rw [remove_cons, if_pos heq, find_cons]
        by_cases hb : b = key k
        · rw [if_pos hb]
          exact find_eq_none_of_le hs (by omega)
        · rw [if_neg hb, if_neg (by omega)]
      · rw [remove_cons, if_neg heq, find_cons, find_cons, ih hrest]
        by_cases hb : b = key k
        · rw [if_neg (by omega), if_pos hb, if_pos hb]
        · rw [if_neg hb, if_neg hb]

theorem sorted_remove {m : List (K × V)} (hs : Sorted key m) (k : K) :
    Sorted key (remove key m k) := by
  induction m with
  | nil => simp [remove_nil]
  | cons e m ih =>
      obtain ⟨k', v'⟩ := e
      obtain ⟨hhead, hrest⟩ := sorted_cons.mp hs
      rw [remove_cons]
      split_ifs
      · exact hrest
      · exact sorted_cons.mpr ⟨fun e' he' => hhead e' ((remove_sublist m k).subset he'), ih hrest⟩

/-! ## `lastLE` -/

theorem lastLE_spec {m : List (K × V)} (hs : Sorted key m) {b : Nat} {e : K × V}
    (h : lastLE key m b = some e) :
    e ∈ m ∧ key e.1 ≤ b ∧ ∀ e' ∈ m, key e'.1 ≤ b → key e'.1 ≤ key e.1 := by
  obtain ⟨l, hl⟩ := List.getLast?_eq_some_iff.mp h
  have hmem : e ∈ m.filter (fun e => key e.1 ≤ b) := by
    rw [hl]
    simp
  rw [List.mem_filter] at hmem
  refine ⟨hmem.1, by simpa using hmem.2, fun e' he' hle => ?_⟩
  -- the filtered entries stay sorted, and `e` is the last of them
  have hsf : Sorted key (l ++ [e]) := hl ▸ List.Pairwise.filter _ hs
  have he'f : e' ∈ l ++ [e] := by
    rw [← hl]
    exact List.mem_filter.mpr ⟨he', by simpa using hle⟩
  rcases List.mem_append.mp he'f with h' | h'
  · exact ((List.pairwise_append.mp hsf).2.2 e' h' e (List.mem_singleton_self e)).le
  · rw [List.mem_singleton.mp h']

/-- In a sorted map, `lastLE` is the entry with the greatest projection at most `b`. -/
theorem lastLE_eq_some_iff {m : List (K × V)} (hs : Sorted key m) {b : Nat} {e : K × V} :
    lastLE key m b = some e ↔
      e ∈ m ∧ key e.1 ≤ b ∧ ∀ e' ∈ m, key e'.1 ≤ b → key e'.1 ≤ key e.1 := by
  refine ⟨lastLE_spec hs, ?_⟩
  rintro ⟨hmem, hle, hmax⟩
  have hfilter : e ∈ m.filter (fun e => key e.1 ≤ b) :=
    List.mem_filter.mpr ⟨hmem, by simpa using hle⟩
  cases hlast : lastLE key m b with
  | none =>
      unfold lastLE at hlast
      rw [List.getLast?_eq_none_iff] at hlast
      rw [hlast] at hfilter
      simp at hfilter
  | some x =>
      -- both are maximal, so they share a projection, and a sorted map has one entry for it
      obtain ⟨hxm, hxle, hxmax⟩ := lastLE_spec hs hlast
      have hkey : key x.1 = key e.1 := le_antisymm (hmax x hxm hxle) (hxmax e hmem hle)
      have hx := find_of_mem hs hxm
      rw [hkey, find_of_mem hs hmem] at hx
      rw [hx]

end KeyedMap

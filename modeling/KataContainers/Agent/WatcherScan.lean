import KataContainers.Agent.Watcher
import KataContainers.Lib.EStateSpec

/-!
# What `scan_path` records and lists

A scan of the entries below a path (`Scanned`) records each entry's modification time in
`watched_files`, leaves every other path's record alone, and appends to the update list every
entry it finds stale: one with no record, or a file or symlink recorded with an earlier time,
and nothing outside what it scanned. Scans of disjoint parts compose (`Scanned.append`), so a
directory's scan is its own record followed by its entries' scans (`scanPath_holds`). On a
source within `MAX_ENTRIES_PER_STORAGE` and `MAX_SIZE_PER_WATCHABLE_MOUNT` no check fails: the
count never exceeds the number of paths the source has, because `watched_files` records only
paths of the source (`KeysIn`), and every subtree is at most as large as the whole.
-/

namespace KataContainers.Watcher

open RustFs EStateSpec

/-- Every path recorded in `watched_files` exists in the source. -/
def KeysIn (root : Node) (w : Watched) : Prop := ∀ q, q ∈ w → root.lookup q ≠ none

/-- `scan_path` lists an entry when nothing is recorded for it, or when it is a file or symlink
recorded with an earlier modification time. -/
def Stale : Option Nat → Node → Prop
  | none, _ => True
  | some t, m => m.isDir = false ∧ t < m.mtime

/-- A node alone, at the path it is scanned at. -/
def selfAt (m : Node) : Path → Option Node
  | [] => some m
  | _ :: _ => none

/-- One entry of a directory with what is below it, by path relative to the directory. -/
def childAt (name : String) (c : Node) : Path → Option Node
  | [] => none
  | n :: rest => if n = name then c.lookup rest else none

/-- The entries below a directory, by path relative to it. -/
def childLookup (cs : List (String × Node)) : Path → Option Node
  | [] => none
  | name :: rest => (cs.lookup name).bind (Node.lookup · rest)

/-- What a successful scan of the entries `f`, at their paths relative to `p`, did to the state. -/
structure Scanned (p : Path) (f : Path → Option Node) (st st' : ScanState) : Prop where
  recorded : ∀ r m, f r = some m → st'.watchedFiles.lookup (p ++ r) = some m.mtime
  frame : ∀ q, (∀ r, q = p ++ r → f r = none) → st'.watchedFiles.lookup q = st.watchedFiles.lookup q
  listed : ∃ D, st'.updateList = st.updateList ++ D ∧ (∀ q ∈ D, ∃ r m, q = p ++ r ∧ f r = some m) ∧
    ∀ r m, f r = some m → Stale (st.watchedFiles.lookup (p ++ r)) m → p ++ r ∈ D

/-! ## The parts of a tree a scan covers -/

theorem lookup_dir_eq (m : Nat) (cs : List (String × Node)) :
    (Node.dir m cs).lookup = fun r => (selfAt (.dir m cs) r).or (childLookup cs r) := by
  funext r
  cases r <;> rfl

theorem lookup_file_eq (m : Nat) (c : List UInt8) : (Node.file m c).lookup = selfAt (.file m c) := by
  funext r
  cases r <;> rfl

theorem lookup_symlink_eq (m : Nat) (t : String) :
    (Node.symlink m t).lookup = selfAt (.symlink m t) := by
  funext r
  cases r <;> rfl

theorem childLookup_nil : childLookup [] = fun _ => none := by
  funext r
  cases r <;> rfl

/-- A directory's entries are its first entry and the rest, apart when the names are distinct. -/
theorem childLookup_cons {name : String} {c : Node} {cs : List (String × Node)}
    (hname : name ∉ cs.map Prod.fst) :
    childLookup ((name, c) :: cs) = fun r => (childAt name c r).or (childLookup cs r) := by
  funext r
  cases r with
  | nil => rfl
  | cons n rest =>
    by_cases hn : n = name
    · subst hn
      simp [childLookup, childAt, Node.lookup_eq_none_of_not_mem hname]
    · have hne : (n == name) = false := beq_false_of_ne hn
      simp [childLookup, childAt, hn, List.lookup, hne]

theorem childAt_disjoint {name : String} {c : Node} {cs : List (String × Node)}
    (hname : name ∉ cs.map Prod.fst) (r : Path) (h : childAt name c r ≠ none) : childLookup cs r = none := by
  cases r with
  | nil => rfl
  | cons n rest =>
    by_cases hn : n = name
    · subst hn
      simp [childLookup, Node.lookup_eq_none_of_not_mem hname]
    · simp [childAt, hn] at h

theorem selfAt_disjoint (m : Node) (cs : List (String × Node)) (r : Path) (h : selfAt m r ≠ none) :
    childLookup cs r = none := by
  cases r with
  | nil => rfl
  | cons => exact absurd rfl h

/-! ## How scans compose -/

section Scanned

variable {p : Path} {st st₁ st₂ : ScanState}

theorem Scanned.nil : Scanned p (fun _ => none) st st where
  recorded _ _ h := nomatch h
  frame _ _ := rfl
  listed := ⟨[], by simp, by simp, fun _ _ h => nomatch h⟩

/-- Recording one entry at `p`, listed when it was stale. -/
theorem Scanned.self {m : Node} {D : List Path} (hw : st'.watchedFiles = st.watchedFiles.insert p m.mtime)
    (hL : st'.updateList = st.updateList ++ D) (hD : ∀ q ∈ D, q = p)
    (hstale : Stale (st.watchedFiles.lookup p) m → p ∈ D) : Scanned p (selfAt m) st st' where
  recorded := by
    intro r m' h
    cases r with
    | nil =>
      cases h
      rw [List.append_nil, hw, AList.lookup_insert]
    | cons => exact nomatch h
  frame := by
    intro q hq
    have hne : q ≠ p := fun h => by simpa [selfAt] using hq [] (by simp [h])
    rw [hw, AList.lookup_insert_ne hne]
  listed := by
    refine ⟨D, hL, fun q hq => ⟨[], m, by simp [hD q hq], rfl⟩, ?_⟩
    intro r m' h hs
    cases r with
    | nil =>
      cases h
      rw [List.append_nil] at hs ⊢
      exact hstale hs
    | cons => exact nomatch h

/-- Scans of two disjoint parts, one after the other, are a scan of both. -/
theorem Scanned.append {f g : Path → Option Node} (h₁ : Scanned p f st st₁) (h₂ : Scanned p g st₁ st₂)
    (hdisj : ∀ r, f r ≠ none → g r = none) : Scanned p (fun r => (f r).or (g r)) st st₂ where
  recorded := by
    intro r m h
    cases hf : f r with
    | some m' =>
      rw [hf, Option.some_or, Option.some.injEq] at h
      subst h
      rw [h₂.frame (p ++ r) fun r' hr' => by
        rw [List.append_cancel_left hr'.symm]
        exact hdisj r (by simp [hf])]
      exact h₁.recorded r m' hf
    | none =>
      rw [hf, Option.none_or] at h
      exact h₂.recorded r m h
  frame := by
    intro q hq
    have hfg : ∀ r, q = p ++ r → f r = none ∧ g r = none := fun r hr => by
      simpa using hq r hr
    rw [h₂.frame q fun r hr => (hfg r hr).2, h₁.frame q fun r hr => (hfg r hr).1]
  listed := by
    obtain ⟨D₁, hL₁, hD₁, hs₁⟩ := h₁.listed
    obtain ⟨D₂, hL₂, hD₂, hs₂⟩ := h₂.listed
    refine ⟨D₁ ++ D₂, by rw [hL₂, hL₁, List.append_assoc], ?_, ?_⟩
    · intro q hq
      rcases List.mem_append.mp hq with hq | hq
      · obtain ⟨r, m, rfl, hm⟩ := hD₁ q hq
        exact ⟨r, m, rfl, by simp [hm]⟩
      · obtain ⟨r, m, rfl, hm⟩ := hD₂ q hq
        have hf : f r = none := by
          by_contra hf
          simp [hdisj r hf] at hm
        exact ⟨r, m, rfl, by simp [hf, hm]⟩
    · intro r m h hs
      cases hf : f r with
      | some m' =>
        rw [hf, Option.some_or, Option.some.injEq] at h
        subst h
        exact List.mem_append_left _ (hs₁ r m' hf hs)
      | none =>
        rw [hf, Option.none_or] at h
        have hsame : st₁.watchedFiles.lookup (p ++ r) = st.watchedFiles.lookup (p ++ r) :=
          h₁.frame (p ++ r) fun r' hr' => by rw [List.append_cancel_left hr'.symm]; exact hf
        exact List.mem_append_right _ (hs₂ r m h (hsame ▸ hs))

/-- A scan of an entry at `p ++ [name]` is a scan of that entry of the directory at `p`. -/
theorem Scanned.child {name : String} {c : Node} (h : Scanned (p ++ [name]) c.lookup st st') :
    Scanned p (childAt name c) st st' where
  recorded := by
    intro r m hm
    cases r with
    | nil => exact nomatch hm
    | cons n rest =>
      by_cases hn : n = name
      · subst hn
        simp only [childAt, if_true] at hm
        have := h.recorded rest m hm
        rwa [List.append_assoc, List.singleton_append] at this
      · simp [childAt, hn] at hm
  frame := by
    intro q hq
    exact h.frame q fun r hr => by simpa [childAt] using hq (name :: r) (by simp [hr])
  listed := by
    obtain ⟨D, hL, hD, hs⟩ := h.listed
    refine ⟨D, hL, fun q hq => ?_, fun r m hm hst => ?_⟩
    · obtain ⟨r, m, rfl, hm⟩ := hD q hq
      exact ⟨name :: r, m, by simp, by simpa [childAt] using hm⟩
    · cases r with
      | nil => exact nomatch hm
      | cons n rest =>
        by_cases hn : n = name
        · subst hn
          simp only [childAt, if_true] at hm
          have := hs rest m hm (by rwa [List.append_assoc, List.singleton_append])
          rwa [List.append_assoc, List.singleton_append] at this
        · simp [childAt, hn] at hm

end Scanned

/-! ## The recorded paths stay in the source -/

/-- What every step of a scan keeps, whether it fails or not: the recorded paths exist in the
source, and none is dropped. -/
structure Tracks (root : Node) (st st' : ScanState) : Prop where
  keysIn : KeysIn root st'.watchedFiles
  grows : ∀ q, q ∈ st.watchedFiles → q ∈ st'.watchedFiles

/-- The source is beyond one of the limits: more paths than `MAX_ENTRIES_PER_STORAGE`, or a
part of it larger than `MAX_SIZE_PER_WATCHABLE_MOUNT`. -/
def Exceeds (root : Node) (size : Nat) : Prop :=
  maxEntriesPerStorage < root.paths.length ∨ maxSizePerWatchableMount < size

section Keys

variable {root : Node}

theorem keysIn_insert {w : Watched} (p : Path) (m : Nat) (hw : KeysIn root w) (hp : root.lookup p ≠ none) :
    KeysIn root (w.insert p m) := by
  intro q hq
  rcases (AList.mem_insert w).mp hq with rfl | hq
  · exact hp
  · exact hw q hq

/-- `watched_files` never holds more entries than the source has paths. -/
theorem length_le_of_keysIn {w : Watched} (hw : KeysIn root w) : w.entries.length ≤ root.paths.length := by
  have hsub : w.keys ⊆ root.paths := fun q hq =>
    Node.mem_paths_of_lookup root q (hw q (AList.mem_keys.mpr hq))
  have := ((AList.keys_nodup w).subperm hsub).length_le
  simpa [AList.keys, List.keys] using this

theorem Tracks.refl {st : ScanState} (h : KeysIn root st.watchedFiles) : Tracks root st st :=
  ⟨h, fun _ hq => hq⟩

theorem Tracks.trans {st₁ st₂ st₃ : ScanState} (h₁ : Tracks root st₁ st₂) (h₂ : Tracks root st₂ st₃) :
    Tracks root st₁ st₃ :=
  ⟨h₂.keysIn, fun q hq => h₂.grows q (h₁.grows q hq)⟩

/-- Recording a path of the source keeps the records in the source and drops none. -/
theorem Tracks.insert {st : ScanState} (p : Path) (m : Nat) (L : List Path) (hk : KeysIn root st.watchedFiles)
    (hp : root.lookup p ≠ none) : Tracks root st ⟨st.watchedFiles.insert p m, L⟩ :=
  ⟨keysIn_insert p m hk hp, fun _ hq => (AList.mem_insert _).mpr (Or.inr hq)⟩

theorem Exceeds.mono {size size' : Nat} (h : Exceeds root size) (hle : size ≤ size') : Exceeds root size' := by
  unfold Exceeds at *
  omega

end Keys

/-! ## `scan_path` -/

section Checks

variable {Q : Unit → ScanState → Prop} {E : WatcherError → ScanState → Prop} (st : ScanState)

theorem holds_ensureEntries :
    Holds Q E ensureEntries st ↔
      (st.watchedFiles.entries.length ≤ maxEntriesPerStorage → Q () st) ∧
      (maxEntriesPerStorage < st.watchedFiles.entries.length →
        E (.mountTooManyFiles st.watchedFiles.entries.length) st) := by
  by_cases h : st.watchedFiles.entries.length ≤ maxEntriesPerStorage
  · simp [Holds, EStateM.run, ensureEntries, h]
  · simp [Holds, EStateM.run, ensureEntries, h, Nat.lt_of_not_le h]

theorem holds_ensureSize (size : Nat) :
    Holds Q E (ensureSize size) st ↔
      (size ≤ maxSizePerWatchableMount → Q () st) ∧
      (maxSizePerWatchableMount < size → E (.mountTooLarge size) st) := by
  by_cases h : size ≤ maxSizePerWatchableMount
  · simp [Holds, EStateM.run, ensureSize, h]
  · simp [Holds, EStateM.run, ensureSize, h, Nat.lt_of_not_le h]

end Checks

/-- The arm of `scan_path` for a directory: it is recorded, listed when it was not recorded
before, and then its entries and the size check run. -/
theorem holds_scanPath_dir {Q : Nat → ScanState → Prop} {E : WatcherError → ScanState → Prop}
    {p : Path} {m : Nat} {cs : List (String × Node)} {st : ScanState}
    (h : ∀ D, ((st.watchedFiles.lookup p).isSome ∧ D = [] ∨
        st.watchedFiles.lookup p = none ∧ D = [p]) →
      Holds Q E (do let size ← scanChildren p cs 0; ensureSize size; pure size)
        ⟨st.watchedFiles.insert p m, st.updateList ++ D⟩) :
    Holds Q E (scanPath p (.dir m cs)) st := by
  unfold scanPath
  rw [holds_bind, holds_of_run_ok (insertWatched_run st p m)]
  dsimp only
  cases ho : st.watchedFiles.lookup p with
  | none =>
    rw [Option.isNone_none, if_pos rfl, holds_bind, holds_of_run_ok (pushUpdate_run _ p)]
    exact h [p] (.inr ⟨ho, rfl⟩)
  | some old =>
    rw [Option.isNone_some, if_neg Bool.false_ne_true]
    have hcont := h [] (.inl ⟨by simp [ho], rfl⟩)
    rwa [List.append_nil] at hcont

section Scan

variable (root : Node)

/-- A file or symlink is recorded and listed when it is stale; the scan fails only on a source
beyond the limits. -/
theorem scanLeaf_holds {p : Path} {m : Node} (st : ScanState) (hp : root.lookup p = some m) (len : Nat)
    (hk : KeysIn root st.watchedFiles) :
    Holds (fun v st' => v = len ∧ Scanned p (selfAt m) st st' ∧ Tracks root st st')
      (fun _ st' => Exceeds root len ∧ Tracks root st st') (scanLeaf p m.mtime len) st := by
  -- what follows the listing: the two checks
  have hcont : ∀ D L, L = st.updateList ++ D → (∀ q ∈ D, q = p) →
      (Stale (st.watchedFiles.lookup p) m → p ∈ D) →
      Holds (fun v st' => v = len ∧ Scanned p (selfAt m) st st' ∧ Tracks root st st')
        (fun _ st' => Exceeds root len ∧ Tracks root st st') (do ensureEntries; ensureSize len; pure len)
        ⟨st.watchedFiles.insert p m.mtime, L⟩ := by
    intro D L hL hD hstale
    have htr := Tracks.insert p m.mtime L hk (by simp [hp])
    rw [holds_bind, holds_ensureEntries]
    refine ⟨fun _ => ?_, fun hgt => ⟨Or.inl ((hgt.trans_le (length_le_of_keysIn htr.keysIn))), htr⟩⟩
    rw [holds_bind, holds_ensureSize]
    exact ⟨fun _ => ⟨rfl, Scanned.self rfl hL hD hstale, htr⟩, fun hgt => ⟨Or.inr hgt, htr⟩⟩
  unfold scanLeaf
  rw [holds_bind, holds_of_run_ok (insertWatched_run st p m.mtime)]
  dsimp only
  cases ho : st.watchedFiles.lookup p with
  | none =>
    rw [holds_bind, holds_of_run_ok (pushUpdate_run _ p)]
    exact hcont [p] _ rfl (by simp) (fun _ => by simp)
  | some old =>
    dsimp only
    by_cases hlt : m.mtime > old
    · rw [if_pos hlt, holds_bind, holds_of_run_ok (pushUpdate_run _ p)]
      exact hcont [p] _ rfl (by simp) (fun _ => by simp)
    · rw [if_neg hlt]
      refine hcont [] _ (List.append_nil _).symm (by simp) fun hs => ?_
      rw [ho] at hs
      exact absurd hs.2 hlt

mutual
/-- `scan_path` on an entry of the source: on success it returns the entry's size, having
scanned the whole subtree; it fails only when the source is beyond a limit; either way the
records stay in the source and none is dropped. -/
theorem scanPath_holds : ∀ (n : Node) (p : Path) (st : ScanState), root.lookup p = some n →
    n.namesNodup = true → KeysIn root st.watchedFiles →
    Holds (fun v st' => v = mountSize n ∧ Scanned p n.lookup st st' ∧ Tracks root st st')
      (fun _ st' => Exceeds root (mountSize n) ∧ Tracks root st st') (scanPath p n) st
  | .dir m cs, p, st, hp, hnd, hk => by
      rw [Node.namesNodup_dir] at hnd
      have hchild : ∀ name c, (name, c) ∈ cs → root.lookup (p ++ [name]) = some c := by
        intro name c hc
        rw [Node.lookup_append, hp]
        simp [Node.lookup_dir_cons, Node.lookup_of_mem hnd.1 hc]
      -- what follows the directory's own record: its entries, then the size check
      have hcont : ∀ D L, L = st.updateList ++ D → (∀ q ∈ D, q = p) →
          (Stale (st.watchedFiles.lookup p) (.dir m cs) → p ∈ D) →
          Holds (fun v st' => v = mountSize (.dir m cs) ∧ Scanned p (Node.dir m cs).lookup st st' ∧
              Tracks root st st') (fun _ st' => Exceeds root (mountSize (.dir m cs)) ∧ Tracks root st st')
            (do let size ← scanChildren p cs 0; ensureSize size; pure size)
            ⟨st.watchedFiles.insert p m, L⟩ := by
        intro D L hL hD hstale
        have hself : Scanned p (selfAt (.dir m cs)) st ⟨st.watchedFiles.insert p m, L⟩ :=
          Scanned.self rfl hL hD hstale
        have htr := Tracks.insert p m L hk (by simp [hp])
        rw [holds_bind, mountSize_dir]
        refine (scanChildren_holds cs p 0 _ hchild hnd.1 hnd.2 htr.keysIn).mono ?_
          fun _ _ h => ⟨h.1, htr.trans h.2⟩
        rintro v st' ⟨rfl, hsc, htr'⟩
        rw [Nat.zero_add, holds_bind, holds_ensureSize]
        refine ⟨fun _ => ⟨rfl, ?_, htr.trans htr'⟩, fun hgt => ⟨Or.inr hgt, htr.trans htr'⟩⟩
        rw [lookup_dir_eq]
        exact hself.append hsc (selfAt_disjoint _ cs)
      refine holds_scanPath_dir fun D hD => ?_
      rcases hD with ⟨hsome, rfl⟩ | ⟨-, rfl⟩
      · -- recorded before: not listed, and a directory is never stale
        refine hcont [] _ rfl (by simp) fun hs => ?_
        obtain ⟨old, ho⟩ := Option.isSome_iff_exists.mp hsome
        rw [ho] at hs
        exact absurd hs.1 (by simp [Node.isDir])
      · exact hcont [p] _ rfl (by simp) fun _ => by simp
  | .file m c, p, st, hp, _, hk => by
      rw [lookup_file_eq]
      exact scanLeaf_holds root st hp _ hk
  | .symlink m t, p, st, hp, _, hk => by
      rw [lookup_symlink_eq]
      exact scanLeaf_holds root st hp _ hk

/-- The loop over a directory's entries: each is scanned in turn, and the sizes add up. -/
theorem scanChildren_holds : ∀ (cs : List (String × Node)) (p : Path) (size : Nat) (st : ScanState),
    (∀ name c, (name, c) ∈ cs → root.lookup (p ++ [name]) = some c) → (cs.map Prod.fst).Nodup →
    Node.childrenNamesNodup cs = true → KeysIn root st.watchedFiles →
    Holds (fun v st' => v = size + childrenSize cs ∧ Scanned p (childLookup cs) st st' ∧
        Tracks root st st') (fun _ st' => Exceeds root (childrenSize cs) ∧ Tracks root st st')
      (scanChildren p cs size) st
  | [], p, size, st, _, _, _, hk => by
      rw [holds_of_run_ok (scanChildren_nil_run st p size), childLookup_nil]
      exact ⟨rfl, Scanned.nil, Tracks.refl hk⟩
  | (name, c) :: cs, p, size, st, hchild, hnd, hwf, hk => by
      rw [List.map_cons, List.nodup_cons] at hnd
      rw [Node.childrenNamesNodup_cons] at hwf
      rw [childrenSize_cons]
      unfold scanChildren
      rw [holds_bind]
      refine (scanPath_holds c (p ++ [name]) st (hchild name c List.mem_cons_self) hwf.1 hk).mono ?_
        fun _ _ h => ⟨h.1.mono (by omega), h.2⟩
      rintro v st₁ ⟨rfl, hsc₁, htr₁⟩
      refine (scanChildren_holds cs p (size + mountSize c) st₁
        (fun n c' h => hchild n c' (List.mem_cons_of_mem _ h)) hnd.2 hwf.2 htr₁.keysIn).mono ?_
        fun _ _ h => ⟨h.1.mono (by omega), htr₁.trans h.2⟩
      rintro v st₂ ⟨rfl, hsc₂, htr₂⟩
      refine ⟨by omega, ?_, htr₁.trans htr₂⟩
      rw [childLookup_cons hnd.1]
      exact hsc₁.child.append hsc₂ (childAt_disjoint hnd.1)
end

end Scan

end KataContainers.Watcher

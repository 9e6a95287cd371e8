import KataContainers.Agent.WatcherMirror

/-!
# The mirror over a storage's whole life

Two facts about every run of `add` and `check`:

* Whatever the source does, as long as the storage is watched the target holds nothing at a path
  the source no longer has (`run_target_within_source`): every entry of the target is recorded
  in `watched_files`, and `scan` drops a vanished path's record only together with its target.
* When every snapshot is within the limits and each one only grows later modification times for
  what it changes (`Evolves`), the target after each check is the source (`run_mirrors_source`).

The second needs the limits at every check, not only at the last: `scan_path` records what it
sees before it checks the limits, and a scan that fails leaves those records behind with nothing
copied, so entries recorded then are never copied later.
-/

namespace KataContainers.Watcher

open RustFs EStateSpec

/-- The limits under which `scan_path` cannot fail. -/
def WithinLimits (root : Node) : Prop :=
  root.paths.length ≤ maxEntriesPerStorage ∧ mountSize root ≤ maxSizePerWatchableMount

instance (root : Node) : Decidable (WithinLimits root) := inferInstanceAs (Decidable (_ ∧ _))

/-- From one snapshot to the next, an entry still there keeps its kind, and one whose contents
changed has a later modification time. -/
def Evolves (old new : Node) : Prop :=
  ∀ q m m', old.lookup q = some m → new.lookup q = some m' → m.kind = m'.kind ∧ (m.entry ≠ m'.entry → m.mtime < m'.mtime)

/-- The storage mirrors the snapshot: it is watched, `watched_files` holds each entry's time, and
the target is the source. -/
structure Mirrors (src : Source) (s : Storage) (t : Tree) : Prop where
  watch : s.watch = true
  recorded : ∀ q, s.watchedFiles.lookup q = (src.root.lookup q).map Node.mtime
  target : t = src.root.view

/-- What the scan itself needs after the deletions: records and target entries only at paths of
the source, target entries of the right kind, and every entry `scan_path` will not list already
right in the target. -/
structure Ready (root : Node) (w : Watched) (t : Tree) : Prop where
  keysIn : KeysIn root w
  compat : Compat root t
  settled : ∀ q m, root.lookup q = some m → ¬Stale (w.lookup q) m → t q = some m.entry

/-! ## One scan -/

section Scan

variable {src : Source} {w w₁ : Watched} {L : List Path} {t : Tree}

theorem scan_of_run_ok (hr : retainExisting src.root w = (w₁, L)) {v : Nat} {st : ScanState}
    (h : (scanPath [] src.root).run ⟨w₁, []⟩ = .ok v st) :
    scan src w t = (st.watchedFiles, st.updateList.foldl (fun t p => exec (updateTarget src p) t)
      (L.foldl removeTarget t), .ok st.updateList.length) := by
  simp only [scan, hr, h]

theorem scan_of_run_error (hr : retainExisting src.root w = (w₁, L)) {e : WatcherError} {st : ScanState}
    (h : (scanPath [] src.root).run ⟨w₁, []⟩ = .error e st) :
    scan src w t = (st.watchedFiles, L.foldl removeTarget t, .error e) := by
  simp only [scan, hr, h]

/-- On a snapshot within the limits and a ready state, `scan` succeeds, records every entry with
its time, and leaves the target equal to the source. -/
theorem scan_eq_of_ready (hlim : WithinLimits src.root) (hr : retainExisting src.root w = (w₁, L))
    (hready : Ready src.root w₁ (L.foldl removeTarget t)) :
    ∃ w' n, scan src w t = (w', src.root.view, .ok n) ∧
      ∀ q, w'.lookup q = (src.root.lookup q).map Node.mtime := by
  have hk₁ : KeysIn src.root w₁ := hready.keysIn
  -- within the limits the scan cannot fail
  obtain ⟨v, st, hrun, -, hsc, -⟩ := Holds.run_ok <|
    (scanPath_holds src.root src.root [] ⟨w₁, []⟩ rfl src.namesNodup hk₁).mono (fun _ _ h => h)
      fun _ _ h => absurd h.1 (by obtain ⟨h₁, h₂⟩ := hlim; unfold Exceeds; omega)
  refine ⟨st.watchedFiles, st.updateList.length, ?_, fun q => ?_⟩
  · rw [scan_of_run_ok hr hrun]
    obtain ⟨D, hL, hD, hs⟩ := hsc.listed
    simp only [List.nil_append] at hL hD hs
    rw [hL]
    have hDsrc : ∀ p ∈ D, src.root.lookup p ≠ none := fun p hp => by
      obtain ⟨r, m, rfl, hm⟩ := hD p hp
      simp [hm]
    obtain ⟨hc, hgood⟩ := foldl_updateTarget src D hDsrc _ hready.compat
    congr 1
    refine Prod.ext ?_ rfl
    funext q
    refine hgood q ?_
    -- an entry is copied when it is stale, and otherwise already right; an absent one is absent
    cases hq : src.root.lookup q with
    | none =>
      refine Or.inr ?_
      cases ht : (L.foldl removeTarget t) q with
      | none => simp [hq]
      | some e =>
        obtain ⟨m, hm, _⟩ := hready.compat q e ht
        simp [hq] at hm
    | some m =>
      by_cases hst : Stale (w₁.lookup q) m
      · exact Or.inl (hs q m hq hst)
      · exact Or.inr (by simp [hready.settled q m hq hst, hq])
  · cases hq : src.root.lookup q with
    | some m => simpa using hsc.recorded q m hq
    | none =>
      rw [hsc.frame q fun r hr => by simpa [hr] using hq]
      have : w₁.lookup q = (retainExisting src.root w).1.lookup q := by rw [hr]
      rw [this, retainExisting_lookup, if_pos hq]
      rfl

/-- `scan` fails only on a snapshot beyond the limits. The converse does not hold: the count is
checked only after a file or a symlink, so a source of more than `MAX_ENTRIES_PER_STORAGE`
directories and nothing else is scanned without an error. -/
theorem scan_error_not_withinLimits {e : WatcherError} (h : (scan src w t).2.2 = .error e) :
    ¬ WithinLimits src.root := by
  intro hlim
  have hspec := scanPath_holds src.root src.root [] ⟨(retainExisting src.root w).1, []⟩ rfl
    src.namesNodup (keysIn_retainExisting src.root w)
  cases hrun : (scanPath [] src.root).run ⟨(retainExisting src.root w).1, []⟩ with
  | ok v st =>
    rw [scan_of_run_ok rfl hrun] at h
    cases h
  | error e' st =>
    -- the failing scan leaves a snapshot beyond one of the two limits
    have hex := ((holds_of_run_error hrun).mp hspec).1
    obtain ⟨h₁, h₂⟩ := hlim
    unfold Exceeds at hex
    omega

end Scan

/-! ## Sources of directories alone -/

section OnlyDirs

mutual
/-- The node and everything below it are directories. -/
def onlyDirs : Node → Bool
  | .dir _ cs => childrenOnlyDirs cs
  | .file .. => false
  | .symlink .. => false

def childrenOnlyDirs : List (String × Node) → Bool
  | [] => true
  | (_, c) :: cs => onlyDirs c && childrenOnlyDirs cs
end

mutual
/-- `scan_path` of directories alone always returns, with size 0. -/
theorem scanPath_holds_onlyDirs : ∀ (n : Node) (p : Path) (st : ScanState), onlyDirs n = true →
    Holds (fun v _ => v = 0) (fun _ _ => False) (scanPath p n) st
  | .dir m cs, p, st, h => by
      -- listed or not, the directory's entries follow, then the size check of 0
      refine holds_scanPath_dir fun D _ => ?_
      rw [holds_bind]
      refine (scanChildren_holds_onlyDirs cs p 0 _ h).mono ?_ fun _ _ h => h
      rintro v st' rfl
      rw [holds_bind, holds_ensureSize]
      exact ⟨fun _ => rfl, fun hgt => absurd hgt (by decide)⟩
  | .file .., _, _, h => absurd h Bool.false_ne_true
  | .symlink .., _, _, h => absurd h Bool.false_ne_true

theorem scanChildren_holds_onlyDirs : ∀ (cs : List (String × Node)) (p : Path) (size : Nat)
    (st : ScanState), childrenOnlyDirs cs = true →
    Holds (fun v _ => v = size) (fun _ _ => False) (scanChildren p cs size) st
  | [], p, size, st, _ => by
      rw [holds_of_run_ok (scanChildren_nil_run st p size)]
  | (name, c) :: cs, p, size, st, h => by
      rw [childrenOnlyDirs, Bool.and_eq_true] at h
      unfold scanChildren
      rw [holds_bind]
      refine (scanPath_holds_onlyDirs c (p ++ [name]) st h.1).mono ?_ fun _ _ h => h
      rintro v st₁ rfl
      exact (scanChildren_holds_onlyDirs cs p (size + 0) st₁ h.2).mono (fun _ _ hv => hv) fun _ _ h => h
end

/-- `scan` of a source of directories alone never fails, however many there are: the entry
count is checked only after a file or a symlink, so `MountTooManyFiles` never ends such a scan
and the bind-mount fallback never replaces it. -/
theorem scan_ok_of_onlyDirs {src : Source} (w : Watched) (t : Tree) (h : onlyDirs src.root = true) :
    ∃ n, (scan src w t).2.2 = .ok n := by
  obtain ⟨v, st, hrun, -⟩ :=
    Holds.run_ok (scanPath_holds_onlyDirs src.root [] ⟨(retainExisting src.root w).1, []⟩ h)
  rw [scan_of_run_ok rfl hrun]
  exact ⟨_, rfl⟩

/-- A directory holding 16 empty directories: 17 entries, one more than
`MAX_ENTRIES_PER_STORAGE`. -/
def manyDirsSource : Source :=
  ⟨.dir 0 ((List.range 16).map fun i => (toString i, .dir 0 [])), by with_unfolding_all decide⟩

theorem scan_ok_of_onlyDirs_many :
    onlyDirs manyDirsSource.root = true ∧ ¬ WithinLimits manyDirsSource.root ∧
      ∃ n, (scan manyDirsSource ∅ fun _ => none).2.2 = .ok n := by
  have h : onlyDirs manyDirsSource.root = true := by with_unfolding_all decide
  exact ⟨h, by with_unfolding_all decide, scan_ok_of_onlyDirs ∅ (fun _ => none) h⟩

end OnlyDirs

/-! ## The state before the scan -/

section Ready

variable {old new : Node} {s : Storage} {t : Tree}

/-- After the deletions the target keeps what is still in the source and nothing else. -/
theorem target_after_delete (hrec : ∀ q, s.watchedFiles.lookup q = (old.lookup q).map Node.mtime)
    (ht : t = old.view) (q : Path) :
    (retainExisting new s.watchedFiles).2.foldl removeTarget t q =
      if new.lookup q = none then none else old.view q := by
  split
  next hq =>
    by_cases hw : q ∈ s.watchedFiles
    · exact foldl_removeTarget_of_mem ((mem_retainExisting_snd _ _ _).mpr ⟨hw, hq⟩) t
    · have hold : old.lookup q = none := by
        have := hrec q
        rw [AList.lookup_eq_none.mpr hw] at this
        exact Option.map_eq_none_iff.mp this.symm
      rcases foldl_removeTarget_none_or (retainExisting new s.watchedFiles).2 t q with h | h
      · exact h
      · rw [h, ht]
        simp [hold]
  next hq =>
    rw [← ht]
    refine foldl_removeTarget_of_forall (fun r hr hpre => ?_) t
    -- a vanished path is no prefix of one that is still there
    obtain ⟨m, hm⟩ := Option.ne_none_iff_exists'.mp hq
    obtain ⟨m', hm', -⟩ := Node.lookup_ancestor hm hpre
    simp [((mem_retainExisting_snd _ _ _).mp hr).2] at hm'

/-- A mirrored snapshot followed by one that `Evolves` from it is ready to be scanned. -/
theorem ready_of_mirrors {src src' : Source} (hm : Mirrors src s t) (hev : Evolves src.root src'.root) :
    Ready src'.root (retainExisting src'.root s.watchedFiles).1
      ((retainExisting src'.root s.watchedFiles).2.foldl removeTarget t) where
  keysIn := keysIn_retainExisting _ _
  compat := by
    intro q e he
    rw [target_after_delete hm.recorded hm.target] at he
    split at he
    · exact absurd he (by simp)
    next hq =>
      obtain ⟨m', hm'⟩ := Option.ne_none_iff_exists'.mp hq
      obtain ⟨m, hmo, rfl⟩ : ∃ m, src.root.lookup q = some m ∧ m.entry = e := by simpa using he
      exact ⟨m', hm', by rw [Node.kind_entry]; exact (hev q m m' hmo hm').1⟩
  settled := by
    intro q m' hm' hst
    rw [target_after_delete hm.recorded hm.target, if_neg (by simp [hm'])]
    rw [retainExisting_lookup, if_neg (by simp [hm']), hm.recorded] at hst
    cases hmo : src.root.lookup q with
    | none => simp [hmo, Stale] at hst
    | some m =>
      simp only [hmo, Option.map_some] at hst
      obtain ⟨hkind, hch⟩ := hev q m m' hmo hm'
      simp only [Node.view_apply, hmo, Option.map_some, Option.some.injEq]
      -- a directory stays a directory; a file or symlink without a later time is unchanged
      by_cases hdir : m'.isDir = true
      · have hdir' : m.isDir = true := Node.kind_eq_dir_iff.mp (hkind.trans (Node.kind_eq_dir_iff.mpr hdir))
        rw [Node.entry_eq_dir_iff.mpr hdir, Node.entry_eq_dir_iff.mpr hdir']
      · by_contra hne
        exact hst ⟨by simpa using hdir, hch hne⟩

/-- The state `add` starts from is ready: nothing recorded, and only the target mount point. -/
theorem ready_initial (src : Source) :
    Ready src.root (retainExisting src.root Storage.new.watchedFiles).1
      ((retainExisting src.root Storage.new.watchedFiles).2.foldl removeTarget
        (if src.root.isDir then exec (createDirAll []) fun _ => none else fun _ => none)) where
  keysIn := keysIn_retainExisting _ _
  compat := by
    have hnil : (retainExisting src.root Storage.new.watchedFiles).2 = [] := rfl
    rw [hnil, List.foldl_nil]
    intro q e he
    split at he
    next hdir =>
      rw [exec_ok (createDirAll_run_of_dirOk fun q _ => Or.inl rfl)] at he
      unfold withDirs at he
      split at he
      next hq =>
        cases he
        exact ⟨src.root, by rw [List.prefix_nil.mp hq.1]; rfl, (Node.kind_eq_dir_iff.mpr hdir).symm⟩
      next => exact absurd he (by simp)
    next => exact absurd he (by simp)
  settled := by
    intro q m _ hst
    simp [retainExisting_lookup, Stale, Storage.new] at hst

end Ready

/-! ## Checks that find the source within the limits -/

/-- A check of a mirrored storage on an evolved snapshot within the limits mirrors the new
snapshot, whatever the bind mount would do. -/
theorem check_of_mirrors {src src' : Source} {s : Storage} {t : Tree} (hm : Mirrors src s t)
    (hev : Evolves src.root src'.root) (hlim : WithinLimits src'.root) (bindOk : Bool) :
    Mirrors src' (s.check src' bindOk t).1 (s.check src' bindOk t).2 := by
  obtain ⟨w', n, hscan, hw'⟩ := scan_eq_of_ready hlim rfl (ready_of_mirrors hm hev)
  unfold Storage.check
  rw [if_pos hm.watch, hscan]
  exact ⟨hm.watch, hw', rfl⟩

theorem add_eq (src : Source) (bindOk : Bool) :
    add src bindOk = Storage.new.check src bindOk
      (if src.root.isDir then exec (createDirAll []) (fun _ => none) else fun _ => none) := rfl

theorem add_mirrors {src : Source} (hlim : WithinLimits src.root) (bindOk : Bool) :
    Mirrors src (add src bindOk).1 (add src bindOk).2 := by
  obtain ⟨w', n, hscan, hw'⟩ := scan_eq_of_ready hlim rfl (ready_initial src)
  have hwatch : Storage.new.watch = true := rfl
  rw [add_eq]
  unfold Storage.check
  rw [if_pos hwatch, hscan]
  exact ⟨rfl, hw', rfl⟩

theorem foldl_check_mirrors : ∀ (checks : List (Source × Bool)) (src : Source) (st : Storage × Tree),
    Mirrors src st.1 st.2 → (∀ c ∈ checks, WithinLimits c.1.root) →
    List.IsChain (fun a b : Source => Evolves a.root b.root) (src :: checks.map Prod.fst) →
    Mirrors ((src :: checks.map Prod.fst).getLast (List.cons_ne_nil _ _))
      (checks.foldl (fun st c => st.1.check c.1 c.2 st.2) st).1
      (checks.foldl (fun st c => st.1.check c.1 c.2 st.2) st).2
  | [], _, _, hm, _, _ => hm
  | c :: cs, src, st, hm, hlim, hchain => by
      rw [List.map_cons, List.isChain_cons_cons] at hchain
      rw [List.foldl_cons, List.map_cons, List.getLast_cons (List.cons_ne_nil _ _)]
      exact foldl_check_mirrors cs c.1 _ (check_of_mirrors hm hchain.1 (hlim c List.mem_cons_self) c.2)
        (fun c' hc' => hlim c' (List.mem_cons_of_mem _ hc')) hchain.2

/-- When every snapshot of the source is within the limits and each evolves from the one
before, the target after every check is the source, and every entry is recorded with its time. -/
theorem run_mirrors_source (src0 : Source) (bind0 : Bool) (checks : List (Source × Bool))
    (hlim : ∀ src ∈ src0 :: checks.map Prod.fst, WithinLimits src.root)
    (hev : List.IsChain (fun a b : Source => Evolves a.root b.root) (src0 :: checks.map Prod.fst)) :
    Mirrors ((src0 :: checks.map Prod.fst).getLast (List.cons_ne_nil _ _))
      (run src0 bind0 checks).1 (run src0 bind0 checks).2 :=
  foldl_check_mirrors checks src0 _ (add_mirrors (hlim src0 List.mem_cons_self) bind0)
    (fun c hc => hlim c.1 (List.mem_cons_of_mem _ (List.mem_map_of_mem hc))) hev

/-! ## Why the limits must hold at every check -/

/-- Between two directories of files and symlinks only, the snapshot evolves when every name in
both keeps its kind, and gets a later time where its contents changed. -/
theorem evolves_of_flat {mo mn : Nat} {cs cs' : List (String × Node)}
    (hleaf : ∀ e ∈ cs, e.2.isDir = false)
    (h : ∀ e ∈ cs, ∀ e' ∈ cs', e.1 = e'.1 →
      e.2.kind = e'.2.kind ∧ (e.2.entry ≠ e'.2.entry → e.2.mtime < e'.2.mtime)) :
    Evolves (.dir mo cs) (.dir mn cs') := by
  intro q m m' hm hm'
  cases q with
  | nil =>
    cases hm
    cases hm'
    exact ⟨rfl, fun h => absurd rfl h⟩
  | cons name rest =>
    rw [Node.lookup_dir_cons] at hm hm'
    obtain ⟨c, hc, hcm⟩ := Option.bind_eq_some_iff.mp hm
    obtain ⟨c', hc', hcm'⟩ := Option.bind_eq_some_iff.mp hm'
    have hmem := Node.mem_of_lookup_eq_some hc
    -- a file or symlink has nothing below it
    cases rest with
    | nil =>
      cases hcm
      cases hcm'
      exact h _ hmem _ (Node.mem_of_lookup_eq_some hc') rfl
    | cons => exact absurd (Node.isDir_of_lookup_cons hcm) (by simp [hleaf _ hmem])

/-- Fifteen empty files `0` to `14`. -/
def fifteenFiles : List (String × Node) := (List.range 15).map fun i => (toString i, .file 0 [])

/-- A directory with one file `a`. -/
def smallSource : Source := ⟨.dir 1 [("a", .file 0 [7])], by decide⟩

/-- The same directory after fifteen files were added: seventeen entries with the root. -/
def grownSource : Source := ⟨.dir 2 (fifteenFiles ++ [("a", .file 0 [7])]), by with_unfolding_all decide⟩

/-- The first scan of `grownSource` fails, on its seventeenth entry. -/
theorem scan_error_not_withinLimits_grown :
    ∃ e, (scan grownSource ∅ fun _ => none).2.2 = .error e ∧ ¬ WithinLimits grownSource.root := by
  have hfail : (scan grownSource ∅ fun _ => none).2.2.toBool = false := by decide +kernel
  cases h : (scan grownSource ∅ fun _ => none).2.2 with
  | ok n =>
    rw [h] at hfail
    cases hfail
  | error e => exact ⟨e, rfl, scan_error_not_withinLimits h⟩

/-- The same directory after `a` was deleted: sixteen entries, within the limit again. -/
def shrunkSource : Source := ⟨.dir 3 fifteenFiles, by with_unfolding_all decide⟩

/-- On a run where one check finds the source beyond the limit and the bind mount fails, a later
check within the limits leaves the target different from the source: the failed scan recorded
the fifteen new files and copied none, and with their times unchanged no later scan lists them. -/
theorem check_after_failed_scan_misses_entries :
    Evolves smallSource.root grownSource.root ∧ Evolves grownSource.root shrunkSource.root ∧
      WithinLimits smallSource.root ∧ ¬WithinLimits grownSource.root ∧ WithinLimits shrunkSource.root ∧
      (run smallSource false [(grownSource, false), (shrunkSource, false)]).1.watch = true ∧
      (run smallSource false [(grownSource, false), (shrunkSource, false)]).2 ≠ shrunkSource.root.view :=
  ⟨evolves_of_flat (by decide) (by decide +kernel), evolves_of_flat (by decide +kernel) (by decide +kernel),
    by decide, by decide +kernel, by decide +kernel, by decide +kernel,
    fun h => absurd (congrFun h ["0"]) (by decide +kernel)⟩

/-- The file `a` of the small directory, rewritten later. -/
def editedSource : Source := ⟨.dir 2 [("a", .file 5 [8, 9])], by decide⟩

theorem run_mirrors_source_edited :
    (∀ src ∈ smallSource :: [(editedSource, true)].map Prod.fst, WithinLimits src.root) ∧
      List.IsChain (fun a b : Source => Evolves a.root b.root) (smallSource :: [(editedSource, true)].map Prod.fst) ∧
      Mirrors editedSource (run smallSource false [(editedSource, true)]).1
        (run smallSource false [(editedSource, true)]).2 := by
  have hlim : ∀ src ∈ smallSource :: [(editedSource, true)].map Prod.fst, WithinLimits src.root := by decide
  have hev : List.IsChain (fun a b : Source => Evolves a.root b.root)
      (smallSource :: [(editedSource, true)].map Prod.fst) :=
    List.isChain_cons_cons.mpr ⟨evolves_of_flat (by decide) (by decide), List.isChain_singleton _⟩
  exact ⟨hlim, hev, run_mirrors_source smallSource false [(editedSource, true)] hlim hev⟩

/-! ## Every check, within the limits or not -/

/-- Every entry of the target but the target mount point is recorded in `watched_files`. -/
def Tracked (s : Storage) (t : Tree) : Prop := ∀ q, t q ≠ none → q = [] ∨ q ∈ s.watchedFiles

/-- The copies after a scan change only the copied paths and the directories above them. -/
theorem foldl_updateTarget_outside (src : Source) (D : List Path) (t : Tree) {q : Path}
    (hq : ∀ p ∈ D, ¬q <+: p) : D.foldl (fun t p => exec (updateTarget src p) t) t q = t q := by
  induction D generalizing t with
  | nil => rfl
  | cons p D ih =>
    rw [List.foldl_cons, ih _ (fun p' hp' => hq p' (List.mem_cons_of_mem _ hp')),
      (updateTarget_within src p).exec_eq t (hq p List.mem_cons_self)]

theorem check_of_not_watch {src : Source} {bindOk : Bool} {s : Storage} {t : Tree} (hw : s.watch = false) :
    s.check src bindOk t = (s, t) := by
  unfold Storage.check
  rw [if_neg (by simp [hw])]

/-- A check keeps every entry of the target recorded, and when the storage was watched, every
record is a path of the snapshot it scanned: on success, on a failed scan, and after the
fallback alike. -/
theorem check_tracked (src : Source) (bindOk : Bool) {s : Storage} {t : Tree} (ht : Tracked s t) :
    Tracked (s.check src bindOk t).1 (s.check src bindOk t).2 ∧
      (s.watch = true → KeysIn src.root (s.check src bindOk t).1.watchedFiles) := by
  cases hw : s.watch
  · rw [check_of_not_watch hw]
    exact ⟨ht, fun h => nomatch h⟩
  rcases hr : retainExisting src.root s.watchedFiles with ⟨w₁, L⟩
  have hk₁ : KeysIn src.root w₁ := by
    have := keysIn_retainExisting src.root s.watchedFiles
    rwa [hr] at this
  -- after the deletions, every entry left is recorded in what the retain pass kept
  have hdel : ∀ q, L.foldl removeTarget t q ≠ none → q = [] ∨ q ∈ w₁ := by
    intro q hq
    have hqL : q ∉ L := fun h => hq (foldl_removeTarget_of_mem h t)
    have ht' : t q ≠ none := by
      rcases foldl_removeTarget_none_or L t q with h | h
      · exact absurd h hq
      · rwa [h] at hq
    refine (ht q ht').imp id fun hmem => ?_
    have hsrc : src.root.lookup q ≠ none := fun h =>
      hqL (by simpa [hr] using (mem_retainExisting_snd src.root s.watchedFiles q).mpr ⟨hmem, h⟩)
    have hl := retainExisting_lookup src.root s.watchedFiles q
    rw [hr, if_neg hsrc] at hl
    exact AList.lookup_isSome.mp (by rw [hl]; exact AList.lookup_isSome.mpr hmem)
  have hspec := scanPath_holds src.root src.root [] ⟨w₁, []⟩ rfl src.namesNodup hk₁
  unfold Storage.check
  rw [if_pos hw]
  cases hrun : (scanPath [] src.root).run ⟨w₁, []⟩ with
  | ok v st =>
    rw [holds_of_run_ok hrun] at hspec
    obtain ⟨-, hsc, htr⟩ := hspec
    rw [scan_of_run_ok hr hrun]
    dsimp only
    refine ⟨fun q hq => ?_, fun _ => htr.keysIn⟩
    by_cases hch : ∃ p ∈ st.updateList, q <+: p
    · -- a copied path and the directories above it are paths of the snapshot, all recorded
      obtain ⟨p, hp, hqp⟩ := hch
      obtain ⟨D, hL, hD, -⟩ := hsc.listed
      rw [hL, List.nil_append] at hp
      obtain ⟨r, m, hpr, hm⟩ := hD p hp
      rw [List.nil_append] at hpr
      subst hpr
      obtain ⟨m', hm', -⟩ := Node.lookup_ancestor hm hqp
      have := hsc.recorded q m' hm'
      rw [List.nil_append] at this
      exact Or.inr (AList.lookup_isSome.mp (by rw [this]; rfl))
    · have hch' : ∀ p ∈ st.updateList, ¬q <+: p := fun p hp h => hch ⟨p, hp, h⟩
      rw [foldl_updateTarget_outside src _ _ hch'] at hq
      exact (hdel q hq).imp id (htr.grows q)
  | error e st =>
    rw [holds_of_run_error hrun] at hspec
    rw [scan_of_run_error hr hrun]
    dsimp only
    refine ⟨fun q hq => ?_, fun _ => hspec.2.keysIn⟩
    by_cases hq0 : q = []
    · exact Or.inl hq0
    -- the fallback creates at most the target mount point
    have hsame : (if L.foldl removeTarget t [] = none then
        if src.root.isDir then exec (createDirAll []) (L.foldl removeTarget t)
        else exec (createFile []) (L.foldl removeTarget t)
      else L.foldl removeTarget t) q = L.foldl removeTarget t q := by
      split
      · split
        · exact createDirAll_within.exec_eq _ fun h => hq0 (List.prefix_nil.mp h)
        · exact writeFile_within.exec_eq _ hq0
      · rfl
    rw [hsame] at hq
    exact (hdel q hq).imp id (hspec.2.grows q)

theorem foldl_check_tracked : ∀ (checks : List (Source × Bool)) (src : Source) (st : Storage × Tree),
    Tracked st.1 st.2 → (st.1.watch = true → KeysIn src.root st.1.watchedFiles) →
    Tracked (checks.foldl (fun st c => st.1.check c.1 c.2 st.2) st).1
        (checks.foldl (fun st c => st.1.check c.1 c.2 st.2) st).2 ∧
      ((checks.foldl (fun st c => st.1.check c.1 c.2 st.2) st).1.watch = true →
        KeysIn ((src :: checks.map Prod.fst).getLast (List.cons_ne_nil _ _)).root
          (checks.foldl (fun st c => st.1.check c.1 c.2 st.2) st).1.watchedFiles)
  | [], _, _, ht, hk => ⟨ht, hk⟩
  | c :: cs, src, st, ht, _ => by
      rw [List.foldl_cons, List.map_cons, List.getLast_cons (List.cons_ne_nil _ _)]
      obtain ⟨ht', hk'⟩ := check_tracked c.1 c.2 ht
      refine foldl_check_tracked cs c.1 _ ht' fun hw => hk' ?_
      -- a storage no longer watched is left as it is
      cases hw' : st.1.watch
      · rw [check_of_not_watch hw'] at hw
        exact absurd hw (by simp [hw'])
      · rfl

/-- As long as the storage is watched, the target holds nothing at a path the source no longer
has, whatever the snapshots, the limits and the bind mounts were. -/
theorem run_target_within_source (src0 : Source) (bind0 : Bool) (checks : List (Source × Bool))
    (hw : (run src0 bind0 checks).1.watch = true) (q : Path) (hq : (run src0 bind0 checks).2 q ≠ none) :
    q = [] ∨ ((src0 :: checks.map Prod.fst).getLast (List.cons_ne_nil _ _)).root.lookup q ≠ none := by
  have hinit : Tracked Storage.new
      (if src0.root.isDir then exec (createDirAll []) (fun _ => none) else fun _ => none) := by
    intro q hq
    by_cases hq0 : q = []
    · exact Or.inl hq0
    · refine absurd ?_ hq
      split
      · exact createDirAll_within.exec_eq _ fun h => hq0 (List.prefix_nil.mp h)
      · rfl
  obtain ⟨hadd, hkadd⟩ := check_tracked src0 bind0 hinit
  rw [← add_eq] at hadd hkadd
  obtain ⟨ht, hk⟩ := foldl_check_tracked checks src0 (add src0 bind0) hadd fun _ => hkadd rfl
  exact (ht q hq).imp id fun hmem => hk hw q hmem

/-- On the run where the mirror misses entries, it still holds nothing the source lacks. -/
theorem run_target_within_source_after_failed_scan :
    (run smallSource false [(grownSource, false), (shrunkSource, false)]).1.watch = true ∧
      (run smallSource false [(grownSource, false), (shrunkSource, false)]).2 [] ≠ none ∧
      (([] : Path) = [] ∨ shrunkSource.root.lookup [] ≠ none) := by
  have hw : (run smallSource false [(grownSource, false), (shrunkSource, false)]).1.watch = true := by
    decide +kernel
  have hq : (run smallSource false [(grownSource, false), (shrunkSource, false)]).2 [] ≠ none := by
    decide +kernel
  exact ⟨hw, hq, run_target_within_source smallSource false _ hw [] hq⟩

end KataContainers.Watcher

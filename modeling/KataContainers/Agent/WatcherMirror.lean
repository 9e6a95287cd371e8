import KataContainers.Agent.WatcherScan

/-!
# What `scan` does to the target

`update_target` changes only the path it copies and the directories above it
(`updateTarget_within`), whatever it meets there. On a target whose entries are all at paths of
the source and of the same kind (`Compat`), it succeeds and puts the source's entry at its path
without disturbing any other entry (`updateTarget_run_of_compat`), so copying a list of paths
makes the target agree with the source on each of them (`foldl_updateTarget`). The first part of
`scan` drops from `watched_files` the paths that vanished (`retainExisting_lookup`) and deletes
their targets with everything below them (`foldl_removeTarget`).
-/

namespace KataContainers.Watcher

open RustFs EStateSpec

/-- Every entry of the target is at a path of the source and of the same kind. -/
def Compat (root : Node) (t : Tree) : Prop := ∀ q e, t q = some e → ∃ m, root.lookup q = some m ∧ e.kind = m.kind

/-! ## The three shapes of `update_target` -/

section UpdateTarget

variable {src : Source} {p : Path} {m : Node}

theorem updateTarget_of_lookup_none (hp : src.root.lookup p = none) :
    updateTarget src p = throw .notFound := by
  unfold updateTarget
  rw [hp]

theorem updateTarget_of_lookup_dir (hp : src.root.lookup p = some m) (hdir : m.isDir = true) :
    updateTarget src p = createDirAll p := by
  unfold updateTarget
  rw [hp]
  exact if_pos hdir

/-- A file or symlink goes to its own path: when the source mount point is a file, that file is
the only entry and its path is the root. -/
theorem updateTarget_of_lookup_leaf (hp : src.root.lookup p = some m) (hdir : m.isDir = false) :
    updateTarget src p = (createParent p >>= fun _ => copy m p) := by
  unfold updateTarget
  rw [hp]
  dsimp only
  rw [if_neg (by simp [hdir])]
  by_cases hf : src.root.isFile = true
  · have hnil : p = [] := by
      cases p with
      | nil => rfl
      | cons a r =>
        have := Node.isDir_of_lookup_cons hp
        cases h : src.root <;> simp_all [Node.isFile, Node.isDir]
    subst hnil
    simp only [hf, if_true]
    rfl
  · simp only [hf, Bool.false_eq_true, if_false]

end UpdateTarget

/-! ## What `update_target` may change -/

theorem createParent_within (p : Path) : Within (· <+: p) (createParent p) := by
  cases p with
  | nil => exact Within.pure ()
  | cons a r =>
    exact createDirAll_within.mono fun q hq => hq.trans (List.dropLast_prefix _)

theorem copy_within (n : Node) (dest : Path) : Within (· = dest) (copy n dest) := by
  cases n with
  | symlink _ target =>
    exact Within.get.bind fun t => Within.ite (removeFile_within.bind fun _ => symlink_within) symlink_within
  | file _ contents => exact writeFile_within
  | dir _ _ => exact Within.throw _

/-- `update_target` changes only the path it copies and the directories above it. -/
theorem updateTarget_within (src : Source) (p : Path) : Within (· <+: p) (updateTarget src p) := by
  cases hp : src.root.lookup p with
  | none =>
    rw [updateTarget_of_lookup_none hp]
    exact Within.throw _
  | some m =>
    cases hdir : m.isDir
    · rw [updateTarget_of_lookup_leaf hp hdir]
      exact (createParent_within p).bind fun _ =>
        (copy_within m p).mono fun q hq => hq ▸ List.prefix_refl q
    · rw [updateTarget_of_lookup_dir hp hdir]
      exact createDirAll_within

/-! ## `update_target` on a target that agrees with the source in kind -/

section Compat

variable {root : Node} {t : Tree}

theorem dirOk_of_compat (hc : Compat root t) {q : Path} {m : Node} (hq : root.lookup q = some m)
    (hdir : m.isDir = true) : DirOk t q := by
  cases ht : t q with
  | none => exact Or.inl ht
  | some e =>
    obtain ⟨m', hm', hk⟩ := hc q e ht
    rw [hq, Option.some.injEq] at hm'
    subst hm'
    rw [Node.kind_eq_dir_iff.mpr hdir, Entry.kind_eq_dir_iff] at hk
    exact Or.inr (hk ▸ ht)

/-- Below an entry of the source, every prefix may hold a directory. -/
theorem dirOk_above (hc : Compat root t) {p q : Path} {m : Node} (hp : root.lookup p = some m)
    (hq : q <+: p) (hne : q ≠ p) : DirOk t q := by
  obtain ⟨m', hm', hdir⟩ := Node.lookup_ancestor hp hq
  exact dirOk_of_compat hc hm' (hdir hne)

/-- Creating the missing directories above an entry of the source keeps the agreement. -/
theorem compat_withDirs (hc : Compat root t) {p : Path} (hdirs : ∀ q, q <+: p → ∃ m, root.lookup q = some m ∧ m.isDir = true) :
    Compat root (withDirs t p) := by
  intro q e hq
  unfold withDirs at hq
  split at hq
  next hcond =>
    obtain ⟨m, hm, hdir⟩ := hdirs q hcond.1
    cases hq
    exact ⟨m, hm, (Node.kind_eq_dir_iff.mpr hdir).symm⟩
  next => exact hc q e hq

theorem compat_update {p : Path} {m : Node} (hc : Compat root t) (hp : root.lookup p = some m) :
    Compat root (Function.update t p (some m.entry)) := by
  intro q e hq
  by_cases hqp : q = p
  · subst hqp
    rw [Function.update_self, Option.some.injEq] at hq
    exact ⟨m, hp, by rw [← hq, Node.kind_entry]⟩
  · rw [Function.update_of_ne hqp] at hq
    exact hc q e hq

/-- A file or symlink is copied onto nothing or onto an entry of its own kind. -/
theorem copy_run_of_leaf {p : Path} {m : Node} (hdir : m.isDir = false) (hpar : parentIsDir t p)
    (hkind : ∀ e, t p = some e → e.kind = m.kind) :
    (copy m p).run t = .ok () (Function.update t p (some m.entry)) := by
  cases m with
  | dir => exact absurd hdir (by simp [Node.isDir])
  | file _ contents =>
    refine writeFile_run_of_not_dir_not_symlink (fun h => ?_) (fun target h => ?_) hpar
    · simpa [Entry.kind, Node.kind] using hkind _ h
    · simpa [Entry.kind, Node.kind] using hkind _ h
  | symlink _ target =>
    unfold copy
    rw [EStateM.run_bind]
    dsimp only [EStateM.run, get, getThe, MonadStateOf.get, EStateM.get]
    cases ht : t p with
    | none =>
      simp only [Option.isSome_none, Bool.false_eq_true, if_false]
      exact symlink_run_of_none ht hpar
    | some e =>
      have he : e.kind = .symlink := hkind e ht
      have hne : e ≠ .dir := fun h => by simp [h, Entry.kind] at he
      simp only [Option.isSome_some, if_true]
      change (removeFile p >>= fun _ => symlink target p).run t = _
      rw [EStateM.run_bind, removeFile_run_of_not_dir ht hne]
      dsimp only
      -- removing the old link leaves the parent as it was
      have hpar' : parentIsDir (Function.update t p none) p := by
        cases p with
        | nil => exact Or.inl rfl
        | cons a r =>
          have hne' : (a :: r).dropLast ≠ a :: r := fun h' => by simpa using congrArg List.length h'
          refine Or.inr ?_
          rw [Function.update_of_ne hne']
          exact hpar.resolve_left (List.cons_ne_nil a r)
      rw [symlink_run_of_none (Function.update_self _ _ _) hpar', Function.update_idem]
      rfl

/-- `create_dir_all` on the parent of an entry of the source: the parent becomes a directory,
and nothing at the entry's path or with an entry already changes. -/
theorem createParent_run_of_compat (hc : Compat root t) {p : Path} {m : Node} (hp : root.lookup p = some m) :
    ∃ t₁, (createParent p).run t = .ok () t₁ ∧ Compat root t₁ ∧ t₁ p = t p ∧ parentIsDir t₁ p ∧
      ∀ q e, t q = some e → t₁ q = some e := by
  cases p with
  | nil => exact ⟨t, rfl, hc, rfl, Or.inl rfl, fun _ _ h => h⟩
  | cons a r =>
    have hne : ∀ q, q <+: (a :: r).dropLast → q ≠ a :: r := fun q hq h' => by
      have := (h' ▸ hq).length_le
      simp at this
    have hdirs : ∀ q, q <+: (a :: r).dropLast → ∃ m', root.lookup q = some m' ∧ m'.isDir = true :=
      fun q hq => by
        obtain ⟨m', hm', hdir⟩ := Node.lookup_ancestor hp (hq.trans (List.dropLast_prefix _))
        exact ⟨m', hm', hdir (hne q hq)⟩
    refine ⟨withDirs t (a :: r).dropLast, createDirAll_run_of_dirOk fun q hq =>
      dirOk_above hc hp (hq.trans (List.dropLast_prefix _)) (hne q hq), compat_withDirs hc hdirs,
      withDirs_off_path fun h => hne _ h rfl, Or.inr ?_, fun _ _ h => withDirs_of_some h⟩
    obtain ⟨_, _, hdir⟩ := hdirs _ (List.prefix_refl _)
    exact withDirs_above (fun q hq => dirOk_above hc hp (hq.trans (List.dropLast_prefix _))
      (hne q hq)) (List.prefix_refl _)

/-- `update_target` on an entry of the source and a target that agrees in kind: it succeeds,
the entry's path holds the source's entry, and no other entry changes. -/
theorem updateTarget_run_of_compat {src : Source} (hc : Compat src.root t) {p : Path} {m : Node}
    (hp : src.root.lookup p = some m) :
    ∃ t', (updateTarget src p).run t = .ok () t' ∧ Compat src.root t' ∧ t' p = some m.entry ∧
      ∀ q e, q ≠ p → t q = some e → t' q = some e := by
  cases hdir : m.isDir
  · rw [updateTarget_of_lookup_leaf hp hdir, EStateM.run_bind]
    obtain ⟨t₁, hrun, hc₁, hp₁, hpar, hkeep⟩ := createParent_run_of_compat hc hp
    rw [hrun]
    dsimp only
    have hkind : ∀ e, t₁ p = some e → e.kind = m.kind := fun e he => by
      obtain ⟨m', hm', hk⟩ := hc₁ p e he
      rw [hp, Option.some.injEq] at hm'
      exact hm' ▸ hk
    refine ⟨_, copy_run_of_leaf hdir hpar hkind, compat_update hc₁ hp, Function.update_self _ _ _,
      fun q e hq he => ?_⟩
    rw [Function.update_of_ne hq]
    exact hkeep q e he
  · rw [updateTarget_of_lookup_dir hp hdir]
    have hok : ∀ q, q <+: p → DirOk t q := fun q hq => by
      by_cases hqp : q = p
      · exact hqp ▸ dirOk_of_compat hc hp hdir
      · exact dirOk_above hc hp hq hqp
    have hdirs : ∀ q, q <+: p → ∃ m', src.root.lookup q = some m' ∧ m'.isDir = true := fun q hq => by
      obtain ⟨m', hm', hd⟩ := Node.lookup_ancestor hp hq
      by_cases hqp : q = p
      · subst hqp
        rw [hp, Option.some.injEq] at hm'
        exact ⟨m', hm'.symm ▸ hp, hm' ▸ hdir⟩
      · exact ⟨m', hm', hd hqp⟩
    refine ⟨_, createDirAll_run_of_dirOk hok, compat_withDirs hc hdirs, ?_, fun _ _ _ h => withDirs_of_some h⟩
    rw [withDirs_above hok (List.prefix_refl p)]
    cases m <;> simp_all [Node.isDir, Node.entry]

/-- Copying every path of a list makes the target hold the source's entry at each of them, and
keeps every entry that already agreed with the source. -/
theorem foldl_updateTarget (src : Source) (D : List Path) (hD : ∀ p ∈ D, src.root.lookup p ≠ none) :
    ∀ t, Compat src.root t →
      Compat src.root (D.foldl (fun t p => exec (updateTarget src p) t) t) ∧
      ∀ q, (q ∈ D ∨ t q = src.root.view q) → D.foldl (fun t p => exec (updateTarget src p) t) t q = src.root.view q := by
  induction D with
  | nil =>
    intro t hc
    exact ⟨hc, fun q hq => hq.resolve_left List.not_mem_nil⟩
  | cons p D ih =>
    intro t hc
    obtain ⟨m, hm⟩ := Option.ne_none_iff_exists'.mp (hD p List.mem_cons_self)
    obtain ⟨t', hrun, hc', hp', hkeep⟩ := updateTarget_run_of_compat hc hm
    rw [List.foldl_cons, exec_ok hrun]
    obtain ⟨hcD, hgood⟩ := ih (fun p' hp'' => hD p' (List.mem_cons_of_mem _ hp'')) t' hc'
    refine ⟨hcD, fun q hq => hgood q ?_⟩
    -- after this copy, `q` is still to be copied or already agrees
    by_cases hqp : q = p
    · subst hqp
      exact Or.inr (by simp [hp', hm])
    rcases hq with hq | hq
    · exact Or.inl ((List.mem_cons.mp hq).resolve_left hqp)
    · refine Or.inr ?_
      cases ht : t q with
      | some e => rw [hkeep q e hqp ht, ← ht, hq]
      | none =>
        rw [ht] at hq
        cases ht' : t' q with
        | none => exact hq
        | some e =>
          obtain ⟨m', hm', _⟩ := hc' q e ht'
          simp [hm'] at hq

end Compat

/-! ## Forgetting and deleting what vanished -/

section Retain

variable {root : Node} {w : Watched} {q : Path}

theorem lookup_foldl_erase (L : List Path) (w : Watched) (q : Path) :
    (L.foldl (fun w p => w.erase p) w).lookup q = if q ∈ L then none else w.lookup q := by
  induction L generalizing w with
  | nil => simp
  | cons p L ih =>
    rw [List.foldl_cons, ih]
    by_cases hqL : q ∈ L
    · simp [hqL]
    · by_cases hqp : q = p
      · subst hqp
        simp [AList.lookup_erase]
      · simp [hqL, hqp, AList.lookup_erase_ne hqp]

theorem mem_retainExisting_snd (root : Node) (w : Watched) (q : Path) :
    q ∈ (retainExisting root w).2 ↔ q ∈ w ∧ root.lookup q = none := by
  simp [retainExisting, AList.mem_keys]

/-- The retain pass forgets exactly the paths that vanished from the source. -/
theorem retainExisting_lookup (root : Node) (w : Watched) (q : Path) :
    (retainExisting root w).1.lookup q = if root.lookup q = none then none else w.lookup q := by
  rw [retainExisting, lookup_foldl_erase]
  by_cases hq : root.lookup q = none
  · by_cases hw : q ∈ w
    · have : q ∈ w.keys.filter fun p => (root.lookup p).isNone := by simp [AList.mem_keys.mp hw, hq]
      simp [this, hq]
    · simp [hq, AList.lookup_eq_none.mpr hw]
  · have : q ∉ w.keys.filter fun p => (root.lookup p).isNone := by simp [hq]
    simp [this, hq]

theorem keysIn_retainExisting (root : Node) (w : Watched) : KeysIn root (retainExisting root w).1 := by
  intro q hq
  have hsome := AList.lookup_isSome.mpr hq
  rw [retainExisting_lookup] at hsome
  intro h
  simp [h] at hsome

theorem removeTarget_self (t : Tree) (r : Path) : removeTarget t r r = none := by
  unfold removeTarget
  split
  next h => rw [exec_ok (removeDirAll_run_of_some h)]; simp
  next h =>
    cases ht : t r with
    | none => rw [exec_error (removeFile_run_of_none ht), ht]
    | some e =>
      rw [exec_ok (removeFile_run_of_not_dir ht fun he => h (he ▸ ht)), Function.update_self]

theorem removeTarget_outside (t : Tree) {r : Path} (hq : ¬r <+: q) : removeTarget t r q = t q := by
  unfold removeTarget
  split
  · exact removeDirAll_within.exec_eq t hq
  · exact removeFile_within.exec_eq t fun h => hq (h ▸ List.prefix_refl q)

theorem removeTarget_none_or (t : Tree) (r : Path) (q : Path) :
    removeTarget t r q = none ∨ removeTarget t r q = t q := by
  by_cases hq : r <+: q
  · by_cases hqr : q = r
    · exact Or.inl (hqr ▸ removeTarget_self t q)
    · unfold removeTarget
      split
      next h =>
        rw [exec_ok (removeDirAll_run_of_some h)]
        simp [hq]
      next => exact Or.inr (removeFile_within.exec_eq t hqr)
  · exact Or.inr (removeTarget_outside t hq)

theorem foldl_removeTarget_none_or (L : List Path) (t : Tree) (q : Path) :
    L.foldl removeTarget t q = none ∨ L.foldl removeTarget t q = t q := by
  induction L generalizing t with
  | nil => exact Or.inr rfl
  | cons r L ih =>
    rw [List.foldl_cons]
    rcases ih (removeTarget t r) with h | h
    · exact Or.inl h
    · rw [h]
      exact removeTarget_none_or t r q

/-- Every path of the list is gone from the target after the deletion loop. -/
theorem foldl_removeTarget_of_mem {L : List Path} (hq : q ∈ L) (t : Tree) : L.foldl removeTarget t q = none := by
  induction L generalizing t with
  | nil => exact absurd hq List.not_mem_nil
  | cons r L ih =>
    rw [List.foldl_cons]
    by_cases hqL : q ∈ L
    · exact ih hqL _
    · have hqr : q = r := (List.mem_cons.mp hq).resolve_right hqL
      subst hqr
      rcases foldl_removeTarget_none_or L (removeTarget t q) q with h | h
      · exact h
      · rw [h, removeTarget_self]

/-- A path below none of the deleted ones keeps its entry. -/
theorem foldl_removeTarget_of_forall {L : List Path} (hq : ∀ r ∈ L, ¬r <+: q) (t : Tree) :
    L.foldl removeTarget t q = t q := by
  induction L generalizing t with
  | nil => rfl
  | cons r L ih =>
    rw [List.foldl_cons, ih fun r' hr' => hq r' (List.mem_cons_of_mem _ hr'),
      removeTarget_outside t (hq r List.mem_cons_self)]

end Retain

end KataContainers.Watcher

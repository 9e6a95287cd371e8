import Mathlib
import KataContainers.Lib.EStateSpec

/-!
# File-system trees as std::fs sees them

Two views of a directory tree. A `Node` is a snapshot read through `symlink_metadata` and
`read_dir`: every entry with its modification time, a directory's entries in the order
`read_dir` yields them, links not followed. A `Tree` is the state a program changes through
std::fs: what each path below a root holds. `create_dir_all`, `remove_dir_all`,
`remove_file`, `symlink`, `File::create` and `fs::copy` act on it in `FsM`; each either fails
and changes nothing or does all of its work, as the Linux calls do on a tree that no one else
changes meanwhile. Paths are component lists below the root; links in the tree are not
resolved, so `fs::copy` onto a symlink leaves the link in place and the file it writes
through to is not tracked.
-/

namespace RustFs

/-- A path below the root, by its components; `[]` is the root itself. -/
abbrev Path := List String

/-- What `symlink_metadata` reports at a path, with the contents a copy transfers. -/
inductive Entry where
  | dir
  | file (contents : List UInt8)
  | symlink (target : String)
  deriving DecidableEq, Repr

/-- The three kinds of entry. -/
inductive Kind where
  | dir
  | file
  | symlink
  deriving DecidableEq, Repr

def Entry.kind : Entry → Kind
  | .dir => .dir
  | .file _ => .file
  | .symlink _ => .symlink

@[simp] theorem Entry.kind_eq_dir_iff {e : Entry} : e.kind = .dir ↔ e = .dir := by
  cases e <;> simp [Entry.kind]

/-- A snapshot of a tree: every entry with its modification time. -/
inductive Node where
  | dir (mtime : Nat) (children : List (String × Node))
  | file (mtime : Nat) (contents : List UInt8)
  | symlink (mtime : Nat) (target : String)

/-- What each path below the root holds, `none` where nothing is. -/
abbrev Tree := Path → Option Entry

/-- An error of a std::fs call, by its `io::ErrorKind`. -/
inductive IoError where
  | notFound
  | alreadyExists
  | notADirectory
  | isADirectory
  deriving DecidableEq, Repr

/-- A computation on the tree that may fail; what it did before failing stays done. -/
abbrev FsM := EStateM IoError Tree

namespace Node

def mtime : Node → Nat
  | dir m _ | file m _ | symlink m _ => m

def entry : Node → Entry
  | dir .. => .dir
  | file _ contents => .file contents
  | symlink _ target => .symlink target

def isDir : Node → Bool
  | dir .. => true
  | _ => false

def kind : Node → Kind
  | dir .. => .dir
  | file .. => .file
  | symlink .. => .symlink

def isFile : Node → Bool
  | file .. => true
  | _ => false

/-- The entry at a path: a name is looked up among a directory's entries. -/
def lookup : Node → Path → Option Node
  | n, [] => some n
  | dir _ cs, name :: rest => (cs.lookup name).bind (lookup · rest)
  | file .., _ :: _ => none
  | symlink .., _ :: _ => none

mutual
/-- Every path of the snapshot, the root first, in `read_dir` order. -/
def paths : Node → List Path
  | dir _ cs => [] :: childrenPaths cs
  | file .. => [[]]
  | symlink .. => [[]]

def childrenPaths : List (String × Node) → List Path
  | [] => []
  | (name, c) :: cs => c.paths.map (name :: ·) ++ childrenPaths cs
end

mutual
/-- No directory lists one name twice, as no directory of a file system does. -/
def namesNodup : Node → Bool
  | dir _ cs => decide (cs.map Prod.fst).Nodup && childrenNamesNodup cs
  | file .. => true
  | symlink .. => true

def childrenNamesNodup : List (String × Node) → Bool
  | [] => true
  | (_, c) :: cs => c.namesNodup && childrenNamesNodup cs
end

/-- The snapshot as a tree, without the modification times. -/
def view (n : Node) : Tree := fun q => (n.lookup q).map entry

@[simp] theorem entry_eq_dir_iff {n : Node} : n.entry = .dir ↔ n.isDir = true := by
  cases n <;> simp [entry, isDir]

@[simp] theorem kind_entry (n : Node) : n.entry.kind = n.kind := by
  cases n <;> rfl

@[simp] theorem kind_eq_dir_iff {n : Node} : n.kind = .dir ↔ n.isDir = true := by
  cases n <;> simp [kind, isDir]

@[simp] theorem lookup_nil (n : Node) : n.lookup [] = some n := rfl

theorem lookup_dir_cons (m : Nat) (cs : List (String × Node)) (name : String) (rest : Path) :
    (dir m cs).lookup (name :: rest) = (cs.lookup name).bind (lookup · rest) := rfl

/-- Only a directory has anything below it. -/
theorem isDir_of_lookup_cons {n m : Node} {name : String} {rest : Path}
    (h : n.lookup (name :: rest) = some m) : n.isDir = true := by
  cases n with
  | dir => rfl
  | file => simp [lookup] at h
  | symlink => simp [lookup] at h

/-- Looking a path up is looking up its first part and then the rest below it. -/
theorem lookup_append (n : Node) (p r : Path) : n.lookup (p ++ r) = (n.lookup p).bind (lookup · r) := by
  induction p generalizing n with
  | nil => rfl
  | cons name rest ih =>
    cases n with
    | dir m cs =>
      rw [List.cons_append, lookup_dir_cons, lookup_dir_cons]
      cases cs.lookup name <;> simp [ih]
    | file => rfl
    | symlink => rfl

/-- Snapshots are closed under prefixes, and every proper prefix of an entry is a directory. -/
theorem lookup_ancestor {n m : Node} {q r : Path} (h : n.lookup q = some m) (hr : r <+: q) :
    ∃ m', n.lookup r = some m' ∧ (r ≠ q → m'.isDir = true) := by
  obtain ⟨s, rfl⟩ := hr
  rw [lookup_append] at h
  obtain ⟨m', hm', hs⟩ := Option.bind_eq_some_iff.mp h
  refine ⟨m', hm', fun hne => ?_⟩
  cases s with
  | nil => simp at hne
  | cons name rest => exact isDir_of_lookup_cons hs

private theorem lookup_cons_ne {name n : String} {c : Node} {cs : List (String × Node)} (hn : name ≠ n) :
    ((n, c) :: cs).lookup name = cs.lookup name := by
  have : (name == n) = false := beq_false_of_ne hn
  simp [List.lookup, this]

mutual
/-- Everything a lookup finds is among the snapshot's paths. -/
theorem mem_paths_of_lookup : ∀ (n : Node) (q : Path), n.lookup q ≠ none → q ∈ n.paths
  | dir _ _, [], _ => List.mem_cons_self
  | file .., [], _ => List.mem_singleton_self _
  | symlink .., [], _ => List.mem_singleton_self _
  | dir _ cs, name :: rest, h => List.mem_cons_of_mem _ (mem_childrenPaths_of_lookup cs name rest h)
  | file .., _ :: _, h => absurd rfl h
  | symlink .., _ :: _, h => absurd rfl h

theorem mem_childrenPaths_of_lookup : ∀ (cs : List (String × Node)) (name : String) (rest : Path),
    (cs.lookup name).bind (lookup · rest) ≠ none → (name :: rest) ∈ childrenPaths cs
  | [], _, _, h => absurd rfl h
  | (n, c) :: cs, name, rest, h => by
      rw [childrenPaths, List.mem_append]
      by_cases hn : name = n
      · subst hn
        simp only [List.lookup_cons_self, Option.bind_some] at h
        exact Or.inl (List.mem_map_of_mem (mem_paths_of_lookup c rest h))
      · rw [lookup_cons_ne hn] at h
        exact Or.inr (mem_childrenPaths_of_lookup cs name rest h)
end

/-- In a directory whose names are distinct, each listed entry is what its name looks up. -/
theorem lookup_of_mem {cs : List (String × Node)} (hnd : (cs.map Prod.fst).Nodup) {name : String}
    {c : Node} (hc : (name, c) ∈ cs) : cs.lookup name = some c := by
  induction cs with
  | nil => simp at hc
  | cons e cs ih =>
    obtain ⟨n, c'⟩ := e
    rw [List.map_cons, List.nodup_cons] at hnd
    rcases List.mem_cons.mp hc with h | h
    · obtain ⟨rfl, rfl⟩ := Prod.mk.inj h
      exact List.lookup_cons_self
    · have hne : name ≠ n := by
        rintro rfl
        exact hnd.1 (List.mem_map.mpr ⟨(name, c), h, rfl⟩)
      rw [lookup_cons_ne hne]
      exact ih hnd.2 h

theorem lookup_eq_none_of_not_mem {cs : List (String × Node)} {name : String}
    (h : name ∉ cs.map Prod.fst) : cs.lookup name = none := by
  induction cs with
  | nil => rfl
  | cons e cs ih =>
    obtain ⟨n, c⟩ := e
    rw [List.map_cons, List.mem_cons, not_or] at h
    rw [lookup_cons_ne h.1]
    exact ih h.2

theorem mem_of_lookup_eq_some {cs : List (String × Node)} {name : String} {c : Node}
    (h : cs.lookup name = some c) : (name, c) ∈ cs := by
  obtain ⟨l₁, l₂, rfl, -⟩ := List.lookup_eq_some_iff.mp h
  simp

theorem namesNodup_dir {m : Nat} {cs : List (String × Node)} :
    (dir m cs).namesNodup = true ↔ (cs.map Prod.fst).Nodup ∧ childrenNamesNodup cs = true := by
  simp [namesNodup]

theorem childrenNamesNodup_cons {name : String} {c : Node} {cs : List (String × Node)} :
    childrenNamesNodup ((name, c) :: cs) = true ↔ c.namesNodup = true ∧ childrenNamesNodup cs = true := by
  simp [childrenNamesNodup]

@[simp] theorem view_apply (n : Node) (q : Path) : n.view q = (n.lookup q).map entry := rfl

end Node

/-! ## Operations on the tree -/

/-- The state a computation leaves, whether it succeeded or not: a call whose result is
ignored, as `let _ = fs::remove_file(..)`. -/
def exec {α : Type} (x : FsM α) (t : Tree) : Tree :=
  match x.run t with
  | .ok _ t' => t'
  | .error _ t' => t'

/-- The parent of a path exists as a directory; the root's parent lies outside the tree and
exists. -/
def parentIsDir (t : Tree) (p : Path) : Prop := p = [] ∨ t p.dropLast = some .dir

instance (t : Tree) (p : Path) : Decidable (parentIsDir t p) := inferInstanceAs (Decidable (_ ∨ _))

/-- A path may hold a new directory: nothing or a directory is there. -/
def DirOk (t : Tree) (q : Path) : Prop := t q = none ∨ t q = some .dir

instance (t : Tree) (q : Path) : Decidable (DirOk t q) := inferInstanceAs (Decidable (_ ∨ _))

/-- The tree after the missing prefixes of `p` became directories. -/
def withDirs (t : Tree) (p : Path) : Tree := fun q => if q <+: p ∧ t q = none then some .dir else t q

/-- `fs::create_dir_all`: every missing prefix of `p`, `p` included, becomes a directory. A
prefix that holds something else makes it fail before it creates anything: `ENOTDIR` below a
non-directory, `EEXIST` when `p` itself is one. -/
def createDirAll (p : Path) : FsM Unit := fun t =>
  if p.inits.all fun q => decide (DirOk t q) then .ok () (withDirs t p)
  else if p.dropLast.inits.all fun q => decide (DirOk t q) then .error .alreadyExists t
  else .error .notADirectory t

/-- `fs::remove_dir_all`: `p` and everything below it go; it fails where nothing is. -/
def removeDirAll (p : Path) : FsM Unit := fun t =>
  if t p = none then .error .notFound t else .ok () fun q => if p <+: q then none else t q

/-- `fs::remove_file`: removes a file or a symlink. -/
def removeFile (p : Path) : FsM Unit := fun t =>
  match t p with
  | none => .error .notFound t
  | some .dir => .error .isADirectory t
  | some _ => .ok () (Function.update t p none)

/-- `fs::symlink(target, p)`: a new link, where nothing is yet and the parent is a directory. -/
def symlink (target : String) (p : Path) : FsM Unit := fun t =>
  if t p ≠ none then .error .alreadyExists t
  else if parentIsDir t p then .ok () (Function.update t p (some (.symlink target)))
  else .error .notFound t

/-- Writing a whole file at `p`, as `open(O_WRONLY | O_CREAT | O_TRUNC)` and a write do: it
fails on a directory and below a missing one; on a symlink the write goes through the link and
the link itself stays. -/
def writeFile (contents : List UInt8) (p : Path) : FsM Unit := fun t =>
  match t p with
  | some .dir => .error .isADirectory t
  | some (.symlink _) => .ok () t
  | _ => if parentIsDir t p then .ok () (Function.update t p (some (.file contents))) else .error .notFound t

/-- `fs::copy` from a regular file with these contents. -/
def copyFile (contents : List UInt8) (p : Path) : FsM Unit := writeFile contents p

/-- `fs::File::create`: an empty file. -/
def createFile (p : Path) : FsM Unit := writeFile [] p

/-! ### What each operation does -/

section Ops

/- The operations as equations on `run`: the proofs below rewrite with these and do not unfold
the definitions. -/

theorem exec_def {α : Type} (x : FsM α) (t : Tree) :
    exec x t = match x.run t with
      | .ok _ t' => t'
      | .error _ t' => t' := rfl

theorem withDirs_apply (t : Tree) (p q : Path) :
    withDirs t p q = if q <+: p ∧ t q = none then some .dir else t q := rfl

theorem createDirAll_run (p : Path) (t : Tree) :
    (createDirAll p).run t =
      if p.inits.all fun q => decide (DirOk t q) then .ok () (withDirs t p)
      else if p.dropLast.inits.all fun q => decide (DirOk t q) then .error .alreadyExists t
      else .error .notADirectory t := rfl

theorem removeDirAll_run (p : Path) (t : Tree) :
    (removeDirAll p).run t =
      if t p = none then .error .notFound t else .ok () fun q => if p <+: q then none else t q := rfl

theorem removeFile_run (p : Path) (t : Tree) :
    (removeFile p).run t =
      match t p with
      | none => .error .notFound t
      | some .dir => .error .isADirectory t
      | some _ => .ok () (Function.update t p none) := rfl

theorem symlink_run (target : String) (p : Path) (t : Tree) :
    (symlink target p).run t =
      if t p ≠ none then .error .alreadyExists t
      else if parentIsDir t p then .ok () (Function.update t p (some (.symlink target)))
      else .error .notFound t := rfl

theorem writeFile_run (contents : List UInt8) (p : Path) (t : Tree) :
    (writeFile contents p).run t =
      match t p with
      | some .dir => .error .isADirectory t
      | some (.symlink _) => .ok () t
      | _ =>
          if parentIsDir t p then .ok () (Function.update t p (some (.file contents)))
          else .error .notFound t := rfl

variable {t : Tree} {p q : Path}

@[simp] theorem exec_ok {α : Type} {x : FsM α} {a : α} {t' : Tree} (h : x.run t = .ok a t') : exec x t = t' := by
  rw [exec_def, h]

@[simp] theorem exec_error {α : Type} {x : FsM α} {e : IoError} {t' : Tree} (h : x.run t = .error e t') :
    exec x t = t' := by
  rw [exec_def, h]

theorem all_dirOk_iff : (p.inits.all fun q => decide (DirOk t q)) = true ↔ ∀ q, q <+: p → DirOk t q := by
  simp [List.mem_inits]

theorem createDirAll_run_of_dirOk (h : ∀ q, q <+: p → DirOk t q) :
    (createDirAll p).run t = .ok () (withDirs t p) := by
  have := all_dirOk_iff.mpr h
  simp only [createDirAll_run, this, if_true]

/-- A failed `create_dir_all` changes nothing. -/
theorem createDirAll_run_of_not_dirOk (h : ¬∀ q, q <+: p → DirOk t q) :
    ∃ e, (createDirAll p).run t = .error e t := by
  rw [← all_dirOk_iff, Bool.not_eq_true] at h
  simp only [createDirAll_run, h, Bool.false_eq_true, if_false]
  split <;> exact ⟨_, rfl⟩

theorem withDirs_above (h : ∀ q, q <+: p → DirOk t q) (hq : q <+: p) : withDirs t p q = some .dir := by
  rw [withDirs_apply]
  rcases h q hq with h' | h'
  · simp [hq, h']
  · simp [h']

theorem withDirs_off_path (hq : ¬q <+: p) : withDirs t p q = t q := by
  simp [withDirs_apply, hq]

/-- `create_dir_all` only fills empty prefixes of its path. -/
theorem withDirs_of_some {e : Entry} (hq : t q = some e) : withDirs t p q = some e := by
  simp [withDirs_apply, hq]

theorem removeDirAll_run_of_some {e : Entry} (h : t p = some e) :
    (removeDirAll p).run t = .ok () fun q => if p <+: q then none else t q := by
  simp [removeDirAll_run, h]

theorem removeFile_run_of_not_dir {e : Entry} (h : t p = some e) (he : e ≠ .dir) :
    (removeFile p).run t = .ok () (Function.update t p none) := by
  cases e with
  | dir => exact absurd rfl he
  | file => simp [removeFile_run, h]
  | symlink => simp [removeFile_run, h]

theorem removeFile_run_of_none (h : t p = none) : (removeFile p).run t = .error .notFound t := by
  simp [removeFile_run, h]

theorem symlink_run_of_none {target : String} (h : t p = none) (hp : parentIsDir t p) :
    (symlink target p).run t = .ok () (Function.update t p (some (.symlink target))) := by
  simp [symlink_run, h, hp]

theorem writeFile_run_of_not_dir_not_symlink {contents : List UInt8} (hd : t p ≠ some .dir)
    (hs : ∀ target, t p ≠ some (.symlink target)) (hp : parentIsDir t p) :
    (writeFile contents p).run t = .ok () (Function.update t p (some (.file contents))) := by
  rw [writeFile_run]
  split
  · exact absurd ‹_› hd
  · exact absurd ‹_› (hs _)
  · simp [hp]

end Ops

/-! ### Which paths a computation may change -/

open EStateSpec

/-- `x` changes no path outside `S`, whether it succeeds or fails. -/
def Within {α : Type} (S : Path → Prop) (x : FsM α) : Prop :=
  ∀ t, Holds (fun _ t' => ∀ q, ¬S q → t' q = t q) (fun _ t' => ∀ q, ¬S q → t' q = t q) x t

section Within

variable {α β : Type} {S S' : Path → Prop} {p : Path}

theorem Within.pure (a : α) : Within S (pure a : FsM α) := fun _ => by simp

theorem Within.throw (e : IoError) : Within S (throw e : FsM α) := fun _ => by simp

theorem Within.get : Within S (get : FsM Tree) := fun _ => by simp

theorem Within.bind {x : FsM α} {f : α → FsM β} (hx : Within S x) (hf : ∀ a, Within S (f a)) :
    Within S (x >>= f) := by
  intro t
  rw [holds_bind]
  refine (hx t).mono (fun a t' h => (hf a t').mono ?_ ?_) fun _ _ h => h
  · intro _ t'' h' q hq
    rw [h' q hq, h q hq]
  · intro _ t'' h' q hq
    rw [h' q hq, h q hq]

theorem Within.mono {x : FsM α} (h : Within S x) (hS : ∀ q, S q → S' q) : Within S' x := by
  intro t
  refine (h t).mono ?_ ?_ <;> exact fun _ _ h' q hq => h' q fun hs => hq (hS q hs)

theorem Within.ite {c : Prop} [Decidable c] {x y : FsM α} (hx : Within S x) (hy : Within S y) :
    Within S (if c then x else y) := by
  by_cases h : c
  · rw [if_pos h]
    exact hx
  · rw [if_neg h]
    exact hy

/-- A path outside what a computation may change is as it was, whatever the outcome. -/
theorem Within.exec_eq {x : FsM α} (h : Within S x) (t : Tree) {q : Path} (hq : ¬S q) : exec x t q = t q := by
  have h' := (h t).state q hq
  rw [exec_def]
  cases hx : x.run t <;> rw [hx] at h' <;> exact h'

/-- An operation that either fails with the tree unchanged or succeeds with one path updated. -/
private theorem within_of_update {x : FsM Unit} (hx : ∀ t, x.run t = .ok () t ∨
    (∃ e, x.run t = .error e t) ∨ ∃ v, x.run t = .ok () (Function.update t p v)) :
    Within (· = p) x := by
  intro t
  rcases hx t with h | ⟨e, h⟩ | ⟨v, h⟩
  · rw [holds_of_run_ok h]
    exact fun _ _ => rfl
  · rw [holds_of_run_error h]
    exact fun _ _ => rfl
  · rw [holds_of_run_ok h]
    exact fun q hq => Function.update_of_ne hq _ _

theorem createDirAll_within : Within (· <+: p) (createDirAll p) := by
  intro t
  by_cases h : ∀ q, q <+: p → DirOk t q
  · rw [holds_of_run_ok (createDirAll_run_of_dirOk h)]
    exact fun q hq => withDirs_off_path hq
  · obtain ⟨e, he⟩ := createDirAll_run_of_not_dirOk h
    rw [holds_of_run_error he]
    exact fun _ _ => rfl

theorem removeDirAll_within : Within (p <+: ·) (removeDirAll p) := by
  intro t
  by_cases h : t p = none
  · rw [holds_of_run_error (show (removeDirAll p).run t = .error .notFound t by simp [removeDirAll_run, h])]
    exact fun _ _ => rfl
  · obtain ⟨e, he⟩ := Option.ne_none_iff_exists'.mp h
    rw [holds_of_run_ok (removeDirAll_run_of_some he)]
    exact fun q hq => if_neg hq

theorem removeFile_within : Within (· = p) (removeFile p) := by
  refine within_of_update fun t => ?_
  rw [removeFile_run]
  split
  · exact Or.inr (Or.inl ⟨_, rfl⟩)
  · exact Or.inr (Or.inl ⟨_, rfl⟩)
  · exact Or.inr (Or.inr ⟨_, rfl⟩)

theorem symlink_within {target : String} : Within (· = p) (symlink target p) := by
  refine within_of_update fun t => ?_
  rw [symlink_run]
  split
  · exact Or.inr (Or.inl ⟨_, rfl⟩)
  · split
    · exact Or.inr (Or.inr ⟨_, rfl⟩)
    · exact Or.inr (Or.inl ⟨_, rfl⟩)

theorem writeFile_within {contents : List UInt8} : Within (· = p) (writeFile contents p) := by
  refine within_of_update fun t => ?_
  rw [writeFile_run]
  split
  · exact Or.inr (Or.inl ⟨_, rfl⟩)
  · exact Or.inl rfl
  · split
    · exact Or.inr (Or.inr ⟨_, rfl⟩)
    · exact Or.inr (Or.inl ⟨_, rfl⟩)

end Within

end RustFs

import Mathlib
import KataContainers.Lib.RustFs

/-!
# The agent's watchable-mount mirror

Source: `src/agent/src/watcher.rs`. A storage whose source has no inotify (a 9p or virtio-fs
mount) is mirrored into a tmpfs: every two seconds `SandboxStorages::check` runs
`Storage::scan` on each storage still watched. `scan` drops the vanished entries of
`watched_files` and deletes their targets, `scan_path` walks the source recording every entry's
modification time and listing the new and changed ones, and each listed entry is copied by
`update_target`. A source with more than `MAX_ENTRIES_PER_STORAGE` entries or more than
`MAX_SIZE_PER_WATCHABLE_MOUNT` bytes makes `scan_path` fail; `check` then bind-mounts the
source over the target and stops watching it, and if the bind mount fails it keeps watching.

The source is a snapshot `Node` taken before the check, the target mount point the root of a
`Tree`. `scan_path` runs in `ScanM`: `&mut self` and the update list are its state, and as
with `?` in Rust the state a failing call leaves is what the caller goes on with. Logging,
permissions and ownership change no entry and are left out.
-/

namespace KataContainers.Watcher

open RustFs

/-- `MAX_ENTRIES_PER_STORAGE` -/
def maxEntriesPerStorage : Nat := 16

/-- `MAX_SIZE_PER_WATCHABLE_MOUNT` -/
def maxSizePerWatchableMount : Nat := 1024 * 1024

inductive WatcherError where
  | mountTooManyFiles (count : Nat)
  | mountTooLarge (size : Nat)
  deriving DecidableEq, Repr

/-- A snapshot of a storage's source mount point. -/
structure Source where
  root : Node
  namesNodup : root.namesNodup = true

/-- `watched_files`: the modification time recorded for each path. -/
abbrev Watched := AList fun _ : Path => Nat

structure Storage where
  watch : Bool
  watchedFiles : Watched

/-- `Storage::new` -/
def Storage.new : Storage := ⟨true, ∅⟩

mutual
/-- The size `scan_path` adds up: the bytes of every file and symlink below a node. -/
def mountSize : Node → Nat
  | .dir _ cs => childrenSize cs
  | .file _ contents => contents.length
  | .symlink _ target => target.utf8ByteSize

def childrenSize : List (String × Node) → Nat
  | [] => 0
  | (_, c) :: cs => mountSize c + childrenSize cs
end

/-! ## `scan_path` -/

/-- What `scan_path` changes: `self.watched_files` and the update list it is handed. -/
structure ScanState where
  watchedFiles : Watched
  updateList : List Path

abbrev ScanM := EStateM WatcherError ScanState

/-- `self.watched_files.insert(path, modified)`, which returns the time recorded before. -/
def insertWatched (p : Path) (modified : Nat) : ScanM (Option Nat) := fun st =>
  .ok (st.watchedFiles.lookup p) { st with watchedFiles := st.watchedFiles.insert p modified }

/-- `update_list.push(path)` -/
def pushUpdate (p : Path) : ScanM Unit := fun st =>
  .ok () { st with updateList := st.updateList ++ [p] }

/-- `ensure!(self.watched_files.len() <= MAX_ENTRIES_PER_STORAGE, MountTooManyFiles ..)` -/
def ensureEntries : ScanM Unit := fun st =>
  if st.watchedFiles.entries.length ≤ maxEntriesPerStorage then .ok () st
  else .error (.mountTooManyFiles st.watchedFiles.entries.length) st

/-- `ensure!(size <= MAX_SIZE_PER_WATCHABLE_MOUNT, MountTooLarge ..)` -/
def ensureSize (size : Nat) : ScanM Unit := fun st =>
  if size ≤ maxSizePerWatchableMount then .ok () st else .error (.mountTooLarge size) st

/-- The branch of `scan_path` for files and symlinks, which it treats alike: a new entry or
one with a later modification time is listed. -/
def scanLeaf (p : Path) (modified len : Nat) : ScanM Nat := do
  match ← insertWatched p modified with
  | some oldSt => if modified > oldSt then pushUpdate p
  | none => pushUpdate p
  ensureEntries
  ensureSize len
  pure len

mutual
/-- `Storage::scan_path`: a directory is listed only when it was not recorded yet, then its
entries are scanned in `read_dir` order; the size check comes after them. -/
def scanPath (p : Path) : Node → ScanM Nat
  | .dir modified children => do
      if (← insertWatched p modified).isNone then pushUpdate p
      let size ← scanChildren p children 0
      ensureSize size
      pure size
  | .file modified contents => scanLeaf p modified contents.length
  | .symlink modified target => scanLeaf p modified target.utf8ByteSize

/-- The `while let Some(entry) = entries.next_entry()` loop of `scan_path`. -/
def scanChildren (p : Path) : List (String × Node) → Nat → ScanM Nat
  | [], size => pure size
  | (name, c) :: cs, size => do
      let resSize ← scanPath (p ++ [name]) c
      scanChildren p cs (size + resSize)
end

/-! ## Copying to the target -/

/-- `copy`: a symlink is made again with the same link target, after what is at the
destination has been removed; anything else goes through `fs::copy`. The `chown` that follows
changes no entry. (`to` is a keyword of Lean, so the destination is `dest`.) -/
def copy (n : Node) (dest : Path) : FsM Unit := do
  match n with
  | .symlink _ target =>
      if ((← get) dest).isSome then removeFile dest
      symlink target dest
  | .file _ contents => copyFile contents dest
  | .dir .. => throw .isADirectory

/-- `create_dir_all` on the parent of a target path; the parent of the target mount point
lies outside the mirror and exists. -/
def createParent : Path → FsM Unit
  | [] => pure ()
  | p@(_ :: _) => createDirAll p.dropLast

/-- `Storage::update_target`: a directory is created; a file or symlink is copied to the
target mount point itself when the source mount point is a file, and otherwise to its place
below the target, after its parent directories. -/
def updateTarget (src : Source) (p : Path) : FsM Unit := do
  let some n := src.root.lookup p | throw .notFound
  if n.isDir then
    createDirAll p
  else
    let dest := if src.root.isFile then [] else p
    unless src.root.isFile do createParent dest
    copy n dest

/-! ## `scan` and `check` -/

/-- `self.watched_files.retain(|st, _| st.exists())`, with the removed paths in the map's order. -/
def retainExisting (root : Node) (w : Watched) : Watched × List Path :=
  let removeList := w.keys.filter fun p => (root.lookup p).isNone
  (removeList.foldl (fun w p => w.erase p) w, removeList)

/-- The body of the loop that deletes a vanished entry's target; the removal's result is
ignored. -/
def removeTarget (t : Tree) (p : Path) : Tree :=
  if t p = some .dir then exec (removeDirAll p) t else exec (removeFile p) t

/-- `Storage::scan`: what it leaves of `watched_files` and of the target, and its result. A
failing `scan_path` returns at once, with the entries it recorded kept and nothing copied;
`update_target`'s failures are only logged. -/
def scan (src : Source) (w : Watched) (t : Tree) : Watched × Tree × Except WatcherError Nat :=
  let (w, removeList) := retainExisting src.root w
  let t := removeList.foldl removeTarget t
  match (scanPath [] src.root).run ⟨w, []⟩ with
  | .error e st => (st.watchedFiles, t, .error e)
  | .ok _ st =>
      (st.watchedFiles, st.updateList.foldl (fun t p => exec (updateTarget src p) t) t,
        .ok st.updateList.length)

/-- One storage's turn in `SandboxStorages::check`; `bindOk` is whether `baremount` succeeds.
Every error of `scan` is a `WatcherError` here, so the fallback branch is the only one: the
target is created if it is missing, and a successful bind mount ends the watching. -/
def Storage.check (src : Source) (bindOk : Bool) (s : Storage) (t : Tree) : Storage × Tree :=
  if s.watch then
    match scan src s.watchedFiles t with
    | (w, t, .ok _) => ({ s with watchedFiles := w }, t)
    | (w, t, .error _) =>
        let t := if t [] = none then
            if src.root.isDir then exec (createDirAll []) t else exec (createFile []) t
          else t
        ({ watch := !bindOk, watchedFiles := w }, t)
  else (s, t)

/-- `SandboxStorages::add` for one storage, into an empty target: `Storage::new`, the target
mount point created for a directory source, then the initial check. -/
def add (src : Source) (bindOk : Bool) : Storage × Tree :=
  let t : Tree := fun _ => none
  Storage.new.check src bindOk (if src.root.isDir then exec (createDirAll []) t else t)

/-- A storage's life: added on one snapshot, then checked once on each later snapshot, each
with the outcome its bind mount would have. -/
def run (src0 : Source) (bind0 : Bool) (checks : List (Source × Bool)) : Storage × Tree :=
  checks.foldl (fun st c => st.1.check c.1 c.2 st.2) (add src0 bind0)

/-! ### One lemma per step of the scan -/

section Steps

variable (st : ScanState)

theorem insertWatched_run (p : Path) (modified : Nat) :
    (insertWatched p modified).run st =
      .ok (st.watchedFiles.lookup p) { st with watchedFiles := st.watchedFiles.insert p modified } :=
  rfl

theorem pushUpdate_run (p : Path) :
    (pushUpdate p).run st = .ok () { st with updateList := st.updateList ++ [p] } := rfl

theorem scanChildren_nil_run (p : Path) (size : Nat) : (scanChildren p [] size).run st = .ok size st := rfl

end Steps

theorem mountSize_dir (m : Nat) (cs : List (String × Node)) : mountSize (.dir m cs) = childrenSize cs := rfl

theorem childrenSize_cons (name : String) (c : Node) (cs : List (String × Node)) :
    childrenSize ((name, c) :: cs) = mountSize c + childrenSize cs := rfl

end KataContainers.Watcher

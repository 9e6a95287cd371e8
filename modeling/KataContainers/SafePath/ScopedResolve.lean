import KataContainers.Lib.PathResolution

/-!
# safe-path: scoped resolution

`do_scoped_resolve` of `safe-path::scoped_path_resolver`. A path is its list of
`std::path::Component`s (Linux paths have no `Prefix`); the canonical root is the list of its
names. The filesystem is what `read_link` answers for a path: the target of the symbolic link
there, or nothing (no file, not a link, or any other error, which the source treats alike).

The `'next_comp` loop walks the components from an empty `subpath` until it meets a link; the
`'restart` loop splices the link's target into the path and walks again. Over
`PathResolution` this is the splicing walk, which agrees with resolution in a chroot.
-/

namespace KataContainers.SafePath

open PathResolution

inductive Component where
  | RootDir
  | CurDir
  | ParentDir
  | Normal (name : String)
deriving DecidableEq, Repr

/-- `MAX_SYMLINK_DEPTH`. -/
def maxSymlinkDepth : Nat := 255

/-- The one error of the walk: "Too many levels of symlinks", with the unsafe path. -/
inductive ResolveError where
  | tooManySymlinks (unsafePath : List Component)
deriving DecidableEq, Repr

/-- `read_link` on an absolute path. -/
abbrev ReadLink := List String → Option (List Component)

def isAbsolute (p : List Component) : Bool := p.head? == some .RootDir

/-- Where the `'next_comp` loop stops: at the end of the path, or at a symlink, with the
`subpath` walked so far, the link's target and the components after it. -/
inductive NextComp where
  | finished (subpath : List String)
  | symlink (subpath : List String) (target : List Component) (rest : List Component)
deriving DecidableEq, Repr

variable (readLink : ReadLink) (root : List String)

/-- The `'next_comp` loop. -/
def nextComp : List String → List Component → NextComp
  | subpath, [] => .finished subpath
  | subpath, .RootDir :: rest => nextComp subpath rest
  | subpath, .CurDir :: rest => nextComp subpath rest
  | subpath, .ParentDir :: rest => nextComp subpath.dropLast rest
  | subpath, .Normal n :: rest =>
      match readLink (root ++ subpath ++ [n]) with
      | some v => .symlink subpath v rest
      | none => nextComp (subpath ++ [n]) rest

/-- The new `curr_path` after the link with target `v`: `v.join(rest)` for an absolute target,
`subpath.join(v).join(rest)` otherwise. -/
def restartPath (subpath : List String) (v rest : List Component) : List Component :=
  if isAbsolute v then v ++ rest else subpath.map .Normal ++ v ++ rest

/-- The `'restart` loop, having followed `nlinks` links. -/
def resolveLoop (unsafePath : List Component) (nlinks : Nat) (currPath : List Component) :
    Except ResolveError (List String) :=
  match nextComp readLink root [] currPath with
  | .finished subpath => .ok subpath
  | .symlink subpath v rest =>
      if nlinks + 1 > maxSymlinkDepth then .error (.tooManySymlinks unsafePath)
      else resolveLoop unsafePath (nlinks + 1) (restartPath subpath v rest)
termination_by maxSymlinkDepth + 1 - nlinks

/-- `do_scoped_resolve`: the root and the resolved path under it. -/
def doScopedResolve (unsafePath : List Component) :
    Except ResolveError (List String × List String) :=
  (resolveLoop readLink root unsafePath 0 unsafePath).map (root, ·)

def scopedResolve (unsafePath : List Component) : Except ResolveError (List String) :=
  (doScopedResolve readLink root unsafePath).map (·.2)

def scopedJoin (unsafePath : List Component) : Except ResolveError (List String) :=
  (doScopedResolve readLink root unsafePath).map (fun (root, path) => root ++ path)

/-! ## The walk as path resolution -/

/-- `RootDir` and `CurDir` are both skipped. -/
def Component.toComp : Component → Comp String
  | .RootDir => .cur
  | .CurDir => .cur
  | .ParentDir => .parent
  | .Normal n => .normal n

def toTarget (v : List Component) : Path String := ⟨isAbsolute v, v.map Component.toComp⟩

/-- The links under the root, as `PathResolution` sees them. -/
def symlinks : List String → Option (Path String) :=
  fun d => (readLink (root ++ d)).map toTarget

def NextComp.toPass : NextComp → Pass String
  | .finished subpath => .done subpath
  | .symlink subpath v rest => .link subpath (toTarget v) (rest.map Component.toComp)

theorem NextComp.toPass_eq_done {r : NextComp} {res : List String} :
    r.toPass = .done res ↔ r = .finished res := by
  cases r <;> simp [toPass]

theorem NextComp.toPass_eq_link {r : NextComp} {d : List String} {t : Path String}
    {rest : List (Comp String)} :
    r.toPass = .link d t rest ↔
      ∃ v rest₀, r = .symlink d v rest₀ ∧ toTarget v = t ∧ rest₀.map Component.toComp = rest := by
  cases r <;> simp [toPass, and_assoc, eq_comm]

/-- The `'next_comp` loop is one pass over the components. -/
theorem nextComp_toPass (subpath : List String) (cs : List Component) :
    (nextComp readLink root subpath cs).toPass =
      pass (symlinks readLink root) subpath (cs.map Component.toComp) := by
  induction cs generalizing subpath with
  | nil => rfl
  | cons c cs ih =>
      cases c with
      | RootDir => exact ih subpath
      | CurDir => exact ih subpath
      | ParentDir => exact ih subpath.dropLast
      | Normal n =>
          cases hl : readLink (root ++ subpath ++ [n]) with
          | none =>
              have hs : symlinks readLink root (subpath ++ [n]) = none := by
                simp [symlinks, ← List.append_assoc, hl]
              simp only [nextComp, hl, List.map_cons, Component.toComp, pass_normal_of_none _ _ hs]
              exact ih (subpath ++ [n])
          | some v =>
              have hs : symlinks readLink root (subpath ++ [n]) = some (toTarget v) := by
                simp [symlinks, ← List.append_assoc, hl]
              simp only [nextComp, hl, List.map_cons, Component.toComp, pass_normal_of_some _ _ hs,
                NextComp.toPass]

/-- Walking the restarted path from the empty subpath is walking the target from the link's
directory: the re-walked `subpath` holds no link. -/
theorem pass_restartPath {subpath : List String} (v rest : List Component)
    (hclean : Clean (symlinks readLink root) subpath) :
    pass (symlinks readLink root) [] ((restartPath subpath v rest).map Component.toComp) =
      pass (symlinks readLink root) ((toTarget v).base subpath)
        ((toTarget v).comps ++ rest.map Component.toComp) := by
  unfold restartPath Path.base
  by_cases habs : isAbsolute v = true
  · simp [habs, toTarget]
  · have hcomps : (subpath.map Component.Normal).map Component.toComp =
        subpath.map Comp.normal := by
      simp [Function.comp_def, Component.toComp]
    simp only [habs, toTarget, Bool.false_eq_true, if_false, List.map_append, hcomps,
      List.append_assoc]
    exact pass_map_normal _ subpath _ (by simpa using hclean)

theorem resolveLoop_of_finished {unsafePath : List Component} {nlinks : Nat}
    {currPath : List Component} {subpath : List String}
    (h : nextComp readLink root [] currPath = .finished subpath) :
    resolveLoop readLink root unsafePath nlinks currPath = .ok subpath := by
  rw [resolveLoop, h]

theorem resolveLoop_of_symlink {unsafePath : List Component} {nlinks : Nat}
    {currPath : List Component} {subpath : List String} {v rest : List Component}
    (h : nextComp readLink root [] currPath = .symlink subpath v rest) :
    resolveLoop readLink root unsafePath nlinks currPath =
      if nlinks + 1 > maxSymlinkDepth then .error (.tooManySymlinks unsafePath)
      else resolveLoop readLink root unsafePath (nlinks + 1) (restartPath subpath v rest) := by
  rw [resolveLoop, h]

/-- The restart loop from `nlinks` returns what the splicing walk returns, having followed
at most `maxSymlinkDepth` links in all. -/
theorem resolveLoop_ok {unsafePath : List Component} {nlinks : Nat} {currPath : List Component}
    {res : List String} (hn : nlinks ≤ maxSymlinkDepth)
    (h : resolveLoop readLink root unsafePath nlinks currPath = .ok res) :
    ∃ n, nlinks + n ≤ maxSymlinkDepth ∧
      Spliced (symlinks readLink root) [] (currPath.map Component.toComp) n res := by
  fun_induction resolveLoop readLink root unsafePath nlinks currPath with
  | case1 nlinks currPath subpath hnext =>
      cases h
      refine ⟨0, by omega, .done ?_⟩
      rw [← nextComp_toPass, hnext]
      rfl
  | case2 nlinks currPath subpath v rest hnext hover => cases h
  | case3 nlinks currPath subpath v rest hnext hover ih =>
      obtain ⟨n, hle, hs⟩ := ih (by omega) h
      have hp : pass (symlinks readLink root) [] (currPath.map Component.toComp) =
          .link subpath (toTarget v) (rest.map Component.toComp) := by
        rw [← nextComp_toPass, hnext]
        rfl
      -- the walk starts from the root, so the subpath it reached holds no link
      have hclean := (pass_clean _ (clean_nil _)).2 _ _ _ hp
      refine ⟨n + 1, by omega, .link hp ?_⟩
      exact (spliced_congr _ (pass_restartPath readLink root v rest hclean)).mp hs

/-- Conversely a splicing walk that follows few enough links is what the restart loop does. -/
theorem resolveLoop_of_spliced {unsafePath : List Component} {n : Nat} {res : List String} :
    ∀ {nlinks : Nat} {currPath : List Component},
      Spliced (symlinks readLink root) [] (currPath.map Component.toComp) n res →
      nlinks + n ≤ maxSymlinkDepth →
      resolveLoop readLink root unsafePath nlinks currPath = .ok res := by
  induction n with
  | zero =>
      intro nlinks currPath hs _
      cases hs with
      | done hp =>
          rw [← nextComp_toPass, NextComp.toPass_eq_done] at hp
          exact resolveLoop_of_finished readLink root hp
  | succ n ih =>
      intro nlinks currPath hs hle
      cases hs with
      | link hp hs =>
          have hclean := (pass_clean _ (clean_nil _)).2 _ _ _ hp
          rw [← nextComp_toPass, NextComp.toPass_eq_link] at hp
          obtain ⟨v, rest, hnext, rfl, rfl⟩ := hp
          rw [resolveLoop_of_symlink readLink root hnext, if_neg (by omega)]
          apply ih _ (by omega)
          exact (spliced_congr _ (pass_restartPath readLink root v rest hclean)).mpr hs

theorem resolveLoop_ok_or_error (unsafePath : List Component) (nlinks : Nat)
    (currPath : List Component) :
    (∃ res, resolveLoop readLink root unsafePath nlinks currPath = .ok res) ∨
      resolveLoop readLink root unsafePath nlinks currPath = .error (.tooManySymlinks unsafePath) := by
  fun_induction resolveLoop readLink root unsafePath nlinks currPath with
  | case1 nlinks currPath subpath hnext => exact .inl ⟨subpath, rfl⟩
  | case2 nlinks currPath subpath v rest hnext hover => exact .inr rfl
  | case3 nlinks currPath subpath v rest hnext hover ih => exact ih

/-- Scoped resolution is chroot resolution: it succeeds exactly when resolving the unsafe path
in a chroot at the root follows at most `MAX_SYMLINK_DEPTH` links, with the same result, and
otherwise fails with "Too many levels of symlinks"; what `scoped_join` returns is the root
followed by that result, in which no directory is a symbolic link. -/
theorem scopedResolve_eq_chroot (unsafePath : List Component) :
    (∀ res, scopedResolve readLink root unsafePath = .ok res ↔
      ∃ n ≤ maxSymlinkDepth,
        Resolves (symlinks readLink root) [] (unsafePath.map Component.toComp) n res) ∧
    (scopedResolve readLink root unsafePath = .error (.tooManySymlinks unsafePath) ↔
      ∀ n res, Resolves (symlinks readLink root) [] (unsafePath.map Component.toComp) n res →
        maxSymlinkDepth < n) ∧
    (∀ p, scopedJoin readLink root unsafePath = .ok p →
      ∃ res, p = root ++ res ∧ Clean (symlinks readLink root) res ∧
        ∃ n ≤ maxSymlinkDepth,
          Resolves (symlinks readLink root) [] (unsafePath.map Component.toComp) n res) := by
  have hresolve : scopedResolve readLink root unsafePath =
      resolveLoop readLink root unsafePath 0 unsafePath := by
    unfold scopedResolve doScopedResolve
    cases resolveLoop readLink root unsafePath 0 unsafePath <;> rfl
  have hjoin : scopedJoin readLink root unsafePath =
      (resolveLoop readLink root unsafePath 0 unsafePath).map (root ++ ·) := by
    unfold scopedJoin doScopedResolve
    cases resolveLoop readLink root unsafePath 0 unsafePath <;> rfl
  -- the success case in both directions, through the splicing walk
  have hok : ∀ res, resolveLoop readLink root unsafePath 0 unsafePath = .ok res ↔
      ∃ n ≤ maxSymlinkDepth,
        Resolves (symlinks readLink root) [] (unsafePath.map Component.toComp) n res := by
    intro res
    constructor
    · intro h
      obtain ⟨n, hle, hs⟩ := resolveLoop_ok readLink root (by decide) h
      exact ⟨n, by omega, (spliced_iff_resolves _).mp hs⟩
    · rintro ⟨n, hle, hr⟩
      exact resolveLoop_of_spliced readLink root ((spliced_iff_resolves _).mpr hr) (by omega)
  refine ⟨fun res => hresolve ▸ hok res, ?_, ?_⟩
  · rw [hresolve]
    constructor
    · intro herr n res hr
      by_contra hle
      rw [(hok res).mpr ⟨n, by omega, hr⟩] at herr
      cases herr
    · intro hlong
      rcases resolveLoop_ok_or_error readLink root unsafePath 0 unsafePath with
        ⟨res, hres⟩ | herr
      · obtain ⟨n, hle, hr⟩ := (hok res).mp hres
        exact absurd (hlong n res hr) (by omega)
      · exact herr
  · intro p hp
    rw [hjoin] at hp
    cases hres : resolveLoop readLink root unsafePath 0 unsafePath with
    | error e => rw [hres] at hp; cases hp
    | ok res =>
        rw [hres] at hp
        cases hp
        obtain ⟨n, hle, hs⟩ := resolveLoop_ok readLink root (by decide) hres
        exact ⟨res, rfl, spliced_clean _ hs (clean_nil _), n, by omega,
          (spliced_iff_resolves _).mp hs⟩

-- The escape attempt and the symlink loop of the source's tests.
example : scopedResolve
    (fun p => if p = ["r", "symlink_dir", "6"] then
        some [.ParentDir, .Normal "usr", .Normal "bin", .ParentDir, .ParentDir, .ParentDir,
          .Normal "bin", .Normal "ls"]
      else none)
    ["r"] [.Normal "symlink_dir", .Normal "6"] = .ok ["bin", "ls"] := by with_unfolding_all decide

example : scopedResolve
    (fun p => if p = ["r", "endpoint_a"] then some [.RootDir, .Normal "endpoint_b"]
      else if p = ["r", "endpoint_b"] then some [.RootDir, .Normal "endpoint_a"] else none)
    ["r"] [.Normal "endpoint_a"] = .error (.tooManySymlinks [.Normal "endpoint_a"]) := by
  with_unfolding_all decide

end KataContainers.SafePath

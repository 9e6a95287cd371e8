import KataContainers.Lib.RustPath
import KataContainers.Lib.RustStd

/-!
# Compacting the `lowerdir` option of an overlay mount

`kata_sys_util::mount::compact_lowerdir_option` shortens an overlay mount whose options come
near a page: it takes the first nonempty `lowerdir=` option, computes the components that the
parents of its first and last layer share in `Path` order (`get_longest_common_prefix`), and
removes that directory with a trailing `/` from every layer with `str::replace`. `Mounter::mount`
then mounts from that directory. Paths are their strings; a `PathBuf` built from components is
the string `RustPath.ofComponents` gives.
-/

namespace KataContainers.SysUtil

open RustPath RustStd

def lowerdirKey : List Char := "lowerdir=".toList

/-- `find_overlay_lowerdirs` from the option at index `idx` on. -/
def findOverlayLowerdirsFrom : Nat → List String → Option (Nat × List (List Char))
  | _, [] => none
  | idx, o :: rest =>
      if lowerdirKey.isPrefixOf o.toList ∧ o.toList.drop lowerdirKey.length ≠ [] then
        some (idx, (o.toList.drop lowerdirKey.length).splitOn ':')
      else findOverlayLowerdirsFrom (idx + 1) rest

def findOverlayLowerdirs (opts : List String) : Option (Nat × List (List Char)) :=
  findOverlayLowerdirsFrom 0 opts

/-- The components on which two paths agree from the start: the `zip` loop of
`get_longest_common_prefix`. -/
def commonComponents (first last : List Component) : List Component :=
  ((first.zip last).takeWhile fun p => p.1 = p.2).map (·.1)

/-- `get_longest_common_prefix`, the `PathBuf` as its components. `sort_unstable` is a sort in
`Path` order; paths it cannot tell apart have the same components, so any sort gives the same
first and last components. -/
def getLongestCommonPrefix (opts : List (List Char)) : Option (List Component) :=
  if opts = [] then none
  else
    match opts.mapM fun opt => parent (components opt) with
    | none => none
    | some paths =>
        let paths := paths.insertionSort fun a b => cmpComponents a b ≠ .gt
        some (commonComponents (paths.headD []) (paths.getLastD []))

/-- `compact_lowerdir_option`: the directory to mount from, and the options. -/
def compactLowerdirOption (opts : List String) : Option (List Char) × List String :=
  match findOverlayLowerdirs opts with
  | none => (none, opts)
  | some (idx, lowerOpts) =>
      if lowerOpts.length ≤ 1 then (none, opts)
      else
        match getLongestCommonPrefix lowerOpts with
        | none => (none, opts)
        | some comps =>
            let commonDir := ofComponents comps
            if isAbsolute commonDir ∧ parent (components commonDir) = none then (none, opts)
            else
              let commonPrefix := commonDir ++ ['/']
              let lower := lowerOpts.map fun c => replace c commonPrefix []
              (some commonDir, opts.set idx (String.ofList (lowerdirKey ++ [':'].intercalate lower)))

-- the first case of `test_compact_overlay_lowerdirs`
example : compactLowerdirOption ["workdir=/a/b/c/xxxx/workdir", "upperdir=/a/b/c/xxxx/upper",
    "lowerdir=/a/b/c/xxxx/1l:/a/b/c/xxxx/2l:/a/b/c/xxxx/3l:/a/b/c/xxxx/4l"] =
    (some "/a/b/c/xxxx".toList, ["workdir=/a/b/c/xxxx/workdir", "upperdir=/a/b/c/xxxx/upper",
      "lowerdir=1l:2l:3l:4l"]) := by
  decide

theorem findOverlayLowerdirsFrom_eq_some {start : Nat} {opts : List String} {idx : Nat}
    {lowerOpts : List (List Char)} (h : findOverlayLowerdirsFrom start opts = some (idx, lowerOpts)) :
    start ≤ idx ∧ ∃ o, opts[idx - start]? = some o ∧ lowerdirKey <+: o.toList ∧
      lowerOpts = (o.toList.drop lowerdirKey.length).splitOn ':' := by
  induction opts generalizing start with
  | nil => cases h
  | cons o rest ih =>
      rw [findOverlayLowerdirsFrom] at h
      split_ifs at h with hkey
      · cases h
        refine ⟨le_rfl, o, by simp, List.isPrefixOf_iff_prefix.mp hkey.1, rfl⟩
      · obtain ⟨hle, o', ho', hpre, hlow⟩ := ih h
        refine ⟨by omega, o', ?_, hpre, hlow⟩
        rw [show idx - start = (idx - (start + 1)) + 1 by omega, List.getElem?_cons_succ]
        exact ho'

/-- Every layer `find_overlay_lowerdirs` returns comes from splitting at `:`. -/
theorem colon_not_mem_of_findOverlayLowerdirs {opts : List String} {idx : Nat}
    {lowerOpts : List (List Char)} (h : findOverlayLowerdirs opts = some (idx, lowerOpts)) :
    ∀ l ∈ lowerOpts, ':' ∉ l := by
  obtain ⟨-, o, -, -, rfl⟩ := findOverlayLowerdirsFrom_eq_some h
  exact fun l hl => not_mem_of_mem_splitOn hl

/-- `compact_lowerdir_option` returns the options unchanged, or the directory `d` and the options
with the `lowerdir` option found rewritten, every layer with each `d/` removed. -/
theorem compactLowerdirOption_cases (opts : List String) :
    compactLowerdirOption opts = (none, opts) ∨
      ∃ idx lowerOpts d, findOverlayLowerdirs opts = some (idx, lowerOpts) ∧
        2 ≤ lowerOpts.length ∧
        compactLowerdirOption opts = (some d, opts.set idx (String.ofList (lowerdirKey ++
          [':'].intercalate (lowerOpts.map fun c => replace c (d ++ ['/']) [])))) := by
  unfold compactLowerdirOption
  split
  case h_1 => exact .inl rfl
  case h_2 idx lowerOpts hfind =>
    split_ifs with hlen
    · exact .inl rfl
    · split
      case h_1 => exact .inl rfl
      case h_2 comps _ =>
        dsimp only
        split_ifs with hroot
        · exact .inl rfl
        · exact .inr ⟨idx, lowerOpts, ofComponents comps, hfind, by omega, rfl⟩

theorem compactLowerdirOption_snd_of_none {opts : List String}
    (h : (compactLowerdirOption opts).1 = none) : (compactLowerdirOption opts).2 = opts := by
  rcases compactLowerdirOption_cases opts with hnone | ⟨idx, lowerOpts, d, -, -, hsome⟩
  · rw [hnone]
  · rw [hsome] at h
    cases h

/-- The rewritten option holds as many layers as the original, in the same order: removing
text adds no `:`. -/
theorem splitOn_compacted {lowerOpts : List (List Char)} (hne : lowerOpts ≠ [])
    (hcolon : ∀ l ∈ lowerOpts, ':' ∉ l) (d : List Char) :
    ((lowerdirKey ++ [':'].intercalate (lowerOpts.map fun c => replace c (d ++ ['/']) [])).drop
      lowerdirKey.length).splitOn ':' = lowerOpts.map fun c => replace c (d ++ ['/']) [] := by
  rw [List.drop_left]
  apply List.splitOn_intercalate
  · intro l hl hmem
    obtain ⟨c, hc, rfl⟩ := List.mem_map.mp hl
    exact hcolon c hc ((replace_nil_sublist (by simp) c).subset hmem)
  · simpa using hne

/-- A layer that holds `d/` only at its start is stripped to the rest, and joining `d` with the
rest gives the layer back. -/
theorem join_replace_of_unique_prefix {d r : List Char} (hd : d ≠ [])
    (hlast : d.getLast? ≠ some '/') (hr : ¬ (d ++ ['/']) <:+: r) (hrel : isAbsolute r = false) :
    replace (d ++ '/' :: r) (d ++ ['/']) [] = r ∧ join d r = d ++ '/' :: r := by
  have hpat : d ++ ['/'] ≠ [] := by simp
  constructor
  · rw [show d ++ '/' :: r = (d ++ ['/']) ++ r by simp, replace_prefix hpat,
      replace_of_not_infix hpat [] hr, List.nil_append]
  · unfold join push
    rw [hrel, if_neg Bool.false_ne_true, if_pos ⟨hd, hlast⟩]

/-- The layers `/x/1` and `/x/y/x/2` share the directory `/x`, and the second also holds `/x/`
inside: `str::replace` removes both occurrences, so from `/x` the second layer is `/x/y2`. -/
theorem compact_lowerdir_rewrites_inner_occurrence :
    compactLowerdirOption ["lowerdir=/x/1:/x/y/x/2"] = (some "/x".toList, ["lowerdir=1:y2"]) ∧
      components (join "/x".toList "y2".toList) ≠ components "/x/y/x/2".toList := by
  decide

end KataContainers.SysUtil

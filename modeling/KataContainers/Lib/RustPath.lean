import Mathlib

/-!
# Paths as Rust's `std::path` reads them on Unix

A path is a string; `components` reads it as `Path::components` does: a leading `/` is
`RootDir`, separators in a row and a trailing one count once, `.` is dropped except at the start
of a relative path, where it is `CurDir`, and `..` is `ParentDir`. `Ord for Path` compares the
components in order, the variants in their order of declaration and names by their bytes.
`PathBuf::push` of a relative path adds a separator unless the buffer is empty or ends in one;
an absolute one replaces the buffer. Two strings denote the same path when their components
agree.
-/

namespace RustPath

inductive Component where
  | RootDir
  | CurDir
  | ParentDir
  | Normal (name : List Char)
deriving DecidableEq, Repr

def components (s : List Char) : List Component :=
  let hasRoot := s.head? = some '/'
  let parts := s.splitOn '/'
  let curDir := !hasRoot && parts.head? == some ['.']
  (if hasRoot then [.RootDir] else []) ++ (if curDir then [.CurDir] else []) ++
    (parts.filter fun p => p ≠ [] ∧ p ≠ ['.']).map fun p =>
      if p = ['.', '.'] then .ParentDir else .Normal p

example : components "/a//b/./c/".toList =
    [.RootDir, .Normal ['a'], .Normal ['b'], .Normal ['c']] := by decide
example : components "./a/..".toList = [.CurDir, .Normal ['a'], .ParentDir] := by decide

def isAbsolute (s : List Char) : Bool := s.head? = some '/'

/-- `Path::parent` on components: `None` for the root and the empty path. -/
def parent (comps : List Component) : Option (List Component) :=
  match comps.getLast? with
  | some (.Normal _) | some .CurDir | some .ParentDir => some comps.dropLast
  | _ => none

def Component.asStr : Component → List Char
  | .RootDir => ['/']
  | .CurDir => ['.']
  | .ParentDir => ['.', '.']
  | .Normal name => name

/-- `PathBuf::push` of a path given by its string. -/
def push (buf p : List Char) : List Char :=
  if isAbsolute p then p
  else if buf ≠ [] ∧ buf.getLast? ≠ some '/' then buf ++ '/' :: p
  else buf ++ p

/-- `Path::join`. -/
def join (base p : List Char) : List Char := push base p

/-- The string of a `PathBuf` built by pushing components onto `PathBuf::new()`. -/
def ofComponents (comps : List Component) : List Char :=
  comps.foldl (fun buf c => push buf c.asStr) []

example : ofComponents [.RootDir, .Normal ['a'], .Normal ['b']] = "/a/b".toList := by decide

def Component.rank : Component → Nat
  | .RootDir => 0
  | .CurDir => 1
  | .ParentDir => 2
  | .Normal _ => 3

/-- The derived `Ord` of `Component`: the variants in order, names by their bytes. -/
def Component.cmp : Component → Component → Ordering
  | .Normal a, .Normal b => List.compareLex compare a b
  | a, b => compare a.rank b.rank

/-- `Ord for Path`: the components compared in order. -/
def cmpComponents (a b : List Component) : Ordering := List.compareLex Component.cmp a b

example : cmpComponents (components "/a/b".toList) (components "/a/b/c".toList) = .lt := by
  decide

end RustPath

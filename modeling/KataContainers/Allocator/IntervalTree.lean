import Mathlib

/-!
# The interval tree of the resource allocator

`dbs_allocator::interval_tree`: an AVL tree of disjoint closed ranges of `u64`, each node
free, allocated or holding a value, with its height and the largest range end below it cached
in the node. `Option<Node<T>>` is `Tree T`, `nil` standing for `None`; the methods of `Node`
take `self` by value and are total on `Tree`, their `nil` clauses never being reached from
the tree's operations. A panic is an `Except Panic` error; arithmetic on `u64` wraps, as in a
release build.
-/

namespace KataContainers.Allocator

def u64Max : UInt64 := 0xFFFF_FFFF_FFFF_FFFF

inductive Panic where
  /-- "interval_tree: Range({}, {}) is invalid" -/
  | invalidRange
  /-- "interval_tree: key {:?} exists" -/
  | keyExists
  /-- "interval_tree: key {:?} intersects with existing {:?}" -/
  | keysIntersect
  /-- "try to update unallocated interval tree node" -/
  | updateUnallocated
  /-- the `unreachable!()` of `Node::rotate` -/
  | unreachable
  /-- `expect("Node is broken")` -/
  | nodeBroken
  /-- `unwrap()` on `None` -/
  | unwrapNone
deriving DecidableEq, Repr

/-- `Option::unwrap`. -/
def unwrap {α : Type} : Option α → Except Panic α
  | some a => .ok a
  | none => .error .unwrapNone

@[ext]
structure Range where
  min : UInt64
  max : UInt64
deriving DecidableEq, Repr

namespace Range

/-- `Range::new`: refuses `min > max` and the full range. -/
def new (min max : UInt64) : Except Panic Range :=
  if min > max || (min == 0 && max == u64Max) then .error .invalidRange else .ok ⟨min, max⟩

/-- `Range::new_point`, which checks nothing: a point is never the full range. -/
def newPoint (value : UInt64) : Range := ⟨value, value⟩

def len (r : Range) : UInt64 := r.max - r.min + 1

def intersect (a b : Range) : Bool := Max.max a.min b.min ≤ Min.min a.max b.max

def contain (a b : Range) : Bool := a.min ≤ b.min && a.max ≥ b.max

/-- `align_to`: the range with its start rounded up to a power-of-two `align`. -/
def alignTo (r : Range) (align : UInt64) : Except Panic (Option Range) :=
  match align with
  | 0 | 1 => .ok (some r)
  | _ =>
      if align &&& (align - 1) != 0 then .ok none
      -- `checked_add`
      else if r.min.toNat + (align - 1).toNat < 2 ^ 64 then
        let min := (r.min + (align - 1)) &&& ~~~(align - 1)
        if min ≤ r.max then (Range.new min r.max).map some else .ok none
      else .ok none

/-- `Ord for Range`: by start, then by end. -/
def cmp (a b : Range) : Ordering :=
  match compare a.min b.min with
  | .eq => compare a.max b.max
  | res => res

/- The comparisons above as equations, which the proofs rewrite with. -/

theorem intersect_eq (a b : Range) :
    a.intersect b = decide (Max.max a.min b.min ≤ Min.min a.max b.max) := rfl

theorem contain_eq (a b : Range) :
    a.contain b = (decide (a.min ≤ b.min) && decide (a.max ≥ b.max)) := rfl

theorem cmp_eq (a b : Range) :
    a.cmp b = match compare a.min b.min with
      | .eq => compare a.max b.max
      | res => res := rfl

end Range

inductive AllocPolicy where
  | Default
  | FirstMatch
deriving DecidableEq, Repr

structure Constraint where
  size : UInt64
  min : UInt64
  max : UInt64
  align : UInt64
  policy : AllocPolicy
deriving DecidableEq, Repr

/-- `Constraint::new`. -/
def Constraint.new (size : UInt64) : Constraint := ⟨size, 0, u64Max, 1, .Default⟩

inductive NodeState (T : Type) where
  | Free
  | Allocated
  | Valued (t : T)
deriving DecidableEq, Repr

def NodeState.isFree {T : Type} : NodeState T → Bool
  | .Free => true
  | _ => false

/-- `From<NodeState<T>> for Option<T>`. -/
def NodeState.toOption {T : Type} : NodeState T → Option T
  | .Valued t => some t
  | _ => none

inductive Tree (T : Type) where
  | nil
  | node (key : Range) (data : NodeState T) (left right : Tree T) (height : Nat) (maxKey : UInt64)
deriving DecidableEq, Repr

namespace Tree

variable {T : Type}

def isNode : Tree T → Bool
  | nil => false
  | node .. => true

def height : Tree T → Nat
  | nil => 0
  | node _ _ _ _ h _ => h

def maxKey : Tree T → UInt64
  | nil => 0
  | node _ _ _ _ _ m => m

/-- The state `Node::new` gives its data. -/
def newValue : Option T → NodeState T
  | some t => .Valued t
  | none => .Free

/-- `Node::new`. -/
def newNode (key : Range) (data : Option T) : Tree T := node key (newValue data) nil nil 1 key.max

/-- A node whose cache is computed from its children, as `update_cached_info` leaves it. -/
def withCachedInfo (key : Range) (data : NodeState T) (left right : Tree T) : Tree T :=
  node key data left right (Max.max left.height right.height + 1)
    (Max.max left.maxKey (Max.max right.maxKey key.max))

theorem withCachedInfo_eq (key : Range) (data : NodeState T) (left right : Tree T) :
    withCachedInfo key data left right =
      node key data left right (Max.max left.height right.height + 1)
        (Max.max left.maxKey (Max.max right.maxKey key.max)) := rfl

def updateCachedInfo : Tree T → Tree T
  | nil => nil
  | node k d l r _ _ => withCachedInfo k d l r

/-- `Node::search`, with what `get` reads of the node found. -/
def search (key : Range) : Tree T → Option (NodeState T)
  | nil => none
  | node k d l r _ _ =>
      match k.cmp key with
      | .eq => some d
      | .lt => search key r
      | .gt => search key l

/-- `Node::search_superset`, with what `get_superset` reads of the node found. -/
def searchSuperset (key : Range) : Tree T → Option (Range × NodeState T)
  | nil => none
  | node k d l r _ _ =>
      if k.contain key then some (k, d)
      else if key.max < k.min && l.isNode then searchSuperset key l
      else if key.min > k.max && r.isNode then searchSuperset key r
      else none

/-- `Node::search_superset_mut`, the same search as `search_superset`. -/
def searchSupersetMut (key : Range) (t : Tree T) : Option (Range × NodeState T) :=
  searchSuperset key t

def rotateLeft : Tree T → Except Panic (Tree T)
  | node k d l (node rk rd rl rr _ _) _ _ => .ok (withCachedInfo rk rd (withCachedInfo k d l rl) rr)
  | node _ _ _ nil _ _ => .error .nodeBroken
  | nil => .ok nil

def rotateRight : Tree T → Except Panic (Tree T)
  | node k d (node lk ld ll lr _ _) r _ _ => .ok (withCachedInfo lk ld ll (withCachedInfo k d lr r))
  | node _ _ nil _ _ _ => .error .nodeBroken
  | nil => .ok nil

/-- `rotate_left_successor`: a right rotation, after a left rotation of the left child when
that child leans right. -/
def rotateLeftSuccessor : Tree T → Except Panic (Tree T)
  | node k d (node lk ld ll lr lh lm) r h m =>
      if ll.height < lr.height then do
        let rotated ← rotateLeft (node lk ld ll lr lh lm)
        rotateRight (withCachedInfo k d rotated r)
      else rotateRight (node k d (node lk ld ll lr lh lm) r h m)
  | node _ _ nil _ _ _ => .error .nodeBroken
  | nil => .ok nil

def rotateRightSuccessor : Tree T → Except Panic (Tree T)
  | node k d l (node rk rd rl rr rh rm) h m =>
      if rl.height > rr.height then do
        let rotated ← rotateRight (node rk rd rl rr rh rm)
        rotateLeft (withCachedInfo k d l rotated)
      else rotateLeft (node k d l (node rk rd rl rr rh rm) h m)
  | node _ _ _ nil _ _ => .error .nodeBroken
  | nil => .ok nil

/-- `Node::rotate`, on the cached heights of the children. -/
def rotate (t : Tree T) : Except Panic (Tree T) :=
  match t with
  | nil => .ok nil
  | node _ _ l r _ _ =>
      let diff : Int := (l.height : Int) - r.height
      if -1 ≤ diff ∧ diff ≤ 1 then .ok t
      else if diff = 2 then rotateLeftSuccessor t
      else if diff = -2 then rotateRightSuccessor t
      else .error .unreachable

def updatedNode (t : Tree T) : Except Panic (Tree T) := rotate t.updateCachedInfo

/-- `Node::insert`; inserting into `nil` is `Node::new`, as both callers do. -/
def insert (key : Range) (data : Option T) : Tree T → Except Panic (Tree T)
  | nil => .ok (newNode key data)
  | node k d l r h m =>
      match k.cmp key with
      | .eq => .error .keyExists
      | .lt =>
          if k.intersect key then .error .keysIntersect
          else do
            let r ← insert key data r
            updatedNode (node k d l r h m)
      | .gt =>
          if k.intersect key then .error .keysIntersect
          else do
            let l ← insert key data l
            updatedNode (node k d l r h m)

/-- The transitions `Node::update` refuses. -/
def refusesUpdate : NodeState T → NodeState T → Bool
  | .Free, .Free | .Free, .Valued _ | .Allocated, .Free | .Allocated, .Allocated => true
  | .Valued _, .Free | .Valued _, .Allocated => true
  | _, _ => false

/-- `Node::update`: the tree with the new state and the old value. -/
def update (key : Range) (data : NodeState T) : Tree T → Except Panic (Tree T × Option T)
  | nil => .ok (nil, none)
  | node k d l r h m =>
      match k.cmp key with
      | .eq =>
          if refusesUpdate d data then .error .updateUnallocated
          else .ok (node k data l r h m, d.toOption)
      | .lt => do
          let (r, old) ← update key data r
          .ok (node k d l r h m, old)
      | .gt => do
          let (l, old) ← update key data l
          .ok (node k d l r h m, old)

/-- `get_new_root`: the node of the smallest key, its children taken, and the rest. -/
def getNewRoot : Tree T → Except Panic (Tree T × Tree T)
  | node k d nil r h m => .ok (node k d nil nil h m, r)
  | node k d l r h m => do
      let (minNode, l) ← getNewRoot l
      let t ← updatedNode (node k d l r h m)
      .ok (minNode, t)
  | nil => .ok (nil, nil)

def combineSubtrees (l r : Tree T) : Except Panic (Tree T) := do
  let (newRoot, remaining) ← getNewRoot r
  match newRoot with
  | node k d _ _ h m => updatedNode (node k d l remaining h m)
  | nil => .ok nil

def deleteRoot (l r : Tree T) : Except Panic (Tree T) :=
  match l, r with
  | nil, nil => .ok nil
  | l, nil => .ok l
  | nil, r => .ok r
  | l, r => combineSubtrees l r

/-- `Node::delete`: the value of the deleted node and the tree without it. -/
def delete (key : Range) : Tree T → Except Panic (Option T × Tree T)
  | nil => .ok (none, nil)
  | node k d l r h m =>
      match k.cmp key with
      | .eq => do
          let t ← deleteRoot l r
          .ok (d.toOption, t)
      | .lt =>
          match r with
          | nil => .ok (none, node k d l nil h m)
          | r => do
              let (data, r) ← delete key r
              let t ← updatedNode (node k d l r h m)
              .ok (data, t)
      | .gt =>
          match l with
          | nil => .ok (none, node k d nil r h m)
          | l => do
              let (data, l) ← delete key l
              let t ← updatedNode (node k d l r h m)
              .ok (data, t)

/-- `check_constraint`: a free node holds an aligned piece of the constraint's size. -/
def checkConstraint (c : Constraint) : Tree T → Except Panic Bool
  | nil => .ok false
  | node k d _ _ _ _ =>
      if d.isFree then
        let min := Max.max k.min c.min
        let max := Min.min k.max c.max
        if min ≤ max then do
          let key ← Range.new min max
          if c.align == 0 || c.align == 1 then .ok (key.len ≥ c.size)
          else
            match ← key.alignTo c.align with
            | none => .ok false
            | some alignedKey => .ok (alignedKey.len ≥ c.size)
        else .ok false
      else .ok false

/-- `first_match`: the key of the first node in order that satisfies the constraint. -/
def firstMatch (c : Constraint) : Tree T → Except Panic (Option Range)
  | nil => .ok none
  | node k d l r h m => do
      let candidate ← firstMatch c l
      let candidate ←
        match candidate with
        | some x => pure (some x)
        | none => do
            if ← checkConstraint c (node k d l r h m) then pure (some k) else pure none
      match candidate with
      | some x => pure (some x)
      | none => firstMatch c r

/-- `find_candidate`: both policies take the first match. -/
def findCandidate (c : Constraint) (t : Tree T) : Except Panic (Option Range) :=
  match c.policy with
  | .FirstMatch => firstMatch c t
  | .Default => firstMatch c t

end Tree

structure IntervalTree (T : Type) where
  root : Tree T

namespace IntervalTree

variable {T : Type}

def new : IntervalTree T := ⟨.nil⟩

def get (t : IntervalTree T) (key : Range) : Option (NodeState T) := t.root.search key

def getSuperset (t : IntervalTree T) (key : Range) : Option (Range × NodeState T) :=
  t.root.searchSuperset key

def getSupersetMut (t : IntervalTree T) (key : Range) : Option (Range × NodeState T) :=
  t.root.searchSupersetMut key

/-- `get_by_id`: the value of the node that holds the point `id`. -/
def getById (t : IntervalTree T) (id : UInt64) : Option T :=
  match t.root.searchSuperset (Range.newPoint id) with
  | some (_, s) => s.toOption
  | none => none

def insert (t : IntervalTree T) (key : Range) (data : Option T) : Except Panic (IntervalTree T) :=
  (t.root.insert key data).map IntervalTree.mk

def update (t : IntervalTree T) (key : Range) (data : T) :
    Except Panic (IntervalTree T × Option T) :=
  (t.root.update key (.Valued data)).map fun (root, old) => (⟨root⟩, old)

def delete (t : IntervalTree T) (key : Range) : Except Panic (IntervalTree T × Option T) :=
  (t.root.delete key).map fun (data, root) => (⟨root⟩, data)

/-- `self.root.as_mut().unwrap().update(&key, Allocated)`. -/
def markAllocated (t : IntervalTree T) (key : Range) : Except Panic (IntervalTree T) :=
  match t.root with
  | .nil => .error .unwrapNone
  | root => (root.update key .Allocated).map fun (root, _) => ⟨root⟩

/-- `self.insert(Range::new(min, max), None)`. -/
def insertRange (t : IntervalTree T) (min max : UInt64) : Except Panic (IntervalTree T) := do
  t.insert (← Range.new min max) none

/-- `self.delete(&Range::new(min, max))`, its result dropped. -/
def deleteRange (t : IntervalTree T) (min max : UInt64) : Except Panic (IntervalTree T) := do
  let (t, _) ← t.delete (← Range.new min max)
  pure t

def allocate (t : IntervalTree T) (c : Constraint) : Except Panic (IntervalTree T × Option Range) :=
  if c.size == 0 then .ok (t, none)
  else do
    match ← t.root.findCandidate c with
    | none => .ok (t, none)
    | some nodeKey =>
        let range ← Range.new (Max.max nodeKey.min c.min) (Min.min nodeKey.max c.max)
        -- "Safe to unwrap because candidate satisfy the constraints."
        let alignedKey ← unwrap (← range.alignTo c.align)
        let result ← Range.new alignedKey.min (alignedKey.min + c.size - 1)
        if nodeKey.min == alignedKey.min && nodeKey.len == c.size then
          let t ← t.markAllocated nodeKey
          .ok (t, some nodeKey)
        else
          -- split the candidate node
          let (t, _) ← t.delete nodeKey
          let t ← (if alignedKey.min > nodeKey.min then
            t.insertRange nodeKey.min (alignedKey.min - 1) else pure t)
          let t ← t.insert result none
          let t ← (if result.max < nodeKey.max then
            t.insertRange (result.max + 1) nodeKey.max else pure t)
          let t ← t.markAllocated result
          .ok (t, some result)

/-- The start of the range `free` merges: that of the free node ending right before `key`. -/
def mergeMin (t : IntervalTree T) (key : Range) : Except Panic UInt64 :=
  if key.min > 0 then
    (Range.new (key.min - 1) (key.min - 1)).map fun p =>
      match t.getSuperset p with
      | some (r, v) => if v.isFree then r.min else key.min
      | none => key.min
  else .ok key.min

/-- The end of the range `free` merges: that of the free node starting right after `key`. -/
def mergeMax (t : IntervalTree T) (key : Range) : Except Panic UInt64 :=
  if key.max < u64Max then
    (Range.new (key.max + 1) (key.max + 1)).map fun p =>
      match t.getSuperset p with
      | some (r, v) => if v.isFree then r.max else key.max
      | none => key.max
  else .ok key.max

/-- `free`: the range is merged with the free nodes next to it and reinserted free; the merged
range is built field by field, not by `Range::new`. -/
def free (t : IntervalTree T) (key : Range) : Except Panic (IntervalTree T × Option T) := do
  let (t, result) ← t.delete key
  let min ← t.mergeMin key
  let max ← t.mergeMax key
  let range : Range := ⟨min, max⟩
  let t ← (if range.min < key.min then t.deleteRange range.min (key.min - 1) else pure t)
  let t ← (if range.max > key.max then t.deleteRange (key.max + 1) range.max else pure t)
  let t ← t.insert range none
  .ok (t, result)

/-- The operations of the tree's interface. -/
inductive Op (T : Type) where
  | insert (key : Range) (data : Option T)
  | delete (key : Range)
  | update (key : Range) (data : T)
  | allocate (c : Constraint)
  | free (key : Range)

def step (t : IntervalTree T) : Op T → Except Panic (IntervalTree T)
  | .insert key data => t.insert key data
  | .delete key => (t.delete key).map (·.1)
  | .update key data => (t.update key data).map (·.1)
  | .allocate c => (t.allocate c).map (·.1)
  | .free key => (t.free key).map (·.1)

/-- The tree after a run of operations from `IntervalTree::new()`. -/
def run (ops : List (Op T)) : Except Panic (IntervalTree T) := ops.foldlM step new

end IntervalTree

end KataContainers.Allocator

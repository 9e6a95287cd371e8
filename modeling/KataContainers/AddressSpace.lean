import Mathlib
import KataContainers.Lib.RustInt
import KataContainers.ResourceManager

/-!
# Guest RAM layout

`AddressSpaceMgr::create_address_space` of `dragonball::address_space_manager` on x86_64: the
split of the NUMA regions around the MMIO hole below 4 GiB, the allocation of each region from
the `ResourceManager`'s memory pool and of a KVM memory slot for it, and the check of the
regions by `AddressSpace::from_regions` against `AddressSpaceLayout::is_region_valid`.

The host's part of each step (backing a region with memory, mapping it, `KVM_SET_USER_MEMORY_REGION`)
is a `Host` that either succeeds or makes the call fail; the model keeps every error the
manager returns.

Two places where the arithmetic of the source matters:

* `size.checked_shl(20)` checks only the shift amount, so the high bits of a size in MiB are
  dropped (`checkedShl_twenty`);
* the memory pool ends at `GUEST_MEM_END` inclusive, while `is_region_valid` compares the
  exclusive end `base + size` with it, so a region the pool hands out up to `GUEST_MEM_END` is
  invalid for the layout (`isRegionValid_of_last_eq_memEnd`), and `from_regions` panics.
-/

namespace KataContainers

open Allocator RustInt
open ResourceManager (physEnd36)

/-- `MINIMAL_SPLIT_SPACE`. -/
def minimalSplitSpace : UInt64 := (128 : UInt64) <<< 20

inductive AddressSpaceRegionType where
  | DefaultMemory
  | DeviceMemory
  | DAXMemory
deriving DecidableEq, Repr

/-- The part of `AddressSpaceRegion` the layout reads. -/
structure AddressSpaceRegion where
  base : UInt64
  size : UInt64
  ty : AddressSpaceRegionType
deriving DecidableEq, Repr

namespace AddressSpaceRegion

/-- `last_addr`: `base + size - 1`, wrapping. -/
def lastAddr (r : AddressSpaceRegion) : UInt64 := r.base + r.size - 1

/-- `intersect_with`: a region whose end overflows intersects everything. -/
def intersectWith (a b : AddressSpaceRegion) : Bool :=
  if 2 ^ 64 ≤ a.base.toNat + a.size.toNat || 2 ^ 64 ≤ b.base.toNat + b.size.toNat then true
  else !(a.base + a.size ≤ b.base || a.base ≥ b.base + b.size)

end AddressSpaceRegion

/-- `AddressSpaceLayout`, less `usable_end`, which `is_region_valid` does not read. -/
structure AddressSpaceLayout where
  physEnd : UInt64
  memStart : UInt64
  memEnd : UInt64
deriving DecidableEq, Repr

/-- `AddressSpaceLayout::is_region_valid`. -/
def AddressSpaceLayout.isRegionValid (l : AddressSpaceLayout) (r : AddressSpaceRegion) : Bool :=
  if 2 ^ 64 ≤ r.base.toNat + r.size.toNat then false
  else
    match r.ty with
    | .DefaultMemory => !(r.base < l.memStart || r.base + r.size > l.memEnd)
    | .DeviceMemory | .DAXMemory => !(r.base < l.memEnd || r.base + r.size > l.physEnd)

/-- The errors of `AddressSpaceMgr` that `create_address_space` returns. -/
inductive AddressManagerError where
  | InvalidOperation
  | NoAvailableMemAddress
  | NoAvailableKvmSlot
  | CreateAddressSpaceRegion
  | CreateGuestMemory
  | KvmSetMemorySlot
deriving DecidableEq, Repr

/-- The panics: those of the resource manager, and the two of `from_regions`. -/
inductive AddressSpacePanic where
  | rm (e : RmPanic)
  /-- "Invalid region {:?} for address space layout {:?}" -/
  | invalidRegion
  /-- "address space regions intersect with each other" -/
  | regionsIntersect
deriving DecidableEq, Repr

/-- `AddressSpace::from_regions`: the regions sorted by base, each valid for the layout, and no
two neighbours intersecting. -/
def fromRegions (regions : List AddressSpaceRegion) (layout : AddressSpaceLayout) :
    Except AddressSpacePanic (List AddressSpaceRegion) :=
  -- `sort_unstable_by_key(|r| r.start_addr())`; any order among equal bases will do
  let regions := regions.insertionSort fun a b => a.base ≤ b.base
  if !regions.all layout.isRegionValid then .error .invalidRegion
  else if (regions.zip regions.tail).any fun (prev, r) => r.intersectWith prev then
    .error .regionsIntersect
  else .ok regions

/-- What the host does for a region: create its memory (`create_region`), and map it into the
process and into KVM (`create_mmap_region`, `insert_region`, `set_user_memory_region`). -/
structure Host where
  createRegion : UInt64 → UInt64 → Bool
  mapRegion : AddressSpaceRegion → Bool

/-- `create_region`: a default memory region, or the host's error. -/
def createRegion (host : Host) (start size : UInt64) :
    Except AddressManagerError AddressSpaceRegion :=
  if host.createRegion start size then .ok ⟨start, size, .DefaultMemory⟩
  else .error .CreateAddressSpaceRegion

/-- The first loop of `create_address_space`: each NUMA region, in MiB, at `start_addr`, split
around the MMIO hole unless the part below it would be under `MINIMAL_SPLIT_SPACE`. -/
def splitRegions (host : Host) (startAddr : UInt64) :
    List UInt64 → Except AddressManagerError (List AddressSpaceRegion)
  | [] => .ok []
  | sizeMib :: rest => do
      let size ← (checkedShl sizeMib 20).elim (.error .InvalidOperation) .ok
      -- the test `start_addr + size` is unchecked
      if startAddr > mmioLowEnd || startAddr + size ≤ mmioLowStart then
        let region ← createRegion host startAddr size
        let next ← (checkedAdd startAddr size).elim (.error .InvalidOperation) .ok
        let regions ← splitRegions host next rest
        pure (region :: regions)
      else
        let below ← (checkedSub mmioLowStart startAddr).elim (.error .InvalidOperation) .ok
        let (below, belowRegions) ← if below < minimalSplitSpace then pure (0, [])
          else do
            let region ← createRegion host startAddr below
            pure (below, [region])
        let aboveStart := mmioLowEnd + 1
        let aboveSize ← (checkedSub size below).elim (.error .InvalidOperation) .ok
        let region ← createRegion host aboveStart aboveSize
        let next ← (checkedAdd aboveStart aboveSize).elim (.error .InvalidOperation) .ok
        let regions ← splitRegions host next rest
        pure (belowRegions ++ region :: regions)

/-- The second loop: each region taken from the memory pool, mapped, and given a KVM slot. -/
def mapRegions (host : Host) (rm : ResourceManager) :
    List AddressSpaceRegion →
      Except AddressSpacePanic (ResourceManager × Except AddressManagerError Unit)
  | [] => .ok (rm, .ok ())
  | reg :: rest => do
      let constraint : Constraint :=
        { Constraint.new reg.size with min := reg.base, max := reg.lastAddr }
      let (rm, key) ← (rm.allocateMemAddress constraint).mapError .rm
      match key with
      | none => pure (rm, .error .NoAvailableMemAddress)
      | some _ =>
          if !host.mapRegion reg then pure (rm, .error .CreateGuestMemory)
          else
            -- `map_to_kvm`
            let (rm, slot) ← (rm.allocateKvmMemSlot 1 none).mapError .rm
            match slot with
            | none => pure (rm, .error .NoAvailableKvmSlot)
            | some _ => mapRegions host rm rest

/-- `create_address_space`, for NUMA regions of the given sizes in MiB: the regions it lays out,
after they have been allocated, mapped, and checked by `from_regions` against the layout
`(GUEST_PHYS_END, GUEST_MEM_START, GUEST_MEM_END)`. -/
def createAddressSpace (physEnd : UInt64) (host : Host) (rm : ResourceManager)
    (sizesMib : List UInt64) :
    Except AddressSpacePanic (ResourceManager × Except AddressManagerError (List AddressSpaceRegion)) :=
  match splitRegions host guestMemStart sizesMib with
  | .error e => .ok (rm, .error e)
  | .ok regions => do
      let (rm, mapped) ← mapRegions host rm regions
      match mapped with
      | .error e => pure (rm, .error e)
      | .ok () =>
          let regions ← fromRegions regions ⟨physEnd, guestMemStart, guestMemEnd physEnd⟩
          pure (rm, .ok regions)

/-! ## The end of guest memory -/

/-- A default memory region whose last address is the layout's `mem_end` is invalid. -/
theorem isRegionValid_of_last_eq_memEnd (l : AddressSpaceLayout) {r : AddressSpaceRegion}
    (hty : r.ty = .DefaultMemory) (hlast : r.base.toNat + r.size.toNat = l.memEnd.toNat + 1) :
    l.isRegionValid r = false := by
  unfold AddressSpaceLayout.isRegionValid
  have hend := UInt64.toNat_lt l.memEnd
  split_ifs with hover
  · rfl
  · rw [hty]
    have hsum : (r.base + r.size).toNat = l.memEnd.toNat + 1 := by
      rw [UInt64.toNat_add]
      omega
    simp only [Bool.not_eq_false', Bool.or_eq_true, decide_eq_true_eq, UInt64.lt_iff_toNat_lt,
      hsum]
    omega

/-- Every host step succeeds. -/
def Host.ok : Host := ⟨fun _ _ => true, fun _ => true⟩

/-- From `ResourceManager::new` on a host with 36 address bits (`GUEST_MEM_END = 32 GiB - 1`): one
NUMA region of 31744 MiB is split into `[0, 3 GiB)` and `[4 GiB, 32 GiB)`, both taken from the
memory pool, and `from_regions` panics on the second; one of `2^44 + 1` MiB becomes a single
region of 1 MiB. -/
theorem createAddressSpace_panics_at_mem_end :
    ((ResourceManager.new physEnd36 none).mapError .rm >>= fun rm =>
      (createAddressSpace physEnd36 Host.ok rm [31744]).map (·.2)) = .error .invalidRegion ∧
    ((ResourceManager.new physEnd36 none).mapError .rm >>= fun rm =>
      (createAddressSpace physEnd36 Host.ok rm [2 ^ 44 + 1]).map fun p =>
        p.2.map (·.map (·.size))) = .ok (.ok [0x10_0000]) := by
  with_unfolding_all decide

end KataContainers

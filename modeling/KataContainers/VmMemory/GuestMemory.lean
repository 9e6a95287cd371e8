import Mathlib

/-!
# Guest memory regions

The part of `vm-memory`'s `GuestMemoryMmap` that the virtio devices rely on, after its
documented behaviour: a sorted list of non-overlapping regions, each with the host address of
its mapping and an optional backing file, and the lookups `find_region`, `get_host_address`
and `address_in_range` over it. Addresses are `u64` values; sizes and offsets are compared as
natural numbers so that the bounds below cannot wrap.
-/

namespace VmMemory

/-- `FileOffset`: the file that backs a region and the offset of the region in that file. -/
structure FileOffset where
  fd : Nat
  start : UInt64
deriving DecidableEq, Repr

/-- One `GuestRegionMmap`: guest base, size, host base of the mapping, backing file. -/
structure GuestRegion where
  startAddr : UInt64
  len : UInt64
  hostAddr : UInt64
  fileOffset : Option FileOffset
deriving DecidableEq, Repr

namespace GuestRegion

/-- One past the region's last guest address. -/
def endAddr (r : GuestRegion) : Nat := r.startAddr.toNat + r.len.toNat

/-- One past the last host address of the region's mapping. -/
def hostEnd (r : GuestRegion) : Nat := r.hostAddr.toNat + r.len.toNat

/-- The guest address lies in `[start_addr, last_addr]`. -/
def contains (r : GuestRegion) (addr : UInt64) : Bool :=
  r.startAddr.toNat ≤ addr.toNat && addr.toNat < r.endAddr

/-- What `GuestRegionMmap::new` checks: a non-empty region whose guest range and host
mapping both fit below `2^64`. -/
def WellFormed (r : GuestRegion) : Prop :=
  0 < r.len.toNat ∧ r.endAddr ≤ 2 ^ 64 ∧ r.hostEnd ≤ 2 ^ 64

instance (r : GuestRegion) : Decidable r.WellFormed := by
  unfold WellFormed; infer_instance

/-- `GuestMemoryRegion::get_host_address` at the guest address `addr` of the region. -/
def hostAddrOf (r : GuestRegion) (addr : UInt64) : UInt64 :=
  r.hostAddr + (addr - r.startAddr)

theorem contains_iff (r : GuestRegion) (addr : UInt64) :
    r.contains addr = true ↔ r.startAddr.toNat ≤ addr.toNat ∧ addr.toNat < r.endAddr := by
  simp [contains]

/-- Inside the region the host address is the host base plus the offset, without wrapping. -/
theorem hostAddrOf_toNat {r : GuestRegion} {addr : UInt64} (hr : r.WellFormed)
    (h : r.contains addr = true) :
    (r.hostAddrOf addr).toNat = r.hostAddr.toNat + (addr.toNat - r.startAddr.toNat) := by
  rw [contains_iff] at h
  obtain ⟨-, -, hhost⟩ := hr
  unfold hostEnd endAddr at *
  have hsub : (addr - r.startAddr).toNat = addr.toNat - r.startAddr.toNat :=
    UInt64.toNat_sub_of_le _ _ (UInt64.le_iff_toNat_le.mpr h.1)
  rw [hostAddrOf, UInt64.toNat_add, hsub, Nat.mod_eq_of_lt]
  omega

end GuestRegion

/-- `GuestMemoryMmap`, whose constructor `from_regions` rejects empty, unsorted and
overlapping region lists. -/
structure GuestMemoryMmap where
  regions : List GuestRegion
  regions_wf : ∀ r ∈ regions, r.WellFormed
  sorted : regions.Pairwise (fun a b => a.endAddr ≤ b.startAddr.toNat)

namespace GuestMemoryMmap

/-- `find_region`: the region holding `addr`. -/
def findRegion (m : GuestMemoryMmap) (addr : UInt64) : Option GuestRegion :=
  m.regions.find? (·.contains addr)

/-- `address_in_range`. -/
def addressInRange (m : GuestMemoryMmap) (addr : UInt64) : Bool :=
  (m.findRegion addr).isSome

/-- `get_host_address`: the host address backing `addr`, if `addr` is guest memory. -/
def getHostAddress (m : GuestMemoryMmap) (addr : UInt64) : Option UInt64 :=
  (m.findRegion addr).map (·.hostAddrOf addr)

theorem findRegion_mem {m : GuestMemoryMmap} {addr : UInt64} {r : GuestRegion}
    (h : m.findRegion addr = some r) : r ∈ m.regions ∧ r.contains addr = true := by
  unfold findRegion at h
  have hp := List.find?_some h
  exact ⟨List.mem_of_find?_eq_some h, hp⟩

theorem findRegion_wellFormed {m : GuestMemoryMmap} {addr : UInt64} {r : GuestRegion}
    (h : m.findRegion addr = some r) : r.WellFormed :=
  m.regions_wf r (findRegion_mem h).1

/-- In a sorted list of disjoint regions, two regions that hold one address are the same. -/
private theorem eq_of_contains_of_pairwise {l : List GuestRegion} {addr : UInt64}
    {r s : GuestRegion} (key : l.Pairwise (fun a b => a.endAddr ≤ b.startAddr.toNat))
    (hr : r ∈ l) (hs : s ∈ l) (hra : r.contains addr = true) (hsa : s.contains addr = true) :
    r = s := by
  rw [GuestRegion.contains_iff] at hra hsa
  induction l with
  | nil => simp at hr
  | cons a rest ih =>
      rw [List.pairwise_cons] at key
      rcases List.mem_cons.mp hr with rfl | hr' <;> rcases List.mem_cons.mp hs with rfl | hs'
      · rfl
      · have := key.1 s hs'; omega
      · have := key.1 r hr'; omega
      · exact ih key.2 hr' hs'

/-- Two regions of the map that hold one address are the same region. -/
theorem eq_of_contains {m : GuestMemoryMmap} {addr : UInt64} {r s : GuestRegion}
    (hr : r ∈ m.regions) (hs : s ∈ m.regions)
    (hra : r.contains addr = true) (hsa : s.contains addr = true) : r = s :=
  eq_of_contains_of_pairwise m.sorted hr hs hra hsa

/-- `find_region` finds exactly the region that holds the address. -/
theorem findRegion_eq_some_iff (m : GuestMemoryMmap) (addr : UInt64) (r : GuestRegion) :
    m.findRegion addr = some r ↔ r ∈ m.regions ∧ r.contains addr = true := by
  constructor
  · exact findRegion_mem
  · rintro ⟨hr, hra⟩
    obtain ⟨s, hs⟩ : ∃ s, m.findRegion addr = some s := by
      rw [← Option.isSome_iff_exists, findRegion, List.find?_isSome]
      exact ⟨r, hr, hra⟩
    obtain ⟨hsm, hsa⟩ := findRegion_mem hs
    rw [hs, eq_of_contains hsm hr hsa hra]

end GuestMemoryMmap

end VmMemory

import Mathlib
import KataContainers.Allocator.Reachable

/-!
# The resource manager

`ResourceManager` of `dragonball::resource_manager` on x86_64: six interval-tree pools (legacy
IRQs, MSI IRQs, PIO addresses, MMIO addresses, guest memory and KVM memory slots), the
`allocate_*` and `free_*` call of each, and `allocate_device_resources`, which allocates a
device's requests in order and, at the first it cannot meet, frees the resources it has
allocated so far through `free_device_resources`.

The pools hold inclusive ranges, but each `free_*` call checks the range `[base, base + size)`
it is given in the arithmetic of the resource's type: `free_pio_address` refuses every range
that ends at `PIO_MAX` (`base.checked_add(size)` overflows `u16`), and `free_mem_address` every
range that ends at `GUEST_MEM_END` (`base + size > GUEST_MEM_END`). The pool hands such ranges
out, and they cannot be given back (`freePioAddress_of_top`, `freeMemAddress_of_top`).

`GUEST_PHYS_END` is read from the host's `/proc/cpuinfo`; the calls that depend on it take it
as `physEnd`.
-/

namespace KataContainers

open Allocator

/-- `LEGACY_IRQ_BASE`, `LEGACY_IRQ_MAX` (`IRQ_BASE` and `IRQ_MAX` of `dbs_boot`), `SHARED_IRQ`,
`MSI_IRQ_BASE`, `MSI_IRQ_MAX` and `KVM_USER_MEM_SLOTS`. -/
def legacyIrqBase : UInt32 := 5
def legacyIrqMax : UInt32 := 15
def sharedIrq : UInt32 := legacyIrqBase
def msiIrqBase : UInt32 := 24
def msiIrqMax : UInt32 := 1023
def kvmUserMemSlots : UInt32 := 509

/-- `PIO_MIN`, `PIO_MAX`, `MMIO_SPACE_RESERVED`, and the layout of `dbs_boot`. -/
def pioMin : UInt16 := 0
def pioMax : UInt16 := 0xFFFF
def mmioSpaceReserved : UInt64 := 0x400_0000
def mmioLowStart : UInt64 := (3 : UInt64) <<< 30
def mmioLowEnd : UInt64 := ((4 : UInt64) <<< 30) - 1
def guestMemStart : UInt64 := 0

/-- `GUEST_MEM_END`: half the guest physical address space. -/
def guestMemEnd (physEnd : UInt64) : UInt64 := physEnd >>> 1

/-- `ResourceError`; `UnknownResourceType` is raised by none of the calls modelled. -/
inductive ResourceError where
  | InvalidResourceRange (kind : String)
  | NoAvailResource
deriving DecidableEq, Repr

/-- The panics of the manager: those of the trees, and the x86 reservation of the MMIO window
below 4 GiB ("failed to reserve MMIO address range for x86 system devices"). -/
inductive RmPanic where
  | tree (e : Panic)
  | reserveMmio
deriving DecidableEq, Repr

/-- A call on a tree, its panic as the manager's. -/
def liftTree {α : Type} (r : Except Panic α) : Except RmPanic α := r.mapError .tree

inductive MsiIrqType where
  | PciMsi
  | PciMsix
  | GenericMsi
deriving DecidableEq, Repr

/-- `ResourceConstraint` of `dbs_device`. -/
inductive ResourceConstraint where
  | PioAddress (range : Option (UInt16 × UInt16)) (align size : UInt16)
  | MmioAddress (range : Option (UInt64 × UInt64)) (align size : UInt64)
  | MemAddress (range : Option (UInt64 × UInt64)) (align size : UInt64)
  | LegacyIrq (irq : Option UInt32)
  | PciMsiIrq (size : UInt32)
  | PciMsixIrq (size : UInt32)
  | GenericIrq (size : UInt32)
  | KvmMemSlot (slot : Option UInt32) (size : UInt32)
deriving DecidableEq, Repr

/-- `Resource` of `dbs_device`. -/
inductive Resource where
  | PioAddressRange (base size : UInt16)
  | MmioAddressRange (base size : UInt64)
  | MemAddressRange (base size : UInt64)
  | LegacyIrq (irq : UInt32)
  | MsiIrq (ty : MsiIrqType) (base size : UInt32)
  | MacAddress (addr : String)
  | KvmMemSlot (slot : UInt32)
deriving DecidableEq, Repr

/-- The pools, by the call that locks them. -/
inductive Pool where
  | legacyIrq
  | msiIrq
  | pio
  | mmio
  | mem
  | kvmMemSlot
deriving DecidableEq, Repr

structure ResourceManager where
  legacyIrqPool : IntervalTree Unit
  msiIrqPool : IntervalTree Unit
  pioPool : IntervalTree Unit
  mmioPool : IntervalTree Unit
  memPool : IntervalTree Unit
  kvmMemSlotPool : IntervalTree Unit

namespace Allocator.IntervalTree

variable {T : Type}

/-- The point lies in a free node: the pool can still hand it out. -/
def freeAt (t : IntervalTree T) (p : UInt64) : Bool :=
  t.root.entries.any fun e => e.2.isFree && e.1.min ≤ p && p ≤ e.1.max

end Allocator.IntervalTree

namespace ResourceManager

def pool (rm : ResourceManager) : Pool → IntervalTree Unit
  | .legacyIrq => rm.legacyIrqPool
  | .msiIrq => rm.msiIrqPool
  | .pio => rm.pioPool
  | .mmio => rm.mmioPool
  | .mem => rm.memPool
  | .kvmMemSlot => rm.kvmMemSlotPool

def setPool (rm : ResourceManager) : Pool → IntervalTree Unit → ResourceManager
  | .legacyIrq, t => { rm with legacyIrqPool := t }
  | .msiIrq, t => { rm with msiIrqPool := t }
  | .pio, t => { rm with pioPool := t }
  | .mmio, t => { rm with mmioPool := t }
  | .mem, t => { rm with memPool := t }
  | .kvmMemSlot, t => { rm with kvmMemSlotPool := t }

@[simp] theorem pool_setPool_self (rm : ResourceManager) (p : Pool) (t : IntervalTree Unit) :
    (rm.setPool p t).pool p = t := by
  cases p <;> rfl

@[simp] theorem pool_setPool_of_ne (rm : ResourceManager) {p q : Pool} (h : q ≠ p)
    (t : IntervalTree Unit) : (rm.setPool p t).pool q = rm.pool q := by
  cases p <;> cases q <;> first | rfl | exact absurd rfl h

/-! ## `ResourceManager::new` -/

/-- `ResourceManagerBuilder::default().build()`: every pool empty. -/
def empty : ResourceManager := ⟨.new, .new, .new, .new, .new, .new⟩

/-- `pool.insert(Range::new(min, max), None)`. -/
def insertInto (rm : ResourceManager) (p : Pool) (min max : UInt64) :
    Except RmPanic ResourceManager := do
  let t ← liftTree ((rm.pool p).insertRange min max)
  pure (rm.setPool p t)

/-- `init_legacy_irq_pool`: the shared IRQ is kept out of the pool. -/
def initLegacyIrqPool (rm : ResourceManager) : Except RmPanic ResourceManager :=
  rm.insertInto .legacyIrq (legacyIrqBase + 1).toUInt64 legacyIrqMax.toUInt64

def initMsiIrqPool (rm : ResourceManager) : Except RmPanic ResourceManager :=
  rm.insertInto .msiIrq msiIrqBase.toUInt64 msiIrqMax.toUInt64

def initPioPool (rm : ResourceManager) : Except RmPanic ResourceManager :=
  rm.insertInto .pio pioMin.toUInt64 pioMax.toUInt64

/-- `init_mmio_pool_helper`: the window below 4 GiB, less the 64 MiB at its top that x86
system devices use, and the addresses above guest memory. -/
def initMmioPool (physEnd : UInt64) (rm : ResourceManager) : Except RmPanic ResourceManager := do
  let rm ← rm.insertInto .mmio mmioLowStart mmioLowEnd
  let rm ← if !(guestMemEnd physEnd < mmioLowStart || guestMemStart > mmioLowEnd ||
      mmioLowStart == mmioLowEnd) then do
    let constraint : Constraint :=
      { Constraint.new mmioSpaceReserved with
        min := mmioLowEnd - mmioSpaceReserved, max := 0xffff_ffff }
    let (t, key) ← liftTree (rm.mmioPool.allocate constraint)
    match key with
    | some k =>
        let (t, _) ← liftTree (t.update k ())
        pure { rm with mmioPool := t }
    | none => throw .reserveMmio
  else pure rm
  if guestMemEnd physEnd < physEnd then rm.insertInto .mmio (guestMemEnd physEnd + 1) physEnd
  else pure rm

/-- `init_mem_pool_helper`: guest memory, less the MMIO window when it overlaps it. -/
def initMemPool (physEnd : UInt64) (rm : ResourceManager) : Except RmPanic ResourceManager := do
  if guestMemEnd physEnd < mmioLowStart || guestMemStart > mmioLowEnd ||
      mmioLowStart == mmioLowEnd then
    rm.insertInto .mem guestMemStart (guestMemEnd physEnd)
  else
    let rm ← if mmioLowStart > guestMemStart then
      rm.insertInto .mem guestMemStart (mmioLowStart - 1) else pure rm
    if mmioLowEnd < guestMemEnd physEnd then
      rm.insertInto .mem (mmioLowEnd + 1) (guestMemEnd physEnd)
    else pure rm

/-- `init_kvm_mem_slot_pool`: the slots `0..=max_slots`. -/
def initKvmMemSlotPool (maxKvmMemSlot : Option UInt64) (rm : ResourceManager) :
    Except RmPanic ResourceManager :=
  rm.insertInto .kvmMemSlot 0 (maxKvmMemSlot.getD kvmUserMemSlots.toUInt64)

/-- `ResourceManager::new`. -/
def new (physEnd : UInt64) (maxKvmMemSlot : Option UInt64) : Except RmPanic ResourceManager :=
  empty.initLegacyIrqPool >>= initMsiIrqPool >>= initPioPool >>= initMmioPool physEnd >>=
    initMemPool physEnd >>= initKvmMemSlotPool maxKvmMemSlot

/-! ## Allocation and release -/

/-- The common part of the `allocate_*` calls: `pool.allocate(&constraint)`, followed by
`pool.update(k, ())` when `update` (`allocate_mmio_address` and `allocate_mem_address` leave the
node `Allocated`). -/
def allocateIn (rm : ResourceManager) (p : Pool) (update : Bool) (c : Constraint) :
    Except RmPanic (ResourceManager × Option Range) := do
  let (t, key) ← liftTree ((rm.pool p).allocate c)
  match key with
  | some k =>
      if update then
        let (t, _) ← liftTree (t.update k ())
        pure (rm.setPool p t, key)
      else pure (rm.setPool p t, key)
  | none => pure (rm.setPool p t, none)

/-- The common part of the `free_*` calls, after their check: `pool.free(&key)` for
`key = Range::new(min, max)`. -/
def freeIn (rm : ResourceManager) (p : Pool) (min max : UInt64) :
    Except RmPanic (ResourceManager × Except ResourceError Unit) := do
  let key ← liftTree (Range.new min max)
  let (t, _) ← liftTree ((rm.pool p).free key)
  pure (rm.setPool p t, .ok ())

/-- The range `Constraint::new(size).align(align)`, bounded by `range` when one is given. -/
def rangeConstraint (range : Option (UInt64 × UInt64)) (align size : UInt64) : Constraint :=
  let c := { Constraint.new size with align := align }
  match range with
  | some r => { c with min := r.1, max := r.2 }
  | none => c

def allocateLegacyIrq (rm : ResourceManager) (shared : Bool) (fixed : Option UInt32) :
    Except RmPanic (ResourceManager × Option UInt32) :=
  if shared then .ok (rm, some sharedIrq)
  else
    match fixed with
    | some v =>
        if v == sharedIrq then .ok (rm, none)
        else (rm.allocateIn .legacyIrq true { Constraint.new 1 with
          min := v.toUInt64, max := v.toUInt64 }).map fun (rm, key) =>
            (rm, key.map (·.min.toUInt32))
    | none => (rm.allocateIn .legacyIrq true (Constraint.new 1)).map fun (rm, key) =>
        (rm, key.map (·.min.toUInt32))

def freeLegacyIrq (rm : ResourceManager) (irq : UInt32) :
    Except RmPanic (ResourceManager × Except ResourceError Unit) :=
  if irq == sharedIrq then .ok (rm, .ok ())
  else if !(legacyIrqBase ≤ irq && irq ≤ legacyIrqMax) then
    .ok (rm, .error (.InvalidResourceRange "Legacy IRQ"))
  else rm.freeIn .legacyIrq irq.toUInt64 irq.toUInt64

def allocateMsiIrq (rm : ResourceManager) (count : UInt32) :
    Except RmPanic (ResourceManager × Option UInt32) :=
  (rm.allocateIn .msiIrq true (Constraint.new count.toUInt64)).map fun (rm, key) =>
    (rm, key.map (·.min.toUInt32))

def allocateMsiIrqAligned (rm : ResourceManager) (count : UInt32) :
    Except RmPanic (ResourceManager × Option UInt32) :=
  (rm.allocateIn .msiIrq true { Constraint.new count.toUInt64 with align := count.toUInt64 }).map
    fun (rm, key) => (rm, key.map (·.min.toUInt32))

def freeMsiIrq (rm : ResourceManager) (irq count : UInt32) :
    Except RmPanic (ResourceManager × Except ResourceError Unit) :=
  if irq < msiIrqBase || count == 0 || 2 ^ 32 ≤ irq.toNat + count.toNat ||
      irq + count - 1 > msiIrqMax then
    .ok (rm, .error (.InvalidResourceRange "MSI IRQ"))
  else rm.freeIn .msiIrq irq.toUInt64 (irq + count - 1).toUInt64

def allocatePioAddress (rm : ResourceManager) (c : Constraint) :
    Except RmPanic (ResourceManager × Option UInt16) :=
  (rm.allocateIn .pio true c).map fun (rm, key) => (rm, key.map (·.min.toUInt16))

/-- `free_pio_address`: `base.checked_add(size)` in `u16`, then `[base, base + size - 1]`. -/
def freePioAddress (rm : ResourceManager) (base size : UInt16) :
    Except RmPanic (ResourceManager × Except ResourceError Unit) :=
  if 2 ^ 16 ≤ base.toNat + size.toNat then .ok (rm, .error (.InvalidResourceRange "PIO Address"))
  else rm.freeIn .pio base.toUInt64 (base + size - 1).toUInt64

def allocateMmioAddress (rm : ResourceManager) (c : Constraint) :
    Except RmPanic (ResourceManager × Option UInt64) :=
  (rm.allocateIn .mmio false c).map fun (rm, key) => (rm, key.map (·.min))

def freeMmioAddress (rm : ResourceManager) (base size : UInt64) :
    Except RmPanic (ResourceManager × Except ResourceError Unit) :=
  if 2 ^ 64 ≤ base.toNat + size.toNat then .ok (rm, .error (.InvalidResourceRange "MMIO Address"))
  else rm.freeIn .mmio base (base + size - 1)

def allocateMemAddress (rm : ResourceManager) (c : Constraint) :
    Except RmPanic (ResourceManager × Option UInt64) :=
  (rm.allocateIn .mem false c).map fun (rm, key) => (rm, key.map (·.min))

/-- `free_mem_address`: besides `checked_add`, the exclusive end `base + size` is compared with
`GUEST_MEM_END`, which the pool's last range includes. -/
def freeMemAddress (physEnd : UInt64) (rm : ResourceManager) (base size : UInt64) :
    Except RmPanic (ResourceManager × Except ResourceError Unit) :=
  if 2 ^ 64 ≤ base.toNat + size.toNat || base < guestMemStart ||
      base + size > guestMemEnd physEnd then
    .ok (rm, .error (.InvalidResourceRange "MEM Address"))
  else rm.freeIn .mem base (base + size - 1)

def allocateKvmMemSlot (rm : ResourceManager) (size : UInt32) (fixed : Option UInt32) :
    Except RmPanic (ResourceManager × Option UInt32) :=
  let c := Constraint.new size.toUInt64
  let c := match fixed with
    | some v => { c with min := v.toUInt64, max := v.toUInt64 }
    | none => c
  (rm.allocateIn .kvmMemSlot true c).map fun (rm, key) => (rm, key.map (·.min.toUInt32))

def freeKvmMemSlot (rm : ResourceManager) (slot : UInt32) :
    Except RmPanic (ResourceManager × Except ResourceError Unit) :=
  rm.freeIn .kvmMemSlot slot.toUInt64 slot.toUInt64

/-! ## Device resources -/

/-- One arm of the loop of `allocate_device_resources`: the resource, or none when the pool
cannot meet the request. -/
def allocateOne (rm : ResourceManager) (sharedIrq : Bool) :
    ResourceConstraint → Except RmPanic (ResourceManager × Option Resource)
  | .PioAddress range align size =>
      (rm.allocatePioAddress (rangeConstraint (range.map fun r => (r.1.toUInt64, r.2.toUInt64))
        align.toUInt64 size.toUInt64)).map fun (rm, base) =>
          (rm, base.map fun base => .PioAddressRange base size)
  | .MmioAddress range align size =>
      (rm.allocateMmioAddress (rangeConstraint range align size)).map fun (rm, base) =>
        (rm, base.map fun base => .MmioAddressRange base size)
  | .MemAddress range align size =>
      (rm.allocateMemAddress (rangeConstraint range align size)).map fun (rm, base) =>
        (rm, base.map fun base => .MemAddressRange base size)
  | .LegacyIrq irq =>
      (rm.allocateLegacyIrq sharedIrq irq).map fun (rm, v) => (rm, v.map .LegacyIrq)
  | .PciMsiIrq size =>
      (rm.allocateMsiIrqAligned size).map fun (rm, base) =>
        (rm, base.map fun base => .MsiIrq .PciMsi base size)
  | .PciMsixIrq size =>
      (rm.allocateMsiIrq size).map fun (rm, base) =>
        (rm, base.map fun base => .MsiIrq .PciMsix base size)
  | .GenericIrq size =>
      (rm.allocateMsiIrq size).map fun (rm, base) =>
        (rm, base.map fun base => .MsiIrq .GenericMsi base size)
  | .KvmMemSlot slot size =>
      (rm.allocateKvmMemSlot size slot).map fun (rm, v) => (rm, v.map .KvmMemSlot)

/-- One arm of the loop of `free_device_resources`. -/
def freeOne (physEnd : UInt64) (rm : ResourceManager) :
    Resource → Except RmPanic (ResourceManager × Except ResourceError Unit)
  | .PioAddressRange base size => rm.freePioAddress base size
  | .MmioAddressRange base size => rm.freeMmioAddress base size
  | .MemAddressRange base size => freeMemAddress physEnd rm base size
  | .LegacyIrq base => rm.freeLegacyIrq base
  | .MsiIrq _ base size => rm.freeMsiIrq base size
  | .KvmMemSlot slot => rm.freeKvmMemSlot slot
  | .MacAddress _ => .ok (rm, .ok ())

/-- `free_device_resources`: in order, stopping at the first error (`result?`). -/
def freeDeviceResources (physEnd : UInt64) (rm : ResourceManager) :
    List Resource → Except RmPanic (ResourceManager × Except ResourceError Unit)
  | [] => .ok (rm, .ok ())
  | res :: rest => do
      let (rm, r) ← freeOne physEnd rm res
      match r with
      | .error e => pure (rm, .error e)
      | .ok () => freeDeviceResources physEnd rm rest

/-- The loop of `allocate_device_resources` with the resources allocated so far: at a request
that cannot be met they are freed, and the error is that of the release or `NoAvailResource`. -/
def allocateLoop (physEnd : UInt64) (sharedIrq : Bool) :
    ResourceManager → List Resource → List ResourceConstraint →
      Except RmPanic (ResourceManager × Except ResourceError (List Resource))
  | rm, resources, [] => .ok (rm, .ok resources)
  | rm, resources, req :: reqs => do
      let (rm, res) ← rm.allocateOne sharedIrq req
      match res with
      | some res => allocateLoop physEnd sharedIrq rm (resources ++ [res]) reqs
      | none =>
          let (rm, freed) ← freeDeviceResources physEnd rm resources
          match freed with
          | .error e => pure (rm, .error e)
          | .ok () => pure (rm, .error .NoAvailResource)

def allocateDeviceResources (physEnd : UInt64) (rm : ResourceManager)
    (requests : List ResourceConstraint) (sharedIrq : Bool) :
    Except RmPanic (ResourceManager × Except ResourceError (List Resource)) :=
  allocateLoop physEnd sharedIrq rm [] requests

/-! ## Ranges at the top of a pool -/

/-- A PIO range ending at `PIO_MAX` is refused: `base + size` is `0x10000`, one past `u16`. -/
theorem freePioAddress_of_top (rm : ResourceManager) {base size : UInt16}
    (htop : base.toNat + size.toNat = pioMax.toNat + 1) :
    rm.freePioAddress base size = .ok (rm, .error (.InvalidResourceRange "PIO Address")) := by
  unfold freePioAddress
  rw [if_pos]
  have : pioMax.toNat = 0xFFFF := rfl
  omega

/-- A memory range ending at `GUEST_MEM_END` is refused: its exclusive end is compared with the
pool's inclusive one. -/
theorem freeMemAddress_of_top (physEnd : UInt64) (rm : ResourceManager) {base size : UInt64}
    (htop : base.toNat + size.toNat = (guestMemEnd physEnd).toNat + 1) :
    freeMemAddress physEnd rm base size =
      .ok (rm, .error (.InvalidResourceRange "MEM Address")) := by
  unfold freeMemAddress
  rw [if_pos]
  have hend : (guestMemEnd physEnd).toNat < 2 ^ 63 := by
    have hshift : (guestMemEnd physEnd).toNat = physEnd.toNat / 2 := by
      unfold guestMemEnd
      rw [UInt64.toNat_shiftRight, Nat.shiftRight_eq_div_pow]
      rfl
    have := UInt64.toNat_lt physEnd
    omega
  have hsum : (base + size).toNat = (guestMemEnd physEnd).toNat + 1 := by
    rw [UInt64.toNat_add]
    omega
  simp only [Bool.or_eq_true, decide_eq_true_eq, UInt64.lt_iff_toNat_lt, hsum]
  omega

/-- A 64 GiB guest physical address space: `GUEST_PHYS_END` on a host with 36 address bits. -/
def physEnd36 : UInt64 := ((1 : UInt64) <<< 36) - 1

/-- One port at the top of the PIO space. -/
def topPort : ResourceConstraint := .PioAddress (some (0xFFFF, 0xFFFF)) 1 1

/-- From `ResourceManager::new`: the top port is allocated, but `free_device_resources` of the
result refuses it and leaves it allocated; and when a later request fails (the fixed legacy
IRQ 5 is the shared one), the rollback stops at the same refusal, so the failed call leaves the
port allocated. -/
theorem allocateDeviceResources_top_port_not_freed :
    ((ResourceManager.new physEnd36 none).bind fun rm =>
      (rm.allocateDeviceResources physEnd36 [topPort] false).bind fun (rm', r) =>
        (freeDeviceResources physEnd36 rm' [.PioAddressRange 0xFFFF 1]).map fun (rm'', f) =>
          (rm.pioPool.freeAt 0xFFFF, r, f, rm''.pioPool.freeAt 0xFFFF)) =
      .ok (true, .ok [.PioAddressRange 0xFFFF 1], .error (.InvalidResourceRange "PIO Address"),
        false) ∧
    ((ResourceManager.new physEnd36 none).bind fun rm =>
      (rm.allocateDeviceResources physEnd36 [topPort, .LegacyIrq (some 5)] false).map
        fun (rm', r) => (r, rm'.pioPool.freeAt 0xFFFF)) =
      .ok (.error (.InvalidResourceRange "PIO Address"), false) := by
  with_unfolding_all decide

end ResourceManager

end KataContainers

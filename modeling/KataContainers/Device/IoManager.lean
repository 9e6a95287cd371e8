import Mathlib
import KataContainers.ResourceManager
import KataContainers.Lib.KeyedMap

/-!
# The IO manager

`IoManager` of `dbs_device::device_manager`: the PIO and MMIO buses, each a `BTreeMap` from
`IoRange` to a device, and the calls that register a device's ranges, unregister them and
dispatch a trapped access. `IoRange`'s `PartialEq` and `Ord` compare the base only, so each bus
is a `KeyedMap` through the base.

Two consequences for the calls:

* `register_device_io` detects a conflict only when `insert` returns the value it replaced: the
  device registered at that base has then already been replaced by the new one, and the
  rollback unregisters only the earlier resources (`registerDeviceIo_overlap`);
* it compares bases, not ranges, so a bus may hold ranges that overlap; the lookup, which
  takes the greatest base at most the address, is exact only while they do not
  (`getDevice_eq_some_iff_of_disjoint`).
-/

namespace KataContainers

/-- `IoRange`: a base and a size. -/
structure IoRange where
  base : UInt64
  size : UInt64
deriving DecidableEq, Repr

namespace IoRange

def newPioRange (base size : UInt16) : IoRange := ⟨base.toUInt64, size.toUInt64⟩

def newMmioRange (base size : UInt64) : IoRange := ⟨base, size⟩

/-- What `PartialEq` and `Ord for IoRange` compare. -/
def key (r : IoRange) : Nat := r.base.toNat

/-- The address lies in `[base, base + size)`. -/
def Contains (r : IoRange) (a : Nat) : Prop := r.base.toNat ≤ a ∧ a - r.base.toNat < r.size.toNat

instance (r : IoRange) (a : Nat) : Decidable (r.Contains a) := by
  unfold Contains
  infer_instance

end IoRange

/-- The errors of `IoManager`. -/
inductive IoError where
  | DeviceOverlap
  | NoDevice
deriving DecidableEq, Repr

/-- The two buses. -/
inductive BusKind where
  | pio
  | mmio
deriving DecidableEq, Repr

/-- The range a resource traps on its bus; the other resources are ignored. -/
def Resource.ioRange : Resource → Option (BusKind × IoRange)
  | .PioAddressRange base size => some (.pio, IoRange.newPioRange base size)
  | .MmioAddressRange base size => some (.mmio, IoRange.newMmioRange base size)
  | _ => none

/-- A bus: `BTreeMap<IoRange, Arc<dyn DeviceIo>>`, its entries in increasing order of base. -/
def Bus (D : Type) := { m : List (IoRange × D) // KeyedMap.Sorted IoRange.key m }

namespace Bus

variable {D : Type}

def empty : Bus D := ⟨[], KeyedMap.sorted_nil⟩

def insert (bus : Bus D) (r : IoRange) (dev : D) : Bus D × Option D :=
  (⟨(KeyedMap.insert IoRange.key bus.1 r dev).1, KeyedMap.sorted_insert bus.2 r dev⟩,
    (KeyedMap.insert IoRange.key bus.1 r dev).2)

def remove (bus : Bus D) (r : IoRange) : Bus D :=
  ⟨KeyedMap.remove IoRange.key bus.1 r, KeyedMap.sorted_remove bus.2 r⟩

/-- The entry registered at a base. -/
def find (bus : Bus D) (b : Nat) : Option (IoRange × D) := KeyedMap.find IoRange.key bus.1 b

/-- `bus.range(..=&IoRange::new(addr, 0)).nth_back(0)`. -/
def lastLE (bus : Bus D) (a : Nat) : Option (IoRange × D) := KeyedMap.lastLE IoRange.key bus.1 a

theorem insert_snd (bus : Bus D) (r : IoRange) (dev : D) :
    (bus.insert r dev).2 = (bus.find r.key).map (·.2) :=
  KeyedMap.insert_snd bus.1 bus.2 r dev

theorem find_insert (bus : Bus D) (r : IoRange) (dev : D) (b : Nat) :
    (bus.insert r dev).1.find b =
      if b = r.key then some (((bus.find b).map (·.1)).getD r, dev) else bus.find b :=
  KeyedMap.find_insert bus.1 bus.2 r dev b

theorem find_remove (bus : Bus D) (r : IoRange) (b : Nat) :
    (bus.remove r).find b = if b = r.key then none else bus.find b :=
  KeyedMap.find_remove bus.1 bus.2 r b

end Bus

structure IoManager (D : Type) where
  pioBus : Bus D
  mmioBus : Bus D

namespace IoManager

variable {D : Type}

def new : IoManager D := ⟨.empty, .empty⟩

def bus (m : IoManager D) : BusKind → Bus D
  | .pio => m.pioBus
  | .mmio => m.mmioBus

def setBus (m : IoManager D) : BusKind → Bus D → IoManager D
  | .pio, bus => { m with pioBus := bus }
  | .mmio, bus => { m with mmioBus := bus }

@[simp] theorem bus_setBus (m : IoManager D) (k k' : BusKind) (bus : Bus D) :
    (m.setBus k bus).bus k' = if k' = k then bus else m.bus k' := by
  cases k <;> cases k' <;> rfl

/-- `unregister_device_io`: each trapped range is removed from its bus (the call always returns
`Ok`, so the `expect` of the rollback never panics). -/
def unregisterDeviceIo (m : IoManager D) : List Resource → IoManager D
  | [] => m
  | res :: rest =>
      match res.ioRange with
      | some (k, r) => (m.setBus k ((m.bus k).remove r)).unregisterDeviceIo rest
      | none => m.unregisterDeviceIo rest

/-- The loop of `register_device_io`, with `resources[0..idx]` done: a range whose base is
taken makes `insert` return the device it replaced, and the call then unregisters what it has
done and fails with `DeviceOverlap`. -/
def registerLoop (dev : D) (done : List Resource) (m : IoManager D) :
    List Resource → IoManager D × Except IoError Unit
  | [] => (m, .ok ())
  | res :: rest =>
      match res.ioRange with
      | some (k, r) =>
          let (bus, old) := (m.bus k).insert r dev
          let m := m.setBus k bus
          if old.isSome then (m.unregisterDeviceIo done, .error .DeviceOverlap)
          else registerLoop dev (done ++ [res]) m rest
      | none => registerLoop dev (done ++ [res]) m rest

def registerDeviceIo (m : IoManager D) (dev : D) (resources : List Resource) :
    IoManager D × Except IoError Unit :=
  registerLoop dev [] m resources

/-- `get_mmio_device` and `get_pio_device`: the entry with the greatest base at most the
address, if the address lies within its size. -/
def getDevice (bus : Bus D) (a : Nat) : Option (D × UInt64) :=
  match bus.lastLE a with
  | some (range, dev) => if a - range.base.toNat < range.size.toNat then some (dev, range.base) else none
  | none => none

def getMmioDevice (m : IoManager D) (addr : UInt64) : Option (D × UInt64) :=
  getDevice m.mmioBus addr.toNat

def getPioDevice (m : IoManager D) (addr : UInt16) : Option (D × UInt16) :=
  (getDevice m.pioBus addr.toNat).map fun (dev, base) => (dev, base.toUInt16)

/-- `mmio_read` and `mmio_write`: the device, its base and the offset it is called with. -/
def mmioAccess (m : IoManager D) (addr : UInt64) : Except IoError (D × UInt64 × UInt64) :=
  match m.getMmioDevice addr with
  | some (dev, base) => .ok (dev, base, addr - base)
  | none => .error .NoDevice

/-- `pio_read` and `pio_write`. -/
def pioAccess (m : IoManager D) (addr : UInt16) : Except IoError (D × UInt16 × UInt16) :=
  match m.getPioDevice addr with
  | some (dev, base) => .ok (dev, base, addr - base)
  | none => .error .NoDevice

/-! ## Registration and its rollback -/

/-- The base a resource registers on bus `k`. -/
def keyOn (k : BusKind) (res : Resource) : Option Nat :=
  match res.ioRange with
  | some (k', r) => if k' = k then some r.key else none
  | none => none

/-- The bases the resources register on bus `k`. -/
def keysOn (k : BusKind) (rs : List Resource) : List Nat := rs.filterMap (keyOn k)

theorem keysOn_append_single (k : BusKind) (rs : List Resource) (res : Resource) :
    keysOn k (rs ++ [res]) = keysOn k rs ++ (keyOn k res).toList := by
  simp only [keysOn, List.filterMap_append, List.filterMap_cons, List.filterMap_nil]
  cases keyOn k res <;> rfl

/-- Unregistering empties the bases the resources name and leaves the others. -/
theorem find_unregisterDeviceIo (k : BusKind) (x : Nat) :
    ∀ (rs : List Resource) (m : IoManager D),
      ((m.unregisterDeviceIo rs).bus k).find x = if x ∈ keysOn k rs then none else (m.bus k).find x
  | [], m => by simp [unregisterDeviceIo, keysOn]
  | res :: rest, m => by
      unfold unregisterDeviceIo
      cases hres : res.ioRange with
      | none =>
          have hkey : keyOn k res = none := by simp [keyOn, hres]
          simp only
          rw [find_unregisterDeviceIo k x rest m]
          simp [keysOn, hkey]
      | some kr =>
          obtain ⟨k', r⟩ := kr
          simp only
          rw [find_unregisterDeviceIo k x rest, bus_setBus]
          by_cases hk : k = k'
          · subst hk
            have hkey : keyOn k res = some r.key := by simp [keyOn, hres]
            rw [if_pos rfl, Bus.find_remove]
            by_cases hx : x = r.key
            · simp [keysOn, hkey, hx]
            · simp [keysOn, hkey, hx]
          · have hkey : keyOn k res = none := by simp [keyOn, hres, Ne.symm hk]
            rw [if_neg hk]
            simp [keysOn, hkey]

/-- The invariant of the loop of `register_device_io` over `done`, from the manager `m₀` it was
called on: the bases registered so far were free in `m₀` and are taken now, and every other base
is as in `m₀`. -/
structure LoopInv (m₀ : IoManager D) (done : List Resource) (m : IoManager D) : Prop where
  other : ∀ k x, x ∉ keysOn k done → (m.bus k).find x = (m₀.bus k).find x
  fresh : ∀ k x, x ∈ keysOn k done → (m₀.bus k).find x = none
  taken : ∀ k x, x ∈ keysOn k done → (m.bus k).find x ≠ none

theorem loopInv_nil (m₀ : IoManager D) : LoopInv m₀ [] m₀ :=
  ⟨fun _ _ _ => rfl, fun _ _ h => by simp [keysOn] at h, fun _ _ h => by simp [keysOn] at h⟩

/-- A resource with no range keeps the invariant. -/
theorem LoopInv.skip {m₀ m : IoManager D} {done : List Resource} (h : LoopInv m₀ done m)
    {res : Resource} (hres : res.ioRange = none) : LoopInv m₀ (done ++ [res]) m := by
  have hkeys : ∀ k, keysOn k (done ++ [res]) = keysOn k done := by
    intro k
    rw [keysOn_append_single]
    simp [keyOn, hres]
  refine ⟨fun k x hx => ?_, fun k x hx => ?_, fun k x hx => ?_⟩
  · exact h.other k x (hkeys k ▸ hx)
  · exact h.fresh k x (hkeys k ▸ hx)
  · exact h.taken k x (hkeys k ▸ hx)

/-- A range whose base is free keeps the invariant. -/
theorem LoopInv.insert {m₀ m : IoManager D} {done : List Resource} (h : LoopInv m₀ done m)
    {res : Resource} {k : BusKind} {r : IoRange} (hres : res.ioRange = some (k, r)) (dev : D)
    (hfree : ((m.bus k).insert r dev).2 = none) :
    LoopInv m₀ (done ++ [res]) (m.setBus k ((m.bus k).insert r dev).1) := by
  have hnone : (m.bus k).find r.key = none := by
    rw [Bus.insert_snd] at hfree
    simpa using hfree
  -- the base was not registered earlier in the loop, for those bases are taken
  have hnew : r.key ∉ keysOn k done := fun hin => h.taken k r.key hin hnone
  have hkeys : ∀ k', keysOn k' (done ++ [res]) =
      keysOn k' done ++ (if k = k' then [r.key] else []) := by
    intro k'
    rw [keysOn_append_single]
    by_cases hk : k = k' <;> simp [keyOn, hres, hk]
  refine ⟨fun k' x hx => ?_, fun k' x hx => ?_, fun k' x hx => ?_⟩
  · rw [hkeys] at hx
    rw [bus_setBus]
    by_cases hk : k' = k
    · subst hk
      have hx' : x ≠ r.key := by simp_all
      rw [if_pos rfl, Bus.find_insert, if_neg hx']
      exact h.other k' x (by simp_all)
    · rw [if_neg hk]
      exact h.other k' x (by simp_all [Ne.symm hk])
  · rw [hkeys] at hx
    rcases List.mem_append.mp hx with hx | hx
    · exact h.fresh k' x hx
    · have hk : k = k' := by by_contra hk; simp [hk] at hx
      subst hk
      have hx' : x = r.key := by simpa using hx
      subst hx'
      rw [← h.other k r.key hnew]
      exact hnone
  · rw [hkeys] at hx
    rw [bus_setBus]
    by_cases hk : k' = k
    · subst hk
      rw [if_pos rfl, Bus.find_insert]
      split_ifs
      · simp
      · exact h.taken k' x (by simp_all)
    · rw [if_neg hk]
      exact h.taken k' x (by simp_all [Ne.symm hk])

/-- A conflict within the loop: the manager left is `m₀` with the device at one base, if there
was one, replaced by `dev`. By induction on the resources left, the invariant carried by
`LoopInv`. -/
theorem registerLoop_overlap (dev : D) (m₀ : IoManager D) :
    ∀ (rest done : List Resource) (m : IoManager D), LoopInv m₀ done m →
      ∀ {m' : IoManager D}, registerLoop dev done m rest = (m', .error .DeviceOverlap) →
        ∃ k₀ x₀, ∀ k x, (m'.bus k).find x =
          if k = k₀ ∧ x = x₀ then ((m₀.bus k).find x).map (fun e => (e.1, dev))
          else (m₀.bus k).find x
  | [], _, _, _, _, h => by simp [registerLoop] at h
  | res :: rest, done, m, hinv, m', h => by
      unfold registerLoop at h
      cases hres : res.ioRange with
      | none =>
          rw [hres] at h
          exact registerLoop_overlap dev m₀ rest _ _ (hinv.skip hres) h
      | some kr =>
          obtain ⟨k, r⟩ := kr
          rw [hres] at h
          dsimp only at h
          cases hold : ((m.bus k).insert r dev).2 with
          | none =>
              rw [hold] at h
              exact registerLoop_overlap dev m₀ rest _ _ (hinv.insert hres dev hold) h
          | some d =>
              -- `insert` has replaced the device at `r.key`; the rollback empties `done`'s bases
              rw [hold] at h
              simp only [Option.isSome_some, if_true, Prod.mk.injEq] at h
              obtain ⟨rfl, -⟩ := h
              have hfound : ∃ e, (m.bus k).find r.key = some e := by
                rw [Bus.insert_snd] at hold
                cases hf : (m.bus k).find r.key with
                | none => simp [hf] at hold
                | some e => exact ⟨e, rfl⟩
              obtain ⟨e, he⟩ := hfound
              refine ⟨k, r.key, fun k' x => ?_⟩
              rw [find_unregisterDeviceIo]
              by_cases hx : x ∈ keysOn k' done
              · have hfresh := hinv.fresh k' x hx
                simp [hx, hfresh]
              · rw [if_neg hx, bus_setBus, ← hinv.other k' x hx]
                by_cases hk : k' = k
                · subst hk
                  rw [if_pos rfl, Bus.find_insert]
                  by_cases hxr : x = r.key
                  · subst hxr
                    simp [he]
                  · simp [hxr]
                · simp [hk]

/-- `register_device_io` that fails with `DeviceOverlap` leaves both buses as they were except at
one base, where the device registered there, if any, is replaced by the new one (its range
kept). -/
theorem registerDeviceIo_overlap (m : IoManager D) (dev : D) (resources : List Resource)
    {m' : IoManager D} (h : m.registerDeviceIo dev resources = (m', .error .DeviceOverlap)) :
    ∃ k₀ x₀, ∀ k x, (m'.bus k).find x =
      if k = k₀ ∧ x = x₀ then ((m.bus k).find x).map (fun e => (e.1, dev)) else (m.bus k).find x :=
  registerLoop_overlap dev m resources [] m (loopInv_nil m) h

/-- Device 1 on the PIO range `[0x3f8, 0x400)`. -/
def serialManager : IoManager Nat := (new.registerDeviceIo 1 [.PioAddressRange 0x3f8 8]).1

/-- Device 2 asks for a fresh MMIO range and the taken PIO base `0x3f8`: the call fails with
`DeviceOverlap` and rolls the MMIO range back, but the PIO base now maps to device 2. -/
theorem registerDeviceIo_replaces_registered_device :
    (serialManager.registerDeviceIo 2 [.MmioAddressRange 0xd000_0000 0x1000,
      .PioAddressRange 0x3f8 8]).2 = .error .DeviceOverlap ∧
    serialManager.pioBus.find 0x3f8 = some (IoRange.newPioRange 0x3f8 8, 1) ∧
    (serialManager.registerDeviceIo 2 [.MmioAddressRange 0xd000_0000 0x1000,
      .PioAddressRange 0x3f8 8]).1.pioBus.find 0x3f8 = some (IoRange.newPioRange 0x3f8 8, 2) ∧
    (serialManager.registerDeviceIo 2 [.MmioAddressRange 0xd000_0000 0x1000,
      .PioAddressRange 0x3f8 8]).1.mmioBus.find 0xd000_0000 = none := by
  decide

/-! ## Lookup -/

/-- No registered base lies inside another registered range: what the lookup needs. -/
def NoNesting (bus : Bus D) : Prop :=
  ∀ e₁ ∈ bus.1, ∀ e₂ ∈ bus.1, e₁ ≠ e₂ → ¬ e₁.1.Contains e₂.1.base.toNat

/-- The lookup finds the range the address lies in, when no base lies inside another range. -/
theorem getDevice_eq_some_iff_of_disjoint (bus : Bus D) (hnest : NoNesting bus) (a : Nat)
    (dev : D) (base : UInt64) :
    getDevice bus a = some (dev, base) ↔
      ∃ r, (r, dev) ∈ bus.1 ∧ r.base = base ∧ r.Contains a := by
  constructor
  · intro h
    unfold getDevice at h
    cases hl : bus.lastLE a with
    | none => simp [hl] at h
    | some e =>
        obtain ⟨r, dev'⟩ := e
        rw [hl] at h
        dsimp only at h
        split_ifs at h with hin
        simp only [Option.some.injEq, Prod.mk.injEq] at h
        obtain ⟨rfl, rfl⟩ := h
        obtain ⟨hmem, hle, -⟩ := (KeyedMap.lastLE_eq_some_iff bus.2).mp hl
        exact ⟨r, hmem, rfl, hle, hin⟩
  · rintro ⟨r, hmem, rfl, hcont⟩
    -- the entry `lastLE` picks has its base in `[r.base, a]`, so it is `(r, dev)` itself
    obtain ⟨e, he⟩ : ∃ e, bus.lastLE a = some e := by
      cases hl : bus.lastLE a with
      | some e => exact ⟨e, rfl⟩
      | none =>
          unfold Bus.lastLE KeyedMap.lastLE at hl
          rw [List.getLast?_eq_none_iff, List.filter_eq_nil_iff] at hl
          have := hl _ hmem
          simp only [IoRange.key, Bool.not_eq_true] at this
          exact absurd hcont.1 (of_decide_eq_false this)
    obtain ⟨hemem, hele, hemax⟩ := (KeyedMap.lastLE_eq_some_iff bus.2).mp he
    have hge : r.key ≤ IoRange.key e.1 := hemax (r, dev) hmem hcont.1
    have heq : e = (r, dev) := by
      by_contra hne
      apply hnest (r, dev) hmem e hemem (Ne.symm hne)
      simp only [IoRange.Contains, IoRange.key] at hge hele ⊢
      exact ⟨hge, by have := hcont.2; omega⟩
    subst heq
    unfold getDevice
    rw [he]
    simp [hcont.2]

/-- Device 1 on `[0x1000, 0x2000)`, then device 2 on `[0x1800, 0x1900)`, inside it. -/
def nestedManager : IoManager Nat :=
  ((new.registerDeviceIo 1 [.MmioAddressRange 0x1000 0x1000]).1.registerDeviceIo 2
    [.MmioAddressRange 0x1800 0x100]).1

/-- `register_device_io` accepts a range inside a registered one, since the bases differ; an
access at `0x1a00`, inside device 1's range, then finds no device, for the lookup stops at
device 2's base. -/
theorem registerDeviceIo_accepts_nested_range :
    ((new.registerDeviceIo 1 [.MmioAddressRange 0x1000 0x1000]).1.registerDeviceIo 2
      [.MmioAddressRange 0x1800 0x100]).2 = .ok () ∧
    (IoRange.newMmioRange 0x1000 0x1000, 1) ∈ nestedManager.mmioBus.1 ∧
    (IoRange.newMmioRange 0x1000 0x1000).Contains 0x1a00 ∧
    nestedManager.mmioAccess 0x1a00 = .error .NoDevice ∧
    nestedManager.mmioAccess 0x1880 = .ok (2, 0x1800, 0x80) := by
  decide

end IoManager

end KataContainers

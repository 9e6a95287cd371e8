import KataContainers.Pci.Msix
import KataContainers.Pci.CommonConfig

/-!
# The virtio-pci capability BAR

`VirtioPciDevice::read_bar` and `write_bar`: the 512 KiB capability BAR is cut into the
common configuration, ISR, device configuration, notification, MSI-X table and pending bit
array windows, and an access goes to the window its offset falls in. The virtio device's
own configuration space is a `DeviceOps`; what `write_bar` does after the access (the
activation and reset of the device) is not part of the model.
-/

namespace KataContainers.Pci

open PciConfiguration

/-- The BAR layout constants of `virtio_pci`. -/
def commonConfigBarOffset : UInt64 := 0x0000
def commonConfigSize : UInt64 := 56
def isrConfigBarOffset : UInt64 := 0x2000
def isrConfigSize : UInt64 := 1
def deviceConfigBarOffset : UInt64 := 0x4000
def deviceConfigSize : UInt64 := 0x1000
def notificationBarOffset : UInt64 := 0x6000
def notificationSize : UInt64 := 0x1000
def msixTableBarOffset : UInt64 := 0x8000
def msixTableSize : UInt64 := 0x40000
def msixPbaBarOffset : UInt64 := 0x48000
def msixPbaSize : UInt64 := 0x800

/-- The virtio device behind the BAR: its feature pages and `read_config`/`write_config`,
whose errors are only logged by the BAR accessors. -/
structure DeviceOps (D : Type) extends FeatureOps D where
  readConfig : D → UInt64 → List UInt8 → D × List UInt8
  writeConfig : D → UInt64 → List UInt8 → D

/-- The state of `VirtioPciDevice` that BAR accesses reach. -/
structure VirtioPciDevice (Q D : Type) where
  commonConfig : VirtioPciCommonConfig
  queues : List Q
  device : D
  interruptStatus : UInt64
  msixState : MsixState

/-- `(base..base + size).contains(&o)`. -/
def inWindow (o base size : UInt64) : Bool := base ≤ o && o < base + size

namespace VirtioPciDevice

variable {Q D : Type} (qops : QueueOps Q) (dops : DeviceOps D)

/-- `read_bar`: the device after the read and the bytes read; `none` when it panics. -/
def readBar (dev : VirtioPciDevice Q D) (group : IntrGroup) (offset : UInt64)
    (data : List UInt8) : Option (VirtioPciDevice Q D × List UInt8) :=
  if offset < commonConfigBarOffset + commonConfigSize then
    (dev.commonConfig.read qops dops.toFeatureOps (offset - commonConfigBarOffset) data
      dev.queues dev.device).map (dev, ·)
  else if inWindow offset isrConfigBarOffset isrConfigSize then
    -- reading the ISR status resets it
    match data with
    | [] => some (dev, [])
    | _ :: rest => some ({ dev with interruptStatus := 0 }, dev.interruptStatus.toUInt8 :: rest)
  else if inWindow offset deviceConfigBarOffset deviceConfigSize then
    let (device, data) := dops.readConfig dev.device (offset - deviceConfigBarOffset) data
    some ({ dev with device := device }, data)
  else if inWindow offset notificationBarOffset notificationSize then some (dev, data)
  else if inWindow offset msixTableBarOffset msixTableSize then
    (dev.msixState.readTable (offset - msixTableBarOffset) data).map (dev, ·)
  else if inWindow offset msixPbaBarOffset msixPbaSize then
    (dev.msixState.readPba group (offset - msixPbaBarOffset) data).map (dev, ·)
  else some (dev, data)

/-- `write_bar`: the device after the write and the interrupt-manager calls it made. -/
def writeBar (dev : VirtioPciDevice Q D) (offset : UInt64) (data : List UInt8) :
    Option (VirtioPciDevice Q D × List IntrOp) :=
  if offset < commonConfigBarOffset + commonConfigSize then
    (dev.commonConfig.write qops dops.toFeatureOps (offset - commonConfigBarOffset) data
      dev.queues dev.device).map fun (cfg, queues, device) =>
        ({ dev with commonConfig := cfg, queues := queues, device := device }, [])
  else if inWindow offset isrConfigBarOffset isrConfigSize then
    match data with
    | [] => some (dev, [])
    | v :: _ => some ({ dev with interruptStatus := dev.interruptStatus &&& ~~~v.toUInt64 }, [])
  else if inWindow offset deviceConfigBarOffset deviceConfigSize then
    some ({ dev with device := dops.writeConfig dev.device (offset - deviceConfigBarOffset) data },
      [])
  else if inWindow offset notificationBarOffset notificationSize then some (dev, [])
  else if inWindow offset msixTableBarOffset msixTableSize then
    (dev.msixState.writeTable (offset - msixTableBarOffset) data).map fun (st, ops) =>
      ({ dev with msixState := st }, ops)
  -- the pending bit array is read only
  else if inWindow offset msixPbaBarOffset msixPbaSize then some (dev, [])
  else some (dev, [])

end VirtioPciDevice

theorem inWindow_iff (o base size : UInt64) (h : base.toNat + size.toNat < 2 ^ 64) :
    inWindow o base size = true ↔ base.toNat ≤ o.toNat ∧ o.toNat < base.toNat + size.toNat := by
  have hsum : (base + size).toNat = base.toNat + size.toNat := by
    rw [UInt64.toNat_add]
    exact Nat.mod_eq_of_lt h
  simp [inWindow, UInt64.le_iff_toNat_le, UInt64.lt_iff_toNat_lt, hsum]

private theorem inWindow_false_of_ge (o base size : UInt64) (h : base.toNat + size.toNat < 2 ^ 64)
    (hge : base.toNat + size.toNat ≤ o.toNat) : inWindow o base size = false := by
  rw [Bool.eq_false_iff]
  intro hin
  have := ((inWindow_iff o base size h).mp hin).2
  omega

/-- The windows that come before the MSI-X table in the dispatch: an offset of the table
window is in none of them. -/
private theorem not_before_table (offset : UInt64) (h : 0x8000 ≤ offset.toNat) :
    ¬ offset < commonConfigBarOffset + commonConfigSize ∧
      inWindow offset isrConfigBarOffset isrConfigSize = false ∧
      inWindow offset deviceConfigBarOffset deviceConfigSize = false ∧
      inWindow offset notificationBarOffset notificationSize = false := by
  have hcommon : (commonConfigBarOffset + commonConfigSize).toNat = 56 := rfl
  have hisr : isrConfigBarOffset.toNat + isrConfigSize.toNat = 0x2001 := rfl
  have hdev : deviceConfigBarOffset.toNat + deviceConfigSize.toNat = 0x5000 := rfl
  have hnot : notificationBarOffset.toNat + notificationSize.toNat = 0x7000 := rfl
  refine ⟨?_, ?_, ?_, ?_⟩
  · rw [UInt64.lt_iff_toNat_lt, hcommon]
    omega
  · exact inWindow_false_of_ge _ _ _ (by rw [hisr]; decide) (by rw [hisr]; omega)
  · exact inWindow_false_of_ge _ _ _ (by rw [hdev]; decide) (by rw [hdev]; omega)
  · exact inWindow_false_of_ge _ _ _ (by rw [hnot]; decide) (by rw [hnot]; omega)

namespace VirtioPciDevice

variable {Q D : Type} (qops : QueueOps Q) (dops : DeviceOps D)

/-- An access to the MSI-X table window is the table's own access. -/
theorem readBar_of_table (dev : VirtioPciDevice Q D) (group : IntrGroup) (offset : UInt64)
    (data : List UInt8) (h : inWindow offset msixTableBarOffset msixTableSize = true) :
    dev.readBar qops dops group offset data =
      (dev.msixState.readTable (offset - msixTableBarOffset) data).map (dev, ·) := by
  have hlo := ((inWindow_iff _ _ _ (by decide)).mp h).1
  obtain ⟨h1, h2, h3, h4⟩ := not_before_table offset hlo
  simp only [readBar, h1, h2, h3, h4, h, if_false, if_true, Bool.false_eq_true]

theorem writeBar_of_table (dev : VirtioPciDevice Q D) (offset : UInt64) (data : List UInt8)
    (h : inWindow offset msixTableBarOffset msixTableSize = true) :
    dev.writeBar qops dops offset data =
      (dev.msixState.writeTable (offset - msixTableBarOffset) data).map fun (st, ops) =>
        ({ dev with msixState := st }, ops) := by
  have hlo := ((inWindow_iff _ _ _ (by decide)).mp h).1
  obtain ⟨h1, h2, h3, h4⟩ := not_before_table offset hlo
  simp only [writeBar, h1, h2, h3, h4, h, if_false, if_true, Bool.false_eq_true]

/-- An access below 56 is a common-configuration access. -/
private theorem common_of_lt (offset : UInt64) (h : offset.toNat < 56) :
    offset < commonConfigBarOffset + commonConfigSize ∧ offset - commonConfigBarOffset = offset := by
  refine ⟨?_, ?_⟩
  · rw [UInt64.lt_iff_toNat_lt]
    exact h
  · simp [commonConfigBarOffset]

theorem readBar_of_common (dev : VirtioPciDevice Q D) (group : IntrGroup) (offset : UInt64)
    (data : List UInt8) (h : offset.toNat < 56) :
    dev.readBar qops dops group offset data =
      (dev.commonConfig.read qops dops.toFeatureOps offset data dev.queues dev.device).map
        (dev, ·) := by
  obtain ⟨hlt, hsub⟩ := common_of_lt offset h
  unfold readBar
  rw [if_pos hlt, hsub]

theorem writeBar_of_common (dev : VirtioPciDevice Q D) (offset : UInt64) (data : List UInt8)
    (h : offset.toNat < 56) :
    dev.writeBar qops dops offset data =
      (dev.commonConfig.write qops dops.toFeatureOps offset data dev.queues dev.device).map
        fun (cfg, queues, device) =>
          ({ dev with commonConfig := cfg, queues := queues, device := device }, []) := by
  obtain ⟨hlt, hsub⟩ := common_of_lt offset h
  unfold writeBar
  rw [if_pos hlt, hsub]

/-- Three kinds of guest access to the capability BAR panic the VMM: a read of an MSI-X table
entry past the last vector, a table write that crosses an entry boundary (the `assert!` of
`write_table`), and an access to `queue_msix_vector` after the guest has selected a queue
past `msix_queues`. -/
theorem bar_accesses_panic (dev : VirtioPciDevice Q D) (group : IntrGroup) :
    (∀ offset data, inWindow offset msixTableBarOffset msixTableSize = true →
      data.length ≤ 8 → (offset - msixTableBarOffset).toNat % 16 + data.length ≤ 16 →
      dev.msixState.tableEntries.length ≤ (offset - msixTableBarOffset).toNat / 16 →
      dev.readBar qops dops group offset data = none) ∧
    (∀ offset data, inWindow offset msixTableBarOffset msixTableSize = true →
      16 < (offset - msixTableBarOffset).toNat % 16 + data.length →
      dev.writeBar qops dops offset data = none) ∧
    (∀ sel data, sel.length = 2 → data.length = 2 →
      dev.commonConfig.msixQueues.length ≤ (u16OfBytes sel).toNat →
      (dev.writeBar qops dops 0x16 sel).bind (fun (dev', _) =>
          dev'.readBar qops dops group 0x1a data) = none ∧
        (dev.writeBar qops dops 0x16 sel).bind (fun (dev', _) =>
          dev'.writeBar qops dops 0x1a data) = none) := by
  refine ⟨?_, ?_, ?_⟩
  · intro offset data hwin _ hin hidx
    have hpanic : dev.msixState.readTable (offset - msixTableBarOffset) data = none :=
      (MsixState.readTable_eq_none_iff _ _ _).mpr (Or.inr ⟨hin, hidx⟩)
    rw [readBar_of_table qops dops dev group offset data hwin, hpanic, Option.map_none]
  · intro offset data hwin hcross
    have hpanic : dev.msixState.writeTable (offset - msixTableBarOffset) data = none :=
      (MsixState.writeTable_eq_none_iff _ _ _).mpr (Or.inr (Or.inl hcross))
    rw [writeBar_of_table qops dops dev offset data hwin, hpanic, Option.map_none]
  · intro sel data hsel hdata hqs
    -- `queue_select` takes the guest's value unchecked
    let cfg' := { dev.commonConfig with queueSelect := u16OfBytes sel }
    have hselect : dev.writeBar qops dops 0x16 sel = some ({ dev with commonConfig := cfg' }, []) := by
      rw [writeBar_of_common qops dops dev 0x16 sel (by decide),
        VirtioPciCommonConfig.write_queueSelect qops dops.toFeatureOps _ _ _ _ hsel]
      rfl
    have hread : cfg'.read qops dops.toFeatureOps 0x1a data dev.queues dev.device = none :=
      (VirtioPciCommonConfig.read_eq_none_iff _ _ _ _ _ _ _).mpr (Or.inr ⟨hdata, rfl, hqs⟩)
    have hwrite : cfg'.write qops dops.toFeatureOps 0x1a data dev.queues dev.device = none :=
      (VirtioPciCommonConfig.write_eq_none_iff _ _ _ _ _ _ _).mpr (Or.inr ⟨hdata, rfl, hqs⟩)
    simp only [hselect, Option.bind_some]
    rw [readBar_of_common qops dops _ group 0x1a data (by decide),
      writeBar_of_common qops dops _ 0x1a data (by decide)]
    exact ⟨by rw [hread, Option.map_none], by rw [hwrite, Option.map_none]⟩

end VirtioPciDevice

/-- A device for the failing input: queues and device carry no state, one queue, two MSI-X
vectors, and the initial common configuration of `VirtioPciDevice::new`
(`VIRTQ_MSI_NO_VECTOR` everywhere). -/
def unitQueueOps : QueueOps Unit :=
  ⟨fun _ => 256, fun _ => false, fun _ _ => (), fun _ _ => (), fun _ _ _ => (), fun _ _ _ => (),
    fun _ _ _ => ()⟩
def unitDeviceOps : DeviceOps Unit := ⟨⟨fun _ _ => 0, fun _ _ _ => ()⟩, fun _ _ d => ((), d), fun _ _ _ => ()⟩
def twoVectorDevice : VirtioPciDevice Unit Unit :=
  ⟨⟨0, 0, 0, 0, 0, 0xffff, [0xffff]⟩, [()], (), 0, ⟨[default, default], false, false⟩⟩

/-- On the two-vector device: reading entry 2 of the table, writing eight bytes at offset 12
of entry 0, and reading `queue_msix_vector` after selecting queue 1 all panic. -/
theorem bar_accesses_panic_two_vectors :
    twoVectorDevice.readBar unitQueueOps unitDeviceOps ⟨2, fun _ => false⟩ 0x8020 [0, 0, 0, 0]
        = none ∧
      twoVectorDevice.writeBar unitQueueOps unitDeviceOps 0x800c [0, 0, 0, 0, 0, 0, 0, 0] = none ∧
      (twoVectorDevice.writeBar unitQueueOps unitDeviceOps 0x16 [1, 0]).bind (fun (dev', _) =>
        dev'.readBar unitQueueOps unitDeviceOps ⟨2, fun _ => false⟩ 0x1a [0, 0]) = none := by
  have h := VirtioPciDevice.bar_accesses_panic unitQueueOps unitDeviceOps twoVectorDevice
    ⟨2, fun _ => false⟩
  exact ⟨h.1 _ _ (by decide) (by decide) (by decide) (by decide),
    h.2.1 _ _ (by decide) (by decide), (h.2.2 _ _ rfl rfl (by decide)).1⟩

end KataContainers.Pci

import KataContainers.Pci.Configuration

/-!
# PCI configuration accesses from the guest

How a guest configuration access reaches a device's `PciConfiguration`:
`PciRootDevice::pio_write`/`pio_read` (the `CONFIG_ADDRESS`/`CONFIG_DATA` port pair, with
`parse_ioport_address`), the ECAM window of `PciRootDevice::read`/`write` (with
`parse_mmio_address`), and `PciBus::read_config`/`write_config` with `check_pci_cfg_valid`.
Devices are seen through their configuration space, as for `PciHostBridge`, whose
`read_config` and `write_config` forward to `PciConfiguration`.
-/

namespace KataContainers.Pci

open PciConfiguration

/-- `check_pci_cfg_valid`, which is true for the accesses the bus drops. `data_len - 1` is a
`usize` subtraction, truncated to `u32`. -/
def checkPciCfgValid (dev func offset : UInt32) (dataLen : Nat) : Bool :=
  dev > 0x1f || func != 0 || offset ≥ 0x1000 ||
    (offset &&& (UInt64.ofNat dataLen - 1).toUInt32 &&& 0x3) != 0

/-- `check_alignment_valid`. -/
def checkAlignmentValid (len offset : Nat) : Bool :=
  (len == 4 || len == 2 || len == 1) && offset &&& (len - 1) == 0

/-- `parse_ioport_address`: bus, device, function and register of a `CONFIG_ADDRESS` value,
whose bits 24-27 extend the register number past 0xff. -/
def parseIoportAddress (address : UInt32) : UInt32 × UInt32 × UInt32 × UInt32 :=
  let registerNumber : UInt32 :=
    ((address >>> (0 : UInt32)) &&& 0xff) ||| ((address >>> (16 : UInt32)) &&& 0xf00)
  ((address >>> (16 : UInt32)) &&& 0x00ff, (address >>> (11 : UInt32)) &&& 0x1f,
    (address >>> (8 : UInt32)) &&& 0x07, registerNumber &&& ~~~(0x3 : UInt32))

/-- `parse_mmio_address`: bus, device, function and register of an ECAM offset. -/
def parseMmioAddress (address : UInt64) : UInt32 × UInt32 × UInt32 × UInt32 :=
  let addr := address.toUInt32
  ((addr >>> 20) &&& 0xff, (addr >>> 15) &&& 0x1f, (addr >>> 12) &&& 0x7, addr &&& 0xfff)

/-- `PciBus`: its devices by device number. -/
structure PciBus (C : Type) where
  devices : UInt32 → Option (PciConfiguration C)

/-- `PciBus::read_config`: the bytes read, all ones for a dropped access. -/
def PciBus.readConfig {C : Type} (ops : PciCapability C) (b : PciBus C)
    (dev func offset : UInt32) (len : Nat) : Option (List UInt8) :=
  if checkPciCfgValid dev func offset len then some (List.replicate len 0xff)
  else
    match b.devices dev with
    | some cfg => cfg.readConfig ops offset.toNat len
    | none => some (List.replicate len 0xff)

/-- `PciBus::write_config`: the bus after the write (`none` when the device panics). -/
def PciBus.writeConfig {C σ : Type} (ops : PciCapability C) (bus : BarBus σ) (b : PciBus C)
    (s : σ) (dev func offset : UInt32) (data : List UInt8) : Option (PciBus C × σ) :=
  if checkPciCfgValid dev func offset data.length then some (b, s)
  else
    match b.devices dev with
    | some cfg =>
        (cfg.writeConfig ops bus s offset.toNat data).map fun (cfg', s') =>
          ({ devices := fun d => if d = dev then some cfg' else b.devices d }, s')
    | none => some (b, s)

/-- The state of `PciRootDevice` that configuration accesses use: `io_addr` (the last
`CONFIG_ADDRESS` value) and the buses by number. -/
structure PciRootDevice (C : Type) where
  ioAddr : UInt32
  buses : UInt32 → Option (PciBus C)

/-- `PciRootDevice::pio_write` at port offset `offset` (0-3 `CONFIG_ADDRESS`, 4-7
`CONFIG_DATA`). -/
def PciRootDevice.pioWrite {C σ : Type} (ops : PciCapability C) (bus : BarBus σ)
    (root : PciRootDevice C) (s : σ) (offset : Nat) (data : List UInt8) :
    Option (PciRootDevice C × σ) :=
  if !checkAlignmentValid data.length offset then some (root, s)
  else if offset ≤ 3 then
    let shift := UInt32.ofNat ((offset % 4) * 8)
    let ioAddr :=
      if data.length = 4 then u32OfBytes data
      else if data.length = 2 then
        (root.ioAddr &&& ~~~((0xffff : UInt32) <<< shift)) ||| ((u16OfBytes data).toUInt32 <<< shift)
      else (root.ioAddr &&& ~~~((0xff : UInt32) <<< shift)) ||| ((data.headD 0).toUInt32 <<< shift)
    some ({ root with ioAddr := ioAddr }, s)
  else if offset ≤ 7 then
    if root.ioAddr &&& 0x8000_0000 ≠ 0 then
      let (b, d, f, o) := parseIoportAddress root.ioAddr
      match root.buses b with
      | some pciBus =>
          (pciBus.writeConfig ops bus s d f (o ||| (UInt32.ofNat offset &&& 0x3)) data).map
            fun (pciBus', s') => ({ root with buses := fun n => if n = b then some pciBus' else root.buses n }, s')
      | none => some (root, s)
    else some (root, s)
  else some (root, s)

/-- The register offset of a `CONFIG_ADDRESS` value is double-word aligned and below
`0x1000`. -/
theorem parseIoportAddress_offset (address : UInt32) :
    (parseIoportAddress address).2.2.2.toNat < 0x1000 ∧
      (parseIoportAddress address).2.2.2.toNat % 4 = 0 := by
  unfold parseIoportAddress
  dsimp only
  rw [UInt32.toNat_and, UInt32.toNat_or, UInt32.toNat_and, UInt32.toNat_and]
  have hlo : (address >>> (0 : UInt32)).toNat &&& (0xff : UInt32).toNat < 2 ^ 12 :=
    Nat.and_lt_two_pow _ (by decide)
  have hhi : (address >>> (16 : UInt32)).toNat &&& (0xf00 : UInt32).toNat < 2 ^ 12 :=
    Nat.and_lt_two_pow _ (by decide)
  constructor
  · exact Nat.lt_of_le_of_lt Nat.and_le_left (Nat.or_lt_two_pow hlo hhi)
  · show _ % 2 ^ 2 = 0
    rw [Nat.and_mod_two_pow]
    have hmask : (~~~(0x3 : UInt32)).toNat % 2 ^ 2 = 0 := by decide
    rw [hmask, Nat.and_zero]

example : parseIoportAddress 0x8123_4567 = (0x23, 0x8, 0x5, 0x164) := by decide

/-- The register offset of an ECAM address is below `0x1000`. -/
theorem parseMmioAddress_offset (address : UInt64) :
    (parseMmioAddress address).2.2.2.toNat < 0x1000 := by
  unfold parseMmioAddress
  dsimp only
  rw [UInt32.toNat_and]
  exact Nat.and_lt_two_pow _ (by decide : (0xfff : UInt32).toNat < 2 ^ 12)

example : parseMmioAddress 0x1012_3456 = (0x1, 0x4, 0x3, 0x456) := by decide

/-- A valid access to a present device is the device's own `write_config`. -/
theorem PciBus.writeConfig_of_device {C σ : Type} (ops : PciCapability C) (bus : BarBus σ)
    (b : PciBus C) (s : σ) (dev func offset : UInt32) (data : List UInt8)
    (cfg : PciConfiguration C) (hvalid : checkPciCfgValid dev func offset data.length = false)
    (hdev : b.devices dev = some cfg) :
    b.writeConfig ops bus s dev func offset data =
      (cfg.writeConfig ops bus s offset.toNat data).map fun (cfg', s') =>
        ({ devices := fun d => if d = dev then some cfg' else b.devices d }, s') := by
  simp [PciBus.writeConfig, hvalid, hdev]

/-- A double word at port offset 0 replaces `CONFIG_ADDRESS`. -/
theorem PciRootDevice.pioWrite_address {C σ : Type} (ops : PciCapability C) (bus : BarBus σ)
    (root : PciRootDevice C) (s : σ) (data : List UInt8) (hlen : data.length = 4) :
    root.pioWrite ops bus s 0 data = some ({ root with ioAddr := u32OfBytes data }, s) := by
  simp [PciRootDevice.pioWrite, checkAlignmentValid, hlen]

/-- While `CONFIG_ADDRESS` has its enable bit set, a write to `CONFIG_DATA` goes to the
selected bus at the selected register, with the port offset's low bits. -/
theorem PciRootDevice.pioWrite_data {C σ : Type} (ops : PciCapability C) (bus : BarBus σ)
    (root : PciRootDevice C) (s : σ) (offset : Nat) (data : List UInt8) (pciBus : PciBus C)
    (halign : checkAlignmentValid data.length offset = true) (hlo : 4 ≤ offset) (hhi : offset ≤ 7)
    (henable : root.ioAddr &&& 0x8000_0000 ≠ 0)
    (hbus : root.buses (parseIoportAddress root.ioAddr).1 = some pciBus) :
    root.pioWrite ops bus s offset data =
      (pciBus.writeConfig ops bus s (parseIoportAddress root.ioAddr).2.1
          (parseIoportAddress root.ioAddr).2.2.1
          ((parseIoportAddress root.ioAddr).2.2.2 ||| (UInt32.ofNat offset &&& 0x3)) data).map
        fun (pciBus', s') =>
          ({ root with buses := fun n =>
              if n = (parseIoportAddress root.ioAddr).1 then some pciBus' else root.buses n }, s') := by
  have hnot : ¬ offset ≤ 3 := by omega
  simp [PciRootDevice.pioWrite, halign, hnot, hhi, henable, hbus]

/-- A root whose bus 0 holds the configuration `cfg` as device 0. -/
def hostBridgeRoot {C : Type} (cfg : PciConfiguration C) (ioAddr : UInt32) : PciRootDevice C :=
  ⟨ioAddr, fun b => if b = 0 then some ⟨fun d => if d = 0 then some cfg else none⟩ else none⟩

/-- The guest selects register 0x100 of device 0 on bus 0 by writing `0x8100_0000` to
`CONFIG_ADDRESS` (bits 24-27 extend the register number) and writes a double word to
`CONFIG_DATA`. The bus forwards the access, since `0x100 < 0x1000`, and `write_u32` panics,
whatever the device's configuration. -/
theorem pioWrite_extended_register_panics {C σ : Type} (ops : PciCapability C)
    (bus : BarBus σ) (cfg : PciConfiguration C) (s : σ) (ioAddr v : UInt32) :
    ((hostBridgeRoot cfg ioAddr).pioWrite ops bus s 0 (bytesOfU32 0x8100_0000)).bind
      (fun (root, s) => root.pioWrite ops bus s 4 (bytesOfU32 v)) = none := by
  have hdecode : parseIoportAddress 0x8100_0000 = (0, 0, 0, 0x100) := by decide
  have hroot : { hostBridgeRoot cfg ioAddr with ioAddr := u32OfBytes (bytesOfU32 0x8100_0000) } =
      hostBridgeRoot cfg 0x8100_0000 := by
    have hval : u32OfBytes (bytesOfU32 0x8100_0000) = 0x8100_0000 := by decide
    rw [hval]
    rfl
  rw [PciRootDevice.pioWrite_address ops bus _ s _ rfl, Option.bind_some, hroot]
  dsimp only
  -- the write to `CONFIG_DATA` reaches register 0x100 of device 0 on bus 0
  have hioAddr : (hostBridgeRoot cfg 0x8100_0000).ioAddr = 0x8100_0000 := rfl
  have hlen : (bytesOfU32 v).length = 4 := rfl
  rw [PciRootDevice.pioWrite_data ops bus (hostBridgeRoot cfg 0x8100_0000) s 4 (bytesOfU32 v)
    ⟨fun d => if d = 0 then some cfg else none⟩ (by rw [hlen]; decide) (by decide) (by decide)
    (by rw [hioAddr]; decide) (by rw [hioAddr, hdecode]; rfl), hioAddr, hdecode]
  dsimp only
  rw [PciBus.writeConfig_of_device ops bus _ s 0 0 _ (bytesOfU32 v) cfg (by rw [hlen]; decide) rfl]
  have hwrite := writeConfig_u32_of_ge ops bus cfg s 256 (bytesOfU32 v) (by decide) (by decide) rfl
  have hoffset : (0x100 ||| (UInt32.ofNat 4 &&& 0x3) : UInt32).toNat = 256 := by decide
  rw [hoffset, hwrite, Option.map_none, Option.map_none]

end KataContainers.Pci

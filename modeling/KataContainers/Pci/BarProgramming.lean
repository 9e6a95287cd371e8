import KataContainers.Pci.Configuration
import KataContainers.Lib.RustInt
import KataContainers.Lib.UInt32Bits

/-!
# Adding, probing and reprogramming BARs

`PciConfiguration::new`, `add_device_bar`, `add_device_rom_bar`, `get_device_bar_addr` and
`get_bar_programming_params` of `dbs_pci::configuration`, and what a guest write of a BAR
register does after them: a write of all ones is a size probe, and a new address is reported
in a `BarProgrammingParams` that the bus allocation follows. `PciConfiguration::new` is
modelled without a clique capability, and the identification registers are given by the
values the class and subclass objects return.
-/

namespace KataContainers.Pci

open RustInt

/-- `BAR_IO_ADDR_MASK`, `BAR_MEM_ADDR_MASK` and `ROM_BAR_ADDR_MASK`. -/
def barIoAddrMask : UInt32 := 0xffff_fffc
def barMemAddrMask : UInt32 := 0xffff_fff0
def romBarAddrMask : UInt32 := 0xffff_f800
def u32Max : UInt64 := 0xffff_ffff

inductive PciBarPrefetchable where
  | NotPrefetchable
  | Prefetchable
deriving DecidableEq, Repr

/-- `prefetchable as u32`. -/
def PciBarPrefetchable.bits : PciBarPrefetchable → UInt32
  | .NotPrefetchable => 0
  | .Prefetchable => 0x08

/-- `bar_type as u32`. -/
def PciBarRegionType.bits : PciBarRegionType → UInt32
  | .Memory32BitRegion => 0
  | .IoRegion => 0x01
  | .Memory64BitRegion => 0x04
  | .Memory64BitRegionUpper => 0x80

structure PciBarConfiguration where
  barIdx : Nat
  barType : PciBarRegionType
  prefetchable : PciBarPrefetchable
  addr : UInt64
  size : UInt64
deriving DecidableEq, Repr

/-- The variants of `dbs_pci::Error` that adding a BAR returns. -/
inductive PciError where
  | BarInUse (idx : Nat)
  | BarInvalid (idx : Nat)
  | BarSizeInvalid (size : UInt64)
  | BarAddressInvalid (addr size : UInt64)
  | BarInvalid64 (idx : Nat)
  | BarInUse64 (idx : Nat)
  | RomBarInvalid (idx : Nat)
  | RomBarInUse (idx : Nat)
  | RomBarSizeInvalid (size : UInt64)
  | RomBarAddressInvalid (addr size : UInt64)
deriving DecidableEq, Repr

namespace PciConfiguration

variable {C σ : Type}

def setWritableBits (cfg : PciConfiguration C) (regIdx : Nat) (mask : UInt32) :
    PciConfiguration C :=
  { cfg with writableBits := cfg.writableBits.setIfInBounds regIdx mask }

/-- `self.bars[bar_idx].set(addr, size, type_, allocated)`. -/
def setBar (cfg : PciConfiguration C) (barIdx : Nat) (b : PciBarState) : PciConfiguration C :=
  { cfg with bars := cfg.bars.setIfInBounds barIdx b }

section Frame

variable (cfg : PciConfiguration C) (r : Nat) (v : UInt32) (b : PciBarState)

@[simp] theorem setWritableBits_headerType : (cfg.setWritableBits r v).headerType = cfg.headerType :=
  rfl
@[simp] theorem setWritableBits_registers : (cfg.setWritableBits r v).registers = cfg.registers :=
  rfl
@[simp] theorem setWritableBits_bars : (cfg.setWritableBits r v).bars = cfg.bars := rfl
@[simp] theorem setWritableBits_barProgrammingParams :
    (cfg.setWritableBits r v).barProgrammingParams = cfg.barProgrammingParams := rfl

theorem setWritableBits_self (h : r < numConfigurationRegisters) :
    (cfg.setWritableBits r v).writableBits[r]? = some v := by
  simp [setWritableBits, h]

theorem setWritableBits_ne {j : Nat} (h : r ≠ j) :
    (cfg.setWritableBits r v).writableBits[j]? = cfg.writableBits[j]? := by
  simp [setWritableBits, Vector.getElem?_setIfInBounds_ne h]

@[simp] theorem setBar_headerType : (cfg.setBar r b).headerType = cfg.headerType := rfl
@[simp] theorem setBar_registers : (cfg.setBar r b).registers = cfg.registers := rfl
@[simp] theorem setBar_writableBits : (cfg.setBar r b).writableBits = cfg.writableBits := rfl
@[simp] theorem setBar_barProgrammingParams :
    (cfg.setBar r b).barProgrammingParams = cfg.barProgrammingParams := rfl

theorem setBar_self (h : r < numBarRegs + 1) : (cfg.setBar r b).bars[r]? = some b := by
  simp [setBar, h]

theorem setBar_ne {j : Nat} (h : r ≠ j) : (cfg.setBar r b).bars[j]? = cfg.bars[j]? := by
  simp [setBar, Vector.getElem?_setIfInBounds_ne h]

end Frame

/-- `PciConfiguration::new`; `assert!` on the header type is `none`. -/
def new (vendorId deviceId : UInt16) (classCode subclass : UInt8)
    (programmingInterface : Option UInt8) (headerType : PciHeaderType)
    (subsystemVendorId subsystemId : UInt16) : Option (PciConfiguration C) := do
  if headerType ≠ .Device then none
  let pi := programmingInterface.getD 0
  let registers := Vector.replicate numConfigurationRegisters (0 : UInt32)
    |>.setIfInBounds 0 ((deviceId.toUInt32 <<< 16) ||| vendorId.toUInt32)
    |>.setIfInBounds 2 ((classCode.toUInt32 <<< 24) ||| (subclass.toUInt32 <<< 16) |||
      (pi.toUInt32 <<< 8))
    |>.setIfInBounds 3 0
    |>.setIfInBounds 11 ((subsystemId.toUInt32 <<< 16) ||| subsystemVendorId.toUInt32)
  let writableBits := Vector.replicate numConfigurationRegisters (0 : UInt32)
    |>.setIfInBounds 1 0x0000_ffff
    |>.setIfInBounds 3 0x0000_00ff
    |>.setIfInBounds 15 0x0000_00ff
  return ⟨headerType, registers, writableBits, Vector.replicate _ ⟨0, 0, none, false⟩, none, []⟩

/-- The address mask and the type bits of the register of a BAR, by its type. -/
def barMaskAndLowerBits (config : PciBarConfiguration) : Option (UInt32 × UInt32) :=
  match config.barType with
  | .Memory32BitRegion | .Memory64BitRegion =>
      some (barMemAddrMask, config.prefetchable.bits ||| config.barType.bits)
  | .IoRegion => some (barIoAddrMask, config.barType.bits)
  | .Memory64BitRegionUpper => none

/-- The checks of `add_device_bar` that depend on the BAR type, and for a 64-bit BAR the setup
of its upper half in the next register. -/
def addBarByType (cfg : PciConfiguration C) (config : PciBarConfiguration) (endAddr : UInt64) :
    Option (Except PciError (PciConfiguration C)) := do
  let regIdx := bar0Reg + config.barIdx
  match config.barType with
  | .IoRegion =>
      if config.size < 0x4 ∨ config.size > u32Max then return .error (.BarSizeInvalid config.size)
      if endAddr > u32Max then return .error (.BarAddressInvalid config.addr config.size)
      return .ok cfg
  | .Memory32BitRegion =>
      if config.size < 0x10 ∨ config.size > u32Max then return .error (.BarSizeInvalid config.size)
      if endAddr > u32Max then return .error (.BarAddressInvalid config.addr config.size)
      return .ok cfg
  | .Memory64BitRegion =>
      if config.barIdx + 1 ≥ numBarRegs then return .error (.BarInvalid64 config.barIdx)
      if (← cfg.barType (config.barIdx + 1)).isSome then return .error (.BarInUse64 config.barIdx)
      let upper := (config.addr >>> 32).toUInt32
      let cfg := (cfg.setReg (regIdx + 1) upper).setWritableBits (regIdx + 1) 0xffff_ffff
      return .ok (cfg.setBar (config.barIdx + 1)
        ⟨upper, (config.size >>> 32).toUInt32, some .Memory64BitRegionUpper, false⟩)
  | .Memory64BitRegionUpper => none

/-- `add_device_bar`; the `panic!` on an upper-half type is `none`. -/
def addDeviceBar (cfg : PciConfiguration C) (config : PciBarConfiguration) :
    Option (Except PciError (Nat × PciConfiguration C)) := do
  if cfg.headerType ≠ .Device then return .error (.BarInvalid config.barIdx)
  if config.barIdx ≥ numBarRegs then return .error (.BarInvalid config.barIdx)
  if (← cfg.barType config.barIdx).isSome then return .error (.BarInUse config.barIdx)
  if countOnes config.size ≠ 1 then return .error (.BarSizeInvalid config.size)
  let regIdx := bar0Reg + config.barIdx
  let some endAddr := checkedAdd config.addr (config.size - 1)
    | return .error (.BarAddressInvalid config.addr config.size)
  match ← cfg.addBarByType config endAddr with
  | .error e => return .error e
  | .ok cfg =>
      let (mask, lowerBits) ← barMaskAndLowerBits config
      let reg := (config.addr.toUInt32 &&& mask) ||| lowerBits
      let cfg := (cfg.setReg regIdx reg).setWritableBits regIdx mask
      return .ok (config.barIdx,
        cfg.setBar config.barIdx ⟨reg &&& mask, config.size.toUInt32, some config.barType, false⟩)

/-- `add_device_rom_bar`; `config.size as u32 - 1` wraps as in a release build. -/
def addDeviceRomBar (cfg : PciConfiguration C) (config : PciBarConfiguration) (active : UInt32) :
    Option (Except PciError (Nat × PciConfiguration C)) := do
  if cfg.headerType ≠ .Device then return .error (.BarInvalid config.barIdx)
  if config.barIdx ≠ numBarRegs then return .error (.RomBarInvalid config.barIdx)
  if (← cfg.barType numBarRegs).isSome then return .error (.RomBarInUse config.barIdx)
  if countOnes config.size ≠ 1 ∨ config.size &&& romBarAddrMask.toUInt64 = 0 then
    return .error (.RomBarSizeInvalid config.size)
  let some endAddr := checkedAdd (config.addr &&& ~~~(~~~romBarAddrMask).toUInt64) (config.size - 1)
    | return .error (.RomBarAddressInvalid config.addr config.size)
  if endAddr > u32Max then return .error (.RomBarAddressInvalid config.addr config.size)
  let mask := romBarAddrMask &&& ~~~(config.size.toUInt32 - 1)
  let reg := (config.addr.toUInt32 &&& mask) ||| active
  let cfg := (cfg.setReg romBarReg reg).setWritableBits romBarReg mask
  return .ok (config.barIdx,
    cfg.setBar numBarRegs ⟨reg &&& mask, config.size.toUInt32, some .Memory32BitRegion, false⟩)

/-- `get_device_bar_addr`: the address a BAR decodes, both halves for a 64-bit BAR. -/
def getDeviceBarAddr (cfg : PciConfiguration C) (barIdx : Nat) : Option UInt64 := do
  if cfg.headerType ≠ .Device then none
  if barIdx > numBarRegs then none
  match ← cfg.barType barIdx with
  | none | some .Memory64BitRegionUpper => return 0
  | some .Memory64BitRegion =>
      return (← cfg.barAddr barIdx).toUInt64 ||| ((← cfg.barAddr (barIdx + 1)).toUInt64 <<< 32)
  | some _ => return (← cfg.barAddr barIdx).toUInt64

/-- `get_bar_programming_params`, which takes the parameters out. -/
def getBarProgrammingParams (cfg : PciConfiguration C) :
    Option BarProgrammingParams × PciConfiguration C :=
  (cfg.barProgrammingParams, { cfg with barProgrammingParams := none })

section Adding

/-- A successful `add_device_bar` passed the checks that do not depend on the BAR type and
those of its type, and wrote the BAR's register, writable bits and state. -/
theorem addDeviceBar_ok {cfg cfg' : PciConfiguration C} {config : PciBarConfiguration} {i : Nat}
    (hadd : cfg.addDeviceBar config = some (.ok (i, cfg'))) :
    ∃ endAddr cfg₀ mask lowerBits, i = config.barIdx ∧ cfg.headerType = .Device ∧
      config.barIdx < numBarRegs ∧ countOnes config.size = 1 ∧
      checkedAdd config.addr (config.size - 1) = some endAddr ∧
      cfg.addBarByType config endAddr = some (.ok cfg₀) ∧
      barMaskAndLowerBits config = some (mask, lowerBits) ∧
      cfg' = ((cfg₀.setReg (bar0Reg + config.barIdx) ((config.addr.toUInt32 &&& mask) ||| lowerBits)
        ).setWritableBits (bar0Reg + config.barIdx) mask).setBar config.barIdx
        ⟨((config.addr.toUInt32 &&& mask) ||| lowerBits) &&& mask, config.size.toUInt32,
          some config.barType, false⟩ := by
  simp only [addDeviceBar, ne_eq, ite_not, ge_iff_le, Option.pure_def, Option.bind_eq_bind]
    at hadd
  split at hadd
  case isFalse => simp at hadd
  case isTrue hdev =>
  split at hadd
  case isTrue => simp at hadd
  case isFalse hidx =>
  obtain ⟨ty, -, hadd⟩ := Option.bind_eq_some_iff.mp hadd
  split at hadd
  case isTrue => simp at hadd
  case isFalse =>
  split at hadd
  case isFalse => simp at hadd
  case isTrue hcount =>
  split at hadd
  case h_2 => simp at hadd
  case h_1 endAddr hend =>
  obtain ⟨r, hr, hadd⟩ := Option.bind_eq_some_iff.mp hadd
  cases r with
  | error e => simp at hadd
  | ok cfg₀ =>
    obtain ⟨⟨mask, lowerBits⟩, hml, hadd⟩ := Option.bind_eq_some_iff.mp hadd
    simp only [Option.some.injEq, Except.ok.injEq, Prod.mk.injEq] at hadd
    obtain ⟨rfl, rfl⟩ := hadd
    exact ⟨endAddr, cfg₀, mask, lowerBits, rfl, hdev, Nat.lt_of_not_le hidx, hcount, hend, hr,
      hml, rfl⟩

/-- A 64-bit BAR takes the next register for its upper half. -/
theorem addBarByType_ok_bar64 {cfg cfg₀ : PciConfiguration C} {config : PciBarConfiguration}
    {endAddr : UInt64} (h : cfg.addBarByType config endAddr = some (.ok cfg₀))
    (h64 : config.barType = .Memory64BitRegion) :
    config.barIdx + 1 < numBarRegs ∧
      cfg₀ = ((cfg.setReg (bar0Reg + config.barIdx + 1) (config.addr >>> 32).toUInt32
        ).setWritableBits (bar0Reg + config.barIdx + 1) 0xffff_ffff).setBar (config.barIdx + 1)
        ⟨(config.addr >>> 32).toUInt32, (config.size >>> 32).toUInt32,
          some .Memory64BitRegionUpper, false⟩ := by
  simp only [addBarByType, h64, ge_iff_le, Option.pure_def, Option.bind_eq_bind] at h
  split at h
  case isTrue => simp at h
  case isFalse hidx =>
  obtain ⟨ty, -, h⟩ := Option.bind_eq_some_iff.mp h
  split at h
  case isTrue => simp at h
  case isFalse =>
  simp only [Option.some.injEq, Except.ok.injEq] at h
  exact ⟨by omega, h.symm⟩

end Adding

section WritePath

variable (ops : PciCapability C) (bus : BarBus σ)

theorem writeU32_bar_reg {cfg : PciConfiguration C} {s : σ} {r : Nat} (value : UInt32)
    (hdev : cfg.headerType = .Device)
    (hr : (bar0Reg ≤ r ∧ r < bar0Reg + numBarRegs) ∨ r = romBarReg) :
    writeU32 ops bus cfg s (r * 4) value = writeDeviceBarReg bus cfg s r value := by
  have hr16 : r < 16 := by unfold bar0Reg numBarRegs romBarReg at hr; omega
  have hidx : (r * 4) >>> 2 = r := by rw [Nat.shiftRight_eq_div_pow]; omega
  have hr64 : r < numConfigurationRegisters := by unfold numConfigurationRegisters; omega
  have hwb : cfg.writableBits[r]? = some cfg.writableBits[r] := Vector.getElem?_eq_getElem hr64
  have hlow : ¬(r = 0 ∨ r = 2) ∧ ¬(r = 1 ∨ r = 3) := by
    unfold bar0Reg numBarRegs romBarReg at hr; omega
  have hoff : ¬256 ≤ r * 4 := by omega
  simp [writeU32, hidx, hwb, hoff, hlow, hdev, hr16, hr]

/-- A write of all ones merges the BAR's size mask into the register and reports nothing. -/
theorem writeDeviceBarReg_probe {cfg : PciConfiguration C} {s : σ} {r : Nat} {b : PciBarState}
    (hr : r < numConfigurationRegisters)
    (hb : cfg.bars[if r = romBarReg then numBarRegs else r - bar0Reg]? = some b) :
    writeDeviceBarReg bus cfg s r 0xffff_ffff =
      some (true, cfg.setReg r ((cfg.registers[r] &&& ~~~cfg.writableBits[r]) |||
        (0xffff_ffff &&& b.mask)), s) := by
  have hreg : cfg.registers[r]? = some cfg.registers[r] := Vector.getElem?_eq_getElem hr
  have hwb : cfg.writableBits[r]? = some cfg.writableBits[r] := Vector.getElem?_eq_getElem hr
  by_cases hrom : r = romBarReg
  · rw [if_pos hrom] at hb
    subst hrom
    obtain ⟨_, hbb⟩ := Vector.getElem?_eq_some_iff.mp hb
    simp [writeDeviceBarReg, hbb, hreg, hwb]
  · rw [if_neg hrom] at hb
    simp [writeDeviceBarReg, hrom, hb, hreg, hwb]

/-- Any other write merges the value under the writable bits; when `detect_bar_programming`
finds no new address, that is all. -/
theorem writeDeviceBarReg_of_detect_none {cfg cfg' : PciConfiguration C} {s : σ} {r : Nat}
    {value : UInt32} (hr : r < numConfigurationRegisters) (hv : value ≠ 0xffff_ffff)
    (hd : (cfg.setReg r ((cfg.registers[r] &&& ~~~cfg.writableBits[r]) |||
      (value &&& cfg.writableBits[r]))).detectBarProgramming r = some (none, cfg')) :
    writeDeviceBarReg bus cfg s r value = some (true, cfg', s) := by
  have hreg : cfg.registers[r]? = some cfg.registers[r] := Vector.getElem?_eq_getElem hr
  have hwb : cfg.writableBits[r]? = some cfg.writableBits[r] := Vector.getElem?_eq_getElem hr
  simp [writeDeviceBarReg, hv, hreg, hwb, hd]

/-- When it finds one, the old range is freed, the new one allocated, and the parameters are
recorded, which `assert!`s that none are pending. -/
theorem writeDeviceBarReg_of_detect_some {cfg cfg₁ cfg₂ cfg₃ : PciConfiguration C}
    {s s₂ s₃ : σ} {r : Nat} {value : UInt32} {p : BarProgrammingParams}
    (hr : r < numConfigurationRegisters) (hv : value ≠ 0xffff_ffff)
    (hd : (cfg.setReg r ((cfg.registers[r] &&& ~~~cfg.writableBits[r]) |||
      (value &&& cfg.writableBits[r]))).detectBarProgramming r = some (some p, cfg₁))
    (hfree : freeBarResource bus cfg₁ s p = some (cfg₂, s₂))
    (halloc : allocateBarResource bus cfg₂ s₂ p = some (cfg₃, s₃))
    (hparams : cfg₃.barProgrammingParams = none) :
    writeDeviceBarReg bus cfg s r value =
      some (true, { cfg₃ with barProgrammingParams := some p }, s₃) := by
  have hreg : cfg.registers[r]? = some cfg.registers[r] := Vector.getElem?_eq_getElem hr
  have hwb : cfg.writableBits[r]? = some cfg.writableBits[r] := Vector.getElem?_eq_getElem hr
  simp [writeDeviceBarReg, hv, hreg, hwb, hd, hfree, halloc, hparams]

theorem barAllocated_setReg (cfg : PciConfiguration C) (r : Nat) (v : UInt32) (i : Nat) :
    (cfg.setReg r v).barAllocated i = cfg.barAllocated i := rfl

theorem barAllocated_setBarAddr (cfg : PciConfiguration C) (j : Nat) (a : UInt32) (i : Nat) :
    (cfg.setBarAddr j a).barAllocated i = cfg.barAllocated i := by
  by_cases hj : j = i
  · subst hj
    simp [barAllocated, setBarAddr, modifyBar_bars, Option.map_map, Function.comp_def]
  · simp [barAllocated, setBarAddr, modifyBar_bars, hj]

theorem barAllocated_setBarAllocated_self {cfg : PciConfiguration C} {i : Nat} {a : Bool}
    (hi : (cfg.bars[i]?).isSome) : (cfg.setBarAllocated i a).barAllocated i = some a := by
  obtain ⟨b, hb⟩ := Option.isSome_iff_exists.mp hi
  simp [barAllocated, setBarAllocated, modifyBar_bars, hb]

/-- The 32-bit and I/O path of `detect_bar_programming`: a new address is reported, with
`old_base` read after `bars[bar_idx].addr` took the new value. -/
theorem detectBarProgramming_bar32 {cfg : PciConfiguration C} {i : Nat} {b : PciBarState}
    {t : PciBarRegionType} {reg wb : UInt32} (hi : i < numBarRegs)
    (hb : cfg.bars[i]? = some b) (ht : b.type_ = some t)
    (ht32 : t = .Memory32BitRegion ∨ t = .IoRegion)
    (hreg : cfg.registers[bar0Reg + i]? = some reg)
    (hwb : cfg.writableBits[bar0Reg + i]? = some wb) :
    cfg.detectBarProgramming (bar0Reg + i) =
      if reg &&& wb ≠ b.addr then
        some (some ⟨i, t, (reg &&& wb).toUInt64, (reg &&& wb).toUInt64, b.size.toUInt64⟩,
          cfg.setBarAddr i (reg &&& wb))
      else some (none, cfg) := by
  have hrange : bar0Reg ≤ bar0Reg + i ∧ bar0Reg + i < bar0Reg + numBarRegs := by omega
  have hidx : bar0Reg + i - bar0Reg = i := by omega
  have hty : cfg.barType i = some (some t) := by simp [barType, hb, ht]
  have haddr : (cfg.setBarAddr i (reg &&& wb)).barAddr i = some (reg &&& wb) := by
    simp [barAddr, setBarAddr, modifyBar_bars, hb]
  have hsize : (cfg.setBarAddr i (reg &&& wb)).barSize i = some b.size := by
    simp [barSize, setBarAddr, modifyBar_bars, hb]
  have hold : cfg.barAddr i = some b.addr := by simp [barAddr, hb]
  rcases ht32 with rfl | rfl
  all_goals
    by_cases hne : reg &&& wb = b.addr
    · -- the value is read back under the mask a second time
      have hsame : b.addr &&& wb = b.addr := by
        rw [← hne, UInt32.and_assoc, UInt32.and_self]
      simp [detectBarProgramming, hrange, hidx, hwb, hreg, hty, hold, hne, hsame]
    · simp [detectBarProgramming, hrange, hidx, hwb, hreg, hty, hold, hne, haddr, hsize,
        UInt32.and_assoc]

theorem freeBarResource_of_not_allocated {cfg : PciConfiguration C} {s : σ}
    {p : BarProgrammingParams} (h : cfg.barAllocated p.barIdx = some false) :
    freeBarResource bus cfg s p = some (cfg, s) := by
  simp [freeBarResource, h]

/-- An allocated BAR is released, a memory BAR at `old_base`. -/
theorem freeBarResource_of_allocated {cfg : PciConfiguration C} {s : σ}
    {p : BarProgrammingParams} (h : cfg.barAllocated p.barIdx = some true)
    (ht : p.barType ≠ .Memory64BitRegionUpper) :
    ∃ res, freeBarResource bus cfg s p =
        some (cfg.setBarAllocated p.barIdx false, bus.freeResources s [res]) ∧
      (p.barType = .Memory32BitRegion → res = .MmioAddressRange p.oldBase p.len) := by
  cases hp : p.barType
  case IoRegion =>
    exact ⟨.PioAddressRange p.oldBase.toUInt16 p.len.toUInt16, by simp [freeBarResource, h, hp],
      fun h' => nomatch h'⟩
  case Memory32BitRegion => exact ⟨_, by simp [freeBarResource, h, hp], fun _ => rfl⟩
  case Memory64BitRegion =>
    exact ⟨.MmioAddressRange p.oldBase p.len, by simp [freeBarResource, h, hp], fun h' => nomatch h'⟩
  case Memory64BitRegionUpper => exact absurd hp ht

/-- On a BAR that is not allocated, allocation may fail or take a range from the bus, and the
pending parameters are left alone. -/
theorem allocateBarResource_spec {cfg : PciConfiguration C} {s : σ} {p : BarProgrammingParams}
    (h : cfg.barAllocated p.barIdx = some false) (ht : p.barType ≠ .Memory64BitRegionUpper) :
    ∃ cfg' s', allocateBarResource bus cfg s p = some (cfg', s') ∧
      cfg'.barProgrammingParams = cfg.barProgrammingParams ∧
      (s' = s ∨ ∃ c, bus.allocateResources s [c] = some s') := by
  unfold allocateBarResource
  by_cases h0 : p.newBase = 0
  · exact ⟨cfg, s, by simp [h0], rfl, .inl rfl⟩
  · -- whatever the constraint, the bus either refuses it or hands out a range
    cases hp : p.barType
    case Memory64BitRegionUpper => exact absurd hp ht
    all_goals
      simp [h0, h]
      split
      next hs => exact ⟨cfg, s, rfl, rfl, .inl rfl⟩
      next s' hs => exact ⟨_, s', rfl, by simp [setBarAllocated], .inr ⟨_, hs⟩⟩

end WritePath

section Probing

variable (ops : PciCapability C) (bus : BarBus σ)

/-- The first 16 registers of a device read as they are. -/
theorem readU32_of_header {cfg : PciConfiguration C} {r : Nat} {v : UInt32}
    (hdev : cfg.headerType = .Device) (hr : r < 16) (hv : cfg.registers[r]? = some v) :
    readU32 ops cfg (r * 4) = some (true, v) := by
  have hidx : (r * 4) >>> 2 = r := by rw [Nat.shiftRight_eq_div_pow]; omega
  have hoff : ¬256 ≤ r * 4 := by omega
  by_cases h4 : r < 4 <;> simp [readU32, hidx, hoff, hdev, hr, hv, h4]

/-- A size probe of a BAR register: the register takes its fixed bits and the BAR's size mask,
and nothing else changes. -/
theorem probe_reg {cfg : PciConfiguration C} {s : σ} {r : Nat} {b : PciBarState}
    {reg wb : UInt32} (hdev : cfg.headerType = .Device)
    (hr : (bar0Reg ≤ r ∧ r < bar0Reg + numBarRegs) ∨ r = romBarReg)
    (hb : cfg.bars[if r = romBarReg then numBarRegs else r - bar0Reg]? = some b)
    (hreg : cfg.registers[r]? = some reg) (hwb : cfg.writableBits[r]? = some wb) :
    ∃ cfg', writeU32 ops bus cfg s (r * 4) 0xffff_ffff = some (true, cfg', s) ∧
      cfg'.registers[r]? = some ((reg &&& ~~~wb) ||| (0xffff_ffff &&& b.mask)) ∧
      cfg'.headerType = cfg.headerType ∧ cfg'.bars = cfg.bars ∧
      cfg'.writableBits = cfg.writableBits ∧
      cfg'.barProgrammingParams = cfg.barProgrammingParams ∧
      ∀ j, r ≠ j → cfg'.registers[j]? = cfg.registers[j]? := by
  have hr64 : r < numConfigurationRegisters := by
    unfold bar0Reg numBarRegs romBarReg at hr
    unfold numConfigurationRegisters
    omega
  obtain ⟨_, hreg'⟩ := Vector.getElem?_eq_some_iff.mp hreg
  obtain ⟨_, hwb'⟩ := Vector.getElem?_eq_some_iff.mp hwb
  refine ⟨_, (writeU32_bar_reg ops bus _ hdev hr).trans (writeDeviceBarReg_probe bus hr64 hb),
    ?_, rfl, rfl, rfl, rfl, fun j hj => setReg_registers_ne _ _ _ hj⟩
  rw [setReg_registers_self _ _ _ hr64, hreg', hwb']

/-- Probing both halves of a 64-bit BAR, whose halves have the writable bits that
`add_device_bar` gives them: the low half reads back its type bits and the low size mask, the
high half the high size mask. -/
theorem probe_bar64 {cfg : PciConfiguration C} {s : σ} {j : Nat} {blo bhi : PciBarState}
    {reglo : UInt32} (hdev : cfg.headerType = .Device) (hj : j + 1 < numBarRegs)
    (hlo : cfg.bars[j]? = some blo) (hhi : cfg.bars[j + 1]? = some bhi)
    (hreglo : cfg.registers[bar0Reg + j]? = some reglo)
    (hwlo : cfg.writableBits[bar0Reg + j]? = some barMemAddrMask)
    (hwhi : cfg.writableBits[bar0Reg + j + 1]? = some 0xffff_ffff) :
    ∃ cfg₂ cfg₃,
      writeU32 ops bus cfg s ((bar0Reg + j) * 4) 0xffff_ffff = some (true, cfg₂, s) ∧
      writeU32 ops bus cfg₂ s ((bar0Reg + j + 1) * 4) 0xffff_ffff = some (true, cfg₃, s) ∧
      readU32 ops cfg₃ ((bar0Reg + j) * 4) =
        some (true, (reglo &&& ~~~barMemAddrMask) ||| (0xffff_ffff &&& blo.mask)) ∧
      readU32 ops cfg₃ ((bar0Reg + j + 1) * 4) = some (true, 0xffff_ffff &&& bhi.mask) := by
  have hr : bar0Reg ≤ bar0Reg + j ∧ bar0Reg + j < bar0Reg + numBarRegs := by omega
  have hr1 : bar0Reg ≤ bar0Reg + j + 1 ∧ bar0Reg + j + 1 < bar0Reg + numBarRegs := by omega
  have hnr : bar0Reg + j ≠ romBarReg := by unfold bar0Reg romBarReg; unfold numBarRegs at hj; omega
  have hnr1 : bar0Reg + j + 1 ≠ romBarReg := by
    unfold bar0Reg romBarReg; unfold numBarRegs at hj; omega
  have hlt : bar0Reg + j + 1 < numConfigurationRegisters := by
    unfold bar0Reg numConfigurationRegisters; unfold numBarRegs at hj; omega
  obtain ⟨cfg₂, hw₂, hreg₂, hdev₂, hbars₂, hwb₂, -, hregs₂⟩ := probe_reg ops bus (s := s) hdev
    (.inl hr) (by rw [if_neg hnr, Nat.add_sub_cancel_left]; exact hlo) hreglo hwlo
  obtain ⟨cfg₃, hw₃, hreg₃, hdev₃, -, -, -, hregs₃⟩ := probe_reg ops bus (s := s)
    (hdev₂.trans hdev) (.inl hr1)
    (by rw [if_neg hnr1, hbars₂, show bar0Reg + j + 1 - bar0Reg = j + 1 by omega]; exact hhi)
    (Vector.getElem?_eq_getElem hlt) (by rw [hwb₂]; exact hwhi)
  refine ⟨cfg₂, cfg₃, hw₂, hw₃, readU32_of_header ops (hdev₃.trans (hdev₂.trans hdev))
    (by unfold bar0Reg; unfold numBarRegs at hj; omega) ?_,
    readU32_of_header ops (hdev₃.trans (hdev₂.trans hdev))
    (by unfold bar0Reg; unfold numBarRegs at hj; omega) ?_⟩
  · rw [hregs₃ _ (by omega), hreg₂]
  · rw [hreg₃]
    -- the high half is all writable, so nothing of its old value is kept
    have hnot : ~~~(0xffff_ffff : UInt32) = 0 := by decide
    simp [hnot]

/-- The sizes below 16 bytes, as the mask of a BAR's low half, and as a two's complement. -/
theorem small_size_masks {size : UInt64} {k : Nat} (hk : size.toNat = 2 ^ k) (hk4 : k < 4) :
    size.toUInt32 ≠ 0 ∧
      (0xffff_ffff &&& ~~~(size.toUInt32 - 1)) &&& barMemAddrMask = barMemAddrMask ∧
      (0xffff_ffff &&& ~~~(size.toUInt32 - 1)) &&& 0x8 = 0x8 ∧
      (size >>> 32).toUInt32 = 0 ∧ -size ≠ 0xffff_ffff_ffff_fff0 := by
  have hlt : 2 ^ k < 2 ^ 64 := Nat.pow_lt_pow_right (by norm_num) (by omega)
  have hs : size = UInt64.ofNat (2 ^ k) :=
    UInt64.toNat_inj.mp (by simp only [hk]; exact (Nat.mod_eq_of_lt hlt).symm)
  subst hs
  interval_cases k <;> decide

/-- `add_device_bar` accepts a 64-bit BAR of 1, 2, 4 or 8 bytes, where a 32-bit one must have
16; probing both halves then reads back the address mask of a 16-byte BAR, and the
prefetchable bit set. -/
theorem bar64_small_probe_misreports_size {cfg cfg₁ : PciConfiguration C} {s : σ}
    {config : PciBarConfiguration} {i k : Nat}
    (hadd : cfg.addDeviceBar config = some (.ok (i, cfg₁)))
    (h64 : config.barType = .Memory64BitRegion) (hk : config.size.toNat = 2 ^ k) (hk4 : k < 4) :
    ∃ cfg₂ cfg₃ lo hi,
      writeU32 ops bus cfg₁ s ((bar0Reg + i) * 4) 0xffff_ffff = some (true, cfg₂, s) ∧
      writeU32 ops bus cfg₂ s ((bar0Reg + i + 1) * 4) 0xffff_ffff = some (true, cfg₃, s) ∧
      readU32 ops cfg₃ ((bar0Reg + i) * 4) = some (true, lo) ∧
      readU32 ops cfg₃ ((bar0Reg + i + 1) * 4) = some (true, hi) ∧
      (hi.toUInt64 <<< 32 ||| (lo &&& barMemAddrMask).toUInt64) = 0xffff_ffff_ffff_fff0 ∧
      -config.size ≠ 0xffff_ffff_ffff_fff0 ∧
      (config.prefetchable = .NotPrefetchable → lo &&& 0x8 ≠ 0) := by
  obtain ⟨endAddr, cfg₀, mask, lowerBits, rfl, hdev, -, -, -, hbt, hml, hcfg⟩ :=
    addDeviceBar_ok hadd
  obtain ⟨hidx1, rfl⟩ := addBarByType_ok_bar64 hbt h64
  obtain ⟨rfl, rfl⟩ : mask = barMemAddrMask ∧
      lowerBits = config.prefetchable.bits ||| PciBarRegionType.Memory64BitRegion.bits := by
    simp only [barMaskAndLowerBits, h64, Option.some.injEq, Prod.mk.injEq] at hml
    exact ⟨hml.1.symm, hml.2.symm⟩
  obtain ⟨hs0, hlo, hpf, hhi, hneg⟩ := small_size_masks hk hk4
  have hj : config.barIdx < numBarRegs + 1 := by omega
  have hne : bar0Reg + config.barIdx ≠ bar0Reg + config.barIdx + 1 := by omega
  have hr : bar0Reg + config.barIdx < numConfigurationRegisters := by
    unfold bar0Reg numConfigurationRegisters; unfold numBarRegs at hidx1; omega
  have hr1 : bar0Reg + config.barIdx + 1 < numConfigurationRegisters := by
    unfold bar0Reg numConfigurationRegisters; unfold numBarRegs at hidx1; omega
  have hdev₁ : cfg₁.headerType = .Device := by rw [hcfg]; simpa using hdev
  obtain ⟨cfg₂, cfg₃, hw₂, hw₃, hrd₂, hrd₃⟩ := probe_bar64 ops bus (s := s) hdev₁ hidx1
    (by rw [hcfg]; exact setBar_self _ _ _ hj)
    (by rw [hcfg, setBar_ne _ _ _ (by omega)]; simpa using setBar_self _ _ _ (by omega))
    (by rw [hcfg]; simpa using setReg_registers_self _ _ _ hr)
    (by rw [hcfg]; simpa using setWritableBits_self _ _ _ hr)
    (by rw [hcfg]; simpa [setWritableBits_ne _ _ _ hne] using setWritableBits_self _ _ _ hr1)
  refine ⟨cfg₂, cfg₃, _, _, hw₂, hw₃, hrd₂, hrd₃, ?_, hneg, fun _ => ?_⟩
  · -- the low half keeps no address bit of its own, the high half is all ones
    rw [UInt32.and_not_or_and]
    simp only [PciBarState.mask, h64, hs0, hhi, if_false, if_true, hlo]
    decide
  · rw [UInt32.or_and_of_and_eq (by simpa [PciBarState.mask, h64, hs0] using hpf)]
    decide

/-- Capabilities that hold nothing, and a bus that grants every request and records the
ranges it is asked to release. -/
def unitCapOps : PciCapability Unit :=
  ⟨fun _ => 0, fun _ _ => 0, fun _ _ => 0, fun _ _ => 0, fun _ _ _ => (), fun _ _ _ => (),
    fun _ _ _ => ()⟩
def recordingBus : BarBus (List Resource) := ⟨fun s _ => some s, fun s rs => s ++ rs⟩

/-- A new device configuration as the source's tests build one, and the configuration
`add_device_bar` leaves on it. -/
def testBase : PciConfiguration Unit :=
  (new 0x1af4 0x1041 0x02 0x00 none .Device 0 0).getD ⟨.Device, Vector.replicate _ 0,
    Vector.replicate _ 0, Vector.replicate _ ⟨0, 0, none, false⟩, none, []⟩
def withBar (cfg : PciConfiguration Unit) (config : PciBarConfiguration) : PciConfiguration Unit :=
  match cfg.addDeviceBar config with
  | some (.ok (_, cfg')) => cfg'
  | _ => cfg

/-- An 8-byte, non-prefetchable 64-bit BAR 2, where the source's test puts a 64-bit one. -/
def smallBar64 : PciBarConfiguration := ⟨2, .Memory64BitRegion, .NotPrefetchable, 0x1_4000_0000, 8⟩

theorem bar64_small_probe_eight_bytes :
    testBase.addDeviceBar smallBar64 = some (.ok (2, withBar testBase smallBar64)) ∧
      smallBar64.barType = .Memory64BitRegion ∧ smallBar64.size.toNat = 2 ^ 3 ∧ 3 < 4 ∧
      ∃ cfg₂ cfg₃ lo hi,
        writeU32 unitCapOps recordingBus (withBar testBase smallBar64) [] ((bar0Reg + 2) * 4)
          0xffff_ffff = some (true, cfg₂, []) ∧
        writeU32 unitCapOps recordingBus cfg₂ [] ((bar0Reg + 2 + 1) * 4) 0xffff_ffff =
          some (true, cfg₃, []) ∧
        readU32 unitCapOps cfg₃ ((bar0Reg + 2) * 4) = some (true, lo) ∧
        readU32 unitCapOps cfg₃ ((bar0Reg + 2 + 1) * 4) = some (true, hi) ∧
        (hi.toUInt64 <<< 32 ||| (lo &&& barMemAddrMask).toUInt64) = 0xffff_ffff_ffff_fff0 ∧
        -smallBar64.size ≠ 0xffff_ffff_ffff_fff0 ∧
        (smallBar64.prefetchable = .NotPrefetchable → lo &&& 0x8 ≠ 0) :=
  ⟨rfl, rfl, by decide, by decide,
    @bar64_small_probe_misreports_size Unit (List Resource) unitCapOps recordingBus testBase
      (withBar testBase smallBar64) [] smallBar64 2 3 rfl rfl (by decide) (by decide)⟩

end Probing

section Reprogramming

variable (ops : PciCapability C) (bus : BarBus σ)

/-- A guest write that moves a 32-bit memory or I/O BAR reports the new address as both the old
and the new base, and an allocated memory BAR has the new range released where the old one
should be. -/
theorem bar32_reprogram_reports_new_address_as_old {cfg : PciConfiguration C} {s : σ}
    {i : Nat} {b : PciBarState} {t : PciBarRegionType} {wb value : UInt32}
    (hdev : cfg.headerType = .Device) (hi : i < numBarRegs) (hb : cfg.bars[i]? = some b)
    (ht : b.type_ = some t) (ht32 : t = .Memory32BitRegion ∨ t = .IoRegion)
    (hwb : cfg.writableBits[bar0Reg + i]? = some wb) (hparams : cfg.barProgrammingParams = none)
    (hprobe : value ≠ 0xffff_ffff) (hne : value &&& wb ≠ b.addr) :
    ∃ cfg' s', writeU32 ops bus cfg s ((bar0Reg + i) * 4) value = some (true, cfg', s') ∧
      cfg'.barProgrammingParams =
        some ⟨i, t, (value &&& wb).toUInt64, (value &&& wb).toUInt64, b.size.toUInt64⟩ ∧
      (value &&& wb).toUInt64 ≠ b.addr.toUInt64 ∧
      (b.allocated = true → t = .Memory32BitRegion →
        s' = bus.freeResources s [.MmioAddressRange (value &&& wb).toUInt64 b.size.toUInt64] ∨
        ∃ c, bus.allocateResources
          (bus.freeResources s [.MmioAddressRange (value &&& wb).toUInt64 b.size.toUInt64]) [c] =
            some s') := by
  have hr : bar0Reg + i < numConfigurationRegisters := by
    unfold bar0Reg numConfigurationRegisters
    unfold numBarRegs at hi
    omega
  obtain ⟨_, hwb'⟩ := Vector.getElem?_eq_some_iff.mp hwb
  -- the register after the write, read back under its writable bits
  have hmask : (cfg.registers[bar0Reg + i] &&& ~~~cfg.writableBits[bar0Reg + i] |||
      value &&& cfg.writableBits[bar0Reg + i]) &&& wb = value &&& wb := by
    rw [hwb']
    exact UInt32.and_not_or_and_and UInt32.and_self
  let cfg₀ := cfg.setReg (bar0Reg + i) (cfg.registers[bar0Reg + i] &&&
    ~~~cfg.writableBits[bar0Reg + i] ||| value &&& cfg.writableBits[bar0Reg + i])
  let p : BarProgrammingParams :=
    ⟨i, t, (value &&& wb).toUInt64, (value &&& wb).toUInt64, b.size.toUInt64⟩
  let cfg₁ := cfg₀.setBarAddr i (value &&& wb)
  have hd : cfg₀.detectBarProgramming (bar0Reg + i) = some (some p, cfg₁) := by
    rw [detectBarProgramming_bar32 hi (by simpa [cfg₀] using hb) ht ht32
      (setReg_registers_self _ _ _ hr) (by simpa [cfg₀] using hwb), hmask, if_pos hne]
  have halloc₁ : cfg₁.barAllocated p.barIdx = some b.allocated := by
    rw [barAllocated_setBarAddr, barAllocated_setReg]
    simp [barAllocated, hb, p]
  have hbar₁ : (cfg₁.bars[i]?).isSome := by
    simp [cfg₁, cfg₀, setBarAddr, modifyBar_bars, hb]
  have htu : p.barType ≠ .Memory64BitRegionUpper := by
    rcases ht32 with rfl | rfl <;> simp [p]
  have hold : (value &&& wb).toUInt64 ≠ b.addr.toUInt64 := fun h => hne (UInt32.toUInt64_inj.mp h)
  rw [writeU32_bar_reg ops bus value hdev (.inl ⟨by omega, by omega⟩)]
  cases hal : b.allocated
  case false =>
    rw [hal] at halloc₁
    obtain ⟨cfg₃, s₃, hres, hpar, -⟩ := allocateBarResource_spec bus halloc₁ htu
    have hnone : cfg₃.barProgrammingParams = none := by
      simp [hpar, cfg₁, cfg₀, setBarAddr, hparams]
    exact ⟨_, s₃, writeDeviceBarReg_of_detect_some bus hr hprobe hd
      (freeBarResource_of_not_allocated bus halloc₁) hres hnone, rfl, hold, fun h => nomatch h⟩
  case true =>
    rw [hal] at halloc₁
    obtain ⟨res, hfree, hres⟩ := freeBarResource_of_allocated bus halloc₁ htu
    have halloc₂ : (cfg₁.setBarAllocated p.barIdx false).barAllocated p.barIdx = some false :=
      barAllocated_setBarAllocated_self hbar₁
    obtain ⟨cfg₃, s₃, hall, hpar, hs₃⟩ := allocateBarResource_spec bus halloc₂ htu
    have hnone : cfg₃.barProgrammingParams = none := by
      simp [hpar, setBarAllocated, cfg₁, cfg₀, setBarAddr, hparams]
    refine ⟨_, s₃, writeDeviceBarReg_of_detect_some bus hr hprobe hd hfree hall hnone, rfl, hold,
      fun _ h32 => ?_⟩
    rw [← hres h32]
    exact hs₃

/-- The configuration of the source's BAR test, with a 4 KiB 32-bit BAR 0 at 0x1000_0000,
after the guest moved the BAR to 0x2000_0000 and the parameters were taken. -/
def barTestReprogrammed : PciConfiguration Unit :=
  let added := withBar testBase ⟨0, .Memory32BitRegion, .NotPrefetchable, 0x1000_0000, 0x1000⟩
  match writeU32 unitCapOps recordingBus added [] (bar0Reg * 4) 0x2000_0000 with
  | some (_, cfg, _) => cfg.getBarProgrammingParams.2
  | none => added

theorem bar32_reprogram_twice_frees_new_range :
    barTestReprogrammed.headerType = .Device ∧ 0 < numBarRegs ∧
      barTestReprogrammed.bars[0]? = some ⟨0x2000_0000, 0x1000, some .Memory32BitRegion, true⟩ ∧
      barTestReprogrammed.writableBits[bar0Reg + 0]? = some barMemAddrMask ∧
      barTestReprogrammed.barProgrammingParams = none ∧
      ∃ cfg' s', writeU32 unitCapOps recordingBus barTestReprogrammed [] ((bar0Reg + 0) * 4)
          0x3000_0000 = some (true, cfg', s') ∧
        cfg'.barProgrammingParams = some ⟨0, .Memory32BitRegion, 0x3000_0000, 0x3000_0000, 0x1000⟩ ∧
        (0x3000_0000 : UInt64) ≠ 0x2000_0000 ∧
        (true = true → PciBarRegionType.Memory32BitRegion = .Memory32BitRegion →
          s' = recordingBus.freeResources [] [.MmioAddressRange 0x3000_0000 0x1000] ∨
          ∃ c, recordingBus.allocateResources
            (recordingBus.freeResources [] [.MmioAddressRange 0x3000_0000 0x1000]) [c] = some s') :=
  ⟨by decide, by decide, by decide, by decide, by decide,
    @bar32_reprogram_reports_new_address_as_old Unit (List Resource) unitCapOps recordingBus
      barTestReprogrammed [] 0 ⟨0x2000_0000, 0x1000, some .Memory32BitRegion, true⟩
      .Memory32BitRegion barMemAddrMask 0x3000_0000 (by decide) (by decide) (by decide) rfl
      (.inl rfl) (by decide) (by decide) (by decide) (by decide)⟩

end Reprogramming

end PciConfiguration

end KataContainers.Pci

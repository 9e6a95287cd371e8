import Mathlib.Data.Vector.Basic
import Mathlib.Data.List.Basic

/-!
# PCI configuration space

`PciConfiguration` of `dbs_pci::configuration`: the 64 registers and their writable bits, the
BAR states, the capability list, and the accessors `read_config`, `write_config`,
`read_u32/u16/u8` and `write_u32/u16/u8` with the BAR write path. Offsets are `usize`
values, so `offset & 0x3` is `offset % 4` and `offset & !0x3` is `offset - offset % 4`.
Every array access is
`?`-indexed, so that an out-of-range index, where Rust panics, is `none`; `assert!` failures
are `none` too. Capabilities are values of a type `C` with the operations of the
`PciCapability` trait; the bus the BARs are allocated on is a state `σ` with
`allocate_resources` and `free_resources`.
-/

namespace KataContainers.Pci

/-- `NUM_CONFIGURATION_REGISTERS`, `NUM_BAR_REGS` and the register indices used. -/
def numConfigurationRegisters : Nat := 64
def numBarRegs : Nat := 6
def statusReg : Nat := 1
def bar0Reg : Nat := 4
def romBarReg : Nat := 12

inductive PciHeaderType where
  | Device
  | Bridge
deriving DecidableEq, Repr

inductive PciBarRegionType where
  | IoRegion
  | Memory32BitRegion
  | Memory64BitRegion
  | Memory64BitRegionUpper
deriving DecidableEq, Repr

/-- `PciBarState`. -/
structure PciBarState where
  addr : UInt32
  size : UInt32
  type_ : Option PciBarRegionType
  allocated : Bool
deriving DecidableEq, Repr

/-- `PciBarState::mask`; `size - 1` wraps at zero as in a release build. -/
def PciBarState.mask (b : PciBarState) : UInt32 :=
  match b.type_ with
  | none => 0
  | some .IoRegion => ~~~(b.size - 1)
  | some .Memory32BitRegion => ~~~(b.size - 1)
  | some .Memory64BitRegion => if b.size = 0 then 0 else ~~~(b.size - 1)
  | some .Memory64BitRegionUpper => if b.size = 0 then 0xffff_ffff else ~~~(b.size - 1)

/-- `BarProgrammingParams`. -/
structure BarProgrammingParams where
  barIdx : Nat
  barType : PciBarRegionType
  oldBase : UInt64
  newBase : UInt64
  len : UInt64
deriving DecidableEq, Repr

/-- The `ResourceConstraint` variants that BAR allocation builds. -/
inductive ResourceConstraint where
  | PioAddress (range : Option (UInt16 × UInt16)) (align : UInt16) (size : UInt16)
  | MmioAddress (range : Option (UInt64 × UInt64)) (align : UInt64) (size : UInt64)
deriving DecidableEq, Repr

/-- The `Resource` variants that BAR release builds. -/
inductive Resource where
  | PioAddressRange (base : UInt16) (size : UInt16)
  | MmioAddressRange (base : UInt64) (size : UInt64)
deriving DecidableEq, Repr

/-- The bus behind `self.bus.upgrade()`: `allocate_resources` fails (`none`) or updates the
bus state, `free_resources` updates it. -/
structure BarBus (σ : Type) where
  allocateResources : σ → List ResourceConstraint → Option σ
  freeResources : σ → List Resource → σ

/-- The `PciCapability` trait over capability values of type `C`. -/
structure PciCapability (C : Type) where
  len : C → Nat
  readU8 : C → Nat → UInt8
  readU16 : C → Nat → UInt16
  readU32 : C → Nat → UInt32
  writeU8 : C → Nat → UInt8 → C
  writeU16 : C → Nat → UInt16 → C
  writeU32 : C → Nat → UInt32 → C

/-- A capability that implements only `read_u8`/`write_u8` and keeps the trait's default
wider accessors, which split an access into its little-endian halves. -/
def PciCapability.ofBytes {C : Type} (len : C → Nat) (readU8 : C → Nat → UInt8)
    (writeU8 : C → Nat → UInt8 → C) : PciCapability C :=
  let readU16 := fun c o => (readU8 c o).toUInt16 ||| ((readU8 c (o + 1)).toUInt16 <<< 8)
  let writeU16 := fun c o (v : UInt16) => writeU8 (writeU8 c o v.toUInt8) (o + 1) (v >>> 8).toUInt8
  { len, readU8, readU16, writeU8, writeU16
    readU32 := fun c o => (readU16 c o).toUInt32 ||| ((readU16 c (o + 2)).toUInt32 <<< 16)
    writeU32 := fun c o v => writeU16 (writeU16 c o v.toUInt16) (o + 2) (v >>> 16).toUInt16 }

/-- `PciConfiguration`; the weak reference to the bus is the `BarBus` argument of the
writes. -/
structure PciConfiguration (C : Type) where
  headerType : PciHeaderType
  registers : Vector UInt32 numConfigurationRegisters
  writableBits : Vector UInt32 numConfigurationRegisters
  bars : Vector PciBarState (numBarRegs + 1)
  barProgrammingParams : Option BarProgrammingParams
  capabilities : List (Nat × Nat × C)

namespace PciConfiguration

variable {C σ : Type} (ops : PciCapability C)

/-- `self.registers[reg_idx] = value`, after the read that bounds `reg_idx`. -/
def setReg (cfg : PciConfiguration C) (regIdx : Nat) (value : UInt32) : PciConfiguration C :=
  { cfg with registers := cfg.registers.setIfInBounds regIdx value }

/-- The capability, with its base, whose window holds `offset`. -/
def capAt (caps : List (Nat × Nat × C)) (offset : Nat) : Option (Nat × C) :=
  (caps.find? fun (base, len, _) => base ≤ offset ∧ offset < base + len).map
    fun (base, _, cap) => (base, cap)

/-- The capability list with the capability whose window holds `offset` replaced by
`f base cap`, if there is one. -/
def capUpdate (caps : List (Nat × Nat × C)) (offset : Nat) (f : Nat → C → C) :
    Option (List (Nat × Nat × C)) :=
  match caps with
  | [] => none
  | (base, len, cap) :: rest =>
      if base ≤ offset ∧ offset < base + len then some ((base, len, f base cap) :: rest)
      else (capUpdate rest offset f).map ((base, len, cap) :: ·)

def capReadU8 (cfg : PciConfiguration C) (offset : Nat) : Bool × UInt8 :=
  match capAt cfg.capabilities offset with
  | some (base, cap) => (true, ops.readU8 cap (offset - base))
  | none => (false, 0xff)

def capReadU16 (cfg : PciConfiguration C) (offset : Nat) : Bool × UInt16 :=
  match capAt cfg.capabilities offset with
  | some (base, cap) => (true, ops.readU16 cap (offset - base))
  | none => (false, 0xffff)

def capReadU32 (cfg : PciConfiguration C) (offset : Nat) : Bool × UInt32 :=
  match capAt cfg.capabilities offset with
  | some (base, cap) => (true, ops.readU32 cap (offset - base))
  | none => (false, 0xffff_ffff)

/-- `cap_write_u8/u16/u32`: the capability list after the write, or `none` (`false`) when no
capability holds `offset`. -/
def capWriteU8 (cfg : PciConfiguration C) (offset : Nat) (value : UInt8) :
    Option (PciConfiguration C) :=
  (capUpdate cfg.capabilities offset fun base cap => ops.writeU8 cap (offset - base) value).map
    fun caps => { cfg with capabilities := caps }

def capWriteU16 (cfg : PciConfiguration C) (offset : Nat) (value : UInt16) :
    Option (PciConfiguration C) :=
  (capUpdate cfg.capabilities offset fun base cap => ops.writeU16 cap (offset - base) value).map
    fun caps => { cfg with capabilities := caps }

def capWriteU32 (cfg : PciConfiguration C) (offset : Nat) (value : UInt32) :
    Option (PciConfiguration C) :=
  (capUpdate cfg.capabilities offset fun base cap => ops.writeU32 cap (offset - base) value).map
    fun caps => { cfg with capabilities := caps }

/-- `read_u32`. -/
def readU32 (cfg : PciConfiguration C) (offset : Nat) : Option (Bool × UInt32) := do
  let regIdx := offset >>> 2
  if offset % 4 ≠ 0 ∨ offset ≥ 256 then return (false, 0xffff_ffff)
  if regIdx < 4 then return (true, ← cfg.registers[regIdx]?)
  if cfg.headerType = .Device ∧ regIdx < 16 then return (true, ← cfg.registers[regIdx]?)
  match capReadU32 ops cfg offset with
  | (true, value) => return (true, value)
  | (false, _) => return (false, ← cfg.registers[regIdx]?)

/-- `read_u16`. -/
def readU16 (cfg : PciConfiguration C) (offset : Nat) : Option (Bool × UInt16) := do
  if offset % 2 ≠ 0 ∨ offset ≥ 256 then return (false, 0xffff)
  match capReadU16 ops cfg offset with
  | (true, value) => return (true, value)
  | (false, _) =>
      let (handled, value) ← readU32 ops cfg (offset - offset % 4)
      return (handled, (value >>> ((UInt32.ofNat offset &&& 0x2) * 8)).toUInt16)

/-- `read_u8`. -/
def readU8 (cfg : PciConfiguration C) (offset : Nat) : Option (Bool × UInt8) := do
  if offset ≥ 256 then return (false, 0xff)
  match capReadU8 ops cfg offset with
  | (true, value) => return (true, value)
  | (false, _) =>
      let (handled, value) ← readU16 ops cfg (offset - offset % 2)
      return (handled, (value >>> ((UInt16.ofNat offset &&& 0x1) * 8)).toUInt8)

def barType (cfg : PciConfiguration C) (barIdx : Nat) : Option (Option PciBarRegionType) :=
  (cfg.bars[barIdx]?).map (·.type_)

def barAddr (cfg : PciConfiguration C) (barIdx : Nat) : Option UInt32 :=
  (cfg.bars[barIdx]?).map (·.addr)

def barSize (cfg : PciConfiguration C) (barIdx : Nat) : Option UInt32 :=
  (cfg.bars[barIdx]?).map (·.size)

def barAllocated (cfg : PciConfiguration C) (barIdx : Nat) : Option Bool :=
  (cfg.bars[barIdx]?).map (·.allocated)

/-- `self.bars[bar_idx].f = v` for the field that `f` sets. -/
def modifyBar (cfg : PciConfiguration C) (barIdx : Nat) (f : PciBarState → PciBarState) :
    PciConfiguration C :=
  match cfg.bars[barIdx]? with
  | some b => { cfg with bars := cfg.bars.setIfInBounds barIdx (f b) }
  | none => cfg

def setBarAddr (cfg : PciConfiguration C) (barIdx : Nat) (addr : UInt32) :
    PciConfiguration C :=
  cfg.modifyBar barIdx fun b => { b with addr := addr }

def setBarAllocated (cfg : PciConfiguration C) (barIdx : Nat) (allocated : Bool) :
    PciConfiguration C :=
  cfg.modifyBar barIdx fun b => { b with allocated := allocated }

section Frame

variable (cfg : PciConfiguration C) (r : Nat) (v : UInt32)

@[simp] theorem setReg_headerType : (cfg.setReg r v).headerType = cfg.headerType := rfl
@[simp] theorem setReg_writableBits : (cfg.setReg r v).writableBits = cfg.writableBits := rfl
@[simp] theorem setReg_bars : (cfg.setReg r v).bars = cfg.bars := rfl
@[simp] theorem setReg_barProgrammingParams :
    (cfg.setReg r v).barProgrammingParams = cfg.barProgrammingParams := rfl
@[simp] theorem setReg_capabilities : (cfg.setReg r v).capabilities = cfg.capabilities := rfl

theorem setReg_registers_self (h : r < numConfigurationRegisters) :
    (cfg.setReg r v).registers[r]? = some v := by
  simp [setReg, h]

theorem setReg_registers_ne {j : Nat} (h : r ≠ j) :
    (cfg.setReg r v).registers[j]? = cfg.registers[j]? := by
  simp [setReg, Vector.getElem?_setIfInBounds_ne h]

variable (f : PciBarState → PciBarState)

@[simp] theorem modifyBar_headerType : (cfg.modifyBar r f).headerType = cfg.headerType := by
  unfold modifyBar; split <;> rfl
@[simp] theorem modifyBar_registers : (cfg.modifyBar r f).registers = cfg.registers := by
  unfold modifyBar; split <;> rfl
@[simp] theorem modifyBar_writableBits : (cfg.modifyBar r f).writableBits = cfg.writableBits := by
  unfold modifyBar; split <;> rfl
@[simp] theorem modifyBar_barProgrammingParams :
    (cfg.modifyBar r f).barProgrammingParams = cfg.barProgrammingParams := by
  unfold modifyBar; split <;> rfl

theorem modifyBar_bars (j : Nat) :
    (cfg.modifyBar r f).bars[j]? = if r = j then (cfg.bars[j]?).map f else cfg.bars[j]? := by
  unfold modifyBar
  split
  case h_1 b hb =>
    simp only [Vector.getElem?_setIfInBounds]
    by_cases hrj : r = j
    · subst hrj
      obtain ⟨hr, hbr⟩ := Vector.getElem?_eq_some_iff.mp hb
      simp [hr, hbr]
    · simp [hrj]
  case h_2 hb =>
    by_cases hrj : r = j
    · subst hrj
      simp [hb]
    · simp [hrj]

end Frame

/-- `is_device_bar_addr_changed`. -/
def isDeviceBarAddrChanged (cfg : PciConfiguration C) (regIdx : Nat) : Option Bool := do
  let value ← cfg.registers[regIdx]?
  let mask ← cfg.writableBits[regIdx]?
  if bar0Reg ≤ regIdx ∧ regIdx < bar0Reg + numBarRegs then
    return (← cfg.barAddr (regIdx - bar0Reg)) ≠ (value &&& mask)
  else if regIdx = romBarReg then return (← cfg.barAddr numBarRegs) ≠ (value &&& mask)
  else return false

/-- `detect_bar_programming`: the reprogramming parameters, with the BAR state updated to the
new address. -/
def detectBarProgramming (cfg : PciConfiguration C) (regIdx : Nat) :
    Option (Option BarProgrammingParams × PciConfiguration C) := do
  if bar0Reg ≤ regIdx ∧ regIdx < bar0Reg + numBarRegs then
    let barIdx := regIdx - bar0Reg
    let mask ← cfg.writableBits[regIdx]?
    let value := (← cfg.registers[regIdx]?) &&& mask
    match ← cfg.barType barIdx with
    -- A 64-bit BAR is handled when its upper half is written.
    | some .Memory64BitRegion => return (none, cfg)
    | some .Memory64BitRegionUpper =>
        let mask2 ← cfg.writableBits[regIdx - 1]?
        let lower ← cfg.registers[regIdx - 1]?
        if value &&& mask ≠ (← cfg.barAddr barIdx) ∨ lower &&& mask2 ≠ (← cfg.barAddr (barIdx - 1))
        then
          let oldBase := ((← cfg.barAddr barIdx).toUInt64 <<< 32) ||| (← cfg.barAddr (barIdx - 1)).toUInt64
          let newBase := ((value &&& mask).toUInt64 <<< 32) ||| (lower &&& mask2).toUInt64
          let len := ((← cfg.barSize barIdx).toUInt64 <<< 32) ||| (← cfg.barSize (barIdx - 1)).toUInt64
          let cfg' := (cfg.setBarAddr barIdx value).setBarAddr (barIdx - 1) lower
          return (some ⟨barIdx - 1, .Memory64BitRegion, oldBase, newBase, len⟩, cfg')
        return (none, cfg)
    -- `Memory32BitRegion` and `IoRegion`.
    | some barType =>
        if value &&& mask ≠ (← cfg.barAddr barIdx) then
          -- `bars[bar_idx].addr` is overwritten before `old_base` reads it back.
          let cfg := cfg.setBarAddr barIdx value
          let params : BarProgrammingParams :=
            ⟨barIdx, barType, (← cfg.barAddr barIdx).toUInt64, (value &&& mask).toUInt64,
              (← cfg.barSize barIdx).toUInt64⟩
          return (some params, cfg)
        return (none, cfg)
    | none => return (none, cfg)
  else if regIdx = romBarReg ∧ (← cfg.barType numBarRegs).isSome then
    if ← cfg.isDeviceBarAddrChanged regIdx then
      let mask ← cfg.writableBits[regIdx]?
      let value := (← cfg.registers[regIdx]?) &&& mask
      let oldAddr ← cfg.barAddr numBarRegs
      return (some ⟨numBarRegs, .Memory32BitRegion, oldAddr.toUInt64, value.toUInt64,
        (← cfg.barSize numBarRegs).toUInt64⟩, cfg.setBarAddr numBarRegs value)
    return (none, cfg)
  else return (none, cfg)

/-- `free_bar_resource`. -/
def freeBarResource (bus : BarBus σ) (cfg : PciConfiguration C) (s : σ)
    (param : BarProgrammingParams) : Option (PciConfiguration C × σ) := do
  if ← cfg.barAllocated param.barIdx then
    let res ← match param.barType with
      | .Memory32BitRegion | .Memory64BitRegion =>
          some (Resource.MmioAddressRange param.oldBase param.len)
      | .IoRegion => some (.PioAddressRange param.oldBase.toUInt16 param.len.toUInt16)
      | .Memory64BitRegionUpper => none
    return (cfg.setBarAllocated param.barIdx false, bus.freeResources s [res])
  return (cfg, s)

/-- `allocate_bar_resource`; a zero base leaves the BAR disabled. -/
def allocateBarResource (bus : BarBus σ) (cfg : PciConfiguration C) (s : σ)
    (param : BarProgrammingParams) : Option (PciConfiguration C × σ) := do
  if param.newBase = 0 then return (cfg, s)
  if ← cfg.barAllocated param.barIdx then none
  let constraint ← match param.barType with
    | .IoRegion =>
        some (ResourceConstraint.PioAddress
          (some (param.newBase.toUInt16, (param.newBase + param.len - 1).toUInt16)) 1
          param.len.toUInt16)
    | .Memory32BitRegion | .Memory64BitRegion =>
        some (.MmioAddress (some (param.newBase, param.newBase + param.len - 1)) 1 param.len)
    | .Memory64BitRegionUpper => none
  match bus.allocateResources s [constraint] with
  | none => return (cfg, s)
  | some s => return (cfg.setBarAllocated param.barIdx true, s)

/-- `write_device_bar_reg`. -/
def writeDeviceBarReg (bus : BarBus σ) (cfg : PciConfiguration C) (s : σ) (regIdx : Nat)
    (value : UInt32) : Option (Bool × PciConfiguration C × σ) := do
  let probing := value = 0xffff_ffff
  let mask ← if probing then
      if regIdx = romBarReg then (cfg.bars[numBarRegs]?).map (·.mask)
      else (cfg.bars[regIdx - bar0Reg]?).map (·.mask)
    else cfg.writableBits[regIdx]?
  let val ← cfg.registers[regIdx]?
  let cfg := cfg.setReg regIdx ((val &&& ~~~(← cfg.writableBits[regIdx]?)) ||| (value &&& mask))
  if probing then return (true, cfg, s)
  match ← cfg.detectBarProgramming regIdx with
  | (none, cfg) => return (true, cfg, s)
  | (some param, cfg) =>
      let (cfg, s) ← freeBarResource bus cfg s param
      let (cfg, s) ← allocateBarResource bus cfg s param
      if cfg.barProgrammingParams.isSome then none
      return (true, { cfg with barProgrammingParams := some param }, s)

/-- `write_u32`. The writable bits of the register are read before the offset is checked. -/
def writeU32 (bus : BarBus σ) (cfg : PciConfiguration C) (s : σ) (offset : Nat)
    (value : UInt32) : Option (Bool × PciConfiguration C × σ) := do
  let regIdx := offset >>> 2
  let mask ← cfg.writableBits[regIdx]?
  if offset % 4 ≠ 0 ∨ offset ≥ 256 then return (false, cfg, s)
  if regIdx = 0x0 ∨ regIdx = 0x2 then return (true, cfg, s)
  if regIdx = 1 ∨ regIdx = 3 then
    return (true, cfg.setReg regIdx (((← cfg.registers[regIdx]?) &&& ~~~mask) ||| (value &&& mask)), s)
  if cfg.headerType = .Device ∧ regIdx < 16 then
    if (bar0Reg ≤ regIdx ∧ regIdx < bar0Reg + numBarRegs) ∨ regIdx = romBarReg then
      return ← writeDeviceBarReg bus cfg s regIdx value
    if regIdx = 0xa ∨ regIdx = 0xb ∨ regIdx = 0xd ∨ regIdx = 0xe then return (true, cfg, s)
    if regIdx = 0xf then
      return (true, cfg.setReg regIdx (((← cfg.registers[regIdx]?) &&& ~~~mask) ||| (value &&& mask)), s)
  match capWriteU32 ops cfg offset value with
  | some cfg => return (true, cfg, s)
  | none =>
      return (false, cfg.setReg regIdx (((← cfg.registers[regIdx]?) &&& ~~~mask) ||| (value &&& mask)), s)

/-- `write_u16`: a read-modify-write of the enclosing register. -/
def writeU16 (bus : BarBus σ) (cfg : PciConfiguration C) (s : σ) (offset : Nat)
    (value : UInt16) : Option (Bool × PciConfiguration C × σ) := do
  if offset % 2 ≠ 0 ∨ offset ≥ 256 then return (false, cfg, s)
  match capWriteU16 ops cfg offset value with
  | some cfg => return (true, cfg, s)
  | none =>
      let (_, old) ← readU32 ops cfg (offset - offset % 4)
      let mask := (0xffff : UInt32) <<< ((UInt32.ofNat offset &&& 0x2) <<< 3)
      writeU32 ops bus cfg s (offset - offset % 4) ((old &&& ~~~mask) ||| (value.toUInt32 &&& mask))

/-- `write_u8`: a read-modify-write of the enclosing register. -/
def writeU8 (bus : BarBus σ) (cfg : PciConfiguration C) (s : σ) (offset : Nat)
    (value : UInt8) : Option (Bool × PciConfiguration C × σ) := do
  if offset ≥ 256 then return (false, cfg, s)
  match capWriteU8 ops cfg offset value with
  | some cfg => return (true, cfg, s)
  | none =>
      let (_, old) ← readU32 ops cfg (offset - offset % 4)
      let mask := (0xff : UInt32) <<< ((UInt32.ofNat offset &&& 0x3) <<< 3)
      writeU32 ops bus cfg s (offset - offset % 4) ((old &&& ~~~mask) ||| (value.toUInt32 &&& mask))

/-- Little-endian bytes of a value, and the value of little-endian bytes. -/
def bytesOfU32 (v : UInt32) : List UInt8 :=
  [v.toUInt8, (v >>> 8).toUInt8, (v >>> 16).toUInt8, (v >>> 24).toUInt8]
def bytesOfU16 (v : UInt16) : List UInt8 := [v.toUInt8, (v >>> 8).toUInt8]
def u32OfBytes (d : List UInt8) : UInt32 :=
  d.foldr (fun b acc => (acc <<< 8) ||| b.toUInt32) 0
def u16OfBytes (d : List UInt8) : UInt16 :=
  d.foldr (fun b acc => (acc <<< 8) ||| b.toUInt16) 0

/-- `read_config`: the `len` bytes read at `offset`; an access that is not a naturally
aligned byte, word or double word reads as all ones. `offset.trailing_zeros() >= k` is
divisibility by `2^k` (zero has 64 trailing zeros). -/
def readConfig (cfg : PciConfiguration C) (offset len : Nat) : Option (List UInt8) := do
  if offset % 4 = 0 ∧ len = 4 then return bytesOfU32 (← readU32 ops cfg offset).2
  else if offset % 2 = 0 ∧ len = 2 then return bytesOfU16 (← readU16 ops cfg offset).2
  else if len = 1 then return [(← readU8 ops cfg offset).2]
  else return List.replicate len 0xff

/-- `write_config`: other accesses are dropped. -/
def writeConfig (bus : BarBus σ) (cfg : PciConfiguration C) (s : σ) (offset : Nat)
    (data : List UInt8) : Option (PciConfiguration C × σ) := do
  if offset % 4 = 0 ∧ data.length = 4 then
    let (_, cfg, s) ← writeU32 ops bus cfg s offset (u32OfBytes data)
    return (cfg, s)
  else if offset % 2 = 0 ∧ data.length = 2 then
    let (_, cfg, s) ← writeU16 ops bus cfg s offset (u16OfBytes data)
    return (cfg, s)
  else if data.length = 1 then
    let (_, cfg, s) ← writeU8 ops bus cfg s offset (data.headD 0)
    return (cfg, s)
  else return (cfg, s)

/-- Past the 256-byte header `write_u32` panics: it indexes `writable_bits[offset >> 2]`
before it checks the offset. -/
theorem writeU32_of_ge (bus : BarBus σ) (cfg : PciConfiguration C) (s : σ) (offset : Nat)
    (value : UInt32) (h : 256 ≤ offset) : writeU32 ops bus cfg s offset value = none := by
  have hidx : cfg.writableBits[offset >>> 2]? = none := by
    apply Vector.getElem?_eq_none
    rw [Nat.shiftRight_eq_div_pow]
    unfold numConfigurationRegisters
    omega
  simp [writeU32, hidx]

/-- Past the header the narrower writes are dropped and change nothing. -/
theorem writeU16_of_ge (bus : BarBus σ) (cfg : PciConfiguration C) (s : σ) (offset : Nat)
    (value : UInt16) (h : 256 ≤ offset) : writeU16 ops bus cfg s offset value = some (false, cfg, s) := by
  simp [writeU16, h]

theorem writeU8_of_ge (bus : BarBus σ) (cfg : PciConfiguration C) (s : σ) (offset : Nat)
    (value : UInt8) (h : 256 ≤ offset) : writeU8 ops bus cfg s offset value = some (false, cfg, s) := by
  simp [writeU8, Nat.not_lt.mpr h]

/-- Past the header every naturally aligned read returns all ones. -/
theorem readConfig_of_ge (cfg : PciConfiguration C) (offset len : Nat) (h : 256 ≤ offset) :
    readConfig ops cfg offset len = some (List.replicate len 0xff) := by
  have h32 : readU32 ops cfg offset = some (false, 0xffff_ffff) := by simp [readU32, h]
  have h16 : readU16 ops cfg offset = some (false, 0xffff) := by simp [readU16, h]
  have h8 : readU8 ops cfg offset = some (false, 0xff) := by simp [readU8, Nat.not_lt.mpr h]
  unfold readConfig
  by_cases h4 : offset % 4 = 0 ∧ len = 4
  · simp [h4, h32, bytesOfU32]
    obtain ⟨-, rfl⟩ := h4
    decide
  · by_cases h2 : offset % 2 = 0 ∧ len = 2
    · simp [h2, h16, bytesOfU16]
      obtain ⟨-, rfl⟩ := h2
      decide
    · by_cases h1 : len = 1
      · subst h1
        simp [h8]
      · simp [h4, h2, h1]

/-- A four-byte `write_config` past the header panics, whatever the configuration. -/
theorem writeConfig_u32_of_ge (bus : BarBus σ) (cfg : PciConfiguration C) (s : σ) (offset : Nat)
    (data : List UInt8) (h : 256 ≤ offset) (halign : offset % 4 = 0) (hlen : data.length = 4) :
    writeConfig ops bus cfg s offset data = none := by
  simp [writeConfig, halign, hlen, writeU32_of_ge ops bus cfg s offset _ h]

/-- Inside the window of a capability that follows capabilities all below it, the capability
accesses reach that capability. -/
theorem capAt_split {pre post : List (Nat × Nat × C)} {base len offset : Nat} {cap : C}
    (hpre : ∀ e ∈ pre, e.1 + e.2.1 ≤ base) (hin : base ≤ offset ∧ offset < base + len) :
    capAt (pre ++ (base, len, cap) :: post) offset = some (base, cap) := by
  induction pre with
  | nil => simp [capAt, hin]
  | cons e pre ih =>
    obtain ⟨b, l, c⟩ := e
    have hb : b + l ≤ base := hpre (b, l, c) (List.mem_cons_self ..)
    have hout : ¬(b ≤ offset ∧ offset < b + l) := by omega
    have ih := ih fun e he => hpre e (List.mem_cons_of_mem _ he)
    simp only [capAt, List.cons_append, List.find?_cons, hout, decide_false] at ih ⊢
    exact ih

theorem capUpdate_split {pre post : List (Nat × Nat × C)} {base len offset : Nat} {cap : C}
    (hpre : ∀ e ∈ pre, e.1 + e.2.1 ≤ base) (hin : base ≤ offset ∧ offset < base + len)
    (f : Nat → C → C) :
    capUpdate (pre ++ (base, len, cap) :: post) offset f =
      some (pre ++ (base, len, f base cap) :: post) := by
  induction pre with
  | nil => simp [capUpdate, hin]
  | cons e pre ih =>
    obtain ⟨b, l, c⟩ := e
    have hb : b + l ≤ base := hpre (b, l, c) (List.mem_cons_self ..)
    have hout : ¬(b ≤ offset ∧ offset < b + l) := by omega
    rw [List.cons_append, capUpdate, if_neg hout, ih fun e he => hpre e (List.mem_cons_of_mem _ he)]
    rfl

end PciConfiguration

end KataContainers.Pci

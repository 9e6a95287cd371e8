import KataContainers.Pci.Msix
import KataContainers.Interrupt.Manager
import KataContainers.Lib.UInt16Bits

/-!
# The MSI-X message control

`MsixCap` of `dbs_pci::msix`, the copy of the MSI-X capability that the guest reads and writes
in the configuration space, and `MsixState::set_msg_ctl`, which acts on a new message control:
it moves the device's interrupt manager to PCI MSI-X or back and masks the vectors.
`VirtioPciDevice::write_config` gives a write of the capability's first double word to both: to
`set_msg_ctl` when it is the word at byte 2 or the whole double word, and always to the
configuration space, whose capability write reaches `MsixCap::write_u8` byte by byte through the
default `write_u16` and `write_u32` of `PciCapability`.

The capability's bytes are its fields in declaration order (`repr(Rust, packed)` leaves every
field at alignment one, so nothing is reordered). The interrupt manager is the model of
`dbs_interrupt`; what the interrupt group returns through KVM is a `GroupCalls`. A panic (the
`unwrap` of a missing group, or one of the manager's) is `none`. The model is the x86_64 build,
without `set_msi_device_id`.
-/

namespace KataContainers.Pci

open PciConfiguration Interrupt

/-- `FUNCTION_MASK_BIT`, `MSIX_ENABLE_BIT`, their masks, and `PciCapabilityId::MSIX`. -/
def functionMaskBit : UInt16 := 14
def msixEnableBit : UInt16 := 15
def functionMaskMask : UInt16 := 1 <<< functionMaskBit
def msixEnableMask : UInt16 := 1 <<< msixEnableBit
def pciCapabilityIdMsix : UInt8 := 0x11

structure MsixCap where
  capId : UInt8
  capNext : UInt8
  msgCtl : UInt16
  table : UInt32
  pba : UInt32
deriving DecidableEq, Repr

namespace MsixCap

/-- `MsixCap::new`; `table_size - 1` wraps as in a release build. -/
def new (tablePciBar : UInt8) (tableSize : UInt16) (tableOff : UInt32) (pbaPciBar : UInt8)
    (pbaOff : UInt32) : Option MsixCap :=
  if tableSize.toNat < maxMsixVectorsPerDevice then
    some ⟨pciCapabilityIdMsix, 0, tableSize - 1,
      (tableOff &&& 0xffff_fff8) ||| (tablePciBar &&& 0x7).toUInt32,
      (pbaOff &&& 0xffff_fff8) ||| (pbaPciBar &&& 0x7).toUInt32⟩
  else none

def masked (cap : MsixCap) : Bool := (cap.msgCtl >>> functionMaskBit) &&& 0x1 == 0x1

def enabled (cap : MsixCap) : Bool := (cap.msgCtl >>> msixEnableBit) &&& 0x1 == 0x1

def len (_ : MsixCap) : Nat := 0xc

def asSlice (cap : MsixCap) : List UInt8 :=
  [cap.capId, cap.capNext] ++ bytesOfU16 cap.msgCtl ++ bytesOfU32 cap.table ++ bytesOfU32 cap.pba

def readU8 (cap : MsixCap) (offset : Nat) : UInt8 :=
  if offset < cap.len then cap.asSlice.getD offset 0 else 0xff

/-- `write_u8`: only the high byte of the message control is written, and of it only the mask
and enable bits. -/
def writeU8 (cap : MsixCap) (offset : Nat) (value : UInt8) : MsixCap :=
  if offset = 3 then
    { cap with
      msgCtl := (cap.msgCtl &&& ~~~(functionMaskMask ||| msixEnableMask)) |||
        ((value.toUInt16 <<< 8) &&& (functionMaskMask ||| msixEnableMask)) }
  else cap

/-- `MsixCap` as a `PciCapability`, with the trait's default wider accessors. -/
def ops : PciCapability MsixCap := PciCapability.ofBytes len readU8 writeU8

end MsixCap

/-- What the interrupt group's calls through KVM return: the `disable` and `enable` that the
manager's `reset` and `enable` make, and `mask` and `unmask` of a vector. -/
structure GroupCalls where
  disableOk : Bool
  enableOk : Bool
  maskOk : UInt32 → Bool
  unmaskOk : UInt32 → Bool

namespace MsixState

/-- `call?` on a call of the manager: what follows runs after a call that succeeded, and an error
is returned with the manager as the call left it. -/
def andThen (x : DeviceInterruptManager × Except Error Unit)
    (f : DeviceInterruptManager → Option (DeviceInterruptManager × Except Error Unit)) :
    Option (DeviceInterruptManager × Except Error Unit) :=
  match x with
  | (mgr, .ok ()) => f mgr
  | (mgr, .error e) => some (mgr, .error e)

/-- The loop of the `(false, true)` arm that gives every vector, from index `idx` on, its
message. -/
def programVectors (mgr : DeviceInterruptManager) (idx : Nat) :
    List MsixTableEntry → DeviceInterruptManager × Except Error Unit
  | [] => (mgr, .ok ())
  | vector :: vectors =>
      match mgr.setMsiHighAddress (UInt32.ofNat idx) vector.msgAddrHi with
      | (mgr, .error e) => (mgr, .error e)
      | (mgr, .ok ()) =>
          match mgr.setMsiLowAddress (UInt32.ofNat idx) vector.msgAddrLo with
          | (mgr, .error e) => (mgr, .error e)
          | (mgr, .ok ()) =>
              match mgr.setMsiData (UInt32.ofNat idx) vector.msgData with
              | (mgr, .error e) => (mgr, .error e)
              | (mgr, .ok ()) => programVectors mgr (idx + 1) vectors

/-- A loop of `group.mask(idx)?` or `group.unmask(idx)?` over the vectors that `p` selects. -/
def groupLoop (ok : UInt32 → Bool) (p : MsixTableEntry → Bool) (idx : Nat) :
    List MsixTableEntry → Except Error Unit
  | [] => .ok ()
  | vector :: vectors =>
      if p vector && !ok (UInt32.ofNat idx) then .error .group
      else groupLoop ok p (idx + 1) vectors

/-- The `(false, true)` arm of `set_msg_ctl`: the manager reset and moved to PCI MSI-X, every
vector given its message, the manager enabled, and the vectors to mask masked. -/
def enableMsix (st : MsixState) (newMasked : Bool) (mgr : DeviceInterruptManager)
    (kvm : GroupCalls) : Option (DeviceInterruptManager × Except Error Unit) := do
  andThen (← (mgr.reset kvm.disableOk).toOption) fun mgr =>
    andThen (mgr.setWorkingMode .PciMsixIrq) fun mgr =>
      andThen (programVectors mgr 0 st.tableEntries) fun mgr => do
        andThen (← (mgr.enable kvm.enableOk).toOption) fun mgr => do
          -- "Safe to unwrap() because we have just enabled interrupt successfully."
          let some _ ← (mgr.getGroup).toOption | none
          return (mgr, groupLoop kvm.maskOk (fun v => newMasked || v.masked) 0 st.tableEntries)

/-- The `(true, true)` arm: the vectors that are not masked on their own follow the function
mask. -/
def maskMsix (st : MsixState) (newMasked : Bool) (mgr : DeviceInterruptManager)
    (kvm : GroupCalls) : Option (DeviceInterruptManager × Except Error Unit) := do
  -- "Safe to unwrap() because we are in enabled state."
  let some _ ← (mgr.getGroup).toOption | none
  if st.masked && !newMasked then
    return (mgr, groupLoop kvm.unmaskOk (fun v => !v.masked) 0 st.tableEntries)
  else if !st.masked && newMasked then
    return (mgr, groupLoop kvm.maskOk (fun v => !v.masked) 0 st.tableEntries)
  else return (mgr, .ok ())

/-- `set_msg_ctl`: the state and the manager after the call, and its result. The state takes the
new bits only when every call succeeded. -/
def setMsgCtl (st : MsixState) (reg : UInt16) (mgr : DeviceInterruptManager) (kvm : GroupCalls) :
    Option (MsixState × DeviceInterruptManager × Except Error Unit) := do
  let newMasked := reg &&& functionMaskMask != 0
  let newEnabled := reg &&& msixEnableMask != 0
  -- "Nothing changed."
  if st.enabled == newEnabled && st.masked == newMasked then return (st, mgr, .ok ())
  let (mgr, r) ← match st.enabled, newEnabled with
    | false, true => st.enableMsix newMasked mgr kvm
    | true, false => (mgr.reset kvm.disableOk).toOption
    | true, true => st.maskMsix newMasked mgr kvm
    | false, false => some (mgr, .ok ())
  match r with
  | .error e => return (st, mgr, .error e)
  | .ok () => return ({ st with enabled := newEnabled, masked := newMasked }, mgr, .ok ())

end MsixState

/-- The capabilities of a virtio-pci device: its MSI-X capability and the others, of type `C`. -/
inductive DeviceCap (C : Type) where
  | msix (cap : MsixCap)
  | other (cap : C)

/-- The calls on a capability, dispatched on its kind. -/
def DeviceCap.ops {C : Type} (ops : PciCapability C) : PciCapability (DeviceCap C) where
  len
    | .msix cap => MsixCap.ops.len cap
    | .other cap => ops.len cap
  readU8
    | .msix cap, o => MsixCap.ops.readU8 cap o
    | .other cap, o => ops.readU8 cap o
  readU16
    | .msix cap, o => MsixCap.ops.readU16 cap o
    | .other cap, o => ops.readU16 cap o
  readU32
    | .msix cap, o => MsixCap.ops.readU32 cap o
    | .other cap, o => ops.readU32 cap o
  writeU8
    | .msix cap, o, v => .msix (MsixCap.ops.writeU8 cap o v)
    | .other cap, o, v => .other (ops.writeU8 cap o v)
  writeU16
    | .msix cap, o, v => .msix (MsixCap.ops.writeU16 cap o v)
    | .other cap, o, v => .other (ops.writeU16 cap o v)
  writeU32
    | .msix cap, o, v => .msix (MsixCap.ops.writeU32 cap o v)
    | .other cap, o, v => .other (ops.writeU32 cap o v)

/-- The state of `VirtioPciDevice` that configuration writes reach. -/
structure VirtioPciConfigSpace (C : Type) where
  configuration : PciConfiguration (DeviceCap C)
  msixState : MsixState
  intrMgr : DeviceInterruptManager
  msixCapRegIdx : UInt32

namespace VirtioPciConfigSpace

variable {C σ : Type} (ops : PciCapability C) (bus : BarBus σ) (kvm : GroupCalls)

/-- `set_msg_ctl` on the device's MSI-X state and interrupt manager; its error is only logged. -/
def setMsgCtl (dev : VirtioPciConfigSpace C) (reg : UInt16) : Option (VirtioPciConfigSpace C) :=
  (dev.msixState.setMsgCtl reg dev.intrMgr kvm).map fun (st, mgr, _) =>
    { dev with msixState := st, intrMgr := mgr }

/-- `VirtioPciDevice::write_config`. -/
def writeConfig (dev : VirtioPciConfigSpace C) (s : σ) (offset : UInt32) (data : List UInt8) :
    Option (VirtioPciConfigSpace C × σ) := do
  let regIdx := offset >>> 2
  let regInOffset := offset &&& 0x3
  if dev.msixCapRegIdx = 0 then none
  let dev ← if dev.msixCapRegIdx = regIdx then
      if regInOffset = 2 ∧ data.length = 2 then dev.setMsgCtl kvm (u16OfBytes data)
      else if regInOffset = 0 ∧ data.length = 4 then
        dev.setMsgCtl kvm (u32OfBytes data >>> 16).toUInt16
      else some dev
    else some dev
  let (cfg, s) ← dev.configuration.writeConfig (DeviceCap.ops ops) bus s offset.toNat data
  return ({ dev with configuration := cfg }, s)

end VirtioPciConfigSpace

/-! ### The bits of the message control -/

namespace MsixCap

theorem enabled_eq (cap : MsixCap) : cap.enabled = (cap.msgCtl &&& msixEnableMask != 0) :=
  UInt16.shiftRight_and_one_beq _ _ (by decide)

theorem masked_eq (cap : MsixCap) : cap.masked = (cap.msgCtl &&& functionMaskMask != 0) :=
  UInt16.shiftRight_and_one_beq _ _ (by decide)

/-- The bits of the message control that a write of its high byte `v` leaves. -/
theorem writeU8_three_and (cap : MsixCap) (v : UInt8) {d : UInt16}
    (hd : (functionMaskMask ||| msixEnableMask) &&& d = d) :
    (cap.writeU8 3 v).msgCtl &&& d = (v.toUInt16 <<< 8) &&& d := by
  simp only [writeU8, if_true]
  exact UInt16.and_not_or_and_and hd

/-- Writing the high byte of a word `r` sets the mask and enable bits to those of `r`. -/
theorem writeU8_highByte_and (cap : MsixCap) (r : UInt16) {d : UInt16}
    (hd : (functionMaskMask ||| msixEnableMask) &&& d = d) (hhigh : 0xff00 &&& d = d) :
    (cap.writeU8 3 (r >>> 8).toUInt8).msgCtl &&& d = r &&& d := by
  rw [writeU8_three_and cap _ hd, UInt16.highByte_shiftLeft, UInt16.and_assoc, hhigh]

/-- The trait's `write_u16` at byte 2 and `write_u32` at byte 0 reach the message control only
through its high byte. -/
theorem ops_writeU16_two (cap : MsixCap) (r : UInt16) :
    ops.writeU16 cap 2 r = cap.writeU8 3 (r >>> 8).toUInt8 := rfl

theorem ops_writeU32_zero (cap : MsixCap) (w : UInt32) :
    ops.writeU32 cap 0 w = cap.writeU8 3 ((w >>> 16).toUInt16 >>> 8).toUInt8 := rfl

/-- The word the guest reads at byte 2 is the message control. -/
theorem ops_readU16_two (cap : MsixCap) : ops.readU16 cap 2 = cap.msgCtl :=
  UInt16.toUInt8_toUInt16_or_shiftLeft cap.msgCtl

end MsixCap

/-- The MSI-X state acts on the mask and enable bits that the guest reads back. -/
def Agrees (st : MsixState) (cap : MsixCap) : Prop :=
  st.enabled = cap.enabled ∧ st.masked = cap.masked

/-- A state that took the bits of `r` agrees with a capability whose high byte was written
from `r`. -/
theorem agrees_writeU8_highByte {st : MsixState} (cap : MsixCap) {r : UInt16}
    (he : st.enabled = (r &&& msixEnableMask != 0)) (hm : st.masked = (r &&& functionMaskMask != 0)) :
    Agrees st (cap.writeU8 3 (r >>> 8).toUInt8) := by
  constructor
  · rw [MsixCap.enabled_eq, MsixCap.writeU8_highByte_and cap r (by decide) (by decide), he]
  · rw [MsixCap.masked_eq, MsixCap.writeU8_highByte_and cap r (by decide) (by decide), hm]

/-- `set_msg_ctl` takes the new bits when it succeeds and leaves the state as it was when a call
fails. -/
theorem MsixState.setMsgCtl_spec {st st' : MsixState} {reg : UInt16}
    {mgr mgr' : DeviceInterruptManager} {kvm : GroupCalls} {r : Except Error Unit}
    (h : st.setMsgCtl reg mgr kvm = some (st', mgr', r)) :
    (r = .ok () → st'.enabled = (reg &&& msixEnableMask != 0) ∧
      st'.masked = (reg &&& functionMaskMask != 0)) ∧ (r ≠ .ok () → st' = st) := by
  unfold MsixState.setMsgCtl at h
  by_cases hsame : (st.enabled == (reg &&& msixEnableMask != 0) &&
      st.masked == (reg &&& functionMaskMask != 0)) = true
  · -- nothing changed: the state already has the bits
    rw [if_pos hsame] at h
    simp only [Bool.and_eq_true, beq_iff_eq] at hsame
    obtain ⟨rfl, -, rfl⟩ : st = st' ∧ mgr = mgr' ∧ .ok () = r := by simpa using h
    exact ⟨fun _ => hsame, fun hr => absurd rfl hr⟩
  · rw [if_neg hsame] at h
    -- every arm goes on to the same match on the result of its calls
    split at h
    all_goals
      simp only [bind, Option.bind_eq_some_iff] at h
      obtain ⟨⟨mgr₁, r₁⟩, -, h⟩ := h
      cases r₁ with
      | error e =>
        simp only [pure, Option.some.injEq, Prod.mk.injEq] at h
        obtain ⟨rfl, -, rfl⟩ := h
        exact ⟨(fun hr => nomatch hr), fun _ => rfl⟩
      | ok u =>
        simp only [pure, Option.some.injEq, Prod.mk.injEq] at h
        obtain ⟨rfl, -, rfl⟩ := h
        exact ⟨fun _ => ⟨rfl, rfl⟩, fun hr => absurd rfl hr⟩

/-! ### Writes to the capability's first double word -/

/-- An offset in the register `idx` of the capability area, split as `write_config` splits it. -/
theorem regOffset_split (idx k : UInt32) (hidx : idx.toNat * 4 + 0xc ≤ 0xc0) (hk : k.toNat < 4) :
    (idx * 4 + k) >>> 2 = idx ∧ (idx * 4 + k) &&& 0x3 = k ∧
      (idx * 4 + k).toNat = idx.toNat * 4 + k.toNat := by
  have hnat : (idx * 4 + k).toNat = idx.toNat * 4 + k.toNat := by
    rw [UInt32.toNat_add, UInt32.toNat_mul]
    have h4 : (4 : UInt32).toNat = 4 := rfl
    rw [h4, Nat.mod_eq_of_lt (by omega : idx.toNat * 4 < 2 ^ 32)]
    exact Nat.mod_eq_of_lt (by omega)
  refine ⟨?_, ?_, hnat⟩
  · apply UInt32.toNat_inj.mp
    rw [UInt32.toNat_shiftRight, hnat, Nat.shiftRight_eq_div_pow]
    show (idx.toNat * 4 + k.toNat) / 2 ^ 2 = idx.toNat
    omega
  · apply UInt32.toNat_inj.mp
    rw [UInt32.toNat_and, hnat, show (0x3 : UInt32).toNat = 2 ^ 2 - 1 from rfl,
      Nat.and_two_pow_sub_one_eq_mod]
    omega

namespace VirtioPciConfigSpace

variable {C σ : Type} (ops : PciCapability C) (bus : BarBus σ) (kvm : GroupCalls)

/-- The device's MSI-X capability where `add_pci_capabilities` puts it: at
`4 * msix_cap_reg_idx` in the capability area, after capabilities that all end below it. -/
structure MsixAt (dev : VirtioPciConfigSpace C) (pre post : List (Nat × Nat × DeviceCap C))
    (cap : MsixCap) : Prop where
  capabilities_eq :
    dev.configuration.capabilities = pre ++ (dev.msixCapRegIdx.toNat * 4, 0xc, .msix cap) :: post
  below : ∀ e ∈ pre, e.1 + e.2.1 ≤ dev.msixCapRegIdx.toNat * 4
  first : 0x40 ≤ dev.msixCapRegIdx.toNat * 4
  last : dev.msixCapRegIdx.toNat * 4 + 0xc ≤ 0xc0

/-- The device with its MSI-X capability replaced by `cap`. -/
def withMsixCap (dev : VirtioPciConfigSpace C) (pre post : List (Nat × Nat × DeviceCap C))
    (cap : MsixCap) : VirtioPciConfigSpace C :=
  { dev with configuration := { dev.configuration with
      capabilities := pre ++ (dev.msixCapRegIdx.toNat * 4, 0xc, .msix cap) :: post } }

variable {dev : VirtioPciConfigSpace C} {pre post : List (Nat × Nat × DeviceCap C)} {cap : MsixCap}

/-- Replacing the capability keeps it in place, also in a device whose MSI-X state or manager
has changed. -/
theorem MsixAt.withMsixCap (h : dev.MsixAt pre post cap) (dev₀ : VirtioPciConfigSpace C)
    (hidx : dev₀.msixCapRegIdx = dev.msixCapRegIdx) (cap' : MsixCap) :
    (dev₀.withMsixCap pre post cap').MsixAt pre post cap' :=
  ⟨rfl, hidx ▸ h.below, hidx ▸ h.first, hidx ▸ h.last⟩

theorem MsixAt.msixCapRegIdx_ne (h : dev.MsixAt pre post cap) : dev.msixCapRegIdx ≠ 0 := by
  intro h0
  have := h.first
  rw [h0] at this
  exact absurd this (by decide)

/-- A capability write inside the MSI-X capability's window writes the MSI-X capability. -/
theorem MsixAt.capUpdate (h : dev.MsixAt pre post cap) {k : Nat} (hk : k < 0xc)
    (f : Nat → DeviceCap C → DeviceCap C) :
    capUpdate dev.configuration.capabilities (dev.msixCapRegIdx.toNat * 4 + k) f =
      some (pre ++ (dev.msixCapRegIdx.toNat * 4, 0xc, f (dev.msixCapRegIdx.toNat * 4) (.msix cap)) ::
        post) := by
  rw [h.capabilities_eq]
  exact capUpdate_split h.below (by omega) f

/-- A one-byte write of the message control's high byte goes to the capability only. -/
theorem writeConfig_msgCtl_byte (h : dev.MsixAt pre post cap) (s : σ) (v : UInt8) :
    dev.writeConfig ops bus kvm s (dev.msixCapRegIdx * 4 + 3) [v] =
      some (dev.withMsixCap pre post (cap.writeU8 3 v), s) := by
  obtain ⟨hreg, hin, hnat⟩ := regOffset_split dev.msixCapRegIdx 3 h.last (by decide)
  have hcap := h.capUpdate (by decide : 3 < 0xc)
    (fun base c => (DeviceCap.ops ops).writeU8 c (dev.msixCapRegIdx.toNat * 4 + 3 - base) v)
  have hhdr : ¬256 ≤ dev.msixCapRegIdx.toNat * 4 + 3 := by
    have := h.last
    omega
  simp only [writeConfig, hreg, hin, hnat, if_neg h.msixCapRegIdx_ne]
  simp [PciConfiguration.writeConfig, PciConfiguration.writeU8, capWriteU8, hcap, hhdr]
  rfl

/-- The word at byte 2 goes to `set_msg_ctl` and to the capability. -/
theorem writeConfig_msgCtl_word (h : dev.MsixAt pre post cap) (s : σ) (a b : UInt8) :
    dev.writeConfig ops bus kvm s (dev.msixCapRegIdx * 4 + 2) [a, b] =
      (dev.setMsgCtl kvm (u16OfBytes [a, b])).map fun dev' =>
        (dev'.withMsixCap pre post (MsixCap.ops.writeU16 cap 2 (u16OfBytes [a, b])), s) := by
  obtain ⟨hreg, hin, hnat⟩ := regOffset_split dev.msixCapRegIdx 2 h.last (by decide)
  have hcap := h.capUpdate (by decide : 2 < 0xc) (fun base c =>
    (DeviceCap.ops ops).writeU16 c (dev.msixCapRegIdx.toNat * 4 + 2 - base) (u16OfBytes [a, b]))
  have hhdr : ¬256 ≤ dev.msixCapRegIdx.toNat * 4 + 2 := by
    have := h.last
    omega
  simp only [writeConfig, setMsgCtl, hreg, hin, hnat, if_neg h.msixCapRegIdx_ne]
  cases hset : dev.msixState.setMsgCtl (u16OfBytes [a, b]) dev.intrMgr kvm with
  | none => simp
  | some res =>
    obtain ⟨st, mgr, r⟩ := res
    have heven : dev.msixCapRegIdx.toNat * 4 % 2 = 0 := by omega
    simp [PciConfiguration.writeConfig, PciConfiguration.writeU16, capWriteU16, hcap, hhdr, heven]
    rfl

/-- The whole double word goes to `set_msg_ctl`, as its upper word, and to the capability. -/
theorem writeConfig_msgCtl_dword (h : dev.MsixAt pre post cap) (s : σ) (a b c d : UInt8) :
    dev.writeConfig ops bus kvm s (dev.msixCapRegIdx * 4) [a, b, c, d] =
      (dev.setMsgCtl kvm (u32OfBytes [a, b, c, d] >>> 16).toUInt16).map fun dev' =>
        (dev'.withMsixCap pre post (MsixCap.ops.writeU32 cap 0 (u32OfBytes [a, b, c, d])), s) := by
  obtain ⟨hreg, hin, hnat⟩ := regOffset_split dev.msixCapRegIdx 0 h.last (by decide)
  rw [UInt32.add_zero] at hreg hin hnat
  have hcap := h.capUpdate (by decide : 0 < 0xc) (fun base c' =>
    (DeviceCap.ops ops).writeU32 c' (dev.msixCapRegIdx.toNat * 4 + 0 - base) (u32OfBytes [a, b, c, d]))
  have hhdr : ¬256 ≤ dev.msixCapRegIdx.toNat * 4 := by
    have := h.last
    omega
  simp only [writeConfig, setMsgCtl, hreg, hin, hnat, if_neg h.msixCapRegIdx_ne]
  cases hset : dev.msixState.setMsgCtl (u32OfBytes [a, b, c, d] >>> 16).toUInt16 dev.intrMgr kvm with
  | none => simp
  | some res =>
    obtain ⟨st, mgr, r⟩ := res
    -- the capability's register is past the header's sixteen
    have hsh : (dev.msixCapRegIdx.toNat * 4) >>> 2 = dev.msixCapRegIdx.toNat := by
      rw [Nat.shiftRight_eq_div_pow]
      omega
    have h16 : ¬(dev.msixCapRegIdx.toNat = 0 ∨ dev.msixCapRegIdx.toNat = 2) ∧
        ¬(dev.msixCapRegIdx.toNat = 1 ∨ dev.msixCapRegIdx.toNat = 3) ∧
        ¬dev.msixCapRegIdx.toNat < 16 := by
      have := h.first
      omega
    have hlt : dev.msixCapRegIdx.toNat < numConfigurationRegisters := by
      have := h.last
      unfold numConfigurationRegisters
      omega
    simp only [Nat.add_zero] at hcap
    simp [PciConfiguration.writeConfig, PciConfiguration.writeU32, capWriteU32, hhdr, hsh, hcap,
      Vector.getElem?_eq_getElem hlt, h16.1, h16.2.1, h16.2.2]
    rfl

/-- The guest reads the message control as the word at byte 2 of the capability. -/
theorem readConfig_msgCtl (h : dev.MsixAt pre post cap) :
    dev.configuration.readConfig (DeviceCap.ops ops) (dev.msixCapRegIdx.toNat * 4 + 2) 2 =
      some (bytesOfU16 cap.msgCtl) := by
  have hat : capAt dev.configuration.capabilities (dev.msixCapRegIdx.toNat * 4 + 2) =
      some (dev.msixCapRegIdx.toNat * 4, .msix cap) := by
    rw [h.capabilities_eq]
    exact capAt_split h.below (by omega)
  have hhdr : ¬256 ≤ dev.msixCapRegIdx.toNat * 4 + 2 := by
    have := h.last
    omega
  have heven : (dev.msixCapRegIdx.toNat * 4 + 2) % 2 = 0 := by omega
  simp [readConfig, PciConfiguration.readU16, capReadU16, hat, hhdr, heven]
  exact congrArg bytesOfU16 (MsixCap.ops_readU16_two cap)

end VirtioPciConfigSpace

/-- A successful `set_msg_ctl` on `r` agrees with the capability's high byte written from `r`. -/
theorem MsixState.agrees_of_setMsgCtl {st st' : MsixState} {r : UInt16}
    {mgr mgr' : DeviceInterruptManager} {kvm : GroupCalls}
    (hset : st.setMsgCtl r mgr kvm = some (st', mgr', .ok ())) (cap : MsixCap) :
    Agrees st' (cap.writeU8 3 (r >>> 8).toUInt8) := by
  obtain ⟨he, hm⟩ := (MsixState.setMsgCtl_spec hset).1 rfl
  exact agrees_writeU8_highByte cap he hm

/-! ### Agreement of the state and the capability -/

namespace VirtioPciConfigSpace

variable {C σ : Type} (ops : PciCapability C) (bus : BarBus σ) (kvm : GroupCalls)
variable {dev : VirtioPciConfigSpace C} {pre post : List (Nat × Nat × DeviceCap C)} {cap : MsixCap}

/-- A write of the word at byte 2 keeps the capability in place; the MSI-X state agrees with it
when `set_msg_ctl` succeeds and keeps its bits when a call fails. -/
theorem writeConfig_msgCtl_word_spec (h : dev.MsixAt pre post cap) (s : σ) (a b : UInt8)
    {st : MsixState} {mgr : DeviceInterruptManager} {r : Except Error Unit}
    (hset : dev.msixState.setMsgCtl (u16OfBytes [a, b]) dev.intrMgr kvm = some (st, mgr, r)) :
    ∃ dev' cap', dev.writeConfig ops bus kvm s (dev.msixCapRegIdx * 4 + 2) [a, b] = some (dev', s) ∧
      dev'.MsixAt pre post cap' ∧ dev'.msixState = st ∧
      (r = .ok () → Agrees st cap') ∧ (r ≠ .ok () → st = dev.msixState) := by
  have hwrite := writeConfig_msgCtl_word ops bus kvm h s a b
  simp only [setMsgCtl, hset, Option.map_some] at hwrite
  refine ⟨_, _, hwrite, h.withMsixCap { dev with msixState := st, intrMgr := mgr } rfl _, rfl, ?_, (MsixState.setMsgCtl_spec hset).2⟩
  rintro rfl
  exact MsixState.agrees_of_setMsgCtl hset cap

/-- The same for a write of the whole double word, whose upper word `set_msg_ctl` takes. -/
theorem writeConfig_msgCtl_dword_spec (h : dev.MsixAt pre post cap) (s : σ) (a b c d : UInt8)
    {st : MsixState} {mgr : DeviceInterruptManager} {r : Except Error Unit}
    (hset : dev.msixState.setMsgCtl (u32OfBytes [a, b, c, d] >>> 16).toUInt16 dev.intrMgr kvm =
      some (st, mgr, r)) :
    ∃ dev' cap', dev.writeConfig ops bus kvm s (dev.msixCapRegIdx * 4) [a, b, c, d] =
        some (dev', s) ∧
      dev'.MsixAt pre post cap' ∧ dev'.msixState = st ∧
      (r = .ok () → Agrees st cap') ∧ (r ≠ .ok () → st = dev.msixState) := by
  have hwrite := writeConfig_msgCtl_dword ops bus kvm h s a b c d
  simp only [setMsgCtl, hset, Option.map_some] at hwrite
  refine ⟨_, _, hwrite, h.withMsixCap { dev with msixState := st, intrMgr := mgr } rfl _, rfl, ?_, (MsixState.setMsgCtl_spec hset).2⟩
  rintro rfl
  exact MsixState.agrees_of_setMsgCtl hset cap

/-- A one-byte write of the enable bit reaches the capability and not the MSI-X state: the guest
reads MSI-X back as enabled while the device has not enabled it. -/
theorem msgCtl_byte_write_desyncs (h : dev.MsixAt pre post cap)
    (hoff : dev.msixState.enabled = false) (s : σ) :
    ∃ dev', dev.writeConfig ops bus kvm s (dev.msixCapRegIdx * 4 + 3) [0x80] = some (dev', s) ∧
      dev'.configuration.readConfig (DeviceCap.ops ops) (dev.msixCapRegIdx.toNat * 4 + 2) 2 =
        some (bytesOfU16 (cap.writeU8 3 0x80).msgCtl) ∧
      (cap.writeU8 3 0x80).msgCtl &&& msixEnableMask ≠ 0 ∧ dev'.msixState.enabled = false := by
  refine ⟨_, writeConfig_msgCtl_byte ops bus kvm h s 0x80,
    readConfig_msgCtl ops (h.withMsixCap dev rfl _), ?_, hoff⟩
  rw [MsixCap.writeU8_three_and cap 0x80 (by decide)]
  decide

end VirtioPciConfigSpace

/-- Capabilities other than MSI-X that hold nothing, a bus that grants every request, and KVM
calls that succeed. -/
def emptyCapOps : PciCapability Unit :=
  PciCapability.ofBytes (fun _ => 0) (fun _ _ => 0xff) fun c _ _ => c

def grantingBus : BarBus Unit := ⟨fun s _ => some s, fun s _ => s⟩

def kvmOk : GroupCalls := ⟨true, true, fun _ => true, fun _ => true⟩

/-- The MSI-X capability of one vector at `0x40`, as `add_pci_capabilities` adds it first, with a
new interrupt manager of one PCI MSI-X interrupt. -/
def oneVectorDevice : VirtioPciConfigSpace Unit :=
  ⟨⟨.Device, Vector.replicate 64 0, Vector.replicate 64 0, Vector.replicate 7 ⟨0, 0, none, false⟩,
    none, [(0x40, 0xc, .msix ⟨pciCapabilityIdMsix, 0, 0, 0x8000, 0x48000⟩)]⟩,
    ⟨[default], false, false⟩, DeviceInterruptManager.new [.MsiIrq .PciMsix 24 1], 0x10⟩

theorem msgCtl_byte_write_desyncs_one_vector :
    oneVectorDevice.MsixAt [] [] ⟨pciCapabilityIdMsix, 0, 0, 0x8000, 0x48000⟩ ∧
      oneVectorDevice.msixState.enabled = false ∧
      ∃ dev', oneVectorDevice.writeConfig emptyCapOps grantingBus kvmOk () (0x10 * 4 + 3) [0x80] =
          some (dev', ()) ∧
        dev'.configuration.readConfig (DeviceCap.ops emptyCapOps) (0x10 * 4 + 2) 2 =
          some (bytesOfU16 (MsixCap.writeU8 ⟨pciCapabilityIdMsix, 0, 0, 0x8000, 0x48000⟩ 3 0x80).msgCtl) ∧
        (MsixCap.writeU8 ⟨pciCapabilityIdMsix, 0, 0, 0x8000, 0x48000⟩ 3 0x80).msgCtl &&&
          msixEnableMask ≠ 0 ∧ dev'.msixState.enabled = false := by
  have hat : oneVectorDevice.MsixAt [] [] ⟨pciCapabilityIdMsix, 0, 0, 0x8000, 0x48000⟩ :=
    ⟨rfl, (fun _ he => nomatch he), by decide, by decide⟩
  exact ⟨hat, rfl, VirtioPciConfigSpace.msgCtl_byte_write_desyncs emptyCapOps grantingBus kvmOk hat rfl ()⟩

end KataContainers.Pci

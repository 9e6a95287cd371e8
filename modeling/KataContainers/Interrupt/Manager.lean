import KataContainers.ResourceManager
import KataContainers.Lib.ExceptSpec

/-!
# The interrupt mode of a device

`DeviceInterruptManager` of `dbs_interrupt::manager` with the `legacy-irq` and `msi-irq`
features: the interrupt groups built from the device's resources, the working mode and its
transitions, the switch between the configuration stage and the runtime stage (`enable`,
`reset`), and the MSI configuration of each interrupt.

The calls of the manager on an interrupt group (`enable`, `disable`, `update`) go to KVM; the
model keeps of a group the number of its interrupts, and each call of the manager is given
whether the group's call succeeds.

A working mode is selected by `set_working_mode` whether or not the device has a group for it:
`current_idx` is then `usize::MAX`, and `enable` indexes `intr_groups` with it. `reset` leaves the
MSI configuration as it is: `set_working_mode` resets the configuration of the new mode, and
the new mode is `Disabled`, whose configuration `reset_configs` does not touch.
-/

namespace KataContainers.Interrupt

open ExceptSpec

/-- `usize::MAX`, the index of an absent group in `mode2idx`. -/
def usizeMax : Nat := 2 ^ 64 - 1

inductive DeviceInterruptMode where
  | Disabled
  | LegacyIrq
  | GenericMsiIrq
  | PciMsiIrq
  | PciMsixIrq
deriving DecidableEq, Repr

/-- `mode as usize`. -/
def DeviceInterruptMode.toNat : DeviceInterruptMode → Nat
  | .Disabled => 0
  | .LegacyIrq => 1
  | .GenericMsiIrq => 2
  | .PciMsiIrq => 3
  | .PciMsixIrq => 4

theorem DeviceInterruptMode.toNat_lt (mode : DeviceInterruptMode) : mode.toNat < 5 := by
  cases mode <;> decide

theorem DeviceInterruptMode.toNat_inj {mode mode' : DeviceInterruptMode} :
    mode.toNat = mode'.toNat ↔ mode = mode' := by
  cases mode <;> cases mode' <;> decide

structure MsiIrqSourceConfig where
  highAddr : UInt32
  lowAddr : UInt32
  data : UInt32
  msgCtl : UInt32
  deviceId : Option UInt32
deriving DecidableEq, Repr

/-- `MsiIrqSourceConfig::default()`. -/
def MsiIrqSourceConfig.default : MsiIrqSourceConfig := ⟨0, 0, 0, 0, none⟩

inductive InterruptSourceConfig where
  | LegacyIrq
  | MsiIrq (msi : MsiIrqSourceConfig)
deriving DecidableEq, Repr

/-- `MSI_INT_MASK`. -/
def msiIntMask : UInt32 := (1 : UInt32) <<< 0

/-- `MSI_DEVICE_ID_SHIFT`. -/
def msiDeviceIdShift : UInt32 := 3

/-- What the manager reads of an interrupt source group: `len()`. -/
structure InterruptSourceGroup where
  len : UInt32
deriving DecidableEq, Repr

/-- The panics of the manager: an index out of the bounds of `intr_groups` or of `msi_config`, and
`panic!("unhandled interrupt type in get_configs()")`. -/
inductive Panic where
  | indexOutOfBounds
  | unhandledInterruptType
deriving DecidableEq, Repr

/-- The errors the calls return: `EINVAL`, and the error of a call on an interrupt group. -/
inductive Error where
  | einval
  | group
deriving DecidableEq, Repr

structure DeviceInterruptManager where
  mode : DeviceInterruptMode
  activated : Bool
  currentIdx : Nat
  mode2idx : List Nat
  intrGroups : List InterruptSourceGroup
  msiConfig : List InterruptSourceConfig
  deviceId : Option UInt32
deriving DecidableEq, Repr

/-- `DeviceResources::get_legacy_irq`: the first legacy IRQ. -/
def getLegacyIrq : List Resource → Option UInt32
  | [] => none
  | .LegacyIrq base :: _ => some base
  | _ :: rs => getLegacyIrq rs

/-- `DeviceResources::get_msi_irqs`: the base and size of the first MSI resource of the type. -/
def getMsiIrqs (ty : MsiIrqType) : List Resource → Option (UInt32 × UInt32)
  | [] => none
  | .MsiIrq msiType base size :: rs => if ty == msiType then some (base, size) else getMsiIrqs ty rs
  | _ :: rs => getMsiIrqs ty rs

namespace DeviceInterruptManager

/-- `mode2idx[mode as usize]`. -/
def modeIdx (m : DeviceInterruptManager) (mode : DeviceInterruptMode) : Nat :=
  m.mode2idx.getD mode.toNat usizeMax

/-- `self.intr_groups[self.current_idx]`. -/
def currentGroup (m : DeviceInterruptManager) : Except Panic InterruptSourceGroup :=
  match m.intrGroups[m.currentIdx]? with
  | some g => .ok g
  | none => .error .indexOutOfBounds

/-- `resize_msi_config_space`. -/
def resizeMsiConfigSpace (m : DeviceInterruptManager) (size : UInt32) : DeviceInterruptManager :=
  if m.msiConfig.length < size.toNat then
    { m with msiConfig := List.replicate size.toNat (.MsiIrq .default) }
  else m

/-- The group of `count` interrupts that `create_group` made for a mode pushed to `intr_groups`,
its index recorded in `mode2idx`. -/
def pushGroup (m : DeviceInterruptManager) (mode : DeviceInterruptMode) (count : UInt32) :
    DeviceInterruptManager :=
  { m with
    mode2idx := m.mode2idx.set mode.toNat m.intrGroups.length
    intrGroups := m.intrGroups ++ [⟨count⟩] }

/-- The block of `new` for one MSI resource: the group, and an MSI configuration for each of its
interrupts. -/
def addMsiGroup (m : DeviceInterruptManager) (mode : DeviceInterruptMode)
    (msi : Option (UInt32 × UInt32)) : DeviceInterruptManager :=
  match msi with
  | some (_, count) => (m.resizeMsiConfigSpace count).pushGroup mode count
  | none => m

/-- `DeviceInterruptManager::new`, with the groups that `create_group` makes: one interrupt for
the legacy IRQ, `size` for an MSI resource. -/
def new (resources : List Resource) : DeviceInterruptManager :=
  let mgr : DeviceInterruptManager :=
    ⟨.Disabled, false, usizeMax, List.replicate 5 usizeMax, [], [], none⟩
  let mgr := match getLegacyIrq resources with
    | some _ => mgr.pushGroup .LegacyIrq 1
    | none => mgr
  let mgr := mgr.addMsiGroup .GenericMsiIrq (getMsiIrqs .GenericMsi resources)
  let mgr := mgr.addMsiGroup .PciMsiIrq (getMsiIrqs .PciMsi resources)
  mgr.addMsiGroup .PciMsixIrq (getMsiIrqs .PciMsix resources)

/-- `reset_configs`. -/
def resetConfigs (m : DeviceInterruptManager) (mode : DeviceInterruptMode) :
    DeviceInterruptManager :=
  match mode with
  | .GenericMsiIrq | .PciMsiIrq | .PciMsixIrq =>
      { m with msiConfig := List.replicate m.msiConfig.length (.MsiIrq .default) }
  | _ => m

/-- `get_configs`. -/
def getConfigs (m : DeviceInterruptManager) (mode : DeviceInterruptMode) :
    Except Panic (List InterruptSourceConfig) :=
  match mode with
  | .LegacyIrq => .ok [.LegacyIrq]
  | .GenericMsiIrq | .PciMsiIrq | .PciMsixIrq =>
      match m.intrGroups[m.modeIdx mode]? with
      | some g =>
          if g.len.toNat ≤ m.msiConfig.length then .ok (m.msiConfig.take g.len.toNat)
          else .error .indexOutOfBounds
      | none => .error .indexOutOfBounds
  | .Disabled => .error .unhandledInterruptType

/-- `set_working_mode`: the manager after the call, and its result. -/
def setWorkingMode (m : DeviceInterruptManager) (mode : DeviceInterruptMode) :
    DeviceInterruptManager × Except Error Unit :=
  if m.activated then (m, .error .einval)
  else if mode != m.mode then
    if m.mode != .Disabled && m.mode != .LegacyIrq && mode != .LegacyIrq &&
        mode != .Disabled then (m, .error .einval)
    else
      let m := if mode != .Disabled then { m with currentIdx := m.modeIdx mode }
        else m.resetConfigs mode
      ({ m with mode := mode }, .ok ())
  else (m, .ok ())

/-- `enable`, `groupOk` the result of the group's `enable`. -/
def enable (m : DeviceInterruptManager) (groupOk : Bool) :
    Except Panic (DeviceInterruptManager × Except Error Unit) :=
  if m.activated then .ok (m, .ok ())
  else
    -- "Enter Legacy mode by default if Legacy mode is supported."
    let (m, r) := if m.mode == .Disabled && m.modeIdx .LegacyIrq != usizeMax then
      m.setWorkingMode .LegacyIrq else (m, .ok ())
    match r with
    | .error e => .ok (m, .error e)
    | .ok () =>
        if m.mode == .Disabled then .ok (m, .error .einval)
        else do
          let _ ← m.currentGroup
          let _ ← m.getConfigs m.mode
          if groupOk then .ok ({ m with activated := true }, .ok ()) else .ok (m, .error .group)

/-- `reset`, `groupOk` the result of the group's `disable`. -/
def reset (m : DeviceInterruptManager) (groupOk : Bool) :
    Except Panic (DeviceInterruptManager × Except Error Unit) :=
  if m.activated then do
    let m := { m with activated := false }
    let _ ← m.currentGroup
    if groupOk then .ok (m.setWorkingMode .Disabled) else .ok (m, .error .group)
  else .ok (m.setWorkingMode .Disabled)

/-- `get_group`. -/
def getGroup (m : DeviceInterruptManager) : Except Panic (Option InterruptSourceGroup) :=
  if !m.activated || m.mode == .Disabled then .ok none else m.currentGroup.map some

/-- `update`, `groupOk` the result of the group's `update`. -/
def update (m : DeviceInterruptManager) (index : UInt32) (groupOk : Bool) :
    Except Panic (Except Error Unit) :=
  if !m.activated then .ok (.error .einval)
  else
    match m.mode with
    | .GenericMsiIrq | .PciMsiIrq | .PciMsixIrq => do
        let group ← m.currentGroup
        if index ≥ group.len || index ≥ UInt32.ofNat m.msiConfig.length then
          .ok (.error .einval)
        else .ok (if groupOk then .ok () else .error .group)
    | _ => .ok (.error .einval)

/-- The common body of the `set_msi_*` calls: a change of the MSI configuration of the interrupt
`index`, refused with `EINVAL` for an index past `msi_config`. -/
def setMsiConfig (m : DeviceInterruptManager) (index : UInt32)
    (f : MsiIrqSourceConfig → MsiIrqSourceConfig) : DeviceInterruptManager × Except Error Unit :=
  match m.msiConfig[index.toNat]? with
  | some (.MsiIrq msi) =>
      ({ m with msiConfig := m.msiConfig.set index.toNat (.MsiIrq (f msi)) }, .ok ())
  | _ => (m, .error .einval)

def setMsiHighAddress (m : DeviceInterruptManager) (index data : UInt32) :
    DeviceInterruptManager × Except Error Unit :=
  m.setMsiConfig index fun msi => { msi with highAddr := data }

def setMsiLowAddress (m : DeviceInterruptManager) (index data : UInt32) :
    DeviceInterruptManager × Except Error Unit :=
  m.setMsiConfig index fun msi => { msi with lowAddr := data }

def setMsiData (m : DeviceInterruptManager) (index data : UInt32) :
    DeviceInterruptManager × Except Error Unit :=
  m.setMsiConfig index fun msi => { msi with data := data }

def setMsiMask (m : DeviceInterruptManager) (index : UInt32) (mask : Bool) :
    DeviceInterruptManager × Except Error Unit :=
  m.setMsiConfig index fun msi =>
    let msgCtl := msi.msgCtl &&& ~~~msiIntMask
    { msi with msgCtl := if mask then msgCtl ||| msiIntMask else msgCtl }

/-- `set_msi_device_id`, of the aarch64 build. -/
def setMsiDeviceId (m : DeviceInterruptManager) (index : UInt32) :
    DeviceInterruptManager × Except Error Unit :=
  m.setMsiConfig index fun msi => { msi with deviceId := m.deviceId.map (· <<< msiDeviceIdShift) }

/-- The calls that change the manager, each with the result of the group's call it makes. -/
inductive Op where
  | setWorkingMode (mode : DeviceInterruptMode)
  | enable (groupOk : Bool)
  | reset (groupOk : Bool)
  | update (index : UInt32) (groupOk : Bool)
  | setMsiHighAddress (index data : UInt32)
  | setMsiLowAddress (index data : UInt32)
  | setMsiData (index data : UInt32)
  | setMsiMask (index : UInt32) (mask : Bool)
  | setMsiDeviceId (index : UInt32)
  | setDeviceId (deviceId : Option UInt32)

/-- The manager after a call; a call that returns an error has still made its changes. -/
def step (m : DeviceInterruptManager) : Op → Except Panic DeviceInterruptManager
  | .setWorkingMode mode => .ok (m.setWorkingMode mode).1
  | .enable groupOk => (m.enable groupOk).map (·.1)
  | .reset groupOk => (m.reset groupOk).map (·.1)
  | .update index groupOk => (m.update index groupOk).map fun _ => m
  | .setMsiHighAddress index data => .ok (m.setMsiHighAddress index data).1
  | .setMsiLowAddress index data => .ok (m.setMsiLowAddress index data).1
  | .setMsiData index data => .ok (m.setMsiData index data).1
  | .setMsiMask index mask => .ok (m.setMsiMask index mask).1
  | .setMsiDeviceId index => .ok (m.setMsiDeviceId index).1
  | .setDeviceId deviceId => .ok { m with deviceId := deviceId }

def run (m : DeviceInterruptManager) (ops : List Op) : Except Panic DeviceInterruptManager :=
  ops.foldlM step m

/-! ### The groups that `new` builds -/

/-- The manager that `new` starts from: no group, and no mode. -/
def empty : DeviceInterruptManager :=
  ⟨.Disabled, false, usizeMax, List.replicate 5 usizeMax, [], [], none⟩

@[simp] theorem empty_mode : empty.mode = .Disabled := rfl

@[simp] theorem empty_activated : empty.activated = false := rfl

@[simp] theorem empty_intrGroups : empty.intrGroups = [] := rfl

/-- The legacy block of `new`: a group of one interrupt if the device has a legacy IRQ. -/
def addLegacyGroup (m : DeviceInterruptManager) (irq : Option UInt32) : DeviceInterruptManager :=
  match irq with
  | some _ => m.pushGroup .LegacyIrq 1
  | none => m

/- The equations of the blocks of `new`, which the proofs below rewrite with rather than unfold
the definitions. -/

theorem addLegacyGroup_none (m : DeviceInterruptManager) : m.addLegacyGroup none = m := rfl

theorem addLegacyGroup_some (m : DeviceInterruptManager) (irq : UInt32) :
    m.addLegacyGroup (some irq) = m.pushGroup .LegacyIrq 1 := rfl

theorem addMsiGroup_none (m : DeviceInterruptManager) (mode : DeviceInterruptMode) :
    m.addMsiGroup mode none = m := rfl

theorem addMsiGroup_some (m : DeviceInterruptManager) (mode : DeviceInterruptMode)
    (msi : UInt32 × UInt32) :
    m.addMsiGroup mode (some msi) = (m.resizeMsiConfigSpace msi.2).pushGroup mode msi.2 := rfl

theorem resizeMsiConfigSpace_eq (m : DeviceInterruptManager) (size : UInt32) :
    m.resizeMsiConfigSpace size =
      if m.msiConfig.length < size.toNat then
        { m with msiConfig := List.replicate size.toNat (.MsiIrq .default) }
      else m := rfl

/-- Managers with the same `mode2idx` give every mode the same index. -/
theorem modeIdx_congr {m m' : DeviceInterruptManager} (h : m'.mode2idx = m.mode2idx)
    (mode : DeviceInterruptMode) : m'.modeIdx mode = m.modeIdx mode :=
  congrArg (fun l => l.getD mode.toNat usizeMax) h

theorem new_eq (resources : List Resource) :
    new resources =
      (((empty.addLegacyGroup (getLegacyIrq resources)).addMsiGroup .GenericMsiIrq
        (getMsiIrqs .GenericMsi resources)).addMsiGroup .PciMsiIrq
          (getMsiIrqs .PciMsi resources)).addMsiGroup .PciMsixIrq
            (getMsiIrqs .PciMsix resources) := by
  unfold new addLegacyGroup
  split <;> rfl

/-- Whether `new` makes a group for the mode from the device's resources. -/
def hasGroup (resources : List Resource) : DeviceInterruptMode → Bool
  | .Disabled => false
  | .LegacyIrq => (getLegacyIrq resources).isSome
  | .GenericMsiIrq => (getMsiIrqs .GenericMsi resources).isSome
  | .PciMsiIrq => (getMsiIrqs .PciMsi resources).isSome
  | .PciMsixIrq => (getMsiIrqs .PciMsix resources).isSome

section Groups

variable {m : DeviceInterruptManager}

@[simp] theorem pushGroup_intrGroups (mode : DeviceInterruptMode) (count : UInt32) :
    (m.pushGroup mode count).intrGroups = m.intrGroups ++ [⟨count⟩] := rfl

@[simp] theorem pushGroup_msiConfig (mode : DeviceInterruptMode) (count : UInt32) :
    (m.pushGroup mode count).msiConfig = m.msiConfig := rfl

@[simp] theorem pushGroup_mode2idx_length (mode : DeviceInterruptMode) (count : UInt32) :
    (m.pushGroup mode count).mode2idx.length = m.mode2idx.length := List.length_set

@[simp] theorem pushGroup_mode (mode : DeviceInterruptMode) (count : UInt32) :
    (m.pushGroup mode count).mode = m.mode := rfl

@[simp] theorem pushGroup_activated (mode : DeviceInterruptMode) (count : UInt32) :
    (m.pushGroup mode count).activated = m.activated := rfl

/-- The group pushed for a mode is the one its index names; the other modes keep theirs. -/
theorem modeIdx_pushGroup (h5 : m.mode2idx.length = 5) (mode mode' : DeviceInterruptMode)
    (count : UInt32) :
    (m.pushGroup mode count).modeIdx mode' =
      if mode = mode' then m.intrGroups.length else m.modeIdx mode' := by
  simp only [modeIdx, pushGroup, List.getD_eq_getElem?_getD, List.getElem?_set, h5,
    mode.toNat_lt, if_true, DeviceInterruptMode.toNat_inj]
  split <;> rfl

@[simp] theorem resizeMsiConfigSpace_intrGroups (size : UInt32) :
    (m.resizeMsiConfigSpace size).intrGroups = m.intrGroups := by
  rw [resizeMsiConfigSpace_eq]; split <;> rfl

@[simp] theorem resizeMsiConfigSpace_mode2idx (size : UInt32) :
    (m.resizeMsiConfigSpace size).mode2idx = m.mode2idx := by
  rw [resizeMsiConfigSpace_eq]; split <;> rfl

@[simp] theorem resizeMsiConfigSpace_mode (size : UInt32) :
    (m.resizeMsiConfigSpace size).mode = m.mode := by
  rw [resizeMsiConfigSpace_eq]; split <;> rfl

@[simp] theorem resizeMsiConfigSpace_activated (size : UInt32) :
    (m.resizeMsiConfigSpace size).activated = m.activated := by
  rw [resizeMsiConfigSpace_eq]; split <;> rfl

/-- `msi_config` only grows, to the size asked for. -/
theorem le_resizeMsiConfigSpace_length (size : UInt32) :
    size.toNat ≤ (m.resizeMsiConfigSpace size).msiConfig.length ∧
      m.msiConfig.length ≤ (m.resizeMsiConfigSpace size).msiConfig.length := by
  rw [resizeMsiConfigSpace_eq]
  split <;> simp <;> omega

@[simp] theorem addMsiGroup_mode (mode : DeviceInterruptMode) (msi : Option (UInt32 × UInt32)) :
    (m.addMsiGroup mode msi).mode = m.mode := by
  cases msi <;> simp [addMsiGroup_none, addMsiGroup_some]

@[simp] theorem addMsiGroup_activated (mode : DeviceInterruptMode)
    (msi : Option (UInt32 × UInt32)) : (m.addMsiGroup mode msi).activated = m.activated := by
  cases msi <;> simp [addMsiGroup_none, addMsiGroup_some]

@[simp] theorem addLegacyGroup_mode (irq : Option UInt32) :
    (m.addLegacyGroup irq).mode = m.mode := by
  cases irq <;> rfl

@[simp] theorem addLegacyGroup_activated (irq : Option UInt32) :
    (m.addLegacyGroup irq).activated = m.activated := by
  cases irq <;> rfl

theorem addMsiGroup_length_le (mode : DeviceInterruptMode) (msi : Option (UInt32 × UInt32)) :
    (m.addMsiGroup mode msi).intrGroups.length ≤ m.intrGroups.length + 1 := by
  cases msi <;> simp [addMsiGroup_none, addMsiGroup_some]

theorem addLegacyGroup_length_le (irq : Option UInt32) :
    (m.addLegacyGroup irq).intrGroups.length ≤ m.intrGroups.length + 1 := by
  cases irq <;> simp [addLegacyGroup_none, addLegacyGroup_some]

/-- The facts of the groups that every call after `new` relies on: each mode has no group
(`usize::MAX`) or the index of its group, and an MSI group is no longer than `msi_config`. -/
structure GroupsWf (m : DeviceInterruptManager) : Prop where
  mode2idx_length : m.mode2idx.length = 5
  length_lt : m.intrGroups.length < usizeMax
  modeIdx_cases : ∀ mode, m.modeIdx mode = usizeMax ∨ m.modeIdx mode < m.intrGroups.length
  msi_len : ∀ mode g, mode ≠ .LegacyIrq → m.intrGroups[m.modeIdx mode]? = some g →
    g.len.toNat ≤ m.msiConfig.length

theorem groupsWf_empty : empty.GroupsWf :=
  ⟨rfl, by decide, fun mode => .inl (by cases mode <;> rfl), fun _ _ _ hget => by
    simp at hget⟩

/-- The facts hold of a manager with the same groups and a longer `msi_config`. -/
theorem GroupsWf.of_eq {m' : DeviceInterruptManager} (h : m.GroupsWf)
    (hg : m'.intrGroups = m.intrGroups) (hi : m'.mode2idx = m.mode2idx)
    (hc : m.msiConfig.length ≤ m'.msiConfig.length) : m'.GroupsWf := by
  have hidx : ∀ mode, m'.modeIdx mode = m.modeIdx mode := modeIdx_congr hi
  refine ⟨hi ▸ h.mode2idx_length, hg ▸ h.length_lt, fun mode => ?_, fun mode g hne hget => ?_⟩
  · rw [hidx, hg]
    exact h.modeIdx_cases mode
  · rw [hidx, hg] at hget
    exact (h.msi_len mode g hne hget).trans hc

theorem GroupsWf.pushGroup (h : m.GroupsWf) (hlen : m.intrGroups.length + 1 < usizeMax)
    {mode : DeviceInterruptMode} {count : UInt32}
    (hc : mode ≠ .LegacyIrq → count.toNat ≤ m.msiConfig.length) :
    (m.pushGroup mode count).GroupsWf := by
  refine ⟨by simp [h.mode2idx_length], by simpa using hlen, fun mode' => ?_,
    fun mode' g hne hget => ?_⟩
  · rw [modeIdx_pushGroup h.mode2idx_length]
    split
    · simp
    · rcases h.modeIdx_cases mode' with h' | h'
      · exact .inl h'
      · simp only [pushGroup_intrGroups, List.length_append, List.length_singleton]
        exact .inr (by omega)
  · rw [modeIdx_pushGroup h.mode2idx_length, pushGroup_intrGroups] at hget
    split at hget
    case isTrue heq =>
      subst heq
      simp only [List.getElem?_append_right (Nat.le_refl _), Nat.sub_self,
        List.getElem?_cons_zero, Option.some.injEq] at hget
      subst hget
      exact hc hne
    case isFalse =>
      rcases h.modeIdx_cases mode' with h' | h'
      · rw [h', List.getElem?_eq_none (by simp; omega)] at hget
        cases hget
      · rw [List.getElem?_append_left h'] at hget
        exact h.msi_len mode' g hne hget

theorem GroupsWf.resizeMsiConfigSpace (h : m.GroupsWf) (size : UInt32) :
    (m.resizeMsiConfigSpace size).GroupsWf :=
  h.of_eq (by simp) (by simp) (le_resizeMsiConfigSpace_length size).2

/-- An MSI group is pushed after `msi_config` has grown to its size. -/
theorem GroupsWf.addMsiGroup (h : m.GroupsWf) (hlen : m.intrGroups.length + 1 < usizeMax)
    (mode : DeviceInterruptMode) (msi : Option (UInt32 × UInt32)) :
    (m.addMsiGroup mode msi).GroupsWf := by
  cases msi with
  | none => exact h
  | some msi =>
    exact (h.resizeMsiConfigSpace msi.2).pushGroup (by simpa using hlen)
      fun _ => (le_resizeMsiConfigSpace_length msi.2).1

theorem GroupsWf.addLegacyGroup (h : m.GroupsWf) (hlen : m.intrGroups.length + 1 < usizeMax)
    (irq : Option UInt32) : (m.addLegacyGroup irq).GroupsWf := by
  cases irq with
  | none => exact h
  | some _ => exact h.pushGroup hlen fun hne => absurd rfl hne

/-- A mode has no group after a push exactly when it had none and is not the mode pushed. -/
theorem modeIdx_pushGroup_eq_usizeMax (h : m.GroupsWf) (mode mode' : DeviceInterruptMode)
    (count : UInt32) :
    (m.pushGroup mode count).modeIdx mode' = usizeMax ↔
      mode ≠ mode' ∧ m.modeIdx mode' = usizeMax := by
  rw [modeIdx_pushGroup h.mode2idx_length]
  split
  case isTrue heq =>
    simp only [heq, ne_eq, not_true_eq_false, false_and, iff_false]
    exact h.length_lt.ne
  case isFalse hne => simp only [ne_eq, hne, not_false_eq_true, true_and]

theorem modeIdx_addMsiGroup_eq_usizeMax (h : m.GroupsWf) (mode mode' : DeviceInterruptMode)
    (msi : Option (UInt32 × UInt32)) :
    (m.addMsiGroup mode msi).modeIdx mode' = usizeMax ↔
      (msi.isSome → mode ≠ mode') ∧ m.modeIdx mode' = usizeMax := by
  cases msi with
  | none => simp [addMsiGroup_none]
  | some msi =>
    have hidx : (m.resizeMsiConfigSpace msi.2).modeIdx mode' = m.modeIdx mode' :=
      modeIdx_congr (resizeMsiConfigSpace_mode2idx msi.2) mode'
    simp only [addMsiGroup_some, modeIdx_pushGroup_eq_usizeMax (h.resizeMsiConfigSpace msi.2), hidx,
      Option.isSome_some, forall_const]

theorem modeIdx_addLegacyGroup_eq_usizeMax (h : m.GroupsWf) (mode' : DeviceInterruptMode)
    (irq : Option UInt32) :
    (m.addLegacyGroup irq).modeIdx mode' = usizeMax ↔
      (irq.isSome → .LegacyIrq ≠ mode') ∧ m.modeIdx mode' = usizeMax := by
  cases irq with
  | none => simp [addLegacyGroup_none]
  | some _ => simp only [addLegacyGroup_some, modeIdx_pushGroup_eq_usizeMax h, Option.isSome_some,
      forall_const]

/-- The four blocks of `new`, each pushing to fewer than four groups. -/
theorem groupsWf_new_steps (resources : List Resource) :
    let m₁ := empty.addLegacyGroup (getLegacyIrq resources)
    let m₂ := m₁.addMsiGroup .GenericMsiIrq (getMsiIrqs .GenericMsi resources)
    let m₃ := m₂.addMsiGroup .PciMsiIrq (getMsiIrqs .PciMsi resources)
    m₁.GroupsWf ∧ m₂.GroupsWf ∧ m₃.GroupsWf ∧ (new resources).GroupsWf := by
  intro m₁ m₂ m₃
  have l₁ : m₁.intrGroups.length ≤ 1 := addLegacyGroup_length_le (m := empty) _
  have l₂ : m₂.intrGroups.length ≤ 2 := (addMsiGroup_length_le (m := m₁) _ _).trans (by omega)
  have l₃ : m₃.intrGroups.length ≤ 3 := (addMsiGroup_length_le (m := m₂) _ _).trans (by omega)
  have h₁ : m₁.GroupsWf := groupsWf_empty.addLegacyGroup (by decide) _
  have h₂ : m₂.GroupsWf := h₁.addMsiGroup (by simp only [usizeMax]; omega) _ _
  have h₃ : m₃.GroupsWf := h₂.addMsiGroup (by simp only [usizeMax]; omega) _ _
  exact ⟨h₁, h₂, h₃, new_eq resources ▸ h₃.addMsiGroup (by simp only [usizeMax]; omega) _ _⟩

theorem groupsWf_new (resources : List Resource) : (new resources).GroupsWf :=
  (groupsWf_new_steps resources).2.2.2

/-- The modes `new` makes no group for are those the device has no resource for. -/
theorem new_modeIdx_eq_usizeMax (resources : List Resource) (mode : DeviceInterruptMode) :
    (new resources).modeIdx mode = usizeMax ↔ hasGroup resources mode = false := by
  obtain ⟨h₁, h₂, h₃, -⟩ := groupsWf_new_steps resources
  rw [new_eq, modeIdx_addMsiGroup_eq_usizeMax h₃, modeIdx_addMsiGroup_eq_usizeMax h₂,
    modeIdx_addMsiGroup_eq_usizeMax h₁, modeIdx_addLegacyGroup_eq_usizeMax groupsWf_empty]
  have h₀ : empty.modeIdx mode = usizeMax := by cases mode <;> rfl
  cases mode <;> simp [hasGroup, h₀]

theorem new_mode (resources : List Resource) : (new resources).mode = .Disabled := by
  simp [new_eq]

theorem new_activated (resources : List Resource) : (new resources).activated = false := by
  simp [new_eq]

end Groups

/-! ### The calls keep the invariant of the groups and the mode -/

section Calls

variable {m : DeviceInterruptManager}

/- The equations of the calls that several proofs below open, stated once. -/

theorem currentGroup_eq :
    m.currentGroup = match m.intrGroups[m.currentIdx]? with
      | some g => .ok g
      | none => .error .indexOutOfBounds := rfl

theorem setWorkingMode_eq (mode : DeviceInterruptMode) :
    m.setWorkingMode mode =
      if m.activated then (m, .error .einval)
      else if mode != m.mode then
        if m.mode != .Disabled && m.mode != .LegacyIrq && mode != .LegacyIrq &&
            mode != .Disabled then (m, .error .einval)
        else
          let m := if mode != .Disabled then { m with currentIdx := m.modeIdx mode }
            else m.resetConfigs mode
          ({ m with mode := mode }, .ok ())
      else (m, .ok ()) := rfl

theorem enable_eq (groupOk : Bool) :
    m.enable groupOk =
      (if m.activated then .ok (m, .ok ())
      else
        let (m, r) := if m.mode == .Disabled && m.modeIdx .LegacyIrq != usizeMax then
          m.setWorkingMode .LegacyIrq else (m, .ok ())
        match r with
        | .error e => .ok (m, .error e)
        | .ok () =>
            if m.mode == .Disabled then .ok (m, .error .einval)
            else do
              let _ ← m.currentGroup
              let _ ← m.getConfigs m.mode
              if groupOk then .ok ({ m with activated := true }, .ok ())
              else .ok (m, .error .group)) := rfl

/-- The invariant of every manager reached from `new`: the groups as `new` built them, the group
of the working mode selected, and an activated manager in a mode with a group. -/
structure Inv (m : DeviceInterruptManager) : Prop where
  groupsWf : m.GroupsWf
  currentIdx_eq : m.mode ≠ .Disabled → m.currentIdx = m.modeIdx m.mode
  activated_mode : m.activated = true → m.mode ≠ .Disabled
  activated_group : m.activated = true → m.currentIdx < m.intrGroups.length

theorem inv_new (resources : List Resource) : (new resources).Inv where
  groupsWf := groupsWf_new resources
  currentIdx_eq h := absurd (new_mode resources) h
  activated_mode h := by simp [new_activated] at h
  activated_group h := by simp [new_activated] at h

theorem currentGroup_of_lt (hlt : m.currentIdx < m.intrGroups.length) :
    m.currentGroup = .ok m.intrGroups[m.currentIdx] := by
  simp [currentGroup_eq, List.getElem?_eq_getElem hlt]

theorem currentGroup_of_le (hle : m.intrGroups.length ≤ m.currentIdx) :
    m.currentGroup = .error .indexOutOfBounds := by
  simp [currentGroup_eq, List.getElem?_eq_none hle]

/-- The configurations of a mode with a group are there. -/
theorem getConfigs_ok (h : m.GroupsWf) {mode : DeviceInterruptMode} (hd : mode ≠ .Disabled)
    (hlt : m.modeIdx mode < m.intrGroups.length) : ∃ cs, m.getConfigs mode = .ok cs := by
  cases mode with
  | Disabled => exact absurd rfl hd
  | LegacyIrq => exact ⟨_, rfl⟩
  | GenericMsiIrq | PciMsiIrq | PciMsixIrq =>
    have hget := List.getElem?_eq_getElem hlt
    have hle := h.msi_len _ _ (by decide) hget
    -- the configurations are the first `len` entries of `msi_config`
    exact ⟨_, by simp only [getConfigs, hget, if_pos hle]; rfl⟩

/-- What `set_working_mode` can do: nothing, or at the configuration stage select a mode other
than `Disabled` with the index of its group, or select `Disabled`. -/
theorem setWorkingMode_cases (m : DeviceInterruptManager) (mode : DeviceInterruptMode) :
    (m.setWorkingMode mode).1 = m ∨
      m.activated = false ∧ mode ≠ .Disabled ∧
        (m.setWorkingMode mode).1 = { m with currentIdx := m.modeIdx mode, mode := mode } ∨
      m.activated = false ∧ mode = .Disabled ∧
        (m.setWorkingMode mode).1 = { m with mode := .Disabled } := by
  rw [setWorkingMode_eq]
  split_ifs with ha hne hbad hd
  · exact .inl rfl
  · exact .inl rfl
  · exact .inr (.inl ⟨by simpa using ha, by simpa using hd, rfl⟩)
  · have hdis : mode = .Disabled := by simpa using hd
    subst hdis
    exact .inr (.inr ⟨by simpa using ha, rfl, rfl⟩)
  · exact .inl rfl

@[simp] theorem setWorkingMode_intrGroups (mode : DeviceInterruptMode) :
    (m.setWorkingMode mode).1.intrGroups = m.intrGroups := by
  rcases setWorkingMode_cases m mode with h | ⟨-, -, h⟩ | ⟨-, -, h⟩ <;> rw [h]

@[simp] theorem setWorkingMode_mode2idx (mode : DeviceInterruptMode) :
    (m.setWorkingMode mode).1.mode2idx = m.mode2idx := by
  rcases setWorkingMode_cases m mode with h | ⟨-, -, h⟩ | ⟨-, -, h⟩ <;> rw [h]

@[simp] theorem setWorkingMode_activated (mode : DeviceInterruptMode) :
    (m.setWorkingMode mode).1.activated = m.activated := by
  rcases setWorkingMode_cases m mode with h | ⟨-, -, h⟩ | ⟨-, -, h⟩ <;> rw [h]

/-- `set_working_mode` never resets the MSI configuration: `reset_configs` is called with the new
mode, and only for `Disabled`, whose configuration it leaves. -/
@[simp] theorem setWorkingMode_msiConfig (mode : DeviceInterruptMode) :
    (m.setWorkingMode mode).1.msiConfig = m.msiConfig := by
  rcases setWorkingMode_cases m mode with h | ⟨-, -, h⟩ | ⟨-, -, h⟩ <;> rw [h]

theorem setWorkingMode_of_activated (ha : m.activated = true) (mode : DeviceInterruptMode) :
    m.setWorkingMode mode = (m, .error .einval) := by
  simp [setWorkingMode_eq, ha]

/-- From `Disabled` at the configuration stage every other mode is selected, with the index of
its group whether or not there is one. -/
theorem setWorkingMode_of_disabled (ha : m.activated = false) (hd : m.mode = .Disabled)
    {mode : DeviceInterruptMode} (hne : mode ≠ .Disabled) :
    m.setWorkingMode mode = ({ m with currentIdx := m.modeIdx mode, mode := mode }, .ok ()) := by
  simp [setWorkingMode_eq, ha, hd, hne]

/-- At the configuration stage `Disabled` is always selected. -/
theorem setWorkingMode_disabled (ha : m.activated = false) :
    (m.setWorkingMode .Disabled).2 = .ok () ∧ (m.setWorkingMode .Disabled).1.mode = .Disabled := by
  by_cases hd : m.mode = .Disabled
  · simp [setWorkingMode_eq, ha, hd]
  · simp [setWorkingMode_eq, ha, Ne.symm hd, resetConfigs]

theorem Inv.setWorkingMode (h : m.Inv) (mode : DeviceInterruptMode) :
    (m.setWorkingMode mode).1.Inv := by
  rcases setWorkingMode_cases m mode with hm | ⟨ha, -, hm⟩ | ⟨ha, -, hm⟩ <;> rw [hm]
  · exact h
  · exact ⟨h.groupsWf.of_eq rfl rfl le_rfl, fun _ => rfl, fun h' => by simp [ha] at h',
      fun h' => by simp [ha] at h'⟩
  · exact ⟨h.groupsWf.of_eq rfl rfl le_rfl, fun hd => absurd rfl hd, fun h' => by simp [ha] at h',
      fun h' => by simp [ha] at h'⟩

/-- The manager at the configuration stage again. -/
theorem Inv.deactivate (h : m.Inv) : ({ m with activated := false } : DeviceInterruptManager).Inv :=
  ⟨h.groupsWf.of_eq rfl rfl le_rfl, h.currentIdx_eq, fun h' => by simp at h',
    fun h' => by simp at h'⟩

theorem enable_of_activated (ha : m.activated = true) (groupOk : Bool) :
    m.enable groupOk = .ok (m, .ok ()) := by
  simp [enable_eq, ha]

/-- The step of `enable` that takes the legacy mode by default from `Disabled` keeps the
invariant, and changes nothing in a mode other than `Disabled` or to one without a group. -/
theorem Inv.legacyDefault (h : m.Inv) (ha : m.activated = false) {m₁ : DeviceInterruptManager}
    {r : Except Error Unit}
    (hm₁ : (if (m.mode == .Disabled && m.modeIdx .LegacyIrq != usizeMax) = true then
      m.setWorkingMode .LegacyIrq else (m, .ok ())) = (m₁, r)) :
    m₁.Inv ∧ (m₁.mode ≠ .Disabled → m₁.modeIdx m₁.mode = usizeMax → m₁ = m) := by
  by_cases hc : (m.mode == .Disabled && m.modeIdx .LegacyIrq != usizeMax) = true
  · rw [if_pos hc] at hm₁
    simp only [Bool.and_eq_true, beq_iff_eq, bne_iff_ne, ne_eq] at hc
    have hinv : m₁.Inv := by
      have := h.setWorkingMode .LegacyIrq
      rwa [hm₁] at this
    rw [setWorkingMode_of_disabled ha hc.1 (by decide), Prod.mk.injEq] at hm₁
    obtain ⟨rfl, -⟩ := hm₁
    -- the legacy mode has a group
    exact ⟨hinv, fun _ hmax => absurd hmax hc.2⟩
  · rw [if_neg hc, Prod.mk.injEq] at hm₁
    rw [← hm₁.1]
    exact ⟨h, fun _ _ => rfl⟩

/-- `enable` keeps the invariant, and panics only for a working mode with no group. -/
theorem enable_spec (h : m.Inv) (groupOk : Bool) :
    Holds (fun _ => m.activated = false ∧ m.mode ≠ .Disabled ∧ m.modeIdx m.mode = usizeMax)
      (fun res => res.1.Inv) (m.enable groupOk) := by
  by_cases ha : m.activated
  · rw [enable_of_activated ha]
    exact h
  rw [enable_eq, if_neg ha]
  simp only [Bool.not_eq_true] at ha
  split
  next m₁ r hm₁ =>
  obtain ⟨h₁, hsame⟩ := h.legacyDefault ha hm₁
  cases r with
  | error e => exact h₁
  | ok u =>
    refine Holds.ite (fun _ => h₁) fun hd => ?_
    simp only [beq_iff_eq] at hd
    by_cases hlt : m₁.currentIdx < m₁.intrGroups.length
    · -- the group of the mode is there, and so are its configurations
      obtain ⟨cs, hcs⟩ := getConfigs_ok h₁.groupsWf hd (h₁.currentIdx_eq hd ▸ hlt)
      rw [currentGroup_of_lt hlt]
      refine Holds.bind (P := fun _ => True) trivial fun _ _ => ?_
      rw [hcs]
      refine Holds.bind (P := fun _ => True) trivial fun _ _ => Holds.ite (fun _ => ?_) fun _ => h₁
      exact ⟨h₁.groupsWf.of_eq rfl rfl le_rfl, h₁.currentIdx_eq, fun _ => hd, fun _ => hlt⟩
    · -- `current_idx` is `usize::MAX`: the mode has no group
      rw [currentGroup_of_le (by omega)]
      have hmax : m₁.modeIdx m₁.mode = usizeMax :=
        (h₁.groupsWf.modeIdx_cases m₁.mode).resolve_right (h₁.currentIdx_eq hd ▸ hlt)
      obtain rfl := hsame hd hmax
      exact ⟨ha, hd, hmax⟩

/-- At the configuration stage in a working mode with no group, `enable` indexes `intr_groups`
with `usize::MAX`. -/
theorem enable_of_no_group (h : m.Inv) (ha : m.activated = false) (hd : m.mode ≠ .Disabled)
    (hmax : m.modeIdx m.mode = usizeMax) (groupOk : Bool) :
    m.enable groupOk = .error .indexOutOfBounds := by
  have hle : m.intrGroups.length ≤ m.currentIdx := by
    rw [h.currentIdx_eq hd, hmax]
    exact h.groupsWf.length_lt.le
  simp [enable_eq, ha, hd, currentGroup_of_le hle, bind, Except.bind]

/-- `reset` never panics, keeps the invariant and returns to the configuration stage; it selects
`Disabled` unless the group's `disable` fails, and it leaves the MSI configuration as it is. -/
theorem reset_spec (h : m.Inv) (groupOk : Bool) :
    Holds (fun _ => False) (fun res => res.1.Inv ∧ res.1.activated = false ∧
      res.1.msiConfig = m.msiConfig ∧ (res.2 = .ok () → res.1.mode = .Disabled))
      (m.reset groupOk) := by
  -- both branches end in `set_working_mode(Disabled)` at the configuration stage
  have hdis : ∀ m₀ : DeviceInterruptManager, m₀.Inv → m₀.activated = false →
      m₀.msiConfig = m.msiConfig →
      Holds (fun _ => False) (fun res => res.1.Inv ∧ res.1.activated = false ∧
        res.1.msiConfig = m.msiConfig ∧ (res.2 = .ok () → res.1.mode = .Disabled))
        (.ok (m₀.setWorkingMode .Disabled) : Except Panic _) := by
    intro m₀ h₀ ha₀ hc₀
    exact ⟨h₀.setWorkingMode .Disabled, by simp [ha₀], by simp [hc₀],
      fun _ => (setWorkingMode_disabled ha₀).2⟩
  unfold reset
  by_cases ha : m.activated
  · rw [if_pos ha]
    dsimp only
    rw [currentGroup_of_lt (m := { m with activated := false }) (h.activated_group ha)]
    refine Holds.bind (P := fun _ => True) trivial fun _ _ => Holds.ite
      (fun _ => hdis _ h.deactivate rfl rfl) fun _ => ?_
    exact ⟨h.deactivate, rfl, rfl, fun hr => by cases hr⟩
  · rw [if_neg ha]
    exact hdis m h (by simpa using ha) rfl

/-- `update` never panics: at the runtime stage the group of the working mode is there. -/
theorem update_ok (h : m.Inv) (index : UInt32) (groupOk : Bool) :
    ∃ r, m.update index groupOk = .ok r := by
  suffices hs : Holds (fun _ => False) (fun _ => True) (m.update index groupOk) from
    hs.exists_ok.imp fun _ hr => hr.1
  unfold update
  refine Holds.ite (fun _ => trivial) fun ha => ?_
  have ha : m.activated = true := by simpa using ha
  split
  all_goals first
    | trivial
    | (rw [currentGroup_of_lt (h.activated_group ha)]
       exact Holds.bind (P := fun _ => True) trivial fun _ _ =>
         Holds.ite (fun _ => trivial) fun _ => trivial)

/-- `get_group` never panics, and returns a group exactly at the runtime stage in a mode other
than `Disabled`. -/
theorem getGroup_isSome (h : m.Inv) :
    ∃ o, m.getGroup = .ok o ∧ (o.isSome = true ↔ m.activated = true ∧ m.mode ≠ .Disabled) := by
  by_cases hg : m.activated = true ∧ m.mode ≠ .Disabled
  · have hlt := h.activated_group hg.1
    refine ⟨some m.intrGroups[m.currentIdx], ?_, by simpa using hg⟩
    simp [getGroup, hg.1, hg.2, currentGroup_of_lt hlt, Except.map]
  · refine ⟨none, ?_, by simpa using hg⟩
    by_cases ha : m.activated
    · simp [getGroup, ha, show m.mode = .Disabled by simpa [ha] using hg]
    · simp [getGroup, ha]

/-- The `set_msi_*` calls change only the entries of `msi_config`. -/
theorem setMsiConfig_frame (index : UInt32) (f : MsiIrqSourceConfig → MsiIrqSourceConfig) :
    ∃ cfg, (m.setMsiConfig index f).1 = { m with msiConfig := cfg } ∧
      cfg.length = m.msiConfig.length := by
  unfold setMsiConfig
  split
  · exact ⟨_, rfl, List.length_set⟩
  · exact ⟨m.msiConfig, rfl, rfl⟩

theorem setMsiConfig_mode (index : UInt32) (f : MsiIrqSourceConfig → MsiIrqSourceConfig) :
    (m.setMsiConfig index f).1.mode = m.mode := by
  obtain ⟨cfg, hm, -⟩ := setMsiConfig_frame (m := m) index f
  rw [hm]

theorem Inv.setMsiConfig (h : m.Inv) (index : UInt32)
    (f : MsiIrqSourceConfig → MsiIrqSourceConfig) : (m.setMsiConfig index f).1.Inv := by
  obtain ⟨cfg, hm, hlen⟩ := setMsiConfig_frame (m := m) index f
  rw [hm]
  exact ⟨h.groupsWf.of_eq rfl rfl hlen.ge, h.currentIdx_eq, h.activated_mode, h.activated_group⟩

/-- A call keeps the invariant; the only call that panics is `enable` at the configuration stage
in a working mode with no group. -/
theorem step_spec (h : m.Inv) (op : Op) :
    Holds (fun _ => ∃ groupOk, op = .enable groupOk ∧ m.activated = false ∧
      m.mode ≠ .Disabled ∧ m.modeIdx m.mode = usizeMax) Inv (m.step op) := by
  cases op with
  | setWorkingMode mode => exact h.setWorkingMode mode
  | enable groupOk =>
    exact ((enable_spec h groupOk).map fun _ hres => hres).mono
      (fun _ he => ⟨groupOk, rfl, he⟩) fun _ => id
  | reset groupOk =>
    exact ((reset_spec h groupOk).map fun _ hres => hres.1).mono (fun _ he => he.elim) fun _ => id
  | update index groupOk =>
    obtain ⟨r, hr⟩ := update_ok h index groupOk
    simp only [step, hr]
    exact h
  | setMsiHighAddress index data => exact h.setMsiConfig index _
  | setMsiLowAddress index data => exact h.setMsiConfig index _
  | setMsiData index data => exact h.setMsiConfig index _
  | setMsiMask index mask => exact h.setMsiConfig index _
  | setMsiDeviceId index => exact h.setMsiConfig index _
  | setDeviceId deviceId =>
    exact ⟨h.groupsWf.of_eq rfl rfl le_rfl, h.currentIdx_eq, h.activated_mode, h.activated_group⟩

/-- At the runtime stage no call changes the working mode. -/
theorem step_mode (h : m.Inv) {op : Op} {m' : DeviceInterruptManager} (hs : m.step op = .ok m')
    (ha : m.activated = true) (ha' : m'.activated = true) : m'.mode = m.mode := by
  cases op with
  | setWorkingMode mode =>
    simp only [step, setWorkingMode_of_activated ha, Except.ok.injEq] at hs
    rw [← hs]
  | enable groupOk =>
    simp only [step, enable_of_activated ha] at hs
    cases hs
    rfl
  | reset groupOk =>
    -- `reset` returns to the configuration stage
    have hres : Holds (fun _ => False) (fun m' : DeviceInterruptManager => m'.activated = false)
        (m.step (.reset groupOk)) := (reset_spec h groupOk).map fun _ hres => hres.2.1
    rw [hs, holds_ok] at hres
    rw [hres] at ha'
    cases ha'
  | update index groupOk =>
    obtain ⟨r, hr⟩ := update_ok h index groupOk
    simp only [step, hr] at hs
    cases hs
    rfl
  | setMsiHighAddress index data | setMsiLowAddress index data | setMsiData index data
  | setMsiMask index data | setMsiDeviceId index =>
    simp only [step, Except.ok.injEq] at hs
    rw [← hs]
    exact setMsiConfig_mode index _
  | setDeviceId deviceId =>
    simp only [step, Except.ok.injEq] at hs
    rw [← hs]

end Calls

/-! ### Runs of calls from `new` -/

section Runs

variable {m : DeviceInterruptManager}

theorem run_inv (h : m.Inv) (ops : List Op) : Holds (fun _ => True) Inv (m.run ops) :=
  Holds.foldlM (fun _ op hm => (step_spec hm op).mono (fun _ _ => trivial) fun _ => id) ops h

/-- The managers a device reaches: `new` from its resources, then any run of calls that returns. -/
def Reachable (m : DeviceInterruptManager) : Prop :=
  ∃ resources ops, (new resources).run ops = .ok m

theorem Reachable.inv (h : m.Reachable) : m.Inv := by
  obtain ⟨resources, ops, hrun⟩ := h
  have hinv := run_inv (inv_new resources) ops
  rwa [hrun, holds_ok] at hinv

theorem Reachable.step (h : m.Reachable) {op : Op} {m' : DeviceInterruptManager}
    (hs : m.step op = .ok m') : m'.Reachable := by
  obtain ⟨resources, ops, hrun⟩ := h
  refine ⟨resources, ops ++ [op], ?_⟩
  unfold run at hrun ⊢
  rw [List.foldlM_append, hrun]
  simp only [List.foldlM_cons, List.foldlM_nil, bind_pure]
  exact hs

/-- What holds of the calls in every reachable state: the only panic is `enable` in a working
mode with no group, the mode does not change at the runtime stage, `get_group` returns a group
exactly at the runtime stage in a mode other than `Disabled`, and `reset` returns to the
configuration stage, in `Disabled` unless the group's `disable` fails, with the MSI
configuration as it was. -/
theorem reachable_calls (h : m.Reachable) :
    (∀ op, Holds (fun _ => ∃ groupOk, op = .enable groupOk ∧ m.activated = false ∧
      m.mode ≠ .Disabled ∧ m.modeIdx m.mode = usizeMax) Reachable (m.step op)) ∧
    (∀ op m', m.step op = .ok m' → m.activated = true → m'.activated = true → m'.mode = m.mode) ∧
    (∃ o, m.getGroup = .ok o ∧ (o.isSome = true ↔ m.activated = true ∧ m.mode ≠ .Disabled)) ∧
    ∀ groupOk, Holds (fun _ => False) (fun res => res.1.activated = false ∧
      res.1.msiConfig = m.msiConfig ∧ (res.2 = .ok () → res.1.mode = .Disabled))
      (m.reset groupOk) := by
  have hinv := h.inv
  refine ⟨fun op => ?_, fun op m' hs => step_mode hinv hs, getGroup_isSome hinv,
    fun groupOk => (reset_spec hinv groupOk).mono (fun _ => id) fun _ hres => hres.2⟩
  -- a step that returns reaches its state
  cases hs : m.step op with
  | error e => simpa [hs] using step_spec hinv op
  | ok m' => exact h.step hs

/-- The calls at the runtime stage of an MSI-X device whose mode has been selected and enabled:
`get_group` returns its group. -/
theorem reachable_calls_msix_enabled :
    ∃ m, (new [.MsiIrq .PciMsix 24 1]).run [.setWorkingMode .PciMsixIrq, .enable true] = .ok m ∧
      m.Reachable ∧ m.activated = true ∧
      ∃ o, m.getGroup = .ok o ∧ (o.isSome = true ↔ m.activated = true ∧ m.mode ≠ .Disabled) :=
  have hr : (new [.MsiIrq .PciMsix 24 1]).run [.setWorkingMode .PciMsixIrq, .enable true] =
      .ok _ := rfl
  ⟨_, hr, ⟨_, _, hr⟩, rfl, (reachable_calls ⟨_, _, hr⟩).2.2.1⟩

/-- A mode the device has no resource for is selected, and `enable` then indexes `intr_groups`
with `usize::MAX`; and `reset` leaves a changed MSI configuration as it is. -/
theorem unsupported_mode_panics_reset_keeps_msi_config :
    (∀ resources mode groupOk, mode ≠ .Disabled → hasGroup resources mode = false →
      (new resources).run [.setWorkingMode mode, .enable groupOk] = .error .indexOutOfBounds) ∧
    ∃ m, (new [.MsiIrq .PciMsix 24 1]).run
        [.setWorkingMode .PciMsixIrq, .setMsiData 0 5, .enable true, .reset true] = .ok m ∧
      m.mode = .Disabled ∧ m.activated = false ∧
      m.msiConfig ≠ List.replicate m.msiConfig.length (.MsiIrq .default) := by
  refine ⟨fun resources mode groupOk hd hno => ?_, _, rfl, rfl, rfl, by decide⟩
  have hmax := (new_modeIdx_eq_usizeMax resources mode).mpr hno
  have hsel := setWorkingMode_of_disabled (new_activated resources) (new_mode resources) hd
  have h₁ := (inv_new resources).setWorkingMode mode
  rw [hsel] at h₁
  -- the selected mode keeps `current_idx = mode2idx[mode] = usize::MAX`
  have henable := enable_of_no_group h₁ (new_activated resources) hd hmax groupOk
  simp only [run, List.foldlM_cons, step, hsel, bind, Except.bind, henable, Except.map]

theorem unsupported_mode_panics_legacy_only :
    hasGroup [.LegacyIrq 5] .PciMsixIrq = false ∧
      (new [.LegacyIrq 5]).run [.setWorkingMode .PciMsixIrq, .enable true] =
        .error .indexOutOfBounds :=
  ⟨rfl, unsupported_mode_panics_reset_keeps_msi_config.1 _ _ _ (by decide) rfl⟩

end Runs

end DeviceInterruptManager

end KataContainers.Interrupt

import Mathlib
import KataContainers.Lib.ExceptSpec

/-!
# The device manager of the Go runtime

`deviceManager` of `runtime/pkg/device/manager` keeps a map from device ids to devices, and
`NewDevice`, `AttachDevice`, `DetachDevice` and `RemoveDevice` change it. The devices here are
`drivers.GenericDevice`s, whose `RefCount` and `AttachCount` are `uint`s that `Reference`,
`Dereference` and `bumpAttachCount` step by one, stopping at `0` and `intMax`.

The map is an `AList` from ids to devices. A Go map has no order: only its lookups are its
state, and `FindDevice` returns the first match of an iteration in an order Go leaves
unspecified, here the order of the entries. The random ids `newDeviceID` draws are an input of
`NewDevice`, one draw for each of its five tries, as is `config.GetHostPathFunc`.
-/

namespace KataContainers.Device

/-- `^uint(0)` on a 64-bit host. -/
def intMax : UInt64 := 18446744073709551615

/-- The fields of `config.DeviceInfo` that the manager and the generic driver read. -/
structure DeviceInfo where
  hostPath : String
  id : String
  major : Int64
  minor : Int64
  pmem : Bool
deriving DecidableEq, Repr

structure GenericDevice where
  deviceInfo : DeviceInfo
  id : String
  refCount : UInt64
  attachCount : UInt64
deriving DecidableEq, Repr

/-- The errors of the manager: its four sentinel errors, and the text of any other. -/
inductive Error where
  | IDExhausted
  | DeviceNotExist
  | DeviceNotAttached
  | RemoveAttachedDevice
  | other (msg : String)
deriving DecidableEq, Repr

def Error.message : Error → String
  | .IDExhausted => "IDs are exhausted"
  | .DeviceNotExist => "device with specified ID hasn't been created"
  | .DeviceNotAttached => "device isn't attached"
  | .RemoveAttachedDevice => "can't remove attached device"
  | .other msg => msg

namespace GenericDevice

def new (devInfo : DeviceInfo) : GenericDevice := ⟨devInfo, devInfo.id, 0, 0⟩

def getMajorMinor (device : GenericDevice) : Int64 × Int64 :=
  (device.deviceInfo.major, device.deviceInfo.minor)

def getHostPath (device : GenericDevice) : String := device.deviceInfo.hostPath

def reference (device : GenericDevice) : GenericDevice :=
  if device.refCount ≠ intMax then { device with refCount := device.refCount + 1 } else device

def dereference (device : GenericDevice) : GenericDevice :=
  if device.refCount ≠ 0 then { device with refCount := device.refCount - 1 } else device

/-- `bumpAttachCount`: the device afterwards, and `skip` or the error. -/
def bumpAttachCount (device : GenericDevice) (attach : Bool) : GenericDevice × Except String Bool :=
  if attach then
    if device.attachCount = 0 then
      ({ device with attachCount := device.attachCount + 1 }, .ok false)
    else if device.attachCount = intMax then
      (device, .error "device was attached too many times")
    else ({ device with attachCount := device.attachCount + 1 }, .ok true)
  else
    if device.attachCount = 0 then
      (device, .error "detaching a device that wasn't attached")
    else if device.attachCount = 1 then
      ({ device with attachCount := device.attachCount - 1 }, .ok false)
    else ({ device with attachCount := device.attachCount - 1 }, .ok true)

def attach (device : GenericDevice) : GenericDevice × Except String Unit :=
  let (device, r) := device.bumpAttachCount true
  (device, r.map fun _ => ())

def detach (device : GenericDevice) : GenericDevice × Except String Unit :=
  let (device, r) := device.bumpAttachCount false
  (device, r.map fun _ => ())

end GenericDevice

/-- The fields of `deviceManager` that the generic path reads. -/
structure DeviceManager where
  devices : AList fun _ : String => GenericDevice
  vhostUserStoreEnabled : Bool
  vhostUserStorePath : String

namespace DeviceManager

variable (getHostPathFunc : DeviceInfo → Bool → String → Except String String)

def findDevice (dm : DeviceManager) (devInfo : DeviceInfo) : Option GenericDevice :=
  -- a major of -1 looks the device up by its host path
  if devInfo.major = -1 then
    (dm.devices.entries.map (·.2)).find? fun dev =>
      dev.getMajorMinor.1 = -1 ∧ dev.getHostPath = devInfo.hostPath
  else
    (dm.devices.entries.map (·.2)).find? fun dev =>
      dev.getMajorMinor.1 = devInfo.major ∧ dev.getMajorMinor.2 = devInfo.minor

/-- The loop of `newDeviceID` over its draws of `hex.EncodeToString(randBytes)`. -/
def newDeviceIDOf (dm : DeviceManager) : List (Except String String) → Except Error String
  | [] => .error .IDExhausted
  | .error e :: _ => .error (.other e)
  | .ok id :: draws => if id ∈ dm.devices then dm.newDeviceIDOf draws else .ok id

/-- `newDeviceID`: five tries. -/
def newDeviceID (dm : DeviceManager) (draws : List (Except String String)) : Except Error String :=
  dm.newDeviceIDOf (draws.take 5)

/-- `createDevice` for a generic device. The deferred `dev.Reference()` runs on every path that
returns no error. -/
def createDevice (dm : DeviceManager) (devInfo : DeviceInfo) (draws : List (Except String String)) :
    Except Error GenericDevice := do
  let devInfo ← if !devInfo.pmem then do
      let path ← (getHostPathFunc devInfo dm.vhostUserStoreEnabled dm.vhostUserStorePath).mapError
        .other
      pure { devInfo with hostPath := path }
    else pure devInfo
  match dm.findDevice devInfo with
  | some existingDev => pure existingDev.reference
  | none =>
      let id ← dm.newDeviceID draws
      pure (GenericDevice.new { devInfo with id := id }).reference

def newDevice (dm : DeviceManager) (devInfo : DeviceInfo) (draws : List (Except String String)) :
    DeviceManager × Except Error GenericDevice :=
  match dm.createDevice getHostPathFunc devInfo draws with
  | .ok dev => ({ dm with devices := dm.devices.insert dev.id dev }, .ok dev)
  | .error e => (dm, .error e)

def removeDevice (dm : DeviceManager) (id : String) : DeviceManager × Except Error Unit :=
  match dm.devices.lookup id with
  | none => (dm, .error .DeviceNotExist)
  | some dev =>
      -- `Dereference` changes the device before its attach count is looked at
      let dev := dev.dereference
      let dm := { dm with devices := dm.devices.insert id dev }
      if dev.refCount = 0 then
        if dev.attachCount > 0 then (dm, .error .RemoveAttachedDevice)
        else ({ dm with devices := dm.devices.erase id }, .ok ())
      else (dm, .ok ())

def attachDevice (dm : DeviceManager) (id : String) : DeviceManager × Except Error Unit :=
  match dm.devices.lookup id with
  | none => (dm, .error .DeviceNotExist)
  | some dev =>
      let (dev, r) := dev.attach
      ({ dm with devices := dm.devices.insert id dev }, r.mapError .other)

def detachDevice (dm : DeviceManager) (id : String) : DeviceManager × Except Error Unit :=
  match dm.devices.lookup id with
  | none => (dm, .error .DeviceNotExist)
  | some d =>
      if d.attachCount = 0 then (dm, .error .DeviceNotAttached)
      else
        let (d, r) := d.detach
        ({ dm with devices := dm.devices.insert id d }, r.mapError .other)

/-- The calls of the manager's API. -/
inductive Call where
  | newDevice (devInfo : DeviceInfo) (draws : List (Except String String))
  | attachDevice (id : String)
  | detachDevice (id : String)
  | removeDevice (id : String)

def step (dm : DeviceManager) : Call → DeviceManager × Except Error Unit
  | .newDevice devInfo draws =>
      let (dm, r) := dm.newDevice getHostPathFunc devInfo draws
      (dm, r.map fun _ => ())
  | .attachDevice id => dm.attachDevice id
  | .detachDevice id => dm.detachDevice id
  | .removeDevice id => dm.removeDevice id

/-- The calls in turn, with their results. -/
def run (dm : DeviceManager) : List Call → DeviceManager × List (Except Error Unit)
  | [] => (dm, [])
  | c :: cs =>
      let (dm, r) := dm.step getHostPathFunc c
      let (dm, rs) := dm.run cs
      (dm, r :: rs)

/-- `NewDeviceManager` with no devices. -/
def empty (vhostUserStoreEnabled : Bool) (vhostUserStorePath : String) : DeviceManager :=
  ⟨∅, vhostUserStoreEnabled, vhostUserStorePath⟩

inductive Reachable : DeviceManager → Prop
  | empty (vhostUserStoreEnabled : Bool) (vhostUserStorePath : String) :
      Reachable (empty vhostUserStoreEnabled vhostUserStorePath)
  | step {dm : DeviceManager} (c : Call) : Reachable dm → Reachable (dm.step getHostPathFunc c).1

end DeviceManager

/-! ### What each call does to the map -/

/-- The key `FindDevice` matches on: the host path for a major of -1, else major and minor. -/
def DeviceInfo.findKey (devInfo : DeviceInfo) : String ⊕ (Int64 × Int64) :=
  if devInfo.major = -1 then .inl devInfo.hostPath else .inr (devInfo.major, devInfo.minor)

namespace DeviceManager

open ExceptSpec

variable (getHostPathFunc : DeviceInfo → Bool → String → Except String String)

/-- `dm.devices[id]`. -/
def get (dm : DeviceManager) (id : String) : Option GenericDevice := dm.devices.lookup id

@[simp] theorem get_insert (dm : DeviceManager) (id : String) (dev : GenericDevice) (k : String) :
    ({ dm with devices := dm.devices.insert id dev } : DeviceManager).get k =
      if k = id then some dev else dm.get k := by
  unfold get
  split_ifs with hk
  · rw [hk]
    exact AList.lookup_insert _
  · exact AList.lookup_insert_ne hk

@[simp] theorem get_erase (dm : DeviceManager) (id : String) (k : String) :
    ({ dm with devices := dm.devices.erase id } : DeviceManager).get k =
      if k = id then none else dm.get k := by
  unfold get
  split_ifs with hk
  · rw [hk]
    exact AList.lookup_erase _ _
  · exact AList.lookup_erase_ne hk

theorem findDevice_pred_iff (devInfo : DeviceInfo) (dev : GenericDevice) :
    (if devInfo.major = -1 then
        dev.getMajorMinor.1 = -1 ∧ dev.getHostPath = devInfo.hostPath
      else dev.getMajorMinor.1 = devInfo.major ∧ dev.getMajorMinor.2 = devInfo.minor) ↔
      dev.deviceInfo.findKey = devInfo.findKey := by
  unfold DeviceInfo.findKey GenericDevice.getMajorMinor GenericDevice.getHostPath
  by_cases hq : devInfo.major = -1
  · by_cases hd : dev.deviceInfo.major = -1
    · simp [hq, hd, eq_comm]
    · simp [hq, hd]
  · by_cases hd : dev.deviceInfo.major = -1
    · -- a device with major -1 answers no query by major and minor
      simp only [hq, hd, if_false, if_true, reduceCtorEq, iff_false, not_and]
      intro h
      exact absurd h.symm hq
    · simp [hq, hd]

/-- The map's devices are stored under their own ids, and no two of them answer the same
`FindDevice` query. -/
structure Inv (dm : DeviceManager) : Prop where
  id_eq : ∀ {k dev}, dm.get k = some dev → dev.id = k
  findKey_inj : ∀ {k₁ k₂ d₁ d₂}, dm.get k₁ = some d₁ → dm.get k₂ = some d₂ →
    d₁.deviceInfo.findKey = d₂.deviceInfo.findKey → k₁ = k₂

theorem inv_empty (vhostUserStoreEnabled : Bool) (vhostUserStorePath : String) :
    Inv (empty vhostUserStoreEnabled vhostUserStorePath) where
  id_eq h := by cases h
  findKey_inj h := by cases h

/-- `FindDevice` finds the device that answers its query, whatever the order of iteration. -/
theorem Inv.findDevice_eq_some_iff {dm : DeviceManager} (h : Inv dm) {devInfo : DeviceInfo}
    {dev : GenericDevice} :
    dm.findDevice devInfo = some dev ↔
      ∃ k, dm.get k = some dev ∧ dev.deviceInfo.findKey = devInfo.findKey := by
  have hmem : ∀ d, d ∈ dm.devices.entries.map (·.2) ↔ ∃ k, dm.get k = some d := by
    intro d
    simp only [List.mem_map]
    constructor
    · rintro ⟨⟨k, d'⟩, hk, rfl⟩
      exact ⟨k, AList.mem_lookup_iff.mpr hk⟩
    · rintro ⟨k, hk⟩
      exact ⟨⟨k, d⟩, AList.mem_lookup_iff.mp hk, rfl⟩
  have hfind : dm.findDevice devInfo = (dm.devices.entries.map (·.2)).find? fun d =>
      decide (d.deviceInfo.findKey = devInfo.findKey) := by
    have hpred := findDevice_pred_iff devInfo
    unfold findDevice
    split_ifs at hpred ⊢ with hq
    all_goals
      congr 1
      funext d
      exact decide_eq_decide.mpr (hpred d)
  rw [hfind]
  constructor
  · intro hsome
    obtain ⟨k, hk⟩ := (hmem dev).mp (List.mem_of_find?_eq_some hsome)
    have hkey := List.find?_some hsome
    exact ⟨k, hk, of_decide_eq_true hkey⟩
  · rintro ⟨k, hk, hkey⟩
    cases hb : (dm.devices.entries.map (·.2)).find? fun d =>
        decide (d.deviceInfo.findKey = devInfo.findKey) with
    | none =>
        rw [List.find?_eq_none] at hb
        exact absurd (decide_eq_true hkey) (hb dev ((hmem dev).mpr ⟨k, hk⟩))
    | some b =>
        -- two devices that answer the query are stored under one id, so they are one device
        obtain ⟨k', hk'⟩ := (hmem b).mp (List.mem_of_find?_eq_some hb)
        have hbkey := List.find?_some hb
        rw [h.findKey_inj hk' hk ((of_decide_eq_true hbkey).trans hkey.symm), hk] at hk'
        exact hk'.symm

theorem Inv.insert {dm : DeviceManager} (h : Inv dm) {id : String} {dev : GenericDevice}
    (hid : dev.id = id)
    (hkey : ∀ {k d}, dm.get k = some d → d.deviceInfo.findKey = dev.deviceInfo.findKey → k = id) :
    Inv { dm with devices := dm.devices.insert id dev } where
  id_eq {k d} hk := by
    rw [get_insert] at hk
    split_ifs at hk with hkid
    · cases hk
      exact hid.trans hkid.symm
    · exact h.id_eq hk
  findKey_inj {k₁ k₂ d₁ d₂} hk₁ hk₂ hkey₁₂ := by
    rw [get_insert] at hk₁ hk₂
    split_ifs at hk₁ hk₂ with h₁ h₂ h₂
    · exact h₁.trans h₂.symm
    · cases hk₁
      exact h₁.trans (hkey hk₂ hkey₁₂.symm).symm
    · cases hk₂
      exact (hkey hk₁ hkey₁₂).trans h₂.symm
    · exact h.findKey_inj hk₁ hk₂ hkey₁₂

/-- Writing back the device stored under `id` with the same `DeviceInfo` keeps the invariant. -/
theorem Inv.update {dm : DeviceManager} (h : Inv dm) {id : String} {dev dev' : GenericDevice}
    (hget : dm.get id = some dev) (hinfo : dev'.deviceInfo = dev.deviceInfo) (hid : dev'.id = dev.id) :
    Inv { dm with devices := dm.devices.insert id dev' } :=
  h.insert (hid.trans (h.id_eq hget)) fun hk hkey => h.findKey_inj hk hget (hkey.trans (congrArg _ hinfo))

theorem Inv.erase {dm : DeviceManager} (h : Inv dm) (id : String) :
    Inv { dm with devices := dm.devices.erase id } where
  id_eq {k d} hk := by
    rw [get_erase] at hk
    split_ifs at hk
    exact h.id_eq hk
  findKey_inj {k₁ k₂ d₁ d₂} hk₁ hk₂ hkey := by
    rw [get_erase] at hk₁ hk₂
    split_ifs at hk₁ hk₂
    exact h.findKey_inj hk₁ hk₂ hkey

@[simp] theorem reference_deviceInfo (dev : GenericDevice) :
    dev.reference.deviceInfo = dev.deviceInfo := by
  unfold GenericDevice.reference
  split_ifs <;> rfl

@[simp] theorem reference_id (dev : GenericDevice) : dev.reference.id = dev.id := by
  unfold GenericDevice.reference
  split_ifs <;> rfl

@[simp] theorem dereference_deviceInfo (dev : GenericDevice) :
    dev.dereference.deviceInfo = dev.deviceInfo := by
  unfold GenericDevice.dereference
  split_ifs <;> rfl

@[simp] theorem dereference_id (dev : GenericDevice) : dev.dereference.id = dev.id := by
  unfold GenericDevice.dereference
  split_ifs <;> rfl

/-- `bumpAttachCount` changes the attach count alone. -/
theorem bumpAttachCount_eq (dev : GenericDevice) (attach : Bool) :
    ∃ n, (dev.bumpAttachCount attach).1 = { dev with attachCount := n } := by
  unfold GenericDevice.bumpAttachCount
  split_ifs <;> exact ⟨_, rfl⟩

/-- `createDevice` hands back the device that answers the query, one reference more, or a new
generic device under the id `newDeviceID` drew, with one reference. -/
theorem createDevice_holds (dm : DeviceManager) (devInfo : DeviceInfo)
    (draws : List (Except String String)) :
    Holds (fun _ => True) (fun dev => ∃ devInfo' : DeviceInfo,
      (∃ existingDev, dm.findDevice devInfo' = some existingDev ∧ dev = existingDev.reference) ∨
      (dm.findDevice devInfo' = none ∧ ∃ id, dm.newDeviceID draws = .ok id ∧
        dev = (GenericDevice.new { devInfo' with id := id }).reference))
      (dm.createDevice getHostPathFunc devInfo draws) := by
  have hjp : ∀ devInfo' : DeviceInfo, Holds (fun _ => True) (fun dev => ∃ devInfo' : DeviceInfo,
      (∃ existingDev, dm.findDevice devInfo' = some existingDev ∧ dev = existingDev.reference) ∨
      (dm.findDevice devInfo' = none ∧ ∃ id, dm.newDeviceID draws = .ok id ∧
        dev = (GenericDevice.new { devInfo' with id := id }).reference))
      (match dm.findDevice devInfo' with
        | some existingDev => pure existingDev.reference
        | none => do
          let id ← dm.newDeviceID draws
          pure (GenericDevice.new { devInfo' with id := id }).reference) := by
    intro devInfo'
    split
    case h_1 existingDev hfind => exact holds_pure.mpr ⟨devInfo', .inl ⟨existingDev, hfind, rfl⟩⟩
    case h_2 hfind =>
      exact (Holds.mono (holds_eq _) (fun _ _ => trivial) fun _ h => h).bind fun id hid =>
        holds_pure.mpr ⟨devInfo', .inr ⟨hfind, id, hid, rfl⟩⟩
  unfold createDevice
  dsimp only
  apply Holds.ite
  · -- the host path is looked up first, and its error returned
    intro _
    exact (Holds.mono (holds_eq _) (fun _ _ => trivial) (fun _ _ => trivial)).bind fun _ _ =>
      Holds.bind (P := fun _ => True) (holds_pure.mpr trivial) fun devInfo' _ => hjp devInfo'
  · intro _
    exact Holds.bind (P := fun _ => True) (holds_pure.mpr trivial) fun devInfo' _ => hjp devInfo'

theorem Inv.newDevice {dm : DeviceManager} (h : Inv dm) (devInfo : DeviceInfo)
    (draws : List (Except String String)) : Inv (dm.newDevice getHostPathFunc devInfo draws).1 := by
  unfold DeviceManager.newDevice
  cases hc : dm.createDevice getHostPathFunc devInfo draws with
  | error e => exact h
  | ok dev =>
      have hspec := createDevice_holds getHostPathFunc dm devInfo draws
      rw [hc, holds_ok] at hspec
      obtain ⟨devInfo', ⟨existingDev, hfind, rfl⟩ | ⟨hnone, id, -, rfl⟩⟩ := hspec
      · -- the device found is written back under its own id
        obtain ⟨k, hk, -⟩ := h.findDevice_eq_some_iff.mp hfind
        have hget : dm.get existingDev.reference.id = some existingDev := by
          rw [reference_id, h.id_eq hk]
          exact hk
        exact h.update hget (reference_deviceInfo _) (reference_id _)
      · -- no device answers the query of the new one
        refine h.insert rfl fun {k d} hk hkey => absurd hnone ?_
        have hkey' : d.deviceInfo.findKey = devInfo'.findKey := by
          rw [hkey, reference_deviceInfo]
          rfl
        rw [h.findDevice_eq_some_iff.mpr ⟨k, hk, hkey'⟩]
        exact Option.some_ne_none d

theorem Inv.removeDevice {dm : DeviceManager} (h : Inv dm) (id : String) :
    Inv (dm.removeDevice id).1 := by
  unfold DeviceManager.removeDevice
  cases hget : dm.devices.lookup id with
  | none => exact h
  | some dev =>
      have hupdate := h.update hget (dereference_deviceInfo dev) (dereference_id dev)
      simp only
      split_ifs
      · exact hupdate
      · exact hupdate.erase id
      · exact hupdate

theorem Inv.attachDevice {dm : DeviceManager} (h : Inv dm) (id : String) :
    Inv (dm.attachDevice id).1 := by
  unfold DeviceManager.attachDevice
  cases hget : dm.devices.lookup id with
  | none => exact h
  | some dev =>
      obtain ⟨n, hn⟩ := bumpAttachCount_eq dev true
      have hattach : dev.attach.1 = { dev with attachCount := n } := hn
      simp only
      rw [hattach]
      exact h.update hget rfl rfl

theorem Inv.detachDevice {dm : DeviceManager} (h : Inv dm) (id : String) :
    Inv (dm.detachDevice id).1 := by
  unfold DeviceManager.detachDevice
  cases hget : dm.devices.lookup id with
  | none => exact h
  | some dev =>
      obtain ⟨n, hn⟩ := bumpAttachCount_eq dev false
      have hdetach : dev.detach.1 = { dev with attachCount := n } := hn
      simp only
      split_ifs
      · exact h
      · rw [hdetach]
        exact h.update hget rfl rfl

theorem Inv.step {dm : DeviceManager} (h : Inv dm) : ∀ c, Inv (dm.step getHostPathFunc c).1
  | .newDevice devInfo draws => h.newDevice getHostPathFunc devInfo draws
  | .attachDevice id => h.attachDevice id
  | .detachDevice id => h.detachDevice id
  | .removeDevice id => h.removeDevice id

theorem Reachable.inv {dm : DeviceManager} (hr : Reachable getHostPathFunc dm) : Inv dm := by
  induction hr with
  | empty enabled path => exact inv_empty enabled path
  | step c _ ih => exact ih.step getHostPathFunc c

/-! ### Failed calls -/

theorem get_insert_self {dm : DeviceManager} {id : String} {dev : GenericDevice}
    (hget : dm.get id = some dev) :
    ({ dm with devices := dm.devices.insert id dev } : DeviceManager).get = dm.get := by
  funext k
  rw [get_insert]
  split_ifs with hk
  · rw [hk, hget]
  · rfl

/-- A bump that fails leaves the device as it was. -/
theorem bumpAttachCount_fst_of_error {dev : GenericDevice} {attach : Bool} {msg : String}
    (h : (dev.bumpAttachCount attach).2 = .error msg) : (dev.bumpAttachCount attach).1 = dev := by
  unfold GenericDevice.bumpAttachCount at h ⊢
  split_ifs at h ⊢ <;> simp_all

theorem dereference_eq_zero {dev : GenericDevice} (h : dev.dereference.refCount = 0) :
    dev.refCount ≤ 1 ∧ dev.dereference = { dev with refCount := 0 } := by
  unfold GenericDevice.dereference at h ⊢
  split_ifs at h ⊢ with hne
  · simp only at h
    exact ⟨by grind, by rw [h]⟩
  · have h0 : dev.refCount = 0 := not_not.mp hne
    refine ⟨by grind, ?_⟩
    cases dev
    simp_all

/-- `ErrRemoveAttachedDevice` is returned after `Dereference` has taken the last reference:
the failed call leaves the device stored with a reference count of zero. -/
theorem removeDevice_attached {dm : DeviceManager} {id : String}
    (h : (dm.removeDevice id).2 = .error .RemoveAttachedDevice) :
    ∃ dev, dm.get id = some dev ∧ dev.refCount ≤ 1 ∧ 0 < dev.attachCount ∧
      (dm.removeDevice id).1.get = fun k => if k = id then some { dev with refCount := 0 }
        else dm.get k := by
  unfold DeviceManager.removeDevice at h ⊢
  cases hget : dm.devices.lookup id with
  | none =>
      rw [hget] at h
      cases h
  | some dev =>
      rw [hget] at h
      simp only at h ⊢
      split_ifs at h ⊢ with hzero hattach
      obtain ⟨hle, hderef⟩ := dereference_eq_zero hzero
      refine ⟨dev, hget, hle, ?_, ?_⟩
      · rw [hderef] at hattach
        exact hattach
      · funext k
        rw [get_insert, hderef]

/-- A `GetHostPathFunc` that keeps the host path. -/
def keepHostPath (devInfo : DeviceInfo) (_ : Bool) (_ : String) : Except String String :=
  .ok devInfo.hostPath

/-- The character device `1:3` at `/dev/null`. -/
def nullDeviceInfo : DeviceInfo := ⟨"/dev/null", "", 1, 3, false⟩

/-- After `NewDevice` of `/dev/null`, whose first draw is the id `d`. -/
def newNull : DeviceManager :=
  ((empty false "").step keepHostPath (.newDevice nullDeviceInfo [.ok "d"])).1

/-- After `NewDevice` of `/dev/null`, whose first draw is the id `d`, and `AttachDevice d`. -/
def attachedNull : DeviceManager :=
  ((empty false "").run keepHostPath [.newDevice nullDeviceInfo [.ok "d"], .attachDevice "d"]).1

/-- `RemoveDevice d` fails with `ErrRemoveAttachedDevice` and still takes the device's only
reference; after `DetachDevice d` the map holds a device with neither references nor
attachments. -/
theorem remove_attached_device_drops_reference :
    (attachedNull.get "d").map (fun d => (d.refCount, d.attachCount)) = some (1, 1) ∧
      (attachedNull.removeDevice "d").2 = .error .RemoveAttachedDevice ∧
      ((attachedNull.removeDevice "d").1.get "d").map (fun d => (d.refCount, d.attachCount)) =
        some (0, 1) ∧
      ((((attachedNull.removeDevice "d").1.detachDevice "d").1.get "d").map
        fun d => (d.refCount, d.attachCount)) = some (0, 0) := by
  decide

end DeviceManager

end KataContainers.Device

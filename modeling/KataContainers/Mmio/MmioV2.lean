import Mathlib
import KataContainers.Pci.CommonConfig

/-!
# virtio-mmio register writes

`MmioV2Device::write` of `dbs_virtio_devices::mmio::mmio_v2` and the parts of
`MmioV2DeviceState` it reaches: the driver status and its state machine
(`update_driver_status`), activation and reset of the device state, the guarded writes to the
queues and to the acked features, and the selectors.

The queues are values of a type `Q` with the `QueueT` operations the transport calls; the inner
virtio device is a value of a type `D` with its feature operations. What the host and the inner
device answer during a write (activation: ioeventfds, interrupts and the inner `activate`; the
inner `reset`) is a `Backend` given with each write.

The status goes along `INIT, ACKNOWLEDGE, DRIVER, FEATURES_OK, DRIVER_OK` and back to `INIT`
only from exactly `DRIVER_OK` with an activated device; every rejected transition sets
`FAILED`. No transition starts from a status with `FAILED` set, so once it is set it stays
(`run_failed`), and a write of 0 can no longer reset the device.
-/

namespace KataContainers.Mmio

open Pci

def deviceInit : UInt32 := 0x0
def deviceAcknowledge : UInt32 := 0x01
def deviceDriver : UInt32 := 0x02
def deviceDriverOk : UInt32 := 0x04
def deviceFeaturesOk : UInt32 := 0x08
def deviceFailed : UInt32 := 0x80

def deviceStatusInit : UInt32 := deviceInit
def deviceStatusAcknowlede : UInt32 := deviceStatusInit ||| deviceAcknowledge
def deviceStatusDriver : UInt32 := deviceStatusAcknowlede ||| deviceDriver
def deviceStatusFeatureOk : UInt32 := deviceStatusDriver ||| deviceFeaturesOk
def deviceStatusDriverOk : UInt32 := deviceStatusFeatureOk ||| deviceDriverOk

def mmioCfgSpaceOff : UInt64 := 0x100
def dragonballMmioDoorbellOffset : UInt64 := 0x1000

def regMmioDeviceFeaturesS : UInt64 := 0x014
def regMmioDriverFeature : UInt64 := 0x020
def regMmioDriverFeaturesS : UInt64 := 0x024
def regMmioQueueSel : UInt64 := 0x030
def regMmioQueueNum : UInt64 := 0x038
def regMmioQueueReady : UInt64 := 0x044
def regMmioInterruptAc : UInt64 := 0x064
def regMmioStatus : UInt64 := 0x070
def regMmioQueueDescLow : UInt64 := 0x080
def regMmioQueueDescHigh : UInt64 := 0x084
def regMmioQueueAvailLow : UInt64 := 0x090
def regMmioQueueAvailHigh : UInt64 := 0x094
def regMmioQueueUsedLow : UInt64 := 0x0a0
def regMmioQueueUsedHigh : UInt64 := 0x0a4
def regMmioShmSel : UInt64 := 0x0ac

/-- The `QueueT` operations of the transport: those of the queue registers, `Q::new` and
`is_valid` (against guest memory). -/
structure MmioQueueOps (Q : Type) extends QueueOps Q where
  new : UInt16 → Option Q
  isValid : Q → Bool

/-- What the host and the inner device answer during one write: whether activating the device
state succeeds once its queues are valid, and whether the inner device's `reset` does. -/
structure Backend where
  activateOk : Bool
  resetOk : Bool

/-- The driver status and interrupt status of `MmioV2Device`, and the fields of
`MmioV2DeviceState` that a write reaches. -/
structure MmioV2Device (Q D : Type) where
  driverStatus : UInt32
  interruptStatus : UInt32
  device : D
  queues : List Q
  deviceActivated : Bool
  featuresSelect : UInt32
  ackedFeaturesSelect : UInt32
  queueSelect : UInt32
  shmRegionId : UInt32

namespace MmioV2Device

variable {Q D : Type} (qops : MmioQueueOps Q) (fops : FeatureOps D) (b : Backend)

/-- `check_driver_status`: the bits `set` are set and the bits `clr` clear. -/
def checkDriverStatus (s : MmioV2Device Q D) (set clr : UInt32) : Bool :=
  s.driverStatus &&& (set ||| clr) == set

/-- `exchange_driver_status`: `compare_exchange(old, new)`, which answers the status it found. -/
def exchangeDriverStatus (s : MmioV2Device Q D) (old new : UInt32) :
    MmioV2Device Q D × Except UInt32 UInt32 :=
  if s.driverStatus == old then ({ s with driverStatus := new }, .ok old)
  else (s, .error s.driverStatus)

/-- `set_driver_failed`. -/
def setDriverFailed (s : MmioV2Device Q D) : MmioV2Device Q D :=
  { s with driverStatus := s.driverStatus ||| deviceFailed }

/-- `MmioV2DeviceState::activate`: nothing if already active; an error if a queue is not valid
or the backend fails. -/
def activate (s : MmioV2Device Q D) : Except Unit (MmioV2Device Q D) :=
  if s.deviceActivated then .ok s
  else if !s.queues.all qops.isValid then .error ()
  else if !b.activateOk then .error ()
  else .ok { s with deviceActivated := true }

/-- The queue loop of `MmioV2DeviceState::reset`: each queue replaced by a new one of its
maximum size, up to the first that cannot be created. -/
def resetQueues : List Q → List Q × Bool
  | [] => ([], true)
  | q :: qs =>
      match qops.new (qops.maxSize q) with
      | none => (q :: qs, false)
      | some q' =>
          let (qs, ok) := resetQueues qs
          (q' :: qs, ok)

/-- `MmioV2DeviceState::reset`: nothing while active; otherwise fresh queues and zero selectors,
or the queues replaced so far and an error. -/
def reset (s : MmioV2Device Q D) : MmioV2Device Q D × Bool :=
  if s.deviceActivated then (s, true)
  else
    let (queues, ok) := resetQueues qops s.queues
    if !ok then ({ s with queues }, false)
    else ({ s with queues, featuresSelect := 0, ackedFeaturesSelect := 0, queueSelect := 0 }, true)

/-- The DRIVER_OK arm of `update_driver_status`: the device is activated after the status
moves, and reset if that fails. -/
def driverOkTransition (s : MmioV2Device Q D) : MmioV2Device Q D × Except UInt32 UInt32 :=
  let (s, result) := exchangeDriverStatus s deviceStatusFeatureOk deviceStatusDriverOk
  match result with
  | .error _ => (s, result)
  | .ok _ =>
      match activate qops b s with
      | .ok s => (s, result)
      -- the error of the reset is ignored: the device goes to FAILED
      | .error () => ((reset qops s).1, .error deviceFailed)

/-- The arm of `update_driver_status` for a write of 0: only an activated device whose inner
reset and state reset succeed goes back to INIT, and only from exactly DRIVER_OK. -/
def resetTransition (s : MmioV2Device Q D) : MmioV2Device Q D × Except UInt32 UInt32 :=
  if s.driverStatus == deviceInit then (s, .ok 0)
  else if s.deviceActivated then
    if !b.resetOk then (s, .error deviceFailed)
    else
      let s := { s with deviceActivated := false }
      let (s, ok) := reset qops s
      if !ok then (s, .error deviceFailed)
      else exchangeDriverStatus s deviceStatusDriverOk deviceStatusInit
  else (s, .error deviceFailed)

/-- The arm of `update_driver_status` for the value written: the state after it, and whether
the transition was accepted. -/
def statusTransition (s : MmioV2Device Q D) (v : UInt32) :
    MmioV2Device Q D × Except UInt32 UInt32 :=
  if v == deviceStatusAcknowlede then exchangeDriverStatus s deviceStatusInit deviceStatusAcknowlede
  else if v == deviceStatusDriver then
    exchangeDriverStatus s deviceStatusAcknowlede deviceStatusDriver
  else if v == deviceStatusFeatureOk then
    exchangeDriverStatus s deviceStatusDriver deviceStatusFeatureOk
  else if v == deviceStatusDriverOk then driverOkTransition qops b s
  else if v == 0 then resetTransition qops b s
  -- no real state change
  else if v == s.driverStatus then (s, .ok 0)
  -- the guest marks the device as failed
  else if v &&& deviceFailed != 0 then (setDriverFailed s, .ok 0)
  else (s, .error deviceFailed)

/-- `update_driver_status`: FAILED is set if the transition was rejected. -/
def updateDriverStatus (s : MmioV2Device Q D) (v : UInt32) : MmioV2Device Q D :=
  let (s, result) := statusTransition qops b s v
  match result with
  | .ok _ => s
  | .error _ => setDriverFailed s

/-- `update_queue_field`: the selected queue changes only with FEATURES_OK set and DRIVER_OK
and FAILED clear. -/
def updateQueueField (s : MmioV2Device Q D) (f : Q → Q) : MmioV2Device Q D :=
  if checkDriverStatus s deviceFeaturesOk (deviceDriverOk ||| deviceFailed) then
    { s with queues := s.queues.modify s.queueSelect.toNat f }
  else s

/-- `set_acked_features`: only with DRIVER set and FEATURES_OK and FAILED clear. -/
def setAckedFeatures (s : MmioV2Device Q D) (v : UInt32) : MmioV2Device Q D :=
  if checkDriverStatus s deviceDriver (deviceFeaturesOk ||| deviceFailed) then
    { s with device := fops.setAckedFeatures s.device s.ackedFeaturesSelect v }
  else s

/-- A 32-bit register write. -/
def writeReg (s : MmioV2Device Q D) (offset : UInt64) (v : UInt32) : MmioV2Device Q D :=
  if offset == regMmioDeviceFeaturesS then { s with featuresSelect := v }
  else if offset == regMmioDriverFeature then setAckedFeatures fops s v
  else if offset == regMmioDriverFeaturesS then { s with ackedFeaturesSelect := v }
  else if offset == regMmioQueueSel then { s with queueSelect := v }
  else if offset == regMmioQueueNum then updateQueueField s fun q => qops.setSize q v.toUInt16
  else if offset == regMmioQueueReady then updateQueueField s fun q => qops.setReady q (v == 1)
  else if offset == regMmioInterruptAc then { s with interruptStatus := s.interruptStatus &&& ~~~v }
  else if offset == regMmioStatus then updateDriverStatus qops b s v
  else if offset == regMmioQueueDescLow then
    updateQueueField s fun q => qops.setDescTableAddress q (some v) none
  else if offset == regMmioQueueDescHigh then
    updateQueueField s fun q => qops.setDescTableAddress q none (some v)
  else if offset == regMmioQueueAvailLow then
    updateQueueField s fun q => qops.setAvailRingAddress q (some v) none
  else if offset == regMmioQueueAvailHigh then
    updateQueueField s fun q => qops.setAvailRingAddress q none (some v)
  else if offset == regMmioQueueUsedLow then
    updateQueueField s fun q => qops.setUsedRingAddress q (some v) none
  else if offset == regMmioQueueUsedHigh then
    updateQueueField s fun q => qops.setUsedRingAddress q none (some v)
  else if offset == regMmioShmSel then { s with shmRegionId := v }
  -- the MSI registers and unknown offsets
  else s

/-- `MmioV2Device::write`: the device configuration area goes to the inner device, a 4-byte
write to a register; 2-byte writes reach only the MSI registers. -/
def write (s : MmioV2Device Q D) (offset : UInt64) (data : List UInt8) : MmioV2Device Q D :=
  if mmioCfgSpaceOff ≤ offset && offset < dragonballMmioDoorbellOffset then s
  else if data.length == 4 then writeReg qops fops b s offset (u64OfBytes data).toUInt32
  else s

/-- A guest write and what the backend answers during it. -/
structure MmioWrite where
  backend : Backend
  offset : UInt64
  data : List UInt8

def run (s : MmioV2Device Q D) (ws : List MmioWrite) : MmioV2Device Q D :=
  ws.foldl (fun s w => write qops fops w.backend s w.offset w.data) s

/-- The device as `MmioV2Device::new` builds it, with the queues `create_queues` made. -/
def new (device : D) (queues : List Q) : MmioV2Device Q D where
  driverStatus := deviceInit
  interruptStatus := 0
  device := device
  queues := queues
  deviceActivated := false
  featuresSelect := 0
  ackedFeaturesSelect := 0
  queueSelect := 0
  shmRegionId := 0

end MmioV2Device

/-! ## The status chain -/

/-- The steps of the status chain, from exactly their source. -/
def statusTransitions : List (UInt32 × UInt32) :=
  [(deviceStatusInit, deviceStatusAcknowlede), (deviceStatusAcknowlede, deviceStatusDriver),
   (deviceStatusDriver, deviceStatusFeatureOk), (deviceStatusFeatureOk, deviceStatusDriverOk),
   (deviceStatusDriverOk, deviceStatusInit)]

/-- The statuses of the chain, with or without FAILED. -/
def reachableStatus : List UInt32 :=
  [deviceStatusInit, deviceStatusAcknowlede, deviceStatusDriver, deviceStatusFeatureOk,
    deviceStatusDriverOk].flatMap fun st => [st, st ||| deviceFailed]

/-- What a write can do to the driver status: leave it, set FAILED, or take one step of the
chain from exactly its source, and then perhaps set FAILED. -/
def StatusStep (st st' : UInt32) : Prop :=
  st' = st ∨ st' = st ||| deviceFailed ∨
    ∃ t ∈ statusTransitions, st = t.1 ∧ (st' = t.2 ∨ st' = t.2 ||| deviceFailed)

/-- The statuses of the chain, as numbers. -/
theorem reachableStatus_eq :
    reachableStatus = [0, 0x80, 1, 0x81, 3, 0x83, 0xb, 0x8b, 0xf, 0x8f] := by decide

/-- A fact of every reachable status is one fact of each; each is then decided alone. -/
theorem forall_mem_reachableStatus {P : UInt32 → Prop} :
    (∀ x ∈ reachableStatus, P x) ↔
      P 0 ∧ P 0x80 ∧ P 1 ∧ P 0x81 ∧ P 3 ∧ P 0x83 ∧ P 0xb ∧ P 0x8b ∧ P 0xf ∧ P 0x8f := by
  rw [reachableStatus_eq]
  simp only [List.forall_mem_cons, List.not_mem_nil, IsEmpty.forall_iff, implies_true, and_true]

theorem forall_mem_statusTransitions {P : UInt32 × UInt32 → Prop} :
    (∀ t ∈ statusTransitions, P t) ↔
      P (deviceStatusInit, deviceStatusAcknowlede) ∧ P (deviceStatusAcknowlede, deviceStatusDriver) ∧
        P (deviceStatusDriver, deviceStatusFeatureOk) ∧
        P (deviceStatusFeatureOk, deviceStatusDriverOk) ∧ P (deviceStatusDriverOk, deviceStatusInit) := by
  simp only [statusTransitions, List.forall_mem_cons, List.not_mem_nil, IsEmpty.forall_iff,
    implies_true, and_true]

theorem or_failed_failed (x : UInt32) : x ||| deviceFailed ||| deviceFailed = x ||| deviceFailed := by
  rw [UInt32.or_assoc, UInt32.or_self]

theorem StatusStep.failed {st st' : UInt32} (h : StatusStep st st') :
    StatusStep st (st' ||| deviceFailed) := by
  rcases h with rfl | rfl | ⟨t, ht, hst, rfl | rfl⟩
  · exact .inr (.inl rfl)
  · exact .inr (.inl (or_failed_failed st))
  · exact .inr (.inr ⟨t, ht, hst, .inr rfl⟩)
  · exact .inr (.inr ⟨t, ht, hst, .inr (or_failed_failed _)⟩)

namespace MmioV2Device

variable {Q D : Type} (qops : MmioQueueOps Q) (fops : FeatureOps D) (b : Backend)

/-! ## One write -/

@[simp] theorem exchangeDriverStatus_activated (s : MmioV2Device Q D) (old new : UInt32) :
    (exchangeDriverStatus s old new).1.deviceActivated = s.deviceActivated := by
  unfold exchangeDriverStatus
  split <;> rfl

theorem exchangeDriverStatus_status (s : MmioV2Device Q D) (old new : UInt32) :
    (exchangeDriverStatus s old new).1.driverStatus =
      if s.driverStatus = old then new else s.driverStatus := by
  unfold exchangeDriverStatus
  split <;> simp_all

@[simp] theorem reset_status (s : MmioV2Device Q D) :
    (reset qops s).1.driverStatus = s.driverStatus := by
  unfold reset
  split
  · rfl
  · dsimp only
    split <;> rfl

@[simp] theorem reset_activated (s : MmioV2Device Q D) :
    (reset qops s).1.deviceActivated = s.deviceActivated := by
  unfold reset
  split
  · rfl
  · dsimp only
    split <;> rfl

theorem activate_eq_ok {s s' : MmioV2Device Q D} (h : activate qops b s = .ok s') :
    s'.driverStatus = s.driverStatus := by
  unfold activate at h
  split_ifs at h <;> cases h <;> rfl

theorem driverOkTransition_spec (s : MmioV2Device Q D) :
    (driverOkTransition qops b s).1.driverStatus =
        (if s.driverStatus = deviceStatusFeatureOk then deviceStatusDriverOk else s.driverStatus) ∧
      ((driverOkTransition qops b s).1.deviceActivated = true →
        s.deviceActivated = true ∨ s.driverStatus = deviceStatusFeatureOk) := by
  unfold driverOkTransition
  unfold exchangeDriverStatus
  by_cases hst : s.driverStatus = deviceStatusFeatureOk
  case neg =>
    rw [if_neg (by simpa using hst), if_neg hst]
    exact ⟨rfl, .inl⟩
  rw [if_pos (by simpa using hst), if_pos hst]
  dsimp only
  -- activation succeeds, or fails and the state is reset
  rcases hact : activate qops b { s with driverStatus := deviceStatusDriverOk } with _ | s'
  · exact ⟨by simp, fun _ => .inr hst⟩
  · exact ⟨activate_eq_ok qops b hact, fun _ => .inr hst⟩

theorem resetTransition_spec (s : MmioV2Device Q D) :
    ((resetTransition qops b s).1.driverStatus = s.driverStatus ∨
        (s.driverStatus = deviceStatusDriverOk ∧
          (resetTransition qops b s).1.driverStatus = deviceStatusInit)) ∧
      ((resetTransition qops b s).1.deviceActivated = true →
        s.deviceActivated = true ∧ (resetTransition qops b s).1.driverStatus = s.driverStatus) := by
  unfold resetTransition
  split_ifs with hinit hact hreset
  · exact ⟨.inl rfl, fun h => ⟨h, rfl⟩⟩
  · exact ⟨.inl rfl, fun h => ⟨h, rfl⟩⟩
  · -- the device is deactivated before its state is reset
    dsimp only
    rcases hr : reset qops { s with deviceActivated := false } with ⟨s', ok⟩
    have hst : s'.driverStatus = s.driverStatus := by
      have := reset_status qops { s with deviceActivated := false }
      rw [hr] at this
      exact this
    have hoff : s'.deviceActivated = false := by
      have := reset_activated qops { s with deviceActivated := false }
      rw [hr] at this
      exact this
    dsimp only
    split
    · exact ⟨.inl hst, fun h => absurd h (by rw [hoff]; decide)⟩
    · rw [exchangeDriverStatus_status, exchangeDriverStatus_activated, hoff, hst]
      refine ⟨?_, fun h => absurd h (by decide)⟩
      split
      · exact .inr ⟨by assumption, rfl⟩
      · exact .inl rfl
  · exact ⟨.inl rfl, fun h => ⟨h, rfl⟩⟩

/-- An exchange from the start of the chain. -/
theorem exchangeDriverStatus_spec (s : MmioV2Device Q D) (old new : UInt32)
    (ht : (old, new) ∈ statusTransitions)
    (hold : old ∈ [deviceStatusInit, deviceStatusAcknowlede, deviceStatusDriver]) :
    StatusStep s.driverStatus (exchangeDriverStatus s old new).1.driverStatus ∧
      ((exchangeDriverStatus s old new).1.deviceActivated = true →
        s.deviceActivated = true ∧
          ((exchangeDriverStatus s old new).1.driverStatus = s.driverStatus ∨
            (exchangeDriverStatus s old new).1.driverStatus = s.driverStatus ||| deviceFailed ∨
            s.driverStatus ∈ [deviceStatusInit, deviceStatusAcknowlede, deviceStatusDriver])) := by
  rw [exchangeDriverStatus_status, exchangeDriverStatus_activated]
  by_cases hst : s.driverStatus = old
  · rw [if_pos hst]
    exact ⟨.inr (.inr ⟨(old, new), ht, hst, .inl rfl⟩), fun h => ⟨h, .inr (.inr (hst ▸ hold))⟩⟩
  · rw [if_neg hst]
    exact ⟨.inl rfl, fun h => ⟨h, .inl rfl⟩⟩

/-- What the arm of `update_driver_status` does: one step of the status, and activation only of
a device that was active or has just reached DRIVER_OK. -/
theorem statusTransition_spec (s : MmioV2Device Q D) (v : UInt32) :
    StatusStep s.driverStatus (statusTransition qops b s v).1.driverStatus ∧
      ((statusTransition qops b s v).1.deviceActivated = true →
        (s.deviceActivated = true ∧
          ((statusTransition qops b s v).1.driverStatus = s.driverStatus ∨
            (statusTransition qops b s v).1.driverStatus = s.driverStatus ||| deviceFailed ∨
            s.driverStatus ∈ [deviceStatusInit, deviceStatusAcknowlede, deviceStatusDriver])) ∨
        (statusTransition qops b s v).1.driverStatus = deviceStatusDriverOk) := by
  unfold statusTransition
  split_ifs with hack hdrv hfeat hok hzero hsame hfail
  -- the first three steps of the chain
  · have h := exchangeDriverStatus_spec s deviceStatusInit deviceStatusAcknowlede
      (by decide) (by decide)
    exact ⟨h.1, fun ha => .inl (h.2 ha)⟩
  · have h := exchangeDriverStatus_spec s deviceStatusAcknowlede deviceStatusDriver
      (by decide) (by decide)
    exact ⟨h.1, fun ha => .inl (h.2 ha)⟩
  · have h := exchangeDriverStatus_spec s deviceStatusDriver deviceStatusFeatureOk
      (by decide) (by decide)
    exact ⟨h.1, fun ha => .inl (h.2 ha)⟩
  · obtain ⟨hst, hact⟩ := driverOkTransition_spec qops b s
    rw [hst]
    by_cases hf : s.driverStatus = deviceStatusFeatureOk
    · rw [if_pos hf]
      exact ⟨.inr (.inr ⟨(_, _), by decide, hf, .inl rfl⟩), fun _ => .inr rfl⟩
    · rw [if_neg hf]
      exact ⟨.inl rfl, fun h => .inl ⟨(hact h).resolve_right hf, .inl rfl⟩⟩
  · obtain ⟨hst, hact⟩ := resetTransition_spec qops b s
    refine ⟨?_, fun h => .inl ⟨(hact h).1, .inl (hact h).2⟩⟩
    rcases hst with hst | ⟨hok, hinit⟩
    · exact .inl hst
    · exact .inr (.inr ⟨(_, _), by decide, hok, .inl hinit⟩)
  · exact ⟨.inl rfl, fun h => .inl ⟨h, .inl rfl⟩⟩
  · exact ⟨.inr (.inl rfl), fun h => .inl ⟨h, .inr (.inl rfl)⟩⟩
  · exact ⟨.inl rfl, fun h => .inl ⟨h, .inl rfl⟩⟩

@[simp] theorem setDriverFailed_status (s : MmioV2Device Q D) :
    (setDriverFailed s).driverStatus = s.driverStatus ||| deviceFailed := rfl

@[simp] theorem setDriverFailed_activated (s : MmioV2Device Q D) :
    (setDriverFailed s).deviceActivated = s.deviceActivated := rfl

/-- What one write may do to the status and the activation: a step of the status, and
activation only of a device that was active (and, unless its status was at the start of the
chain, kept its status up to FAILED) or is now at DRIVER_OK. -/
def WriteStep (s s' : MmioV2Device Q D) : Prop :=
  StatusStep s.driverStatus s'.driverStatus ∧
    (s'.deviceActivated = true →
      (s.deviceActivated = true ∧
        (s'.driverStatus = s.driverStatus ∨ s'.driverStatus = s.driverStatus ||| deviceFailed ∨
          s.driverStatus ∈ [deviceStatusInit, deviceStatusAcknowlede, deviceStatusDriver])) ∨
      s'.driverStatus ∈ [deviceStatusDriverOk, deviceStatusDriverOk ||| deviceFailed])

theorem WriteStep.of_eq {s s' : MmioV2Device Q D} (hst : s'.driverStatus = s.driverStatus)
    (hact : s'.deviceActivated = s.deviceActivated) : WriteStep s s' :=
  ⟨.inl hst, fun h => .inl ⟨hact ▸ h, .inl hst⟩⟩

theorem updateDriverStatus_spec (s : MmioV2Device Q D) (v : UInt32) :
    WriteStep s (updateDriverStatus qops b s v) := by
  have hspec := statusTransition_spec qops b s v
  unfold updateDriverStatus
  generalize statusTransition qops b s v = p at hspec ⊢
  obtain ⟨hstep, hact⟩ := hspec
  rcases p with ⟨s₁, _ | _⟩
  all_goals dsimp only at hstep hact ⊢
  case error =>
    -- a rejected transition also sets FAILED
    refine ⟨hstep.failed, fun h => ?_⟩
    rcases hact h with ⟨ha, hs | hs | hs⟩ | hs
    · exact .inl ⟨ha, .inr (.inl (by rw [setDriverFailed_status, hs]))⟩
    · exact .inl ⟨ha, .inr (.inl (by rw [setDriverFailed_status, hs, or_failed_failed]))⟩
    · exact .inl ⟨ha, .inr (.inr hs)⟩
    · exact .inr (by rw [setDriverFailed_status, hs]; decide)
  case ok =>
    refine ⟨hstep, fun h => ?_⟩
    rcases hact h with h' | hs
    · exact .inl h'
    · exact .inr (by rw [hs]; decide)

theorem writeReg_status (s : MmioV2Device Q D) (v : UInt32) :
    writeReg qops fops b s regMmioStatus v = updateDriverStatus qops b s v := rfl

/-- A write to a register other than STATUS: the status and the activation stay, and the
queues change only with FEATURES_OK set and DRIVER_OK and FAILED clear. -/
def RegWrite (s s' : MmioV2Device Q D) : Prop :=
  s'.driverStatus = s.driverStatus ∧ s'.deviceActivated = s.deviceActivated ∧
    (s'.queues = s.queues ∨
      checkDriverStatus s deviceFeaturesOk (deviceDriverOk ||| deviceFailed) = true)

theorem regWrite_ite {s x y : MmioV2Device Q D} {c : Prop} [Decidable c] (hx : c → RegWrite s x)
    (hy : ¬c → RegWrite s y) : RegWrite s (if c then x else y) := by
  by_cases hc : c
  · rw [if_pos hc]
    exact hx hc
  · rw [if_neg hc]
    exact hy hc

theorem writeReg_of_ne_status (s : MmioV2Device Q D) {offset : UInt64} (v : UInt32)
    (h : offset ≠ regMmioStatus) : RegWrite s (writeReg qops fops b s offset v) := by
  unfold writeReg
  repeat' (apply regWrite_ite <;> intro hc)
  -- the guards of the queue and feature writes are split too
  all_goals first
    | exact ⟨rfl, rfl, .inl rfl⟩
    | exact ⟨rfl, rfl, .inr hc⟩
    | exact absurd (beq_iff_eq.mp hc) h

theorem write_spec (s : MmioV2Device Q D) (offset : UInt64) (data : List UInt8) :
    WriteStep s (write qops fops b s offset data) := by
  unfold write
  split_ifs
  · exact .of_eq rfl rfl
  · by_cases ho : offset = regMmioStatus
    · rw [ho, writeReg_status]
      exact updateDriverStatus_spec qops b s _
    · obtain ⟨hst, hact, -⟩ := writeReg_of_ne_status qops fops b s (u64OfBytes data).toUInt32 ho
      exact .of_eq hst hact
  · exact .of_eq rfl rfl

/-! ## Invariants over runs -/

/-- A device reached by writes: its status is on the chain, with or without FAILED, and it is
active only at DRIVER_OK. -/
structure StatusInv (s : MmioV2Device Q D) : Prop where
  reachable : s.driverStatus ∈ reachableStatus
  activated : s.deviceActivated = true →
    s.driverStatus ∈ [deviceStatusDriverOk, deviceStatusDriverOk ||| deviceFailed]

theorem statusStep_reachable {st st' : UInt32} (h : StatusStep st st') (hr : st ∈ reachableStatus) :
    st' ∈ reachableStatus := by
  have hfail : ∀ x ∈ reachableStatus, x ||| deviceFailed ∈ reachableStatus := by
    rw [forall_mem_reachableStatus, reachableStatus_eq]
    and_intros <;> decide
  have htarget : ∀ t ∈ statusTransitions,
      t.2 ∈ reachableStatus ∧ t.2 ||| deviceFailed ∈ reachableStatus := by
    rw [forall_mem_statusTransitions, reachableStatus_eq]
    and_intros <;> decide
  rcases h with rfl | rfl | ⟨t, ht, -, rfl | rfl⟩
  · exact hr
  · exact hfail _ hr
  · exact (htarget t ht).1
  · exact (htarget t ht).2

theorem StatusInv.step {s s' : MmioV2Device Q D} (hi : StatusInv s) (h : WriteStep s s') :
    StatusInv s' := by
  refine ⟨statusStep_reachable h.1 hi.reachable, fun ha => ?_⟩
  rcases h.2 ha with ⟨ha₀, hs | hs | hs⟩ | hs
  · rw [hs]
    exact hi.activated ha₀
  · have hok : ∀ x ∈ [deviceStatusDriverOk, deviceStatusDriverOk ||| deviceFailed],
        x ||| deviceFailed ∈ [deviceStatusDriverOk, deviceStatusDriverOk ||| deviceFailed] := by
      simp only [List.forall_mem_cons, List.not_mem_nil, IsEmpty.forall_iff, implies_true, and_true]
      and_intros <;> decide
    rw [hs]
    exact hok _ (hi.activated ha₀)
  · -- an active device is not at the start of the chain
    have hdisj : ∀ x ∈ [deviceStatusDriverOk, deviceStatusDriverOk ||| deviceFailed],
        x ∉ [deviceStatusInit, deviceStatusAcknowlede, deviceStatusDriver] := by
      simp only [List.forall_mem_cons, List.not_mem_nil, IsEmpty.forall_iff, implies_true, and_true]
      and_intros <;> decide
    exact absurd hs (hdisj _ (hi.activated ha₀))
  · exact hs

/-- No step of the chain starts from a status with FAILED, so FAILED is never cleared. -/
theorem statusStep_failed {st st' : UInt32} (h : StatusStep st st') (hr : st ∈ reachableStatus)
    (hf : st &&& deviceFailed ≠ 0) : st' &&& deviceFailed ≠ 0 := by
  have hfail : ∀ x ∈ reachableStatus, (x ||| deviceFailed) &&& deviceFailed ≠ 0 := by
    rw [forall_mem_reachableStatus]
    and_intros <;> decide
  have hsource : ∀ t ∈ statusTransitions, t.1 &&& deviceFailed = 0 := by
    rw [forall_mem_statusTransitions]
    and_intros <;> decide
  rcases h with rfl | rfl | ⟨t, ht, rfl, -⟩
  · exact hf
  · exact hfail _ hr
  · exact absurd (hsource t ht) hf

/-- The status without FAILED. -/
def lowStatus (st : UInt32) : UInt32 := st &&& ~~~deviceFailed

/-- Without FAILED, the status stays or takes one step of the chain: ACKNOWLEDGE, DRIVER,
FEATURES_OK and DRIVER_OK are set in this order, and cleared only together, from DRIVER_OK. -/
theorem statusStep_lowStatus {st st' : UInt32} (h : StatusStep st st') (hr : st ∈ reachableStatus) :
    lowStatus st' = lowStatus st ∨
      ∃ t ∈ statusTransitions, lowStatus st = t.1 ∧ lowStatus st' = t.2 := by
  have hfail : ∀ x ∈ reachableStatus, lowStatus (x ||| deviceFailed) = lowStatus x := by
    rw [forall_mem_reachableStatus]
    and_intros <;> decide
  have hchain : ∀ t ∈ statusTransitions, lowStatus t.1 = t.1 ∧ lowStatus t.2 = t.2 ∧
      lowStatus (t.2 ||| deviceFailed) = t.2 := by
    rw [forall_mem_statusTransitions]
    and_intros <;> decide
  rcases h with rfl | rfl | ⟨t, ht, rfl, rfl | rfl⟩
  · exact .inl rfl
  · exact .inl (hfail _ hr)
  · exact .inr ⟨t, ht, (hchain t ht).1, (hchain t ht).2.1⟩
  · exact .inr ⟨t, ht, (hchain t ht).1, (hchain t ht).2.2⟩

theorem run_cons (s : MmioV2Device Q D) (w : MmioWrite) (ws : List MmioWrite) :
    run qops fops s (w :: ws) = run qops fops (write qops fops w.backend s w.offset w.data) ws := rfl

/-- Every run of writes keeps the invariant. -/
theorem run_statusInv : ∀ (ws : List MmioWrite) {s : MmioV2Device Q D}, StatusInv s →
    StatusInv (run qops fops s ws)
  | [], _, hi => hi
  | w :: ws, s, hi => by
      rw [run_cons]
      exact run_statusInv ws (hi.step (write_spec qops fops w.backend s w.offset w.data))

/-- Once FAILED is set, no run of writes clears it. -/
theorem run_failed : ∀ (ws : List MmioWrite) {s : MmioV2Device Q D}, StatusInv s →
    s.driverStatus &&& deviceFailed ≠ 0 → (run qops fops s ws).driverStatus &&& deviceFailed ≠ 0
  | [], _, _, hf => hf
  | w :: ws, s, hi, hf => by
      rw [run_cons]
      have hstep := write_spec qops fops w.backend s w.offset w.data
      exact run_failed ws (hi.step hstep) (statusStep_failed hstep.1 hi.reachable hf)

/-! ## Reset -/

theorem statusTransition_zero (s : MmioV2Device Q D) :
    statusTransition qops b s 0 = resetTransition qops b s := by
  unfold statusTransition
  rw [if_neg (by decide), if_neg (by decide), if_neg (by decide), if_neg (by decide),
    if_pos (by decide)]

end MmioV2Device

/-- Queues that are only their size, always valid and always created again. -/
def sizeQueueOps : MmioQueueOps UInt16 where
  maxSize := id
  ready := fun _ => true
  setSize := fun _ n => n
  setReady := fun q _ => q
  setDescTableAddress := fun q _ _ => q
  setAvailRingAddress := fun q _ _ => q
  setUsedRingAddress := fun q _ _ => q
  new := some
  isValid := fun _ => true

/-- A device driven to DRIVER_OK and activated, with one queue of 256 entries. -/
def driverOkDevice : MmioV2Device UInt16 Unit :=
  ⟨deviceStatusDriverOk, 0, (), [256], true, 1, 1, 0, 0⟩

namespace MmioV2Device

variable {Q D : Type} (qops : MmioQueueOps Q) (fops : FeatureOps D) (b : Backend)

theorem statusInv_new (device : D) (queues : List Q) : StatusInv (new device queues) :=
  ⟨by rw [reachableStatus_eq]; exact List.mem_cons_self, fun h => Bool.noConfusion h⟩

/-- The guest acknowledges a new device and then writes 0 to reset it: the device is not
active, so the write is rejected and FAILED is set; from then on no write brings the status
back to 0. -/
theorem reset_after_acknowledge_stays_failed (device : D) (queues : List Q) (b₁ b₂ : Backend)
    (ws : List MmioWrite) :
    (run qops fops (new device queues)
        [⟨b₁, regMmioStatus, [1, 0, 0, 0]⟩, ⟨b₂, regMmioStatus, [0, 0, 0, 0]⟩]).driverStatus =
      deviceStatusAcknowlede ||| deviceFailed ∧
    (run qops fops (run qops fops (new device queues)
        [⟨b₁, regMmioStatus, [1, 0, 0, 0]⟩, ⟨b₂, regMmioStatus, [0, 0, 0, 0]⟩]) ws).driverStatus ≠
      deviceStatusInit := by
  have hst : (run qops fops (new device queues)
      [⟨b₁, regMmioStatus, [1, 0, 0, 0]⟩, ⟨b₂, regMmioStatus, [0, 0, 0, 0]⟩]).driverStatus =
      deviceStatusAcknowlede ||| deviceFailed := rfl
  refine ⟨hst, fun h0 => ?_⟩
  have hinv := run_statusInv qops fops
    [⟨b₁, regMmioStatus, [1, 0, 0, 0]⟩, ⟨b₂, regMmioStatus, [0, 0, 0, 0]⟩]
    (statusInv_new device queues)
  have hfailed := run_failed qops fops ws hinv (by rw [hst]; decide)
  rw [h0] at hfailed
  exact hfailed (by decide)

end MmioV2Device

end KataContainers.Mmio

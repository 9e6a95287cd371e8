import KataContainers.Pci.Configuration

/-!
# virtio-pci common configuration

`VirtioPciCommonConfig` of `dbs_pci::pci_common_config`: the byte, word, double-word and
quad-word registers of the common configuration structure and `read`/`write`, which
dispatch on the access width. The queues are values of a type `Q` with the `QueueT`
operations the registers use; the device's feature pages are a `FeatureOps` on its type `D`.
An index out of range, where the source panics, is `none`.
-/

namespace KataContainers.Pci

open PciConfiguration

/-- Little-endian bytes of a quad word, and the quad word of little-endian bytes. -/
def bytesOfU64 (v : UInt64) : List UInt8 :=
  (List.range 8).map fun i => (v >>> (8 * i).toUInt64).toUInt8
def u64OfBytes (d : List UInt8) : UInt64 :=
  d.foldr (fun b acc => (acc <<< 8) ||| b.toUInt64) 0

structure VirtioPciCommonConfig where
  driverStatus : UInt8
  configGeneration : UInt8
  deviceFeatureSelect : UInt32
  driverFeatureSelect : UInt32
  queueSelect : UInt16
  msixConfig : UInt16
  msixQueues : List UInt16

/-- The `QueueT` operations of the queue registers. -/
structure QueueOps (Q : Type) where
  maxSize : Q → UInt16
  ready : Q → Bool
  setSize : Q → UInt16 → Q
  setReady : Q → Bool → Q
  setDescTableAddress : Q → Option UInt32 → Option UInt32 → Q
  setAvailRingAddress : Q → Option UInt32 → Option UInt32 → Q
  setUsedRingAddress : Q → Option UInt32 → Option UInt32 → Q

/-- `get_avail_features` and `set_acked_features` of the virtio device. -/
structure FeatureOps (D : Type) where
  getAvailFeatures : D → UInt32 → UInt32
  setAckedFeatures : D → UInt32 → UInt32 → D

namespace VirtioPciCommonConfig

variable {Q D : Type} (qops : QueueOps Q) (fops : FeatureOps D)

def withQueue {U : Type} (cfg : VirtioPciCommonConfig) (queues : List Q) (f : Q → U) :
    Option U :=
  (queues[cfg.queueSelect.toNat]?).map f

def withQueueMut (cfg : VirtioPciCommonConfig) (queues : List Q) (f : Q → Q) : List Q :=
  queues.modify cfg.queueSelect.toNat f

def readCommonConfigByte (cfg : VirtioPciCommonConfig) (offset : UInt64) : UInt8 :=
  match offset with
  | 0x14 => cfg.driverStatus
  | 0x15 => cfg.configGeneration
  | _ => 0

def writeCommonConfigByte (cfg : VirtioPciCommonConfig) (offset : UInt64) (value : UInt8) :
    VirtioPciCommonConfig :=
  match offset with
  | 0x14 => { cfg with driverStatus := value }
  | _ => cfg

/-- `read_common_config_word`; `queue_msix_vector` (0x1a) indexes `msix_queues` by
`queue_select` unchecked, where its neighbours go through `with_queue`. -/
def readCommonConfigWord (cfg : VirtioPciCommonConfig) (offset : UInt64) (queues : List Q) :
    Option UInt16 :=
  match offset with
  | 0x10 => some cfg.msixConfig
  | 0x12 => some (UInt16.ofNat queues.length)
  | 0x16 => some cfg.queueSelect
  | 0x18 => some ((cfg.withQueue queues qops.maxSize).getD 0)
  | 0x1a => cfg.msixQueues[cfg.queueSelect.toNat]?
  | 0x1c => some ((cfg.withQueue queues qops.ready).getD false).toUInt16
  | 0x1e => some cfg.queueSelect
  | _ => some 0

def writeCommonConfigWord (cfg : VirtioPciCommonConfig) (offset : UInt64) (value : UInt16)
    (queues : List Q) : Option (VirtioPciCommonConfig × List Q) :=
  match offset with
  | 0x10 => some ({ cfg with msixConfig := value }, queues)
  | 0x16 => some ({ cfg with queueSelect := value }, queues)
  | 0x18 => some (cfg, cfg.withQueueMut queues fun q => qops.setSize q value)
  | 0x1a =>
      if cfg.queueSelect.toNat < cfg.msixQueues.length then
        some ({ cfg with msixQueues := cfg.msixQueues.set cfg.queueSelect.toNat value }, queues)
      else none
  | 0x1c => some (cfg, cfg.withQueueMut queues fun q => qops.setReady q (value == 1))
  | _ => some (cfg, queues)

/-- `read_common_config_dword`; only two feature pages are defined. -/
def readCommonConfigDword (cfg : VirtioPciCommonConfig) (offset : UInt64) (device : D) :
    UInt32 :=
  match offset with
  | 0x00 => cfg.deviceFeatureSelect
  | 0x04 =>
      if cfg.deviceFeatureSelect < 2 then fops.getAvailFeatures device cfg.deviceFeatureSelect
      else 0
  | 0x08 => cfg.driverFeatureSelect
  | _ => 0

def writeCommonConfigDword (cfg : VirtioPciCommonConfig) (offset : UInt64) (value : UInt32)
    (queues : List Q) (device : D) : VirtioPciCommonConfig × List Q × D :=
  match offset with
  | 0x00 => ({ cfg with deviceFeatureSelect := value }, queues, device)
  | 0x08 => ({ cfg with driverFeatureSelect := value }, queues, device)
  | 0x0c =>
      if cfg.driverFeatureSelect < 2 then
        (cfg, queues, fops.setAckedFeatures device cfg.driverFeatureSelect value)
      else (cfg, queues, device)
  | 0x20 => (cfg, cfg.withQueueMut queues (qops.setDescTableAddress · (some value) none), device)
  | 0x24 => (cfg, cfg.withQueueMut queues (qops.setDescTableAddress · none (some value)), device)
  | 0x28 => (cfg, cfg.withQueueMut queues (qops.setAvailRingAddress · (some value) none), device)
  | 0x2c => (cfg, cfg.withQueueMut queues (qops.setAvailRingAddress · none (some value)), device)
  | 0x30 => (cfg, cfg.withQueueMut queues (qops.setUsedRingAddress · (some value) none), device)
  | 0x34 => (cfg, cfg.withQueueMut queues (qops.setUsedRingAddress · none (some value)), device)
  | _ => (cfg, queues, device)

def readCommonConfigQword (_offset : UInt64) : UInt64 := 0

def writeCommonConfigQword (cfg : VirtioPciCommonConfig) (offset : UInt64) (value : UInt64)
    (queues : List Q) : List Q :=
  let low := some (value &&& 0xffff_ffff).toUInt32
  let high := some (value >>> 32).toUInt32
  match offset with
  | 0x20 => cfg.withQueueMut queues (qops.setDescTableAddress · low high)
  | 0x28 => cfg.withQueueMut queues (qops.setAvailRingAddress · low high)
  | 0x30 => cfg.withQueueMut queues (qops.setUsedRingAddress · low high)
  | _ => queues

/-- `read`: the bytes read, by access width; other widths leave the buffer as it is. -/
def read (cfg : VirtioPciCommonConfig) (offset : UInt64) (data : List UInt8) (queues : List Q)
    (device : D) : Option (List UInt8) :=
  if 8 < data.length then none
  else
    match data.length with
    | 1 => some [cfg.readCommonConfigByte offset]
    | 2 => (cfg.readCommonConfigWord qops offset queues).map bytesOfU16
    | 4 => some (bytesOfU32 (cfg.readCommonConfigDword fops offset device))
    | 8 => some (bytesOfU64 (readCommonConfigQword offset))
    | _ => some data

def write (cfg : VirtioPciCommonConfig) (offset : UInt64) (data : List UInt8) (queues : List Q)
    (device : D) : Option (VirtioPciCommonConfig × List Q × D) :=
  if 8 < data.length then none
  else
    match data.length with
    | 1 => some (cfg.writeCommonConfigByte offset (data.headD 0), queues, device)
    | 2 => (cfg.writeCommonConfigWord qops offset (u16OfBytes data) queues).map
        fun (cfg, queues) => (cfg, queues, device)
    | 4 => some (cfg.writeCommonConfigDword qops fops offset (u32OfBytes data) queues device)
    | 8 => some (cfg, cfg.writeCommonConfigQword qops offset (u64OfBytes data) queues, device)
    | _ => some (cfg, queues, device)

/-- The only word register that can panic is `queue_msix_vector`, when `queue_select` is
past `msix_queues`. -/
theorem readCommonConfigWord_eq_none_iff (cfg : VirtioPciCommonConfig) (offset : UInt64)
    (queues : List Q) :
    cfg.readCommonConfigWord qops offset queues = none ↔
      offset = 0x1a ∧ cfg.msixQueues.length ≤ cfg.queueSelect.toNat := by
  unfold readCommonConfigWord
  split <;> simp_all

theorem writeCommonConfigWord_eq_none_iff (cfg : VirtioPciCommonConfig) (offset : UInt64)
    (value : UInt16) (queues : List Q) :
    cfg.writeCommonConfigWord qops offset value queues = none ↔
      offset = 0x1a ∧ cfg.msixQueues.length ≤ cfg.queueSelect.toNat := by
  unfold writeCommonConfigWord
  split <;> simp_all

/-- A common-configuration read panics when it is wider than eight bytes or is a word read
of `queue_msix_vector` with `queue_select` past `msix_queues`. -/
theorem read_eq_none_iff (cfg : VirtioPciCommonConfig) (offset : UInt64) (data : List UInt8)
    (queues : List Q) (device : D) :
    cfg.read qops fops offset data queues device = none ↔
      8 < data.length ∨
        (data.length = 2 ∧ offset = 0x1a ∧ cfg.msixQueues.length ≤ cfg.queueSelect.toNat) := by
  unfold read
  split
  · simp_all
  · split <;> simp_all [readCommonConfigWord_eq_none_iff]

theorem write_eq_none_iff (cfg : VirtioPciCommonConfig) (offset : UInt64) (data : List UInt8)
    (queues : List Q) (device : D) :
    cfg.write qops fops offset data queues device = none ↔
      8 < data.length ∨
        (data.length = 2 ∧ offset = 0x1a ∧ cfg.msixQueues.length ≤ cfg.queueSelect.toNat) := by
  unfold write
  split
  · simp_all
  · split <;> simp_all [writeCommonConfigWord_eq_none_iff]

/-- A word write to `queue_select` (0x16) takes any value, checked against nothing. -/
theorem write_queueSelect (cfg : VirtioPciCommonConfig) (data : List UInt8) (queues : List Q)
    (device : D) (hlen : data.length = 2) :
    cfg.write qops fops 0x16 data queues device =
      some ({ cfg with queueSelect := u16OfBytes data }, queues, device) := by
  simp [write, hlen, writeCommonConfigWord]

end VirtioPciCommonConfig

end KataContainers.Pci

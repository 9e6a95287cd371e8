import Mathlib
import KataContainers.Lib.RustInt
import KataContainers.Lib.ListWindow
import KataContainers.Lib.ExceptSpec

/-!
# virtio-mem

The request handling of `dbs_virtio_devices::mem`: a region of `region_size` bytes at guest
address `addr` in blocks of `block_size`, the bitmap `mem_state` with one entry per block, and
the byte counter `plugged_size`. A guest request (PLUG, UNPLUG, UNPLUG_ALL, STATE) goes through
`MemTool`, which checks the range and the bitmap, calls the host, and writes the bitmap;
`process_queue` moves `plugged_size` after an ACK. `set_requested_size` changes the requested
size and grows the usable part of the region.

The host's calls (`fallocate64`, `madvise`, `MemRegionFactory::create_region`) are given per
request, succeeding or failing; descriptor parsing is not modelled (a request that does not
parse changes nothing).

`PlugInv` is the accounting the counter is meant to keep: `plugged_size` is `block_size` times
the number of plugged blocks, and plugged blocks lie in the usable region. Every step keeps it
(`step_inv`, `run_inv`) except UNPLUG_ALL when it fails part way: it has cleared the blocks before the
failing one and returns an error, and `process_queue` then leaves `plugged_size` as it was.
-/

namespace KataContainers.VirtioMem

open RustInt ListWindow ExceptSpec

def virtioMemRespAck : UInt16 := 0
def virtioMemRespNack : UInt16 := 1
def virtioMemRespError : UInt16 := 3

def virtioMemStatePlugged : UInt16 := 0
def virtioMemStateUnplugged : UInt16 := 1
def virtioMemStateMixed : UInt16 := 2

def virtioMemReqPlug : UInt16 := 0
def virtioMemReqUnplug : UInt16 := 1
def virtioMemReqUnplugAll : UInt16 := 2
def virtioMemReqState : UInt16 := 3

def virtioMemDefaultBlockSize : UInt64 := (4 : UInt64) <<< 20
def virtioMemMapRegionShift : UInt64 := 31
def virtioMemMapRegionSize : UInt64 := (1 : UInt64) <<< virtioMemMapRegionShift
/-- `!(u64::MAX << VIRTIO_MEM_MAP_REGION_SHIFT)`. -/
def virtioMemMapRegionMask : UInt64 := ~~~((0xFFFF_FFFF_FFFF_FFFF : UInt64) <<< virtioMemMapRegionShift)

/-- `VirtioMemConfig`, less `node_id` and the padding. -/
structure VirtioMemConfig where
  blockSize : UInt64
  addr : UInt64
  regionSize : UInt64
  usableRegionSize : UInt64
  pluggedSize : UInt64
  requestedSize : UInt64
deriving DecidableEq, Repr

/-- Each map region's KVM slot, and its host and guest address once mapped. -/
abbrev MapRegions := List (UInt32 × Option (UInt64 × UInt64))

/-- What the device holds across requests: the config, the bitmap, the map regions, whether a
backing file is open (`host_fd`), and the `capacity` and `alignment` of `Mem`. -/
structure MemDevice where
  config : VirtioMemConfig
  memState : List Bool
  multiRegion : Bool
  mapRegions : MapRegions
  hostFd : Bool
  capacity : UInt64
  alignment : UInt64

/-- The host's answer to `fallocate64(PUNCH_HOLE)` at an offset and `madvise(MADV_REMOVE)` at a
host address, for a size: `true` on success. -/
structure MemHost where
  fallocate : UInt64 → UInt64 → Bool
  madvise : UInt64 → UInt64 → Bool

/-- `MemTool::virtio_mem_valid_range`. -/
def validRange (config : VirtioMemConfig) (addr size : UInt64) : Bool :=
  if addr % config.blockSize != 0 || size % config.blockSize != 0 then false
  else if (checkedAdd addr size).isNone || size == 0 then false
  else if addr < config.addr || addr ≥ config.addr + config.usableRegionSize then false
  else if addr + size > config.addr + config.usableRegionSize then false
  else true

/-- `MemTool::virtio_mem_check_bitmap`. -/
def checkBitmap (bitIndex : Nat) (nbBlocks : UInt16) (memState : List Bool) (plug : Bool) : Bool :=
  (window memState bitIndex nbBlocks.toNat).all (· == plug)

/-- `MemTool::virtio_mem_set_bitmap`. -/
def setBitmap (bitIndex : Nat) (nbBlocks : UInt16) (memState : List Bool) (plug : Bool) :
    List Bool :=
  setWindow memState bitIndex nbBlocks.toNat plug

/-- The host address of the range at `offset` in the region: in the one map region that holds
all of it, or in the region of a single-region device. -/
def hostAddr (multiRegion : Bool) (mapRegions : MapRegions) (offset size : UInt64) :
    Option UInt64 :=
  if multiRegion then
    let index := offset >>> virtioMemMapRegionShift
    if (offset + size - 1) >>> virtioMemMapRegionShift != index then none
    else if mapRegions.length ≤ index.toNat then none
    else
      match (mapRegions.getD index.toNat (0, none)).2 with
      | some (regionHostAddr, _) => some ((offset &&& virtioMemMapRegionMask) + regionHostAddr)
      | none => none
  else
    -- `map_regions[0]`, which `set_resource` has pushed
    match mapRegions.head? with
    | some (_, some (regionHostAddr, _)) => some (regionHostAddr + offset)
    | _ => none

/-- `MemTool::virtio_mem_state_change_request`: the response, and the bitmap after it. -/
def stateChangeRequest (host : MemHost) (d : MemDevice) (memState : List Bool)
    (addr size : UInt64) (nbBlocks : UInt16) (plug : Bool) : UInt16 × List Bool :=
  if plug && d.config.pluggedSize + size > d.config.requestedSize then
    (virtioMemRespNack, memState)
  else if !validRange d.config addr size then (virtioMemRespError, memState)
  else
    let offset := addr - d.config.addr
    let bitIndex := (offset / d.config.blockSize).toNat
    if !checkBitmap bitIndex nbBlocks memState !plug then (virtioMemRespError, memState)
    else
      match hostAddr d.multiRegion d.mapRegions offset size with
      | none => (virtioMemRespError, memState)
      | some host_addr =>
          -- an unplug punches a hole in the backing file, if any, and drops the pages
          if !plug && (d.hostFd && !host.fallocate offset size || !host.madvise host_addr size) then
            (virtioMemRespError, memState)
          else (virtioMemRespAck, setBitmap bitIndex nbBlocks memState plug)

/-- The loop of `MemTool::virtio_mem_unplug_all` over the blocks `xs`: each plugged one is
unplugged as a request of one block, and the first response other than ACK is returned. -/
def unplugAllFrom (host : MemHost) (d : MemDevice) : List Nat → List Bool → UInt16 × List Bool
  | [], memState => (virtioMemRespAck, memState)
  | x :: xs, memState =>
      if memState.getD x false then
        let (resp, memState) := stateChangeRequest host d memState
          (d.config.addr + UInt64.ofNat x * d.config.blockSize) d.config.blockSize 1 false
        if resp != virtioMemRespAck then (resp, memState)
        else unplugAllFrom host d xs (memState.set x false)
      else unplugAllFrom host d xs memState

/-- `MemTool::virtio_mem_unplug_all`. -/
def unplugAll (host : MemHost) (d : MemDevice) : UInt16 × List Bool :=
  unplugAllFrom host d (List.range (d.config.regionSize / d.config.blockSize).toNat) d.memState

/-- `MemTool::virtio_mem_state_request`: the response and the state reported. -/
def stateRequest (config : VirtioMemConfig) (addr : UInt64) (nbBlocks : UInt16)
    (memState : List Bool) : UInt16 × UInt16 :=
  let size := nbBlocks.toUInt64 * config.blockSize
  let respType := if validRange config addr size then virtioMemRespAck else virtioMemRespError
  -- computed before, and whatever, the range check says
  let offset := addr - config.addr
  let bitIndex := (offset / config.blockSize).toNat
  let respState :=
    if checkBitmap bitIndex nbBlocks memState true then virtioMemStatePlugged
    else if checkBitmap bitIndex nbBlocks memState false then virtioMemStateUnplugged
    else virtioMemStateMixed
  (respType, respState)

/-- A parsed `VirtioMemReq`. -/
structure VirtioMemReq where
  reqType : UInt16
  addr : UInt64
  nbBlocks : UInt16
deriving DecidableEq, Repr

/-- The PLUG and UNPLUG arms of `process_queue`: the state change, and on ACK the counter moved
by the request's size. -/
def changeRequest (host : MemHost) (d : MemDevice) (req : VirtioMemReq) (plug : Bool) :
    MemDevice × UInt16 :=
  let size := req.nbBlocks.toUInt64 * d.config.blockSize
  let (resp, memState) := stateChangeRequest host d d.memState req.addr size req.nbBlocks plug
  let pluggedSize :=
    if resp == virtioMemRespAck then
      if plug then d.config.pluggedSize + size else d.config.pluggedSize - size
    else d.config.pluggedSize
  ({ d with config := { d.config with pluggedSize }, memState }, resp)

/-- One request of `process_queue`: the device after it, and the response written (`none` for
an unknown type, which is completed with length 0). -/
def processRequest (host : MemHost) (d : MemDevice) (req : VirtioMemReq) :
    MemDevice × Option (UInt16 × UInt16) :=
  if req.reqType == virtioMemReqPlug then
    let (d, resp) := changeRequest host d req true
    (d, some (resp, 0))
  else if req.reqType == virtioMemReqUnplug then
    let (d, resp) := changeRequest host d req false
    (d, some (resp, 0))
  else if req.reqType == virtioMemReqUnplugAll then
    let (resp, memState) := unplugAll host d
    let pluggedSize := if resp == virtioMemRespAck then 0 else d.config.pluggedSize
    ({ d with config := { d.config with pluggedSize }, memState }, some (resp, 0))
  else if req.reqType == virtioMemReqState then
    (d, some (stateRequest d.config req.addr req.nbBlocks d.memState))
  else (d, none)

/-! ## Resizing the usable region -/

inductive MemError where
  | InvalidInput
  /-- `create_region` or `get_host_address` failed. -/
  | CreateRegion
deriving DecidableEq, Repr

/-- `MemRegionFactory::create_region` at a guest address, of a length, in a KVM slot: the host
address of the new region, or `none` if it fails. -/
abbrev MemRegionFactory := UInt64 → UInt64 → UInt32 → Option UInt64

/-- The multi-region part of `virtio_mem_resize_usable_region`: the map regions from the first
unmapped one up to the one holding `newsize` are mapped as one new region. A multi-region
device has at least one map region, so `len() - 1` does not wrap. -/
def mapNewRegions (factory : MemRegionFactory) (config : VirtioMemConfig) (newsize : UInt64)
    (mapRegions : MapRegions) : Except MemError MapRegions :=
  let n := mapRegions.length
  let firstIndex := min (config.usableRegionSize >>> virtioMemMapRegionShift).toNat (n - 1)
  let lastIndex := min (newsize >>> virtioMemMapRegionShift).toNat (n - 1)
  match (List.range' firstIndex (lastIndex + 1 - firstIndex)).find?
      (fun i => (mapRegions.getD i (0, none)).2.isNone) with
  | none => .ok mapRegions
  | some first =>
      let regionsNum := UInt64.ofNat (lastIndex - first + 1)
      let guestAddr := config.addr + (UInt64.ofNat first <<< virtioMemMapRegionShift)
      let regionLen := ((regionsNum - 1) <<< virtioMemMapRegionShift) +
        if lastIndex + 1 == n then
          config.regionSize - (UInt64.ofNat lastIndex <<< virtioMemMapRegionShift)
        else virtioMemMapRegionSize
      match factory guestAddr regionLen (mapRegions.getD first (0, none)).1 with
      | none => .error .CreateRegion
      | some regionHostAddr =>
          .ok (mapRegions.mapIdx fun i e =>
            if first ≤ i ∧ i ≤ lastIndex then
              let k := UInt64.ofNat (i - first) * virtioMemMapRegionSize
              (e.1, some (regionHostAddr + k, guestAddr + k))
            else e)

/-- The usable size `virtio_mem_resize_usable_region` computes: the requested size and twice
the alignment, within the region, rounded down to blocks; none if nothing is requested. -/
def resizeNewsize (config : VirtioMemConfig) (alignment : UInt64) : UInt64 :=
  let newsize := min config.regionSize (config.requestedSize + 2 * alignment)
  -- the usable region size is a multiple of the block size
  let newsize := newsize &&& ~~~(config.blockSize - 1)
  if config.requestedSize == 0 then 0 else newsize

/-- `MemTool::virtio_mem_resize_usable_region`: the new usable size (it shrinks only if
`can_shrink`), and the map regions after it for a multi-region device. -/
def resizeUsableRegion (factory : MemRegionFactory) (config : VirtioMemConfig)
    (canShrink : Bool) (alignment : UInt64) (multiRegions : Option MapRegions) :
    Except MemError (VirtioMemConfig × Option MapRegions) := do
  let newsize := resizeNewsize config alignment
  let multiRegions ← (if newsize > config.usableRegionSize then
      match multiRegions with
      | some mapRegions => some <$> mapNewRegions factory config newsize mapRegions
      | none => pure none
    else pure multiRegions)
  if newsize < config.usableRegionSize && !canShrink then pure (config, multiRegions)
  else pure ({ config with usableRegionSize := newsize }, multiRegions)

/-- `Mem::set_requested_size`: the requested size is stored before the resize, so it stays
when the resize fails. -/
def setRequestedSize (factory : MemRegionFactory) (d : MemDevice) (requestedSizeMb : UInt64) :
    MemDevice × Except MemError Unit :=
  let requestedSize := requestedSizeMb * 1024 * 1024
  if requestedSize > d.capacity || requestedSize % virtioMemDefaultBlockSize != 0 then
    (d, .error .InvalidInput)
  else
    let config := { d.config with requestedSize }
    let d := { d with config }
    match resizeUsableRegion factory config false d.alignment
        (if d.multiRegion then some d.mapRegions else none) with
    | .error e => (d, .error e)
    | .ok (config, multiRegions) =>
        ({ d with config, mapRegions := multiRegions.getD d.mapRegions }, .ok ())

/-! ## Runs -/

/-- What happens to the device: a guest request, answered by the host as given, or a call of
`set_requested_size`. -/
inductive MemEvent where
  | request (host : MemHost) (req : VirtioMemReq)
  | setRequestedSize (factory : MemRegionFactory) (requestedSizeMb : UInt64)

def step (d : MemDevice) : MemEvent → MemDevice
  | .request host req => (processRequest host d req).1
  | .setRequestedSize factory mb => (setRequestedSize factory d mb).1

def run (d : MemDevice) (es : List MemEvent) : MemDevice := es.foldl step d

/-- The event is not an UNPLUG_ALL that fails. -/
def Completes (d : MemDevice) : MemEvent → Bool
  | .request host req =>
      !(req.reqType == virtioMemReqUnplugAll && (unplugAll host d).1 != virtioMemRespAck)
  | .setRequestedSize _ _ => true

/-- No event of the run is an UNPLUG_ALL that fails. -/
def RunCompletes : MemDevice → List MemEvent → Bool
  | _, [] => true
  | d, e :: es => Completes d e && RunCompletes (step d e) es

/-! ## Invariants -/

/-- An activated device: `block_size` is the positive size `Mem::new` sets (at most `2^32`),
and divides the region; the bitmap has one entry per block; the usable part lies in the
region; the region was taken below `2^63` from the memory pool; and the map regions are set up. -/
structure Activated (d : MemDevice) : Prop where
  blockSize_pos : 0 < d.config.blockSize.toNat
  blockSize_le : d.config.blockSize.toNat ≤ 2 ^ 32
  blockSize_dvd : d.config.blockSize.toNat ∣ d.config.regionSize.toNat
  length_memState : d.memState.length = d.config.regionSize.toNat / d.config.blockSize.toNat
  usable_le : d.config.usableRegionSize.toNat ≤ d.config.regionSize.toNat
  addr_add_le : d.config.addr.toNat + d.config.regionSize.toNat ≤ 2 ^ 63
  mapRegions_ne : d.mapRegions ≠ []

/-- The accounting of plugged memory. -/
structure PlugInv (d : MemDevice) : Prop where
  plugged_eq : d.config.pluggedSize.toNat = d.config.blockSize.toNat * d.memState.count true
  plugged_usable : ∀ j, d.memState.getD j false = true →
    (j + 1) * d.config.blockSize.toNat ≤ d.config.usableRegionSize.toNat

/-! ## Facts of an activated device -/

theorem Activated.congr {d d' : MemDevice} (ha : Activated d)
    (hbs : d'.config.blockSize = d.config.blockSize) (hrs : d'.config.regionSize = d.config.regionSize)
    (haddr : d'.config.addr = d.config.addr) (hlen : d'.memState.length = d.memState.length)
    (husable : d'.config.usableRegionSize.toNat ≤ d'.config.regionSize.toNat)
    (hmap : d'.mapRegions.length = d.mapRegions.length) : Activated d' where
  blockSize_pos := hbs ▸ ha.blockSize_pos
  blockSize_le := hbs ▸ ha.blockSize_le
  blockSize_dvd := hbs ▸ hrs ▸ ha.blockSize_dvd
  length_memState := by rw [hlen, hbs, hrs]; exact ha.length_memState
  usable_le := husable
  addr_add_le := by rw [haddr, hrs]; exact ha.addr_add_le
  mapRegions_ne := by
    rw [← List.length_pos_iff, hmap, List.length_pos_iff]
    exact ha.mapRegions_ne

theorem Activated.addr_add_usable_lt {d : MemDevice} (ha : Activated d) :
    d.config.addr.toNat + d.config.usableRegionSize.toNat < 2 ^ 64 := by
  have := ha.addr_add_le
  have := ha.usable_le
  omega

/-- The size of a request of `nb` blocks does not wrap. -/
theorem toNat_size (d : MemDevice) (ha : Activated d) (nb : UInt16) :
    (nb.toUInt64 * d.config.blockSize).toNat = nb.toNat * d.config.blockSize.toNat := by
  have hnb := UInt16.toNat_lt nb
  have hbs := ha.blockSize_le
  have hlt : nb.toNat * d.config.blockSize.toNat < 2 ^ 64 :=
    calc nb.toNat * d.config.blockSize.toNat ≤ 2 ^ 16 * 2 ^ 32 := Nat.mul_le_mul hnb.le hbs
      _ < 2 ^ 64 := by norm_num
  rw [UInt64.toNat_mul, UInt16.toNat_toUInt64, Nat.mod_eq_of_lt hlt]

theorem validRange_bounds {config : VirtioMemConfig} {addr size : UInt64}
    (hno : config.addr.toNat + config.usableRegionSize.toNat < 2 ^ 64)
    (h : validRange config addr size = true) :
    addr.toNat % config.blockSize.toNat = 0 ∧ size.toNat % config.blockSize.toNat = 0 ∧
      0 < size.toNat ∧ config.addr.toNat ≤ addr.toNat ∧
      addr.toNat + size.toNat ≤ config.addr.toNat + config.usableRegionSize.toNat := by
  unfold validRange at h
  split_ifs at h with halign hsize hstart hend
  simp only [Bool.or_eq_true, bne_iff_ne, ne_eq, not_or, Decidable.not_not,
    Option.isNone_iff_eq_none, checkedAdd_eq_none_iff, beq_iff_eq, decide_eq_true_eq,
    UInt64.lt_iff_toNat_lt, UInt64.le_iff_toNat_le, not_lt, not_le, UInt64.toNat_add,
    Nat.mod_eq_of_lt hno] at halign hsize hstart hend
  obtain ⟨ha, hs⟩ := halign
  obtain ⟨hadd, hz⟩ := hsize
  rw [Nat.mod_eq_of_lt hadd] at hend
  refine ⟨?_, ?_, Nat.pos_of_ne_zero fun h0 => hz (UInt64.toNat_inj.mp h0), hstart.1, hend⟩
  · rw [← UInt64.toNat_mod, ha]
    rfl
  · rw [← UInt64.toNat_mod, hs]
    rfl

/-- A valid range of `nb` blocks ends, at block granularity, inside the usable region, and so
inside the bitmap. -/
theorem window_le_usable {d : MemDevice} (ha : Activated d) {addr size : UInt64} {nb : Nat}
    (hv : validRange d.config addr size = true)
    (hsize : size.toNat = nb * d.config.blockSize.toNat) :
    (((addr - d.config.addr) / d.config.blockSize).toNat + nb) * d.config.blockSize.toNat ≤
        d.config.usableRegionSize.toNat ∧
      ((addr - d.config.addr) / d.config.blockSize).toNat + nb ≤ d.memState.length := by
  obtain ⟨-, -, -, hstart, hend⟩ := validRange_bounds ha.addr_add_usable_lt hv
  have hbs := ha.blockSize_pos
  have hoffset : (addr - d.config.addr).toNat = addr.toNat - d.config.addr.toNat :=
    UInt64.toNat_sub_of_le _ _ (UInt64.le_iff_toNat_le.mpr hstart)
  rw [UInt64.toNat_div, hoffset]
  -- the bit index rounds the offset down to a block
  have hround := Nat.div_mul_le_self (addr.toNat - d.config.addr.toNat) d.config.blockSize.toNat
  have husable : ((addr.toNat - d.config.addr.toNat) / d.config.blockSize.toNat + nb) *
      d.config.blockSize.toNat ≤ d.config.usableRegionSize.toNat := by
    rw [Nat.add_mul]
    omega
  refine ⟨husable, ?_⟩
  rw [ha.length_memState, Nat.le_div_iff_mul_le hbs]
  exact husable.trans ha.usable_le

/-! ## PLUG and UNPLUG -/

theorem stateChangeRequest_cases {host : MemHost} {d : MemDevice} {memState memState' : List Bool}
    {addr size : UInt64} {nbBlocks : UInt16} {plug : Bool} {resp : UInt16}
    (h : stateChangeRequest host d memState addr size nbBlocks plug = (resp, memState')) :
    (resp ≠ virtioMemRespAck ∧ memState' = memState) ∨
      (resp = virtioMemRespAck ∧ (plug = true → d.config.pluggedSize + size ≤ d.config.requestedSize) ∧
        validRange d.config addr size = true ∧
        checkBitmap ((addr - d.config.addr) / d.config.blockSize).toNat nbBlocks memState (!plug) = true ∧
        memState' = setBitmap ((addr - d.config.addr) / d.config.blockSize).toNat nbBlocks memState plug) := by
  unfold stateChangeRequest at h
  dsimp only at h
  split_ifs at h with hnack hvalid hbitmap
  · exact .inl ⟨by cases h; decide, by cases h; rfl⟩
  · exact .inl ⟨by cases h; decide, by cases h; rfl⟩
  · exact .inl ⟨by cases h; decide, by cases h; rfl⟩
  · split at h
    · exact .inl ⟨by cases h; decide, by cases h; rfl⟩
    · split_ifs at h with hhost
      · exact .inl ⟨by cases h; decide, by cases h; rfl⟩
      · cases h
        refine .inr ⟨rfl, fun hp => ?_, by simpa using hvalid, by simpa using hbitmap, rfl⟩
        simp only [hp, Bool.true_and, decide_eq_true_eq] at hnack
        exact UInt64.not_lt.mp hnack

/-- An acknowledged change moves every block of its window from `!plug` to `plug`. -/
theorem count_setBitmap_of_check {memState : List Bool} {bi : Nat} {nb : UInt16} (plug : Bool)
    (hcheck : checkBitmap bi nb memState (!plug) = true) (hin : bi + nb.toNat ≤ memState.length) :
    (setBitmap bi nb memState plug).count true + (if plug then 0 else nb.toNat) =
      memState.count true + if plug then nb.toNat else 0 := by
  have hset := count_setWindow memState bi nb.toNat plug true
  rw [count_window_of_all hcheck, length_window_of_le hin] at hset
  unfold setBitmap
  cases plug <;> simpa using hset

/-- Plugging a window of unplugged blocks inside the bitmap adds its blocks to the count, and
the blocks plugged then still fit in the region. -/
theorem plug_count {d : MemDevice} (ha : Activated d) (hp : PlugInv d) {bi : Nat} {nb : UInt16}
    (hcheck : checkBitmap bi nb d.memState false = true) (hin : bi + nb.toNat ≤ d.memState.length) :
    (setBitmap bi nb d.memState true).count true = d.memState.count true + nb.toNat ∧
      d.config.pluggedSize.toNat + nb.toNat * d.config.blockSize.toNat ≤
        d.config.regionSize.toNat := by
  have hcount := count_setBitmap_of_check true hcheck hin
  rw [if_pos rfl, if_pos rfl] at hcount
  have hcount' : (setBitmap bi nb d.memState true).count true =
      d.memState.count true + nb.toNat := by
    omega
  refine ⟨hcount', ?_⟩
  have hle : (setBitmap bi nb d.memState true).count true ≤ d.memState.length :=
    List.count_le_length.trans (length_setWindow ..).le
  calc d.config.pluggedSize.toNat + nb.toNat * d.config.blockSize.toNat
      = d.config.blockSize.toNat * (setBitmap bi nb d.memState true).count true := by
        rw [hp.plugged_eq, hcount']
        ring
    _ ≤ d.config.blockSize.toNat * d.memState.length := Nat.mul_le_mul_left _ hle
    _ ≤ d.config.regionSize.toNat := by
        rw [ha.length_memState]
        exact Nat.mul_div_le _ _

/-- Unplugging a window of plugged blocks inside the bitmap takes its blocks off the count. -/
theorem unplug_count {memState : List Bool} {bi : Nat} {nb : UInt16}
    (hcheck : checkBitmap bi nb memState true = true) (hin : bi + nb.toNat ≤ memState.length) :
    memState.count true = (setBitmap bi nb memState false).count true + nb.toNat := by
  have hcount := count_setBitmap_of_check false hcheck hin
  rw [if_neg Bool.false_ne_true, if_neg Bool.false_ne_true] at hcount
  omega

/-- The counter after an acknowledged PLUG does not wrap. -/
theorem toNat_plugged_add {d : MemDevice} (ha : Activated d) (nb : UInt16)
    (hfit : d.config.pluggedSize.toNat + nb.toNat * d.config.blockSize.toNat ≤
      d.config.regionSize.toNat) :
    (d.config.pluggedSize + nb.toUInt64 * d.config.blockSize).toNat =
      d.config.pluggedSize.toNat + nb.toNat * d.config.blockSize.toNat := by
  have hreg := ha.addr_add_le
  rw [UInt64.toNat_add, toNat_size d ha nb, Nat.mod_eq_of_lt (by omega)]

theorem changeRequest_eq (host : MemHost) (d : MemDevice) (req : VirtioMemReq) (plug : Bool)
    {resp : UInt16} {memState : List Bool}
    (h : stateChangeRequest host d d.memState req.addr (req.nbBlocks.toUInt64 * d.config.blockSize)
      req.nbBlocks plug = (resp, memState)) :
    changeRequest host d req plug =
      ({ d with
        config := { d.config with
          pluggedSize :=
            if resp == virtioMemRespAck then
              if plug then d.config.pluggedSize + req.nbBlocks.toUInt64 * d.config.blockSize
              else d.config.pluggedSize - req.nbBlocks.toUInt64 * d.config.blockSize
            else d.config.pluggedSize }
        memState }, resp) := by
  unfold changeRequest
  dsimp only
  rw [h]

/-- PLUG and UNPLUG keep the device activated and its accounting exact. -/
theorem changeRequest_inv (host : MemHost) {d : MemDevice} (ha : Activated d) (hp : PlugInv d)
    (req : VirtioMemReq) (plug : Bool) :
    Activated (changeRequest host d req plug).1 ∧ PlugInv (changeRequest host d req plug).1 := by
  rcases hsc : stateChangeRequest host d d.memState req.addr
    (req.nbBlocks.toUInt64 * d.config.blockSize) req.nbBlocks plug with ⟨resp, memState⟩
  rw [changeRequest_eq host d req plug hsc]
  rcases stateChangeRequest_cases hsc with ⟨hne, rfl⟩ | ⟨rfl, -, hvalid, hcheck, rfl⟩
  case inl =>
    have : (resp == virtioMemRespAck) = false := by simpa using hne
    simp only [this]
    exact ⟨ha, hp⟩
  obtain ⟨husable, hin⟩ := window_le_usable ha hvalid (toNat_size d ha req.nbBlocks)
  refine ⟨ha.congr rfl rfl rfl (length_setWindow ..) ha.usable_le rfl, ?_⟩
  simp only [beq_self_eq_true, if_true]
  cases plug
  case true =>
    -- PLUG: the window was unplugged, and is inside the usable region
    obtain ⟨hcount, hfit⟩ := plug_count ha hp hcheck hin
    constructor
    · simp only [if_true]
      rw [toNat_plugged_add ha _ hfit, hp.plugged_eq, hcount]
      ring
    · intro j hj
      simp only [setBitmap, getD_setWindow] at hj
      split_ifs at hj with hw
      · calc (j + 1) * d.config.blockSize.toNat
            ≤ (((req.addr - d.config.addr) / d.config.blockSize).toNat + req.nbBlocks.toNat) *
              d.config.blockSize.toNat := Nat.mul_le_mul_right _ (by omega)
          _ ≤ d.config.usableRegionSize.toNat := husable
      · exact hp.plugged_usable j hj
  case false =>
    -- UNPLUG: the window was plugged, so the counter holds at least its size
    have hcount := unplug_count hcheck hin
    have hplugged := hp.plugged_eq
    rw [hcount, Nat.mul_add] at hplugged
    have hsub : (d.config.pluggedSize - req.nbBlocks.toUInt64 * d.config.blockSize).toNat =
        d.config.pluggedSize.toNat - req.nbBlocks.toNat * d.config.blockSize.toNat := by
      rw [UInt64.toNat_sub_of_le _ _ (UInt64.le_iff_toNat_le.mpr (by
        rw [toNat_size d ha]
        nlinarith)), toNat_size d ha]
    constructor
    · simp only [Bool.false_eq_true, if_false]
      rw [hsub, hplugged, Nat.mul_comm req.nbBlocks.toNat]
      omega
    · intro j hj
      simp only [setBitmap, getD_setWindow] at hj
      -- the window itself is unplugged now
      split_ifs at hj with hw
      exact hp.plugged_usable j hj

/-- A PLUG is acknowledged only if the counter then, which does not wrap, is at most the
requested size. -/
theorem changeRequest_plug_ack (host : MemHost) {d : MemDevice} (ha : Activated d)
    (hp : PlugInv d) (req : VirtioMemReq)
    (hack : (changeRequest host d req true).2 = virtioMemRespAck) :
    (changeRequest host d req true).1.config.pluggedSize.toNat =
        d.config.pluggedSize.toNat + req.nbBlocks.toNat * d.config.blockSize.toNat ∧
      d.config.pluggedSize.toNat + req.nbBlocks.toNat * d.config.blockSize.toNat ≤
        d.config.requestedSize.toNat := by
  rcases hsc : stateChangeRequest host d d.memState req.addr
    (req.nbBlocks.toUInt64 * d.config.blockSize) req.nbBlocks true with ⟨resp, memState⟩
  rw [changeRequest_eq host d req true hsc] at hack ⊢
  dsimp only at hack ⊢
  rcases stateChangeRequest_cases hsc with ⟨hne, -⟩ | ⟨-, hle, hvalid, hcheck, -⟩
  case inl => exact absurd hack hne
  subst hack
  obtain ⟨-, hin⟩ := window_le_usable ha hvalid (toNat_size d ha req.nbBlocks)
  have hadd := toNat_plugged_add ha req.nbBlocks (plug_count ha hp hcheck hin).2
  simp only [beq_self_eq_true, if_true]
  refine ⟨hadd, ?_⟩
  rw [← hadd]
  exact UInt64.le_iff_toNat_le.mp (hle rfl)

/-! ## UNPLUG_ALL -/

theorem getD_setBitmap_false {memState : List Bool} {bi : Nat} {nb : UInt16} {j : Nat}
    (h : (setBitmap bi nb memState false).getD j false = true) : memState.getD j false = true := by
  simp only [setBitmap, getD_setWindow] at h
  split_ifs at h
  exact h

theorem getD_set_false {memState : List Bool} {x j : Nat}
    (h : (memState.set x false).getD j false = true) : j ≠ x ∧ memState.getD j false = true := by
  simp only [List.getD_eq_getElem?_getD, List.getElem?_set] at h ⊢
  split_ifs at h with hxj hlt
  · simp at h
  · simp at h
  · exact ⟨Ne.symm hxj, h⟩

/-- An UNPLUG_ALL loop that answers ACK has unplugged every block it went over, and plugged
nothing. -/
theorem unplugAllFrom_ack (host : MemHost) (d : MemDevice) :
    ∀ (xs : List Nat) (memState : List Bool),
      (unplugAllFrom host d xs memState).1 = virtioMemRespAck →
      (unplugAllFrom host d xs memState).2.length = memState.length ∧
        ∀ j, (unplugAllFrom host d xs memState).2.getD j false = true →
          memState.getD j false = true ∧ j ∉ xs
  | [], memState, _ => ⟨rfl, fun j hj => ⟨hj, List.not_mem_nil⟩⟩
  | x :: xs, memState, hack => by
      rw [unplugAllFrom] at hack ⊢
      by_cases hx : memState.getD x false = true
      case neg =>
        rw [if_neg hx] at hack ⊢
        obtain ⟨hlen, hkeep⟩ := unplugAllFrom_ack host d xs memState hack
        refine ⟨hlen, fun j hj => ?_⟩
        obtain ⟨hj, hjxs⟩ := hkeep j hj
        refine ⟨hj, ?_⟩
        rintro (_ | ⟨_, hjxs'⟩)
        · exact hx hj
        · exact hjxs hjxs'
      rw [if_pos hx] at hack ⊢
      rcases hsc : stateChangeRequest host d memState
        (d.config.addr + UInt64.ofNat x * d.config.blockSize) d.config.blockSize 1 false with
        ⟨resp, memState₁⟩
      rw [hsc] at hack
      dsimp only at hack ⊢
      rcases stateChangeRequest_cases hsc with ⟨hne, -⟩ | ⟨rfl, -, -, -, rfl⟩
      case inl =>
        rw [if_pos (by simpa using hne)] at hack
        exact absurd hack hne
      rw [if_neg (by simp)] at hack ⊢
      obtain ⟨hlen, hkeep⟩ := unplugAllFrom_ack host d xs _ hack
      refine ⟨by rw [hlen, List.length_set, setBitmap, length_setWindow], fun j hj => ?_⟩
      obtain ⟨hj, hjxs⟩ := hkeep j hj
      obtain ⟨hjx, hj⟩ := getD_set_false hj
      refine ⟨getD_setBitmap_false hj, ?_⟩
      rintro (_ | ⟨_, hjxs'⟩)
      · exact hjx rfl
      · exact hjxs hjxs'

theorem count_true_eq_zero {l : List Bool} (h : ∀ j, l.getD j false = false) : l.count true = 0 := by
  rw [List.count_eq_zero]
  intro hmem
  obtain ⟨j, hj, heq⟩ := List.mem_iff_getElem.mp hmem
  have := h j
  rw [List.getD_eq_getElem _ _ hj, heq] at this
  exact absurd this (by decide)

/-- An UNPLUG_ALL that answers ACK leaves no block plugged. -/
theorem unplugAll_ack (host : MemHost) {d : MemDevice} (ha : Activated d)
    (hack : (unplugAll host d).1 = virtioMemRespAck) :
    (unplugAll host d).2.length = d.memState.length ∧
      ∀ j, (unplugAll host d).2.getD j false = false := by
  obtain ⟨hlen, hkeep⟩ := unplugAllFrom_ack host d _ d.memState hack
  refine ⟨hlen, fun j => ?_⟩
  cases hj : (unplugAll host d).2.getD j false with
  | false => rfl
  | true =>
      obtain ⟨hj', hnot⟩ := hkeep j hj
      -- a plugged block is in the bitmap, and the loop went over every block of it
      have hlt : j < d.memState.length := by
        by_contra hge
        rw [List.getD_eq_default _ _ (by omega)] at hj'
        exact Bool.false_ne_true hj'
      rw [ha.length_memState, ← UInt64.toNat_div] at hlt
      exact absurd (List.mem_range.mpr hlt) hnot

/-! ## Resizing keeps the accounting -/

theorem mapNewRegions_length (factory : MemRegionFactory) (config : VirtioMemConfig)
    (newsize : UInt64) (mapRegions : MapRegions) :
    Holds (fun _ => True) (fun m => m.length = mapRegions.length)
      (mapNewRegions factory config newsize mapRegions) := by
  unfold mapNewRegions
  dsimp only
  split
  · rfl
  · split
    · trivial
    · exact List.length_mapIdx

/-- What a resize that may not shrink does: the config changes only in its usable size, which
grows, within the region; and no map region is added or removed. -/
def ResizeOk (config : VirtioMemConfig) (multiRegions : Option MapRegions)
    (r : VirtioMemConfig × Option MapRegions) : Prop :=
  r.1 = { config with usableRegionSize := r.1.usableRegionSize } ∧
    config.usableRegionSize.toNat ≤ r.1.usableRegionSize.toNat ∧
    (r.1.usableRegionSize = config.usableRegionSize ∨
      r.1.usableRegionSize.toNat ≤ config.regionSize.toNat) ∧
    r.2.map List.length = multiRegions.map List.length

theorem resizeUsableRegion_ok (factory : MemRegionFactory) (config : VirtioMemConfig)
    (alignment : UInt64) (multiRegions : Option MapRegions) :
    Holds (fun _ => True) (ResizeOk config multiRegions)
      (resizeUsableRegion factory config false alignment multiRegions) := by
  unfold resizeUsableRegion
  dsimp only
  -- the new size is cut down to the region before it is rounded to blocks
  have hnew : (resizeNewsize config alignment).toNat ≤ config.regionSize.toNat := by
    unfold resizeNewsize
    split
    · exact Nat.zero_le _
    · rw [UInt64.toNat_and]
      exact Nat.and_le_left.trans (toNat_min_le_left _ _)
  generalize resizeNewsize config alignment = newsize at hnew ⊢
  apply Holds.bind (P := fun m => m.map List.length = multiRegions.map List.length)
  · apply Holds.ite
    · intro _
      split
      · exact Holds.map (mapNewRegions_length ..) (fun m hm => by simp [hm])
      · rfl
    · intro _
      rfl
  · intro maps hmaps
    apply Holds.ite
    · intro _
      exact ⟨rfl, le_refl _, .inl rfl, hmaps⟩
    · intro hgrow
      simp only [Bool.and_eq_true, decide_eq_true_eq, Bool.not_false, and_true,
        UInt64.lt_iff_toNat_lt, not_lt] at hgrow
      exact ⟨rfl, hgrow, .inr hnew, hmaps⟩

/-- `set_requested_size` keeps the device activated and its accounting: the bitmap and the
counter stay, and the usable region only grows. -/
theorem setRequestedSize_inv (factory : MemRegionFactory) {d : MemDevice} (ha : Activated d)
    (hp : PlugInv d) (mb : UInt64) :
    Activated (setRequestedSize factory d mb).1 ∧ PlugInv (setRequestedSize factory d mb).1 := by
  unfold setRequestedSize
  dsimp only
  split
  · exact ⟨ha, hp⟩
  have hok := resizeUsableRegion_ok factory { d.config with requestedSize := mb * 1024 * 1024 }
    d.alignment (if d.multiRegion then some d.mapRegions else none)
  split
  · exact ⟨ha.congr rfl rfl rfl rfl ha.usable_le rfl, ⟨hp.plugged_eq, hp.plugged_usable⟩⟩
  · rename_i config multi heq
    rw [heq] at hok
    obtain ⟨hconfig, hgrow, hle, hmaps⟩ := hok
    dsimp only at hconfig hgrow hle hmaps
    have hbs : config.blockSize = d.config.blockSize := by rw [hconfig]
    have hplugged : config.pluggedSize = d.config.pluggedSize := by rw [hconfig]
    have husable : config.usableRegionSize.toNat ≤ d.config.regionSize.toNat := by
      rcases hle with h | h
      · rw [h]
        exact ha.usable_le
      · exact h
    have hmap : (multi.getD d.mapRegions).length = d.mapRegions.length := by
      cases multi with
      | none => rfl
      | some m =>
          split at hmaps
          · simpa using hmaps
          · simp at hmaps
    refine ⟨ha.congr hbs (by rw [hconfig]) (by rw [hconfig]) rfl
      (by rw [hconfig]; exact husable) hmap, ?_⟩
    constructor
    · dsimp only
      rw [hbs, hplugged]
      exact hp.plugged_eq
    · intro j hj
      dsimp only at hj ⊢
      rw [hbs]
      exact (hp.plugged_usable j hj).trans hgrow

/-! ## Requests and runs -/

theorem processRequest_fst (host : MemHost) (d : MemDevice) (req : VirtioMemReq) :
    (processRequest host d req).1 =
      if req.reqType == virtioMemReqPlug then (changeRequest host d req true).1
      else if req.reqType == virtioMemReqUnplug then (changeRequest host d req false).1
      else if req.reqType == virtioMemReqUnplugAll then
        { d with
          config := { d.config with
            pluggedSize :=
              if (unplugAll host d).1 == virtioMemRespAck then 0 else d.config.pluggedSize }
          memState := (unplugAll host d).2 }
      else d := by
  unfold processRequest
  rcases unplugAll host d with ⟨resp, memState⟩
  dsimp only
  split_ifs <;> rfl

/-- An UNPLUG_ALL that answers ACK leaves the accounting exact: nothing plugged, counter zero. -/
theorem unplugAll_inv (host : MemHost) {d : MemDevice} (ha : Activated d)
    (hack : (unplugAll host d).1 = virtioMemRespAck) :
    Activated { d with
      config := { d.config with pluggedSize := 0 }, memState := (unplugAll host d).2 } ∧
    PlugInv { d with
      config := { d.config with pluggedSize := 0 }, memState := (unplugAll host d).2 } := by
  obtain ⟨hlen, hfree⟩ := unplugAll_ack host ha hack
  refine ⟨ha.congr rfl rfl rfl hlen ha.usable_le rfl, ⟨?_, fun j hj => ?_⟩⟩
  · dsimp only
    rw [count_true_eq_zero hfree]
    rfl
  · dsimp only at hj
    rw [hfree j] at hj
    exact absurd hj Bool.false_ne_true

/-- Every step that is not a failed UNPLUG_ALL keeps the device activated and its accounting
exact. -/
theorem step_inv {d : MemDevice} (ha : Activated d) (hp : PlugInv d) (e : MemEvent)
    (hc : Completes d e = true) : Activated (step d e) ∧ PlugInv (step d e) := by
  cases e with
  | setRequestedSize factory mb => exact setRequestedSize_inv factory ha hp mb
  | request host req =>
      simp only [step, processRequest_fst]
      split_ifs with hplug hunplug hall hack
      · exact changeRequest_inv host ha hp req true
      · exact changeRequest_inv host ha hp req false
      · exact unplugAll_inv host ha (by simpa using hack)
      · -- the run goes on only past an UNPLUG_ALL that answered ACK
        have : (unplugAll host d).1 = virtioMemRespAck := by
          simpa [Completes, hall] using hc
        exact absurd (by simpa using this) hack
      · exact ⟨ha, hp⟩

/-- Along a run in which no UNPLUG_ALL fails, the device stays activated and its accounting
exact. -/
theorem run_inv : ∀ (es : List MemEvent) {d : MemDevice}, Activated d → PlugInv d →
    RunCompletes d es = true → Activated (run d es) ∧ PlugInv (run d es)
  | [], _, ha, hp, _ => ⟨ha, hp⟩
  | e :: es, d, ha, hp, hc => by
      simp only [RunCompletes, Bool.and_eq_true] at hc
      obtain ⟨ha', hp'⟩ := step_inv ha hp e hc.1
      exact run_inv es ha' hp' hc.2

/-! ## STATE -/

theorem checkBitmap_iff {memState : List Bool} {bi : Nat} {nb : UInt16} (plug : Bool)
    (hin : bi + nb.toNat ≤ memState.length) :
    checkBitmap bi nb memState plug = true ↔
      ∀ j, bi ≤ j → j < bi + nb.toNat → memState.getD j false = plug := by
  unfold checkBitmap
  rw [List.all_eq_true]
  constructor
  · intro h j hi hn
    have := h _ ((mem_window_iff false).mpr ⟨j, hi, hn, by omega, rfl⟩)
    simpa using this
  · intro h x hx
    obtain ⟨j, hi, hn, -, rfl⟩ := (mem_window_iff false).mp hx
    simpa using h j hi hn

/-- On a valid range, STATE answers ACK and reports the range's blocks, which are all in the
bitmap, as they stand there: all plugged, all unplugged, or mixed. -/
theorem stateRequest_reports_bitmap {d : MemDevice} (ha : Activated d) {addr : UInt64}
    {nbBlocks : UInt16}
    (hv : validRange d.config addr (nbBlocks.toUInt64 * d.config.blockSize) = true) :
    ((addr - d.config.addr) / d.config.blockSize).toNat + nbBlocks.toNat ≤ d.memState.length ∧
      stateRequest d.config addr nbBlocks d.memState =
        (virtioMemRespAck,
          if ∀ j, ((addr - d.config.addr) / d.config.blockSize).toNat ≤ j →
              j < ((addr - d.config.addr) / d.config.blockSize).toNat + nbBlocks.toNat →
              d.memState.getD j false = true then virtioMemStatePlugged
          else if ∀ j, ((addr - d.config.addr) / d.config.blockSize).toNat ≤ j →
              j < ((addr - d.config.addr) / d.config.blockSize).toNat + nbBlocks.toNat →
              d.memState.getD j false = false then virtioMemStateUnplugged
          else virtioMemStateMixed) := by
  obtain ⟨-, hin⟩ := window_le_usable ha hv (toNat_size d ha nbBlocks)
  refine ⟨hin, ?_⟩
  unfold stateRequest
  dsimp only
  rw [if_pos hv]
  simp only [← checkBitmap_iff true hin, ← checkBitmap_iff false hin]

/-! ## UNPLUG_ALL failing part way -/

/-- Every host call succeeds. -/
def MemHost.ok : MemHost := ⟨fun _ _ => true, fun _ _ => true⟩

/-- An activated single-region device of two 4 MiB blocks at 4 GiB, both unplugged, with
8 MiB requested. -/
def twoBlockDevice : MemDevice where
  config := { blockSize := 0x40_0000, addr := 0x1_0000_0000, regionSize := 0x80_0000,
              usableRegionSize := 0x80_0000, pluggedSize := 0, requestedSize := 0x80_0000 }
  memState := [false, false]
  multiRegion := false
  mapRegions := [(0, some (0x7f00_0000_0000, 0x1_0000_0000))]
  hostFd := false
  capacity := 0x80_0000
  alignment := 0x800_0000

theorem twoBlockDevice_activated : Activated twoBlockDevice :=
  ⟨by decide, by decide, by decide, by decide, by decide, by decide, by decide⟩

theorem twoBlockDevice_plugInv : PlugInv twoBlockDevice := by
  refine ⟨by decide, fun j hj => ?_⟩
  rcases j with _ | _ | j <;> simp [twoBlockDevice] at hj

/-- Plugging both blocks of `twoBlockDevice` is acknowledged, and the counter grows by 8 MiB,
the requested size. -/
theorem changeRequest_plug_ack_two_blocks :
    (changeRequest MemHost.ok twoBlockDevice ⟨virtioMemReqPlug, 0x1_0000_0000, 2⟩ true).2 =
        virtioMemRespAck ∧
      (changeRequest MemHost.ok twoBlockDevice ⟨virtioMemReqPlug, 0x1_0000_0000, 2⟩
          true).1.config.pluggedSize.toNat =
        twoBlockDevice.config.pluggedSize.toNat +
          (2 : UInt16).toNat * twoBlockDevice.config.blockSize.toNat := by
  have hack : (changeRequest MemHost.ok twoBlockDevice ⟨virtioMemReqPlug, 0x1_0000_0000, 2⟩ true).2 =
      virtioMemRespAck := by
    with_unfolding_all decide
  exact ⟨hack, (changeRequest_plug_ack MemHost.ok twoBlockDevice_activated twoBlockDevice_plugInv _
    hack).1⟩

/-- STATE of both blocks of `twoBlockDevice` asks for a valid range, whose blocks all lie in
the bitmap. -/
theorem stateRequest_reports_bitmap_two_blocks :
    validRange twoBlockDevice.config 0x1_0000_0000
        ((2 : UInt16).toUInt64 * twoBlockDevice.config.blockSize) = true ∧
      ((0x1_0000_0000 - twoBlockDevice.config.addr) / twoBlockDevice.config.blockSize).toNat +
        (2 : UInt16).toNat ≤ twoBlockDevice.memState.length := by
  have hv : validRange twoBlockDevice.config 0x1_0000_0000
      ((2 : UInt16).toUInt64 * twoBlockDevice.config.blockSize) = true := by
    decide
  exact ⟨hv, (stateRequest_reports_bitmap twoBlockDevice_activated hv).1⟩

/-- The guest plugs both blocks, then asks to unplug all, and `madvise` fails on the second. -/
def plugThenUnplugAll : List MemEvent :=
  [.request MemHost.ok ⟨virtioMemReqPlug, 0x1_0000_0000, 2⟩,
   .request ⟨fun _ _ => true, fun a _ => a != 0x7f00_0040_0000⟩ ⟨virtioMemReqUnplugAll, 0, 0⟩]

/-- After the failed UNPLUG_ALL the first block is unplugged and the second still plugged, but
the counter still says 8 MiB: the accounting no longer holds. -/
theorem unplugAll_failure_breaks_accounting :
    Activated twoBlockDevice ∧ PlugInv twoBlockDevice ∧
      (run twoBlockDevice plugThenUnplugAll).config.pluggedSize = 0x80_0000 ∧
      (run twoBlockDevice plugThenUnplugAll).memState = [false, true] ∧
      ¬ PlugInv (run twoBlockDevice plugThenUnplugAll) := by
  have hplugged : (run twoBlockDevice plugThenUnplugAll).config.pluggedSize = 0x80_0000 := by
    with_unfolding_all decide
  have hstate : (run twoBlockDevice plugThenUnplugAll).memState = [false, true] := by
    with_unfolding_all decide
  refine ⟨⟨by decide, by decide, by decide, by decide, by decide, by decide, by decide⟩,
    ⟨by decide, fun j hj => ?_⟩, hplugged, hstate, fun hinv => ?_⟩
  · rcases j with _ | _ | j <;> simp [twoBlockDevice] at hj
  · have h := hinv.plugged_eq
    rw [hplugged, hstate] at h
    exact absurd h (by decide)

end KataContainers.VirtioMem

import KataContainers.Block.Request
import KataContainers.Utils.RateLimiter

/-!
# virtio-blk queue handling

`InnerBlockEpollHandler::process_queue` with `trigger_rate_limit`, `process_aio_request` and
`process_request`. Every available chain is parsed; a valid read or write is first offered to
the asynchronous engine, which queues a vectored transfer at `sector << SECTOR_SHIFT`, and is
executed synchronously when the engine declines it. Whether the engine accepts a submission
is the parameter `submitOk`.
-/

namespace KataContainers.Block

open VmMemory RustInt VirtioQueue KataContainers.RateLimiter

/-- The status codes `VIRTIO_BLK_S_OK`, `_IOERR` and `_UNSUPP`. -/
def virtioBlkSOk : UInt32 := 0
def virtioBlkSIoerr : UInt32 := 1
def virtioBlkSUnsupp : UInt32 := 2

/-- The vectored transfer that an accepted asynchronous submission performs: the iovecs one
after another from the file offset `offset`. The kernel rejects a negative `i64` offset with
`EINVAL`, so such a request moves no data. -/
def Disk.submit (disk : Disk) (kind : AccessKind) (offset : UInt64) (lens : List Nat) : Disk :=
  if offset.toNat < 2 ^ 63 then
    { disk with accesses := ({ disk with offset := offset.toNat }.transferAll kind lens).accesses }
  else disk

/-- `trigger_rate_limit`: whether processing must stop, and the limiter afterwards. -/
def triggerRateLimit {ρ : Type} (ops : RateLimiterOps ρ) (limiter : ρ) (req : Request)
    (dataDescs : List IoDataDesc) : Bool × ρ :=
  let (okOps, limiter) := ops.consume limiter 1 .Ops
  if !okOps then (true, limiter)
  else if req.requestType = .In ∨ req.requestType = .Out then
    let (okBytes, limiter) := ops.consume limiter (Request.dataLen dataDescs).toUInt64 .Bytes
    if !okBytes then (true, ops.manualReplenish limiter 1 .Ops) else (false, limiter)
  else (false, limiter)

/-- `process_aio_request`: `ok true` when the request was queued on the engine, `ok false`
when it is left to the synchronous path. -/
def processAioRequest (req : Request) (dataDescs : List IoDataDesc) (disk : Disk)
    (mem : GuestMemoryMmap) (submitOk : Bool) : Except ExecuteError Bool × Disk :=
  if req.requestType ≠ .In ∧ req.requestType ≠ .Out then (.ok false, disk)
  else
    match req.checkCapacity disk.capacity dataDescs with
    | .error e => (.error e, disk)
    | .ok () =>
        match dataDescs.mapM (fun io => mem.getHostAddress io.dataAddr) with
        | none => (.error (.BadRequest .GuestMemory), disk)
        | some _ =>
            if submitOk then
              let kind := if req.requestType = .In then AccessKind.read else AccessKind.write
              (.ok true, disk.submit kind (req.sector <<< sectorShift)
                (dataDescs.map (·.dataLen.toNat)))
            else (.ok false, disk)

/-- The status that `process_request` writes for a failed `execute`. -/
def ExecuteError.status : ExecuteError → UInt32
  | .Unsupported _ => virtioBlkSUnsupp
  | _ => virtioBlkSIoerr

/-- `process_request`: `execute`, then the status byte for the guest. -/
def processRequest (req : Request) (dataDescs : List IoDataDesc) (disk : Disk)
    (diskId : List UInt8) (mem : GuestMemoryMmap) :
    Except ExecuteError UInt32 × UInt32 × Disk :=
  match req.execute mem disk dataDescs diskId with
  | (.ok len, disk) => (.ok len, virtioBlkSOk, disk)
  | (.error e, disk) => (.error e, e.status, disk)

/-- What `process_queue` changes: the disk, the limiter, the requests left pending on the
engine, the used-ring entries `(index, len)` and the status writes `(status_addr, status)`. -/
structure QueueState (ρ : Type) where
  disk : Disk
  limiter : ρ
  pending : List (UInt16 × Request)
  used : List (UInt16 × UInt32)
  statuses : List (UInt64 × UInt32)

/-- `process_queue` over the available chains, given by head index. It returns the state and
the chains left on the queue: when the limiter stops it, the rate-limited chain is put back
(`go_to_previous_position`) with every chain after it. -/
def processQueue {ρ : Type} (ops : RateLimiterOps ρ) (mem : GuestMemoryMmap)
    (readHeader : UInt64 → Option RequestHeader) (diskId : List UInt8)
    (submitOk : Request → Bool) :
    List (UInt16 × List Descriptor) → QueueState ρ →
      QueueState ρ × List (UInt16 × List Descriptor)
  | [], st => (st, [])
  | (index, chain) :: rest, st =>
      match Request.parse mem readHeader index chain st.disk.maxSize with
      | .error _ =>
          processQueue ops mem readHeader diskId submitOk rest
            { st with used := st.used ++ [(index, 0)] }
      | .ok (req, dataDescs) =>
          match triggerRateLimit ops st.limiter req dataDescs with
          | (true, limiter) => ({ st with limiter := limiter }, (index, chain) :: rest)
          | (false, limiter) =>
              match processAioRequest req dataDescs st.disk mem (submitOk req) with
              | (.ok true, disk) =>
                  processQueue ops mem readHeader diskId submitOk rest
                    { st with disk := disk, limiter := limiter,
                              pending := st.pending ++ [(req.requestIndex, req)] }
              | (.error _, disk) =>
                  processQueue ops mem readHeader diskId submitOk rest
                    { st with disk := disk, limiter := limiter,
                              statuses := st.statuses ++ [(req.statusAddr, virtioBlkSIoerr)],
                              used := st.used ++ [(index, 0)] }
              | (.ok false, disk) =>
                  match processRequest req dataDescs disk diskId mem with
                  | (result, status, disk) =>
                      processQueue ops mem readHeader diskId submitOk rest
                        { st with disk := disk, limiter := limiter,
                                  statuses := st.statuses ++ [(req.statusAddr, status)],
                                  used := st.used ++ [(index, match result with
                                    | .ok len => len
                                    | .error _ => 0)] }

theorem Disk.submit_accesses (disk : Disk) (kind : AccessKind) (offset : UInt64)
    (lens : List Nat) :
    (disk.submit kind offset lens).accesses = disk.accesses ++
      if offset.toNat < 2 ^ 63 then runs kind offset.toNat lens else [] := by
  unfold Disk.submit
  split <;> simp [Disk.transferAll_accesses]

/-- Guest memory for the failing input: one 64 KiB region. -/
def wrapMemory : GuestMemoryMmap := ⟨[⟨0, 0x10000, 0x7f0000000000, none⟩], by decide, by decide⟩

/-- A write request: header, one 512-byte data descriptor, status byte. -/
def wrapChain : List Descriptor :=
  [⟨0x1000, 16, false, true⟩, ⟨0x2000, 512, false, true⟩, ⟨0x3000, 1, true, false⟩]

/-- The header names `VIRTIO_BLK_T_OUT` at sector `2^55`, so `sector * 512 = 2^64`. -/
def wrapHeader : UInt64 → Option RequestHeader := fun _ => some ⟨virtioBlkTOut, 2 ^ 55⟩

/-- A 1 MiB image. -/
def wrapDisk : Disk := ⟨0x100000, 0x100000, 0, []⟩

end KataContainers.Block

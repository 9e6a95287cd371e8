import KataContainers.VmMemory.GuestMemory
import KataContainers.Lib.RustInt
import KataContainers.VirtioQueue.Descriptor

/-!
# virtio-blk requests

`Request::parse`, `check_request`, `check_capacity`, `execute` and `data_len` of
`dbs_virtio_devices::block::request`. The disk is the image file as the device sees it
through `Ufile`: its capacity, its current file offset and the log of the transfers made on
it. A transfer of `len` bytes at the file offset moves the offset by `len`, as `read_from` and
`write_to` do on a regular file.
-/

namespace KataContainers.Block

open VmMemory RustInt VirtioQueue

/-- `SECTOR_SHIFT`. -/
def sectorShift : UInt64 := 9

/-- `SECTOR_SIZE = 1 << SECTOR_SHIFT`. -/
def sectorSize : UInt64 := 1 <<< sectorShift

/-- The `virtio_blk` request codes `VIRTIO_BLK_T_IN`, `_OUT`, `_FLUSH` and `_GET_ID`. -/
def virtioBlkTIn : UInt32 := 0
def virtioBlkTOut : UInt32 := 1
def virtioBlkTFlush : UInt32 := 4
def virtioBlkTGetId : UInt32 := 8

/-- `RequestType`. -/
inductive RequestType where
  | In
  | Out
  | Flush
  | GetDeviceID
  | Unsupported (t : UInt32)
deriving DecidableEq, Repr

/-- `impl From<u32> for RequestType`. -/
def RequestType.ofU32 (value : UInt32) : RequestType :=
  if value = virtioBlkTIn then .In
  else if value = virtioBlkTOut then .Out
  else if value = virtioBlkTFlush then .Flush
  else if value = virtioBlkTGetId then .GetDeviceID
  else .Unsupported value

/-- `RequestHeader`: the fields `read_obj` decodes from the head descriptor. -/
structure RequestHeader where
  requestType : UInt32
  sector : UInt64
deriving DecidableEq, Repr

/-- `IoDataDesc`. -/
structure IoDataDesc where
  dataAddr : UInt64
  dataLen : UInt64
deriving DecidableEq, Repr

/-- `Request`. -/
structure Request where
  requestType : RequestType
  sector : UInt64
  statusAddr : UInt64
  requestIndex : UInt16
deriving DecidableEq, Repr

/-- The variants of the crate's `Error` that the request path returns. -/
inductive Error where
  | DescriptorChainTooShort
  | UnexpectedWriteOnlyDescriptor
  | UnexpectedReadOnlyDescriptor
  | DescriptorLengthTooBig
  | DescriptorLengthTooSmall
  | InvalidGuestAddress (addr : UInt64)
  | GuestMemory
  | InvalidOffset
deriving DecidableEq, Repr

/-- `ExecuteError`; the wrapped I/O and guest-memory errors carry no data here. -/
inductive ExecuteError where
  | BadRequest (e : Error)
  | Flush
  | Read
  | Seek
  | Write
  | GetDeviceID
  | Unsupported (t : UInt32)
deriving DecidableEq, Repr

/-- `Request::check_request`. -/
def Request.checkRequest (req : Request) (desc : Descriptor) (maxSize : UInt32) :
    Except Error Unit :=
  match req.requestType with
  | .Out =>
      if desc.writeOnly then .error .UnexpectedWriteOnlyDescriptor
      else if desc.len > maxSize then .error .DescriptorLengthTooBig
      else .ok ()
  | .In =>
      if !desc.writeOnly then .error .UnexpectedReadOnlyDescriptor
      else if desc.len > maxSize then .error .DescriptorLengthTooBig
      else .ok ()
  | .GetDeviceID => if !desc.writeOnly then .error .UnexpectedReadOnlyDescriptor else .ok ()
  | _ => .ok ()

/-- The `while desc.has_next()` loop of `Request::parse`: every descriptor with a successor is
checked and recorded as data, and the first one without a successor is the status
descriptor. -/
def Request.parseData (req : Request) (maxSize : UInt32) :
    Descriptor → List Descriptor → Except Error (List IoDataDesc × Descriptor)
  | desc, rest =>
      if desc.hasNext then
        match req.checkRequest desc maxSize with
        | .error e => .error e
        | .ok () =>
            match rest with
            | [] => .error .DescriptorChainTooShort
            | next :: rest =>
                match req.parseData maxSize next rest with
                | .error e => .error e
                | .ok (descs, status) =>
                    .ok (⟨desc.addr, desc.len.toUInt64⟩ :: descs, status)
      else .ok ([], desc)

/-- `Request::parse`: the request and its data descriptors, from the chain whose head has
index `headIndex`; `readHeader` is `read_obj` of the header at a guest address. -/
def Request.parse (mem : GuestMemoryMmap) (readHeader : UInt64 → Option RequestHeader)
    (headIndex : UInt16) (chain : List Descriptor) (maxSize : UInt32) :
    Except Error (Request × List IoDataDesc) :=
  match chain with
  | [] => .error .DescriptorChainTooShort
  | head :: rest =>
      if head.writeOnly then .error .UnexpectedWriteOnlyDescriptor
      else
        match readHeader head.addr with
        | none => .error .GuestMemory
        | some header =>
            let req : Request :=
              ⟨.ofU32 header.requestType, header.sector, 0, headIndex⟩
            match rest with
            | [] => .error .DescriptorChainTooShort
            | desc :: rest =>
                let body : Except Error (List IoDataDesc × Descriptor) :=
                  if !desc.hasNext then
                    -- Only flush requests may skip the data descriptor.
                    if req.requestType ≠ .Flush then .error .DescriptorChainTooShort
                    else .ok ([], desc)
                  else req.parseData maxSize desc rest
                match body with
                | .error e => .error e
                | .ok (descs, status) =>
                    if !status.writeOnly then .error .UnexpectedReadOnlyDescriptor
                    else if status.len < 1 then .error .DescriptorLengthTooSmall
                    else if !mem.addressInRange status.addr then
                      .error (.InvalidGuestAddress status.addr)
                    else .ok ({ req with statusAddr := status.addr }, descs)

/-- The kind of a transfer between guest memory and the disk. -/
inductive AccessKind where
  | read
  | write
deriving DecidableEq, Repr

/-- One transfer on the disk image: `len` bytes at file offset `offset`. -/
structure DiskAccess where
  kind : AccessKind
  offset : Nat
  len : Nat
deriving DecidableEq, Repr

/-- The disk image behind `Box<dyn Ufile>`. -/
structure Disk where
  capacity : UInt64
  maxSize : UInt32
  offset : Nat
  accesses : List DiskAccess
deriving DecidableEq, Repr

/-- `seek(SeekFrom::Start(pos))`: the file offset is an `i64`, so a position from `2^63` on
is rejected (`EINVAL`). -/
def Disk.seek (disk : Disk) (pos : UInt64) : Option Disk :=
  if pos.toNat < 2 ^ 63 then some { disk with offset := pos.toNat } else none

/-- A transfer of `len` bytes at the file offset, which then moves past it. -/
def Disk.transfer (disk : Disk) (kind : AccessKind) (len : Nat) : Disk :=
  { disk with offset := disk.offset + len, accesses := disk.accesses ++ [⟨kind, disk.offset, len⟩] }

/-- Transfers of the lengths `lens`, one after another from the file offset. -/
def Disk.transferAll (disk : Disk) (kind : AccessKind) (lens : List Nat) : Disk :=
  lens.foldl (fun d len => d.transfer kind len) disk

/-- The accesses of back-to-back transfers of `lens` starting at file offset `start`. -/
def runs (kind : AccessKind) : Nat → List Nat → List DiskAccess
  | _, [] => []
  | start, len :: lens => ⟨kind, start, len⟩ :: runs kind (start + len) lens

@[simp] theorem Disk.transfer_capacity (disk : Disk) (kind : AccessKind) (len : Nat) :
    (disk.transfer kind len).capacity = disk.capacity := rfl

@[simp] theorem Disk.transferAll_nil (disk : Disk) (kind : AccessKind) :
    disk.transferAll kind [] = disk := rfl

@[simp] theorem Disk.transferAll_cons (disk : Disk) (kind : AccessKind) (len : Nat)
    (lens : List Nat) :
    disk.transferAll kind (len :: lens) = (disk.transfer kind len).transferAll kind lens := rfl

theorem Disk.transferAll_accesses (disk : Disk) (kind : AccessKind) (lens : List Nat) :
    (disk.transferAll kind lens).accesses = disk.accesses ++ runs kind disk.offset lens := by
  induction lens generalizing disk with
  | nil => simp [runs]
  | cons len lens ih =>
      rw [Disk.transferAll_cons, ih]
      simp [Disk.transfer, runs]

/-- `SECTOR_SIZE - 1` added and masked off: the descriptor length rounded up to whole
sectors, as `check_capacity` computes it. -/
def sectorTop (d : IoDataDesc) : UInt64 :=
  (d.dataLen + sectorSize - 1) &&& ~~~(sectorSize - 1)

/-- `Request::check_capacity`: each data descriptor, rounded up to whole sectors, is added to
the start offset `sector << SECTOR_SHIFT` and compared with the capacity. -/
def Request.checkCapacity (req : Request) (capacity : UInt64) :
    List IoDataDesc → Except ExecuteError Unit
  | [] => .ok ()
  | d :: ds =>
      match checkedAdd (sectorTop d) (req.sector <<< sectorShift) with
      | none => .error (.BadRequest .InvalidOffset)
      | some top =>
          if top > capacity then .error (.BadRequest .InvalidOffset)
          else req.checkCapacity capacity ds

/-- The `for io in data_descs` loop of `Request::execute`, with the byte count `len` so far.
A read or write whose guest address is outside guest memory fails before it moves any data;
`flush` on a file cannot fail. -/
def Request.executeData (req : Request) (mem : GuestMemoryMmap) (diskId : List UInt8) :
    List IoDataDesc → UInt64 → Disk → Except ExecuteError UInt32 × Disk
  | [], len, disk => (.ok len.toUInt32, disk)
  | io :: rest, len, disk =>
      match req.requestType with
      | .In =>
          if io.dataLen ≠ 0 ∧ !mem.addressInRange io.dataAddr then (.error .Read, disk)
          else req.executeData mem diskId rest (len + io.dataLen) (disk.transfer .read io.dataLen.toNat)
      | .Out =>
          if io.dataLen ≠ 0 ∧ !mem.addressInRange io.dataAddr then (.error .Write, disk)
          else req.executeData mem diskId rest len (disk.transfer .write io.dataLen.toNat)
      | .Flush => req.executeData mem diskId rest len disk
      | .GetDeviceID =>
          if io.dataLen.toNat < diskId.length then (.error (.BadRequest .InvalidOffset), disk)
          else if diskId ≠ [] ∧ !mem.addressInRange io.dataAddr then (.error .GetDeviceID, disk)
          else (.ok (UInt32.ofNat diskId.length), disk)
      | .Unsupported t => (.error (.Unsupported t), disk)

/-- `Request::execute`. -/
def Request.execute (req : Request) (mem : GuestMemoryMmap) (disk : Disk)
    (dataDescs : List IoDataDesc) (diskId : List UInt8) : Except ExecuteError UInt32 × Disk :=
  match req.checkCapacity disk.capacity dataDescs with
  | .error e => (.error e, disk)
  | .ok () =>
      match disk.seek (req.sector <<< sectorShift) with
      | none => (.error .Seek, disk)
      | some disk => req.executeData mem diskId dataDescs 0 disk

/-- `Request::data_len`. -/
def Request.dataLen (dataDescs : List IoDataDesc) : UInt32 :=
  (dataDescs.foldl (fun (len : UInt64) (d : IoDataDesc) => len + d.dataLen) 0).toUInt32

/-- The transfer kind of a data request: reads for `In`, writes otherwise. -/
def RequestType.accessKind : RequestType → AccessKind
  | .In => .read
  | _ => .write

/-- The start offset is `sector * 512` reduced modulo `2^64`. -/
theorem start_offset_toNat (sector : UInt64) :
    (sector <<< sectorShift).toNat = sector.toNat * 512 % 2 ^ 64 :=
  toNat_shiftLeft_nine sector

/-- The data loop of `execute` on a read or write moves the descriptors' lengths back to
back from the file offset, stopping at the first descriptor whose guest address is not
guest memory; when it succeeds it has moved all of them. -/
theorem Request.executeData_transfers (req : Request) (mem : GuestMemoryMmap)
    (diskId : List UInt8) (hreq : req.requestType = .In ∨ req.requestType = .Out)
    (ds : List IoDataDesc) (len : UInt64) (disk : Disk) :
    ∃ k, (req.executeData mem diskId ds len disk).2 =
        disk.transferAll req.requestType.accessKind ((ds.take k).map (·.dataLen.toNat)) ∧
      ((req.executeData mem diskId ds len disk).1.toBool = true → k = ds.length) := by
  induction ds generalizing len disk with
  | nil => exact ⟨0, rfl, fun _ => rfl⟩
  | cons io rest ih =>
      rcases hreq with hreq | hreq
      · by_cases hbad : io.dataLen ≠ 0 ∧ !mem.addressInRange io.dataAddr
        · refine ⟨0, ?_, ?_⟩ <;> simp [Request.executeData, hreq, hbad, Except.toBool]
        · obtain ⟨k, hk, hok⟩ := ih (len + io.dataLen) (disk.transfer .read io.dataLen.toNat)
          refine ⟨k + 1, ?_, ?_⟩
          · simp only [Request.executeData, hreq, hbad, if_false] at hk hok ⊢
            rw [hk]
            simp [RequestType.accessKind]
          · simp only [Request.executeData, hreq, hbad, if_false] at hok ⊢
            simpa using hok
      · by_cases hbad : io.dataLen ≠ 0 ∧ !mem.addressInRange io.dataAddr
        · refine ⟨0, ?_, ?_⟩ <;> simp [Request.executeData, hreq, hbad, Except.toBool]
        · obtain ⟨k, hk, hok⟩ := ih len (disk.transfer .write io.dataLen.toNat)
          refine ⟨k + 1, ?_, ?_⟩
          · simp only [Request.executeData, hreq, hbad, if_false] at hk hok ⊢
            rw [hk]
            simp [RequestType.accessKind]
          · simp only [Request.executeData, hreq, hbad, if_false] at hok ⊢
            simpa using hok

/-- What a read or write does to the disk: it touches the descriptors' lengths back to back
from `sector << SECTOR_SHIFT` (a prefix of them when it fails part-way, none when the
capacity check fails), and it succeeds only after the capacity check has passed. -/
theorem Request.execute_accesses (req : Request) (mem : GuestMemoryMmap) (disk : Disk)
    (ds : List IoDataDesc) (diskId : List UInt8)
    (hreq : req.requestType = .In ∨ req.requestType = .Out) :
    ∃ k, (req.execute mem disk ds diskId).2.accesses = disk.accesses ++
        runs req.requestType.accessKind (req.sector <<< sectorShift).toNat
          ((ds.take k).map (·.dataLen.toNat)) ∧
      ((req.execute mem disk ds diskId).1.toBool = true →
        k = ds.length ∧ req.checkCapacity disk.capacity ds = .ok ()) := by
  unfold Request.execute
  cases hcap : req.checkCapacity disk.capacity ds with
  | error e => exact ⟨0, by simp [runs], by simp [Except.toBool]⟩
  | ok u =>
      by_cases hpos : (req.sector <<< sectorShift).toNat < 2 ^ 63
      · have hseek : disk.seek (req.sector <<< sectorShift) =
            some { disk with offset := (req.sector <<< sectorShift).toNat } := if_pos hpos
        obtain ⟨k, hk, hok⟩ := req.executeData_transfers mem diskId hreq ds 0
          { disk with offset := (req.sector <<< sectorShift).toNat }
        simp only [hseek]
        refine ⟨k, ?_, fun h => ⟨hok h, trivial⟩⟩
        rw [hk, Disk.transferAll_accesses]
      · have hseek : disk.seek (req.sector <<< sectorShift) = none := if_neg hpos
        simp only [hseek]
        exact ⟨0, by simp [runs], by simp [Except.toBool]⟩

end KataContainers.Block

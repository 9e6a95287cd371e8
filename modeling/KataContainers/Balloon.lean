import KataContainers.VmMemory.GuestMemory
import KataContainers.VirtioQueue.Descriptor

/-!
# virtio-balloon page release

`BalloonEpollHandler::process_queue` (inflate and deflate queues) and
`process_reporting_queue` (free page reporting) of `dbs_virtio_devices::balloon`, as the
sequences of `madvise` and `fallocate` calls they make on host memory. Guest memory contents
(the PFN array of an inflate buffer) are the guest-controlled function `readU32`; the queue is
the list of available chains with their head indices.
-/

namespace KataContainers.Balloon

open VmMemory VirtioQueue

/-- `PAGE_SHIFT` and `VIRTIO_BALLOON_PFN_SHIFT`. -/
def pageShift : UInt64 := 12
def virtioBalloonPfnShift : UInt64 := 12

/-- `INFLATE_QUEUE_AVAIL_EVENT` and `DEFLATE_QUEUE_AVAIL_EVENT`. -/
def inflateQueueAvailEvent : UInt32 := 0
def deflateQueueAvailEvent : UInt32 := 1

/-- The `madvise` advice values used. -/
inductive Advice where
  | MADV_DONTNEED
  | MADV_WILLNEED
  | MADV_REMOVE
deriving DecidableEq, Repr

/-- A system call on host memory: `madvise(addr, len, advice)`, or
`fallocate(fd, FALLOC_FL_PUNCH_HOLE | FALLOC_FL_KEEP_SIZE, offset, len)`. -/
inductive Syscall where
  | madvise (addr : UInt64) (len : UInt64) (advice : Advice)
  | fallocate (fd : Nat) (offset : Int64) (len : Int64)
deriving DecidableEq, Repr

/-- A hole of `len` bytes at `offset` in file `fd` lies in the region's window of its
backing file. -/
def inFileWindow (r : GuestRegion) (fd : Nat) (offset len : Int64) : Bool :=
  match r.fileOffset with
  | some fo => fo.fd == fd && decide ((fo.start.toNat : Int) ≤ offset.toInt) &&
      decide (offset.toInt + len.toInt ≤ fo.start.toNat + r.len.toNat)
  | none => false

/-- The property the balloon must keep: a `madvise` range lies in the host mapping of one
region, and a hole punched in a backing file lies in that region's window of the file. -/
def Syscall.Confined (m : GuestMemoryMmap) : Syscall → Prop
  | .madvise addr len _ =>
      ∃ r ∈ m.regions, r.hostAddr.toNat ≤ addr.toNat ∧ addr.toNat + len.toNat ≤ r.hostEnd
  | .fallocate fd offset len => ∃ r ∈ m.regions, inFileWindow r fd offset len = true

instance (m : GuestMemoryMmap) : (s : Syscall) → Decidable (s.Confined m)
  | .madvise _ _ _ => inferInstanceAs (Decidable (∃ r ∈ m.regions, _))
  | .fallocate _ _ _ => inferInstanceAs (Decidable (∃ r ∈ m.regions, _))

/-- The `while offset < avail_desc_len` loop of `process_queue` over the `n` PFNs left in an
inflate or deflate buffer at `addr`: each PFN names one 4 KiB page, which is advised when it
is guest memory. `advice` is the function's variable: it turns into `MADV_REMOVE` at the
first file-backed page of an inflate and stays so for the rest of the call. -/
def pfnLoop (mem : GuestMemoryMmap) (readU32 : UInt64 → Option UInt32) (addr : UInt64) :
    Nat → UInt64 → Advice → List Syscall → Advice × List Syscall
  | 0, _, advice, calls => (advice, calls)
  | n + 1, offset, advice, calls =>
      match readU32 (addr + offset) with
      | none => (advice, calls)
      | some pfn =>
          let guestAddr := pfn.toUInt64 <<< virtioBalloonPfnShift
          match mem.findRegion guestAddr with
          | none => pfnLoop mem readU32 addr n (offset + 4) advice calls
          | some region =>
              let advice :=
                if advice = .MADV_DONTNEED ∧ region.fileOffset.isSome then .MADV_REMOVE
                else advice
              pfnLoop mem readU32 addr n (offset + 4) advice
                (calls ++ [.madvise (region.hostAddrOf guestAddr) (1 <<< pageShift) advice])

/-- The chain loop of `process_queue`. It returns the calls made, the head indices given
back to the used ring, and `false` when it stopped on an empty chain (the function then
returns before updating the used ring). -/
def queueLoop (mem : GuestMemoryMmap) (readU32 : UInt64 → Option UInt32) :
    List (UInt16 × List Descriptor) → Advice → List Syscall → List UInt16 →
      List Syscall × List UInt16 × Bool
  | [], _, calls, used => (calls, used, true)
  | (_, []) :: _, _, calls, used => (calls, used, false)
  | (head, desc :: _) :: rest, advice, calls, used =>
      if desc.writeOnly then queueLoop mem readU32 rest advice calls used
      else if desc.len.toNat % 4 ≠ 0 then queueLoop mem readU32 rest advice calls used
      else
        let (advice, calls) := pfnLoop mem readU32 desc.addr (desc.len.toNat / 4) 0 advice calls
        queueLoop mem readU32 rest advice calls (used ++ [head])

/-- `process_queue(idx)`: the calls made and the used-ring entries `(head, 0)`. -/
def processQueue (mem : GuestMemoryMmap) (readU32 : UInt64 → Option UInt32) (idx : UInt32)
    (chains : List (UInt16 × List Descriptor)) : List Syscall × List (UInt16 × UInt32) :=
  if idx = inflateQueueAvailEvent ∨ idx = deflateQueueAvailEvent then
    let advice := if idx = inflateQueueAvailEvent then Advice.MADV_DONTNEED else .MADV_WILLNEED
    match queueLoop mem readU32 chains advice [] [] with
    | (calls, used, true) => (calls, used.map (·, 0))
    | (calls, _, false) => (calls, [])
  else ([], [])

/-- The descriptor loop of `process_reporting_queue` for one chain: each buffer the guest
reports free is discarded from its host address on, over the length the guest gave, with a
hole punched in the backing file when the region has one. `len` is the chain's running
`u32` total. -/
def reportLoop (mem : GuestMemoryMmap) :
    List Descriptor → UInt32 → List Syscall → UInt32 × List Syscall
  | [], len, calls => (len, calls)
  | desc :: rest, len, calls =>
      if desc.len.toNat % 4 ≠ 0 then (len, calls)
      else
        let len := len + desc.len
        match mem.findRegion desc.addr with
        | none => reportLoop mem rest len calls
        | some region =>
            match mem.getHostAddress desc.addr with
            | none => (len, calls)
            | some hostAddr =>
                match region.fileOffset with
                | some fileOffset =>
                    let offset := fileOffset.start.toInt64 + hostAddr.toInt64 -
                      region.hostAddr.toInt64
                    reportLoop mem rest len
                      (calls ++ [.fallocate fileOffset.fd offset desc.len.toUInt64.toInt64])
                | none =>
                    reportLoop mem rest len
                      (calls ++ [.madvise hostAddr desc.len.toUInt64 .MADV_DONTNEED])

/-- `process_reporting_queue`: the calls made and the used-ring entries `(head, len)`. -/
def processReportingQueue (mem : GuestMemoryMmap) :
    List (UInt16 × List Descriptor) → List Syscall → List (UInt16 × UInt32) →
      List Syscall × List (UInt16 × UInt32)
  | [], calls, used => (calls, used)
  | (head, chain) :: rest, calls, used =>
      let (len, calls) := reportLoop mem chain 0 calls
      processReportingQueue mem rest calls (used ++ [(head, len)])

/-- A page that the inflate/deflate loop advises is the host image of a page-aligned guest
address inside the region found for it. -/
theorem pfnLoop_calls (mem : GuestMemoryMmap) (readU32 : UInt64 → Option UInt32)
    (addr : UInt64) (n : Nat) (offset : UInt64) (advice : Advice) (calls : List Syscall) :
    ∀ c ∈ (pfnLoop mem readU32 addr n offset advice calls).2, c ∈ calls ∨
      ∃ r ∈ mem.regions, ∃ guestAddr adv, r.contains guestAddr = true ∧
        guestAddr.toNat % 4096 = 0 ∧ c = .madvise (r.hostAddrOf guestAddr) 4096 adv := by
  induction n generalizing offset advice calls with
  | zero => exact fun c hc => .inl hc
  | succ n ih =>
      intro c hc
      unfold pfnLoop at hc
      cases hread : readU32 (addr + offset) with
      | none => simp only [hread] at hc; exact .inl hc
      | some pfn =>
          simp only [hread] at hc
          cases hfind : mem.findRegion (pfn.toUInt64 <<< virtioBalloonPfnShift) with
          | none =>
              simp only [hfind] at hc
              exact ih _ _ _ c hc
          | some region =>
              simp only [hfind] at hc
              rcases ih _ _ _ c hc with hc | hc
              · rcases List.mem_append.mp hc with hc | hc
                · exact .inl hc
                · right
                  obtain ⟨hmem, hcont⟩ := GuestMemoryMmap.findRegion_mem hfind
                  refine ⟨region, hmem, _, _, hcont, ?_, List.mem_singleton.mp hc⟩
                  have hshift : (pfn.toUInt64 <<< virtioBalloonPfnShift).toNat =
                      pfn.toNat * 4096 % 2 ^ 64 := by
                    rw [UInt64.toNat_shiftLeft, Nat.shiftLeft_eq]
                    rfl
                  have hlt : pfn.toNat * 4096 < 2 ^ 64 := by
                    have := pfn.toNat_lt
                    omega
                  rw [hshift, Nat.mod_eq_of_lt hlt]
                  omega
              · exact .inr hc

/-- Two anonymous pages at guest address 0. -/
def pageAlignedMemory : GuestMemoryMmap := ⟨[⟨0, 0x2000, 0x10000, none⟩], by decide, by decide⟩

/-- A chain whose head cannot be read stops the chain loop with `false`, whatever came
before it. -/
theorem queueLoop_of_empty (mem : GuestMemoryMmap) (readU32 : UInt64 → Option UInt32)
    (head : UInt16) (rest : List (UInt16 × List Descriptor)) :
    ∀ (chains : List (UInt16 × List Descriptor)) advice calls used,
      (queueLoop mem readU32 (chains ++ (head, []) :: rest) advice calls used).2.2 = false := by
  intro chains
  induction chains with
  | nil => intro advice calls used; rfl
  | cons chain chains ih =>
      obtain ⟨head', descs⟩ := chain
      intro advice calls used
      cases descs with
      | nil => rfl
      | cons desc _ =>
          simp only [List.cons_append, queueLoop]
          split_ifs
          · exact ih _ _ _
          · exact ih _ _ _
          · exact ih _ _ _

theorem processQueue_used_of_empty (mem : GuestMemoryMmap) (readU32 : UInt64 → Option UInt32)
    (idx : UInt32) (chains rest : List (UInt16 × List Descriptor)) (head : UInt16) :
    (processQueue mem readU32 idx (chains ++ (head, []) :: rest)).2 = [] := by
  unfold processQueue
  split
  · dsimp only
    have key := queueLoop_of_empty mem readU32 head rest chains
      (if idx = inflateQueueAvailEvent then Advice.MADV_DONTNEED else .MADV_WILLNEED) [] []
    generalize queueLoop mem readU32 (chains ++ (head, []) :: rest)
      (if idx = inflateQueueAvailEvent then Advice.MADV_DONTNEED else .MADV_WILLNEED) [] [] = q
      at key
    obtain ⟨calls, used, flag⟩ := q
    subst key
    rfl
  · rfl

/-- A file-backed page at guest address 0 and an anonymous one at 0x1000. -/
def mixedMemory : GuestMemoryMmap :=
  ⟨[⟨0, 0x1000, 0x10000, some ⟨3, 0⟩⟩, ⟨0x1000, 0x1000, 0x20000, none⟩], by decide, by decide⟩

/-- An inflate buffer at guest address 0x100 naming the PFNs 0 and 1. -/
def mixedPfns (addr : UInt64) : Option UInt32 :=
  if addr = 0x100 then some 0 else if addr = 0x104 then some 1 else none

/-- Guest memory for the failing input: one anonymous 4 KiB region at guest address 0. -/
def reportMemory : GuestMemoryMmap := ⟨[⟨0, 0x1000, 0x10000, none⟩], by decide, by decide⟩

/-- The guest reports one 8 KiB free buffer at guest address 0. -/
def reportChain : List Descriptor := [⟨0, 0x2000, false, false⟩]

end KataContainers.Balloon

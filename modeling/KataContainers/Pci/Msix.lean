import KataContainers.Pci.Configuration

/-!
# MSI-X table and pending bit array

`MsixState` of `dbs_pci::msix` with `read_table`, `write_table` and `read_pba`, for a
little-endian host. A failed `assert!` or an out-of-range index of `table_entries` or of the
data buffer, where the source panics, is `none`. What `write_table` asks of the interrupt
manager is returned as a list of `IntrOp`s, each assumed to succeed (a failing one only cuts
the list short, after the entry has been written); the interrupt group that `read_pba`
consults is an `IntrGroup`.
-/

namespace KataContainers.Pci

open PciConfiguration

/-- `MAX_MSIX_VECTORS_PER_DEVICE` and `MSIX_TABLE_ENTRIES_MODULO`. -/
def maxMsixVectorsPerDevice : Nat := 2048
def msixTableEntriesModulo : UInt64 := 16

structure MsixTableEntry where
  msgAddrLo : UInt32
  msgAddrHi : UInt32
  msgData : UInt32
  vectorCtl : UInt32
deriving DecidableEq, Repr, Inhabited

def MsixTableEntry.masked (e : MsixTableEntry) : Bool := e.vectorCtl &&& 0x1 == 0x1

/-- `as_slice`: the sixteen bytes of the `#[repr(C)]` entry. -/
def MsixTableEntry.asSlice (e : MsixTableEntry) : List UInt8 :=
  bytesOfU32 e.msgAddrLo ++ bytesOfU32 e.msgAddrHi ++ bytesOfU32 e.msgData ++
    bytesOfU32 e.vectorCtl

/-- The entry whose `as_slice` is `b`. -/
def MsixTableEntry.ofSlice (b : List UInt8) : MsixTableEntry :=
  ⟨u32OfBytes (b.take 4), u32OfBytes ((b.drop 4).take 4), u32OfBytes ((b.drop 8).take 4),
    u32OfBytes ((b.drop 12).take 4)⟩

structure MsixState where
  tableEntries : List MsixTableEntry
  masked : Bool
  enabled : Bool

/-- `MsixState::new`, which asserts the vector count. -/
def MsixState.new (msixVectors : UInt16) : Option MsixState :=
  if msixVectors.toNat ≤ maxMsixVectorsPerDevice then
    some ⟨List.replicate msixVectors.toNat default, false, false⟩
  else none

/-- The interrupt-manager calls of `write_table`, by vector index. -/
inductive IntrOp where
  | setMsiHighAddress (index value : UInt32)
  | setMsiLowAddress (index value : UInt32)
  | setMsiData (index value : UInt32)
  | update (index : UInt32)
  | mask (index : UInt32)
  | unmask (index : UInt32)
deriving DecidableEq, Repr

/-- The interrupt group of an enabled MSI-X state: its `len()` and `get_pending_state`. -/
structure IntrGroup where
  len : UInt32
  pending : UInt32 → Bool

namespace MsixState

/-- `read_table`: the bytes read at `offset` into the table window. -/
def readTable (st : MsixState) (offset : UInt64) (data : List UInt8) : Option (List UInt8) :=
  let index := (offset / msixTableEntriesModulo).toNat
  let moduloOffset := (offset % msixTableEntriesModulo).toNat
  if 8 < data.length then none
  else if moduloOffset + data.length ≤ msixTableEntriesModulo.toNat then
    -- `&self.table_entries[index]` is not checked against the vector count
    match st.tableEntries[index]? with
    | some config => some ((config.asSlice.drop moduloOffset).take data.length)
    | none => none
  else some (List.replicate data.length 0xff)

/-- `write_table`: the state after the write and the interrupt-manager calls it makes. -/
def writeTable (st : MsixState) (offset : UInt64) (data : List UInt8) :
    Option (MsixState × List IntrOp) :=
  let index := (offset / msixTableEntriesModulo).toNat
  let moduloOffset := (offset % msixTableEntriesModulo).toNat
  if !(data.length ≤ 8 && moduloOffset + data.length ≤ 0x10) then none
  else if moduloOffset + data.length ≤ msixTableEntriesModulo.toNat then
    match st.tableEntries[index]? with
    | none => none
    | some old =>
        let config := MsixTableEntry.ofSlice
          (old.asSlice.take moduloOffset ++ data ++ old.asSlice.drop (moduloOffset + data.length))
        let idx := UInt32.ofNat index
        let vectorOps :=
          if st.enabled ∧ moduloOffset < 0xc then
            [IntrOp.setMsiHighAddress idx config.msgAddrHi, .setMsiLowAddress idx config.msgAddrLo,
              .setMsiData idx config.msgData, .update idx]
          else []
        let maskOps :=
          if st.enabled ∧ 0xc ≤ moduloOffset + data.length ∧ !st.masked then
            if !old.masked && config.masked then [IntrOp.mask idx]
            else if old.masked && !config.masked then [IntrOp.unmask idx]
            else []
          else []
        some ({ st with tableEntries := st.tableEntries.set index config }, vectorOps ++ maskOps)
  -- the assertion above has already excluded this branch
  else some (st, [])

/-- The loop of `read_pba` over the vector indices `idxs`, setting the pending bit of every
masked pending vector in the byte `idx / 8 - offset`. -/
def pbaLoop (entries : List MsixTableEntry) (group : IntrGroup) (offset : UInt32) :
    List Nat → List UInt8 → Option (List UInt8)
  | [], data => some data
  | idx :: idxs, data =>
      match entries[idx]? with
      | none => none
      | some entry =>
          if entry.masked && group.pending (UInt32.ofNat idx) then
            let j := (UInt32.ofNat idx / 8 - offset).toNat
            match data[j]? with
            | none => none
            | some b =>
                pbaLoop entries group offset idxs
                  (data.set j (b ||| ((1 : UInt8) <<< (UInt32.ofNat idx % 8).toUInt8)))
          else pbaLoop entries group offset idxs data

/-- `read_pba`: the bytes read at `offset` into the pending bit array. -/
def readPba (st : MsixState) (group : IntrGroup) (offset : UInt64) (data : List UInt8) :
    Option (List UInt8) :=
  if 8 < data.length then none
  else
    let data := List.replicate data.length 0
    if st.enabled then
      let start := offset.toUInt32 * 8
      let stop := min (start + UInt32.ofNat data.length * 8) group.len
      pbaLoop st.tableEntries group offset.toUInt32
        (List.range' start.toNat (stop.toNat - start.toNat)) data
    else some data

/-- The entry index and the offset inside the entry, as `Nat`s. -/
private theorem tableIndex_toNat (offset : UInt64) :
    (offset / msixTableEntriesModulo).toNat = offset.toNat / 16 ∧
      (offset % msixTableEntriesModulo).toNat = offset.toNat % 16 ∧
      msixTableEntriesModulo.toNat = 16 :=
  ⟨UInt64.toNat_div offset 16, UInt64.toNat_mod offset 16, rfl⟩

/-- The table is read at the entry `offset / 16` unless the access crosses into the next
entry, so a read panics exactly at an entry past the last vector. -/
theorem readTable_eq_none_iff (st : MsixState) (offset : UInt64) (data : List UInt8) :
    st.readTable offset data = none ↔
      8 < data.length ∨
        (offset.toNat % 16 + data.length ≤ 16 ∧ st.tableEntries.length ≤ offset.toNat / 16) := by
  obtain ⟨hidx, hmod, h16⟩ := tableIndex_toNat offset
  simp only [readTable, hidx, hmod, h16]
  by_cases hlen : 8 < data.length
  · simp [hlen]
  · by_cases hin : offset.toNat % 16 + data.length ≤ 16
    · cases hentry : st.tableEntries[offset.toNat / 16]? with
      | none =>
          have hle := List.getElem?_eq_none_iff.mp hentry
          simp [hlen, hin, hle]
      | some config =>
          have hlt : offset.toNat / 16 < st.tableEntries.length :=
            (List.getElem?_eq_some_iff.mp hentry).1
          simp [hlen, hin, Nat.not_le.mpr hlt]
    · simp [hlen, hin]

/-- A table write panics when it is wider than eight bytes, when it crosses into the next
entry (the `assert!`), or at an entry past the last vector. -/
theorem writeTable_eq_none_iff (st : MsixState) (offset : UInt64) (data : List UInt8) :
    st.writeTable offset data = none ↔
      8 < data.length ∨ 16 < offset.toNat % 16 + data.length ∨
        st.tableEntries.length ≤ offset.toNat / 16 := by
  obtain ⟨hidx, hmod, h16⟩ := tableIndex_toNat offset
  simp only [writeTable, hidx, hmod, h16]
  by_cases hassert : data.length ≤ 8 ∧ offset.toNat % 16 + data.length ≤ 0x10
  · obtain ⟨hlen, hin⟩ := hassert
    cases hentry : st.tableEntries[offset.toNat / 16]? with
    | none =>
        have hle := List.getElem?_eq_none_iff.mp hentry
        simp [hlen, hin, hle]
    | some config =>
        have hlt : offset.toNat / 16 < st.tableEntries.length :=
          (List.getElem?_eq_some_iff.mp hentry).1
        simp [hlen, hin, Nat.not_le.mpr hlt]
  · have hfail : (!(decide (data.length ≤ 8) && decide (offset.toNat % 16 + data.length ≤ 0x10)))
        = true := by
      simp only [Bool.not_and, Bool.or_eq_true, Bool.not_eq_eq_eq_not, Bool.not_true,
        decide_eq_false_iff_not]
      omega
    rw [if_pos hfail]
    simp only [true_iff]
    omega

/-- The pending-bit loop completes when every index it visits names a table entry and a
byte of the buffer; `data.set` keeps the buffer's length. -/
theorem pbaLoop_isSome (entries : List MsixTableEntry) (group : IntrGroup) (offset : UInt32)
    (n : Nat) (idxs : List Nat) :
    ∀ data : List UInt8, data.length = n →
      (∀ idx ∈ idxs, idx < entries.length ∧ (UInt32.ofNat idx / 8 - offset).toNat < n) →
      (pbaLoop entries group offset idxs data).isSome := by
  induction idxs with
  | nil => intro data _ _; rfl
  | cons idx idxs ih =>
      intro data hn hidx
      obtain ⟨hentry, hbyte⟩ := hidx idx (List.mem_cons_self ..)
      have hrest : ∀ i ∈ idxs, i < entries.length ∧ (UInt32.ofNat i / 8 - offset).toNat < n :=
        fun i hi => hidx i (List.mem_cons_of_mem _ hi)
      simp only [pbaLoop, List.getElem?_eq_getElem hentry]
      split
      · have hj : (UInt32.ofNat idx / 8 - offset).toNat < data.length := hn ▸ hbyte
        simp only [List.getElem?_eq_getElem hj]
        exact ih _ (by rw [List.length_set, hn]) hrest
      · exact ih data hn hrest

/-- Inside the 2 KiB window the first vector index `offset * 8` of `read_pba` and the end
`start + len * 8` do not wrap. -/
private theorem pbaStart_toNat (offset : UInt64) (hoff : offset.toNat < 0x800) :
    offset.toUInt32.toNat = offset.toNat ∧ (offset.toUInt32 * 8).toNat = offset.toNat * 8 := by
  have hoff32 : offset.toUInt32.toNat = offset.toNat := by
    rw [UInt64.toNat_toUInt32]
    omega
  refine ⟨hoff32, ?_⟩
  rw [UInt32.toNat_mul, hoff32]
  exact Nat.mod_eq_of_lt (by simp; omega)

private theorem pbaStop_toNat (offset : UInt64) (len : Nat) (glen : UInt32)
    (hoff : offset.toNat < 0x800) (hlen : len ≤ 8) :
    (min (offset.toUInt32 * 8 + UInt32.ofNat len * 8) glen).toNat =
      min (offset.toNat * 8 + len * 8) glen.toNat := by
  have hend : (offset.toUInt32 * 8 + UInt32.ofNat len * 8).toNat = offset.toNat * 8 + len * 8 := by
    rw [UInt32.toNat_add, (pbaStart_toNat offset hoff).2, UInt32.toNat_mul, UInt32.toNat_ofNat']
    have hl : len % 2 ^ 32 = len := Nat.mod_eq_of_lt (by omega)
    rw [hl]
    have h8 : (8 : UInt32).toNat = 8 := rfl
    rw [h8, Nat.mod_eq_of_lt (by omega : len * 8 < 2 ^ 32)]
    exact Nat.mod_eq_of_lt (by omega)
  rw [UInt32.toNat_min, hend]

/-- The indices `read_pba` visits, `offset * 8 ≤ idx < offset * 8 + len * 8`, fall in the
buffer: `idx / 8 - offset < len`. -/
private theorem pba_byte_lt (offset : UInt64) (len idx : Nat) (hoff : offset.toNat < 0x800)
    (hlo : offset.toNat * 8 ≤ idx) (hhi : idx < offset.toNat * 8 + len * 8) (hlen : len ≤ 8) :
    (UInt32.ofNat idx / 8 - offset.toUInt32).toNat < len := by
  have hoff32 := (pbaStart_toNat offset hoff).1
  have hidx : (UInt32.ofNat idx).toNat = idx := by
    rw [UInt32.toNat_ofNat']
    exact Nat.mod_eq_of_lt (by omega)
  have hdiv : (UInt32.ofNat idx / 8).toNat = idx / 8 := by
    rw [UInt32.toNat_div, hidx]
    rfl
  have hle : offset.toUInt32 ≤ UInt32.ofNat idx / 8 := by
    rw [UInt32.le_iff_toNat_le, hdiv, hoff32]
    omega
  rw [UInt32.toNat_sub_of_le _ _ hle, hdiv, hoff32]
  omega

/-- Reading the pending bit array never panics when the interrupt group has no more vectors
than the table has entries (the device builds both from its MSI-X resource). -/
theorem readPba_isSome (st : MsixState) (group : IntrGroup) (offset : UInt64)
    (data : List UInt8) (hoff : offset.toNat < 0x800) (hlen : data.length ≤ 8)
    (hgroup : group.len.toNat ≤ st.tableEntries.length) :
    (st.readPba group offset data).isSome := by
  unfold readPba
  rw [if_neg (by omega)]
  dsimp only
  split
  · apply pbaLoop_isSome _ _ _ data.length _ _ List.length_replicate
    intro idx hidx
    rw [List.mem_range'_1, List.length_replicate, (pbaStart_toNat offset hoff).2,
      pbaStop_toNat offset data.length group.len hoff hlen] at hidx
    obtain ⟨hlo, hhi⟩ := hidx
    -- the loop stops at `min (start + len * 8) group.len`
    have hstop : idx < offset.toNat * 8 + data.length * 8 ∧ idx < group.len.toNat := by omega
    exact ⟨by omega, pba_byte_lt offset data.length idx hoff hlo hstop.1 hlen⟩
  · rfl

end MsixState

end KataContainers.Pci

import Mathlib
import KataContainers.Vsock.TxBuf
import KataContainers.Lib.ExceptSpec

/-!
# The TX ring

`TxBuf` as `vsock::csm::txbuf` lays it out: `CONN_TX_BUF_SIZE` bytes of `data` and the
free-running `Wrapping<u32>` offsets `head` and `tail`, which index the array modulo its size.
`push` copies its slice in one or two parts, up to the array's end and then from its start;
`flush_to` offers the run from the tail to the array's end or to the head, and recurses once
for the part after the wrap. The source allocates the array on the first push and reads it
only while the ring holds data, so here it exists from the start, zeroed.

The bytes from `tail` to `head`, read around the ring, are the queue of the list model
`TxBuf`: `push_refines` and `flushTo_refines` show that each operation of the ring does to them
what the operation of `TxBuf` does to its queue, and answers the same. Since the size divides
`2^32`, the wrap of the counters at `2^32` and the wrap of the offsets at the size agree.
-/

namespace KataContainers.Vsock

open ExceptSpec

structure TxRing where
  data : Nat → UInt8
  head : UInt32
  tail : UInt32

namespace TxRing

/-- `TxBuf::SIZE`. -/
def size : Nat := connTxBufSize.toNat

theorem size_eq : size = 65536 := rfl

def default : TxRing := ⟨fun _ => 0, 0, 0⟩

def len (b : TxRing) : Nat := (b.head - b.tail).toNat

theorem len_eq (b : TxRing) : b.len = (b.head - b.tail).toNat := rfl

def isEmpty (b : TxRing) : Bool := b.len == 0

/-- `data[ofs..ofs + src.len()].copy_from_slice(src)`. -/
def copyFromSlice (data : Nat → UInt8) (ofs : Nat) (src : List UInt8) : Nat → UInt8 :=
  fun i => if ofs ≤ i ∧ i < ofs + src.length then src.getD (i - ofs) 0 else data i

/-- The copies of `push`: from `ofs` up to the array's end, and what did not fit from the
array's start. -/
def copyAround (data : Nat → UInt8) (ofs : Nat) (src : List UInt8) : Nat → UInt8 :=
  let len := min (size - ofs) src.length
  let data := copyFromSlice data ofs (src.take len)
  if len < src.length then copyFromSlice data 0 (src.drop len) else data

def push (b : TxRing) (src : List UInt8) : Except Error TxRing :=
  if b.len + src.length > size then .error .TxBufFull
  else .ok ⟨copyAround b.data (b.head.toNat % size) src, b.head + UInt32.ofNat src.length, b.tail⟩

/-- `&data[ofs..ofs + n]`. -/
def slice (data : Nat → UInt8) (ofs n : Nat) : List UInt8 :=
  (List.range n).map fun i => data (ofs + i)

theorem slice_eq (data : Nat → UInt8) (ofs n : Nat) :
    slice data ofs n = (List.range n).map fun i => data (ofs + i) := rfl

/-- `self.tail += Wrapping(written as u32)`. -/
def advance (b : TxRing) (written : Nat) : TxRing :=
  { b with tail := b.tail + UInt32.ofNat written }

@[simp] theorem advance_data (b : TxRing) (w : Nat) : (b.advance w).data = b.data := rfl

@[simp] theorem advance_head (b : TxRing) (w : Nat) : (b.advance w).head = b.head := rfl

@[simp] theorem advance_tail (b : TxRing) (w : Nat) :
    (b.advance w).tail = b.tail + UInt32.ofNat w := rfl

theorem len_advance (b : TxRing) {w : Nat} (hw : w ≤ b.len) : (b.advance w).len = b.len - w := by
  rw [len_eq, len_eq, advance_head, advance_tail]
  exact toNat_sub_add_ofNat b.head b.tail hw

/-- `flush_to`, over the ring: the same control as `TxBuf.flushTo`. -/
def flushTo {σ : Type} (ops : StreamOps σ) (b : TxRing) (s : σ) : σ × Except Error Nat × TxRing :=
  if h : b.len = 0 then (s, .ok 0, b)
  else
    let tailOfs := b.tail.toNat % size
    let lenToWrite := min (size - tailOfs) b.len
    match hw : ops.writeClamped s (slice b.data tailOfs lenToWrite) with
    | (s, .error e) => (s, .error (.TxBufFlush e), b)
    | (s, .ok written) =>
        let b' := b.advance written
        if hlt : written < lenToWrite then (s, .ok written, b')
        else
          have : b'.len < b.len := by
            -- the sink took the whole run, which is at least one byte and at most `len`
            have hle := ops.writeClamped_le _ _ _ _ hw
            have hslice : (slice b.data tailOfs lenToWrite).length = lenToWrite := by
              simp [slice]
            have hsize : tailOfs < size := Nat.mod_lt _ (by decide)
            have hmin : lenToWrite ≤ b.len := Nat.min_le_right _ _
            have hpos : 0 < lenToWrite := Nat.lt_min.mpr ⟨Nat.sub_pos_of_lt hsize, Nat.pos_of_ne_zero h⟩
            rw [b.len_advance (by omega)]
            omega
          match flushTo ops b' s with
          | (s, .ok more, b'') => (s, .ok (written + more), b'')
          | (s, .error _, b'') => (s, .ok (written + 0), b'')
termination_by b.len

/-- The bytes from the tail to the head, read around the ring. -/
def contents (b : TxRing) : List UInt8 :=
  (List.range b.len).map fun i => b.data ((b.tail.toNat + i) % size)

theorem contents_eq (b : TxRing) :
    b.contents = (List.range b.len).map fun i => b.data ((b.tail.toNat + i) % size) := rfl

/-- The ring holds the queue of a `TxBuf`, with the same counters. -/
structure Refines (r : TxRing) (b : TxBuf) : Prop where
  head_eq : r.head = b.head
  tail_eq : r.tail = b.tail
  contents_eq : r.contents = b.queued
  len_le : r.len ≤ size

theorem refines_default : Refines default TxBuf.default := ⟨rfl, rfl, rfl, by decide⟩

theorem Refines.len_eq {r : TxRing} {b : TxBuf} (h : Refines r b) : r.len = b.len := by
  rw [TxRing.len_eq, TxBuf.len_eq, h.head_eq, h.tail_eq]

@[simp] theorem length_contents (b : TxRing) : b.contents.length = b.len := by
  simp [contents_eq]

@[simp] theorem length_slice (data : Nat → UInt8) (ofs n : Nat) :
    (slice data ofs n).length = n := by
  simp [slice_eq]

/-! ## Push -/

/-- After the copies, position `p` holds the byte of `src` that lies `p - ofs` after `ofs`
around the ring, if there is one. -/
theorem copyAround_apply (data : Nat → UInt8) {ofs : Nat} {src : List UInt8} {p : Nat}
    (hofs : ofs < size) (hn : src.length ≤ size) (hp : p < size) :
    copyAround data ofs src p =
      if (p + size - ofs) % size < src.length then src.getD ((p + size - ofs) % size) 0
      else data p := by
  rw [size_eq] at *
  unfold copyAround
  -- one case for each copy the position may fall in
  split_ifs with hwrap <;>
  · rw [size_eq] at hwrap
    simp only [copyFromSlice, List.length_take, List.length_drop, Nat.zero_le, true_and,
      Nat.zero_add, Nat.sub_zero, List.getD_eq_getElem?_getD, List.getElem?_take,
      List.getElem?_drop, size_eq]
    split_ifs <;> first
      | omega
      | rfl
      | (congr 2; omega)

theorem len_push (b : TxRing) {n : Nat} (hfit : b.len + n ≤ size) :
    (⟨d, b.head + UInt32.ofNat n, b.tail⟩ : TxRing).len = b.len + n := by
  rw [len_eq, size_eq] at hfit
  rw [len_eq, len_eq]
  exact toNat_add_ofNat_sub b.head b.tail (by omega)

theorem contents_push (b : TxRing) (src : List UInt8) (hfit : b.len + src.length ≤ size) :
    (⟨copyAround b.data (b.head.toNat % size) src, b.head + UInt32.ofNat src.length, b.tail⟩ :
      TxRing).contents = b.contents ++ src := by
  have hlen := len_push (d := copyAround b.data (b.head.toNat % size) src) b hfit
  -- the head sits `len` bytes after the tail, modulo the size
  have hhead : b.head.toNat % 65536 = (b.tail.toNat + b.len) % 65536 := by
    rw [len_eq]
    have := UInt32.toNat_lt b.head
    have := UInt32.toNat_lt b.tail
    simp only [UInt32.toNat_sub]
    omega
  rw [size_eq] at hfit
  have hn : src.length ≤ size := by rw [size_eq]; omega
  apply List.ext_getElem
  · simp [hlen]
  · intro i hi _
    simp only [length_contents, hlen] at hi
    have hpos : (b.tail.toNat + i) % size < size := Nat.mod_lt _ (by decide)
    by_cases hi' : i < b.len
    · -- a byte that was there already: the copies missed it
      rw [List.getElem_append_left (by simpa using hi')]
      simp only [contents_eq, List.getElem_map, List.getElem_range]
      rw [copyAround_apply _ (Nat.mod_lt _ (by decide)) hn hpos, if_neg]
      simp only [size_eq]
      omega
    · -- a byte of `src`, `i - len` into it
      rw [List.getElem_append_right (by simp; omega)]
      simp only [contents_eq, List.getElem_map, List.getElem_range]
      rw [copyAround_apply _ (Nat.mod_lt _ (by decide)) hn hpos, if_pos]
      · simp only [List.getD_eq_getElem?_getD]
        rw [List.getElem?_eq_getElem (by simp only [size_eq]; omega)]
        simp only [Option.getD_some, size_eq, List.length_map, List.length_range]
        congr 1
        omega
      · simp only [size_eq]
        omega

theorem push_refines {r : TxRing} {b : TxBuf} (h : Refines r b) (src : List UInt8) :
    Agrees Refines (r.push src) (b.push src) := by
  unfold push
  rw [TxBuf.push_eq]
  rw [← h.len_eq]
  unfold size
  split_ifs with hfull
  · exact rfl
  · rw [agrees_ok]
    have hfit : r.len + src.length ≤ size := by
      unfold size
      omega
    exact ⟨by rw [h.head_eq], h.tail_eq, by rw [← h.contents_eq]; exact contents_push r src hfit,
      by rw [len_push r hfit]; exact hfit⟩

/-! ## Flush -/

/-- The run `flush_to` offers is the front of the queue. -/
theorem slice_eq_take (b : TxRing) {n : Nat} (hn : n ≤ size - b.tail.toNat % size)
    (hlen : n ≤ b.len) : slice b.data (b.tail.toNat % size) n = b.contents.take n := by
  apply List.ext_getElem
  · simp [hlen]
  · intro i hi _
    simp only [length_slice] at hi
    simp only [slice_eq, contents_eq, List.getElem_map, List.getElem_range, List.getElem_take]
    congr 1
    rw [size_eq] at hn ⊢
    omega

theorem contents_advance (b : TxRing) {w : Nat} (hw : w ≤ b.len) :
    (b.advance w).contents = b.contents.drop w := by
  have hlen := b.len_advance hw
  apply List.ext_getElem
  · simp [hlen]
  · intro i hi _
    simp only [length_contents, hlen] at hi
    simp only [contents_eq, List.getElem_map, List.getElem_range, List.getElem_drop, advance_data,
      advance_tail]
    congr 1
    have := UInt32.toNat_lt b.tail
    simp only [UInt32.toNat_add, UInt32.toNat_ofNat']
    rw [size_eq]
    rw [len_eq] at hw
    have := UInt32.toNat_lt (b.head - b.tail)
    omega

theorem Refines.advance {r : TxRing} {b : TxBuf} (h : Refines r b) {w : Nat} (hw : w ≤ r.len) :
    Refines (r.advance w) (b.advance w) where
  head_eq := h.head_eq
  tail_eq := by rw [TxRing.advance_tail, TxBuf.advance_tail, h.tail_eq]
  contents_eq := by rw [contents_advance r hw, h.contents_eq]; rfl
  len_le := by rw [len_advance r hw]; exact le_trans (Nat.sub_le _ _) h.len_le

/-- The length of the run `flush_to` offers: to the array's end or to the head. -/
def lenToWrite (b : TxRing) : Nat := min (size - b.tail.toNat % size) b.len

section FlushTo

variable {σ : Type} (ops : StreamOps σ) {b : TxRing} {s s' : σ}

theorem lenToWrite_eq (b : TxRing) : b.lenToWrite = min (size - b.tail.toNat % size) b.len := rfl

/-- One unfolding of `flush_to`, without its termination argument, as for `TxBuf`. -/
theorem flushTo_eq : b.flushTo ops s =
    if b.len = 0 then (s, .ok 0, b)
    else match ops.writeClamped s (slice b.data (b.tail.toNat % size) b.lenToWrite) with
      | (s, .error e) => (s, .error (.TxBufFlush e), b)
      | (s, .ok w) =>
          if w < b.lenToWrite then (s, .ok w, b.advance w)
          else match (b.advance w).flushTo ops s with
            | (s, .ok more, b'') => (s, .ok (w + more), b'')
            | (s, .error _, b'') => (s, .ok (w + 0), b'') := by
  rw [flushTo]
  by_cases h : b.len = 0
  · rw [dif_pos h, if_pos h]
  · rw [dif_neg h, if_neg h, lenToWrite_eq]
    dsimp only
    rcases ops.writeClamped s (slice b.data (b.tail.toNat % size)
      (min (size - b.tail.toNat % size) b.len)) with ⟨s', _ | w⟩ <;> rfl

theorem flushTo_of_len_eq_zero (h : b.len = 0) : b.flushTo ops s = (s, .ok 0, b) := by
  rw [flushTo_eq, if_pos h]

theorem flushTo_of_error {e : IoErrorKind} (h : b.len ≠ 0)
    (hw : ops.writeClamped s (slice b.data (b.tail.toNat % size) b.lenToWrite) = (s', .error e)) :
    b.flushTo ops s = (s', .error (.TxBufFlush e), b) := by
  rw [flushTo_eq, if_neg h, hw]

theorem flushTo_of_lt {w : Nat} (h : b.len ≠ 0)
    (hw : ops.writeClamped s (slice b.data (b.tail.toNat % size) b.lenToWrite) = (s', .ok w))
    (hlt : w < b.lenToWrite) : b.flushTo ops s = (s', .ok w, b.advance w) := by
  rw [flushTo_eq, if_neg h, hw]
  exact if_pos hlt

theorem flushTo_of_le {w : Nat} (h : b.len ≠ 0)
    (hw : ops.writeClamped s (slice b.data (b.tail.toNat % size) b.lenToWrite) = (s', .ok w))
    (hle : b.lenToWrite ≤ w) :
    b.flushTo ops s = match (b.advance w).flushTo ops s' with
      | (s, .ok more, b'') => (s, .ok (w + more), b'')
      | (s, .error _, b'') => (s, .ok (w + 0), b'') := by
  rw [flushTo_eq, if_neg h, hw]
  exact if_neg (Nat.not_lt.mpr hle)

end FlushTo

/-- The ring flushes as the list model does: the same writes to the stream, the same answer,
and a ring that still holds the model's queue. By strong induction on the length, for the
recursive call after a full first write. -/
theorem flushTo_refines {σ : Type} (ops : StreamOps σ) :
    ∀ (n : Nat) {r : TxRing} {b : TxBuf} (s : σ), r.len = n → Refines r b →
      (r.flushTo ops s).1 = (b.flushTo ops s).1 ∧ (r.flushTo ops s).2.1 = (b.flushTo ops s).2.1 ∧
        Refines (r.flushTo ops s).2.2 (b.flushTo ops s).2.2 := by
  intro n
  induction n using Nat.strong_induction_on with
  | _ n ih =>
  intro r b s hn h
  have hlen := h.len_eq
  by_cases hzero : r.len = 0
  · rw [flushTo_of_len_eq_zero ops hzero, TxBuf.flushTo_of_len_eq_zero ops (hlen ▸ hzero)]
    exact ⟨rfl, rfl, h⟩
  have hzero' : b.len ≠ 0 := hlen ▸ hzero
  -- both offer the same run from the tail
  have hrun : r.lenToWrite = b.lenToWrite := by
    rw [lenToWrite_eq, TxBuf.lenToWrite_eq, hlen, h.tail_eq]
    rfl
  have hslice : slice r.data (r.tail.toNat % size) r.lenToWrite = b.queued.take b.lenToWrite := by
    rw [← hrun, ← h.contents_eq]
    exact slice_eq_take r (Nat.min_le_left _ _) (Nat.min_le_right _ _)
  rcases hw : ops.writeClamped s (b.queued.take b.lenToWrite) with ⟨s', _ | w⟩
  case error e =>
    rw [flushTo_of_error ops hzero (by rw [hslice]; exact hw), TxBuf.flushTo_of_error ops hzero' hw]
    exact ⟨rfl, rfl, h⟩
  case ok =>
  have hwle : w ≤ r.lenToWrite := by
    have := ops.writeClamped_le _ _ _ _ hw
    simp only [List.length_take, ← hrun] at this
    rw [lenToWrite_eq] at *
    omega
  have hw' : w ≤ r.len := le_trans hwle (Nat.min_le_right _ _)
  by_cases hlt : w < b.lenToWrite
  · -- a partial write ends the flush
    rw [flushTo_of_lt ops hzero (by rw [hslice]; exact hw) (hrun ▸ hlt),
      TxBuf.flushTo_of_lt ops hzero' hw hlt]
    exact ⟨rfl, rfl, h.advance hw'⟩
  · -- a full write flushes the rest, both sides by the same recursive call
    have hle : b.lenToWrite ≤ w := Nat.le_of_not_lt hlt
    have hpos : 0 < w := lt_of_lt_of_le (Nat.lt_min.mpr ⟨Nat.sub_pos_of_lt
      (Nat.mod_lt _ (by decide)), Nat.pos_of_ne_zero hzero⟩) (hrun ▸ hle)
    rw [flushTo_of_le ops hzero (by rw [hslice]; exact hw) (hrun ▸ hle),
      TxBuf.flushTo_of_le ops hzero' hw hle]
    obtain ⟨h₁, h₂, h₃⟩ := ih (r.advance w).len (by rw [len_advance _ hw']; omega) s' rfl
      (h.advance hw')
    rcases hr : (r.advance w).flushTo ops s' with ⟨t, _ | more, r''⟩ <;>
      rcases hb : (b.advance w).flushTo ops s' with ⟨t', _ | more', b''⟩ <;>
      simp_all

end TxRing

end KataContainers.Vsock

import Mathlib

/-!
# The vsock connection TX buffer

`TxBuf` of `vsock::csm::txbuf`: a 64 KiB ring with free-running `head` and `tail` counters.
The ring is kept as the bytes between `tail` and `head`, oldest first; `flush_to` still offers
its sink the contiguous run up to the ring's end, as the source does. The sink is the host
stream, a state `σ` whose `write` returns how many bytes it took (at most the bytes offered,
as `Write::write` promises) or an I/O error.
-/

namespace KataContainers.Vsock

/-- `CONN_TX_BUF_SIZE` and `CONN_CREDIT_UPDATE_THRESHOLD`. -/
def connTxBufSize : UInt32 := 64 * 1024
def connCreditUpdateThreshold : UInt32 := 4 * 1024

inductive IoErrorKind where
  | WouldBlock
  | BrokenPipe
  | Other
deriving DecidableEq, Repr

/-- The connection's `Error`. -/
inductive Error where
  | TxBufFull
  | TxBufFlush (kind : IoErrorKind)
  | StreamWrite (kind : IoErrorKind)
deriving DecidableEq, Repr

/-- The host-side stream: `read` into a buffer of the given length, and `write`. -/
structure StreamOps (σ : Type) where
  read : σ → Nat → σ × Except IoErrorKind Nat
  write : σ → List UInt8 → σ × Except IoErrorKind Nat

/-- A write that returns at most the bytes offered. -/
def StreamOps.writeClamped {σ : Type} (ops : StreamOps σ) (s : σ) (buf : List UInt8) :
    σ × Except IoErrorKind Nat :=
  let (s, r) := ops.write s buf
  (s, r.map (min · buf.length))

theorem StreamOps.writeClamped_le {σ : Type} (ops : StreamOps σ) (s s' : σ) (buf : List UInt8)
    (n : Nat) (h : ops.writeClamped s buf = (s', .ok n)) : n ≤ buf.length := by
  unfold StreamOps.writeClamped at h
  cases hr : (ops.write s buf).2 with
  | error e => simp [hr, Except.map] at h
  | ok m =>
      simp only [hr, Except.map, Prod.mk.injEq, Except.ok.injEq] at h
      omega

/-! The free-running `u32` counters: the distance from `tail` to `head` after one of them
moves. -/

theorem toNat_sub_add_ofNat (h t : UInt32) {w : Nat} (hw : w ≤ (h - t).toNat) :
    (h - (t + UInt32.ofNat w)).toNat = (h - t).toNat - w := by
  have hlt := UInt32.toNat_lt (h - t)
  have hh := UInt32.toNat_lt h
  have ht := UInt32.toNat_lt t
  simp only [UInt32.toNat_sub, UInt32.toNat_add, UInt32.toNat_ofNat'] at *
  omega

theorem toNat_add_ofNat_sub (h t : UInt32) {n : Nat} (hn : (h - t).toNat + n < 2 ^ 32) :
    (h + UInt32.ofNat n - t).toNat = (h - t).toNat + n := by
  have hlt := UInt32.toNat_lt (h - t)
  simp only [UInt32.toNat_sub, UInt32.toNat_add, UInt32.toNat_ofNat'] at *
  omega

structure TxBuf where
  queued : List UInt8
  head : UInt32
  tail : UInt32

def TxBuf.default : TxBuf := ⟨[], 0, 0⟩

namespace TxBuf

def len (b : TxBuf) : Nat := (b.head - b.tail).toNat

theorem len_eq (b : TxBuf) : b.len = (b.head - b.tail).toNat := rfl

def isEmpty (b : TxBuf) : Bool := b.len == 0

def push (b : TxBuf) (src : List UInt8) : Except Error TxBuf :=
  if b.len + src.length > connTxBufSize.toNat then .error .TxBufFull
  else .ok { b with queued := b.queued ++ src, head := b.head + UInt32.ofNat src.length }

theorem push_eq (b : TxBuf) (src : List UInt8) :
    b.push src = if b.len + src.length > connTxBufSize.toNat then .error .TxBufFull
      else .ok { b with queued := b.queued ++ src, head := b.head + UInt32.ofNat src.length } :=
  rfl

/-- The part of `flush_to` after the sink has taken `written` of the `lenToWrite` bytes
offered. -/
def advance (b : TxBuf) (written : Nat) : TxBuf :=
  { b with queued := b.queued.drop written, tail := b.tail + UInt32.ofNat written }

theorem advance_eq (b : TxBuf) (w : Nat) :
    b.advance w = { b with queued := b.queued.drop w, tail := b.tail + UInt32.ofNat w } := rfl

@[simp] theorem advance_queued (b : TxBuf) (w : Nat) : (b.advance w).queued = b.queued.drop w :=
  rfl

@[simp] theorem advance_head (b : TxBuf) (w : Nat) : (b.advance w).head = b.head := rfl

@[simp] theorem advance_tail (b : TxBuf) (w : Nat) :
    (b.advance w).tail = b.tail + UInt32.ofNat w := rfl

theorem len_advance (b : TxBuf) {w : Nat} (hw : w ≤ b.len) : (b.advance w).len = b.len - w := by
  rw [len_eq, len_eq, advance_head, advance_tail]
  exact toNat_sub_add_ofNat b.head b.tail hw

private theorem len_advance_lt (b : TxBuf) (w : Nat) (hw : 0 < w) (hle : w ≤ b.len) :
    (b.advance w).len < b.len := by
  rw [len_advance b hle]
  omega

/-- `flush_to`: the bytes flushed, or the error of the first write; the recursive call's
error is swallowed (`unwrap_or(0)`). -/
def flushTo {σ : Type} (ops : StreamOps σ) (b : TxBuf) (s : σ) : σ × Except Error Nat × TxBuf :=
  if h : b.len = 0 then (s, .ok 0, b)
  else
    let tailOfs := b.tail.toNat % connTxBufSize.toNat
    let lenToWrite := min (connTxBufSize.toNat - tailOfs) b.len
    match hw : ops.writeClamped s (b.queued.take lenToWrite) with
    | (s, .error e) => (s, .error (.TxBufFlush e), b)
    | (s, .ok written) =>
        let b' := b.advance written
        if hlt : written < lenToWrite then (s, .ok written, b')
        else
          have : b'.len < b.len := by
            -- the sink took the whole run, which is at least one byte and at most `len`
            have hle := ops.writeClamped_le _ _ _ _ hw
            have htake := List.length_take_le lenToWrite b.queued
            have hsize : tailOfs < connTxBufSize.toNat := Nat.mod_lt _ (by decide)
            have hmin : lenToWrite ≤ b.len := Nat.min_le_right _ _
            have hpos : 0 < lenToWrite := Nat.lt_min.mpr ⟨by omega, by omega⟩
            exact len_advance_lt b written (by omega) (by omega)
          match flushTo ops b' s with
          | (s, .ok more, b'') => (s, .ok (written + more), b'')
          | (s, .error _, b'') => (s, .ok (written + 0), b'')
termination_by b.len

/-! The cases of `flush_to`, one equation each, so that its callers need not unfold it. -/

section FlushTo

variable {σ : Type} (ops : StreamOps σ) {b : TxBuf} {s s' : σ}

/-- The length of the run `flush_to` offers: to the array's end or to the head. -/
def lenToWrite (b : TxBuf) : Nat :=
  min (connTxBufSize.toNat - b.tail.toNat % connTxBufSize.toNat) b.len

theorem lenToWrite_eq (b : TxBuf) :
    b.lenToWrite = min (connTxBufSize.toNat - b.tail.toNat % connTxBufSize.toNat) b.len := rfl

/-- One unfolding of `flush_to`, without its termination argument: the four cases below are
read off it. -/
theorem flushTo_eq : b.flushTo ops s =
    if b.len = 0 then (s, .ok 0, b)
    else match ops.writeClamped s (b.queued.take b.lenToWrite) with
      | (s, .error e) => (s, .error (.TxBufFlush e), b)
      | (s, .ok w) =>
          if w < b.lenToWrite then (s, .ok w, b.advance w)
          else match (b.advance w).flushTo ops s with
            | (s, .ok more, b'') => (s, .ok (w + more), b'')
            | (s, .error _, b'') => (s, .ok (w + 0), b'') := by
  rw [flushTo]
  by_cases h : b.len = 0
  · rw [dif_pos h, if_pos h]
  · rw [dif_neg h, if_neg h, lenToWrite_eq]
    dsimp only
    -- both sides match on the same write; the source's match also names its result, which only
    -- the termination proof uses
    rcases ops.writeClamped s (b.queued.take
      (min (connTxBufSize.toNat - b.tail.toNat % connTxBufSize.toNat) b.len)) with ⟨s', _ | w⟩ <;>
      rfl

theorem flushTo_of_len_eq_zero (h : b.len = 0) : b.flushTo ops s = (s, .ok 0, b) := by
  rw [flushTo_eq, if_pos h]

theorem flushTo_of_error {e : IoErrorKind} (h : b.len ≠ 0)
    (hw : ops.writeClamped s (b.queued.take b.lenToWrite) = (s', .error e)) :
    b.flushTo ops s = (s', .error (.TxBufFlush e), b) := by
  rw [flushTo_eq, if_neg h, hw]

theorem flushTo_of_lt {w : Nat} (h : b.len ≠ 0)
    (hw : ops.writeClamped s (b.queued.take b.lenToWrite) = (s', .ok w)) (hlt : w < b.lenToWrite) :
    b.flushTo ops s = (s', .ok w, b.advance w) := by
  rw [flushTo_eq, if_neg h, hw]
  exact if_pos hlt

theorem flushTo_of_le {w : Nat} (h : b.len ≠ 0)
    (hw : ops.writeClamped s (b.queued.take b.lenToWrite) = (s', .ok w)) (hle : b.lenToWrite ≤ w) :
    b.flushTo ops s = match (b.advance w).flushTo ops s' with
      | (s, .ok more, b'') => (s, .ok (w + more), b'')
      | (s, .error _, b'') => (s, .ok (w + 0), b'') := by
  rw [flushTo_eq, if_neg h, hw]
  exact if_neg (Nat.not_lt.mpr hle)

end FlushTo

end TxBuf

end KataContainers.Vsock

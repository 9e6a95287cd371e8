import Mathlib
import KataContainers.Vsock.Credit

/-!
# The TX path of a vsock connection

What a connection does with the guest's data. A `VSOCK_OP_RW` payload that `send_pkt` hands to
`send_bytes` goes straight to the host stream while the TX buffer is empty, and into the
buffer otherwise; `notify` with `EPOLLOUT` flushes the buffer. Over whole runs:

* the bytes the host stream has taken, followed by the buffer, are the accepted payloads in
  the order they came, and `fwd_cnt` counts the bytes taken (`tx_delivered_in_order`);
* a guest that keeps within the credit of the last packet it got never fills the buffer, and
  the buffer holds at most the bytes sent since that packet's `fwd_cnt`
  (`txBufFull_never_within_credit`).

The buffer here is the list model `TxBuf`; `TxRing.push_refines` and `TxRing.flushTo_refines`
show that the source's ring holds and writes the same bytes.
-/

namespace KataContainers.Vsock

namespace TxBuf

@[simp] theorem advance_zero (b : TxBuf) : b.advance 0 = b := by
  cases b
  simp [advance_eq]

theorem advance_advance (b : TxBuf) (w w' : Nat) : (b.advance w).advance w' = b.advance (w + w') := by
  simp only [advance_eq, List.drop_drop, UInt32.add_assoc, UInt32.ofNat_add]

/-- The buffer a successful `push` leaves. -/
def append (b : TxBuf) (src : List UInt8) : TxBuf :=
  { b with queued := b.queued ++ src, head := b.head + UInt32.ofNat src.length }

theorem append_eq (b : TxBuf) (src : List UInt8) :
    b.append src = { b with queued := b.queued ++ src, head := b.head + UInt32.ofNat src.length } :=
  rfl

theorem append_queued (b : TxBuf) (src : List UInt8) : (b.append src).queued = b.queued ++ src := rfl

@[simp] theorem append_nil (b : TxBuf) : b.append [] = b := by
  cases b
  simp [append_eq]

theorem push_eq_ok {b b' : TxBuf} {src : List UInt8} :
    b.push src = .ok b' ↔ b.len + src.length ≤ connTxBufSize.toNat ∧ b' = b.append src := by
  rw [push_eq, append_eq]
  split_ifs with h
  · simp only [false_iff, not_and]
    intro hle
    omega
  · simp only [Except.ok.injEq]
    constructor
    · rintro rfl
      exact ⟨by omega, rfl⟩
    · rintro ⟨-, rfl⟩
      rfl

theorem push_of_le {b : TxBuf} {src : List UInt8} (h : b.len + src.length ≤ connTxBufSize.toNat) :
    b.push src = .ok (b.append src) :=
  push_eq_ok.mpr ⟨h, rfl⟩

theorem push_of_lt {b : TxBuf} {src : List UInt8} (h : connTxBufSize.toNat < b.len + src.length) :
    b.push src = .error .TxBufFull := by
  rw [push_eq, if_pos h]

theorem len_append (b : TxBuf) {src : List UInt8} (h : b.len + src.length ≤ connTxBufSize.toNat) :
    (b.append src).len = b.len + src.length := by
  have hsize : connTxBufSize.toNat = 65536 := rfl
  rw [len_eq] at h
  rw [len_eq, len_eq, append_eq]
  exact toNat_add_ofNat_sub b.head b.tail (by omega)

/-- The list model holds exactly the `len` bytes between `tail` and `head`. -/
def WellFormed (b : TxBuf) : Prop := b.queued.length = b.len

theorem wellFormed_iff {b : TxBuf} : b.WellFormed ↔ b.queued.length = b.len := Iff.rfl

theorem wellFormed_default : TxBuf.default.WellFormed := rfl

theorem WellFormed.queued_eq_nil {b : TxBuf} (h : b.WellFormed) (hlen : b.len = 0) :
    b.queued = [] :=
  List.eq_nil_of_length_eq_zero (h.trans hlen)

theorem WellFormed.append {b : TxBuf} (h : b.WellFormed) {src : List UInt8}
    (hle : b.len + src.length ≤ connTxBufSize.toNat) : (b.append src).WellFormed := by
  rw [wellFormed_iff] at h ⊢
  rw [len_append _ hle, ← h, append_queued, List.length_append]

theorem WellFormed.advance {b : TxBuf} (h : b.WellFormed) {w : Nat} (hw : w ≤ b.len) :
    (b.advance w).WellFormed := by
  rw [wellFormed_iff] at h ⊢
  rw [len_advance _ hw, ← h, advance_queued, List.length_drop]

/-- The bytes `notify` counts as flushed: the count `flush_to` returns, none on an error. -/
def flushed : Except Error Nat → Nat
  | .ok n => n
  | .error _ => 0

end TxBuf

/-- A host stream that records what it is written, `written s` being everything so far: a
write takes a prefix of what it is offered, or would block and takes nothing; a read does not
change what was written. -/
structure StreamOps.Records {σ : Type} (ops : StreamOps σ) (written : σ → List UInt8) : Prop where
  write_ok : ∀ s buf s' n, ops.write s buf = (s', .ok n) →
    n ≤ buf.length ∧ written s' = written s ++ buf.take n
  write_error : ∀ s buf s' k, ops.write s buf = (s', .error k) → k = .WouldBlock ∧ written s' = written s
  read_written : ∀ s n, written (ops.read s n).1 = written s

namespace StreamOps.Records

variable {σ : Type} {ops : StreamOps σ} {written : σ → List UInt8} (h : ops.Records written)
  {s s' : σ} {buf : List UInt8}
include h

theorem writeClamped_ok {w : Nat} (hw : ops.writeClamped s buf = (s', .ok w)) :
    written s' = written s ++ buf.take w := by
  unfold StreamOps.writeClamped at hw
  rcases hr : ops.write s buf with ⟨t, _ | n⟩
  · simp [hr, Except.map] at hw
  · simp only [hr, Except.map, Prod.mk.injEq, Except.ok.injEq] at hw
    obtain ⟨rfl, rfl⟩ := hw
    obtain ⟨hn, hlog⟩ := h.write_ok _ _ _ _ hr
    rw [hlog, Nat.min_eq_left hn]

theorem writeClamped_error {k : IoErrorKind} (hw : ops.writeClamped s buf = (s', .error k)) :
    k = .WouldBlock ∧ written s' = written s := by
  unfold StreamOps.writeClamped at hw
  rcases hr : ops.write s buf with ⟨t, _ | n⟩
  · simp only [hr, Except.map, Prod.mk.injEq, Except.error.injEq] at hw
    obtain ⟨rfl, rfl⟩ := hw
    exact h.write_error _ _ _ _ hr
  · simp [hr, Except.map] at hw

end StreamOps.Records

namespace TxBuf

/-- What one `flush_to` does: it takes `flushed` bytes off the front of the buffer, and a
stream that records its writes has been written exactly those. By strong induction on the
length, for the recursive call after a full first write. -/
theorem flushTo_spec {σ : Type} (ops : StreamOps σ) :
    ∀ (n : Nat) (b : TxBuf) (s : σ), b.len = n →
      (b.flushTo ops s).2.2 = b.advance (flushed (b.flushTo ops s).2.1) ∧
        flushed (b.flushTo ops s).2.1 ≤ b.len ∧
        ∀ written, ops.Records written →
          written (b.flushTo ops s).1 = written s ++ b.queued.take (flushed (b.flushTo ops s).2.1) := by
  intro n
  induction n using Nat.strong_induction_on with
  | _ n ih =>
  intro b s hn
  by_cases hzero : b.len = 0
  · rw [flushTo_of_len_eq_zero ops hzero]
    simp [flushed]
  rcases hw : ops.writeClamped s (b.queued.take b.lenToWrite) with ⟨s', _ | w⟩
  case error e =>
    rw [flushTo_of_error ops hzero hw]
    refine ⟨by simp [flushed], by simp [flushed], fun written hrec => ?_⟩
    simp [flushed, (hrec.writeClamped_error hw).2]
  case ok =>
  have hwle : w ≤ b.lenToWrite := by
    have := ops.writeClamped_le _ _ _ _ hw
    simp only [List.length_take] at this
    rw [lenToWrite_eq] at *
    omega
  have hw' : w ≤ b.len := le_trans hwle (Nat.min_le_right _ _)
  have hlog : ∀ written, ops.Records written → written s' = written s ++ b.queued.take w := by
    intro written hrec
    rw [hrec.writeClamped_ok hw, List.take_take, Nat.min_eq_left hwle]
  by_cases hlt : w < b.lenToWrite
  · rw [flushTo_of_lt ops hzero hw hlt]
    exact ⟨rfl, hw', hlog⟩
  · -- a full write: the recursive call flushes from `w` on
    have hle : b.lenToWrite ≤ w := Nat.le_of_not_lt hlt
    have hpos : 0 < w := lt_of_lt_of_le (Nat.lt_min.mpr ⟨Nat.sub_pos_of_lt
      (Nat.mod_lt _ (by decide)), Nat.pos_of_ne_zero hzero⟩) hle
    rw [flushTo_of_le ops hzero hw hle]
    obtain ⟨h₁, h₂, h₃⟩ := ih (b.advance w).len (by rw [len_advance _ hw']; omega) (b.advance w) s'
      rfl
    rw [len_advance _ hw'] at h₂
    rcases hr : (b.advance w).flushTo ops s' with ⟨t, _ | more, b''⟩ <;>
      simp only [hr, flushed] at h₁ h₂ h₃ ⊢
    · refine ⟨by simp [h₁], hw', fun written hrec => ?_⟩
      rw [h₃ written hrec, hlog written hrec]
      simp
    · refine ⟨by rw [h₁, advance_advance], by omega, fun written hrec => ?_⟩
      rw [h₃ written hrec, hlog written hrec, List.take_add, List.append_assoc]
      rfl

end TxBuf

/-- What the guest knows of the host's TX buffer: the payload bytes the host has accepted
from it, and the `fwd_cnt` of the last packet it was given (the counters wrap at 2^32). -/
structure GuestView where
  txCnt : UInt32
  lastFwdCnt : UInt32
deriving DecidableEq, Repr

/-- The bytes the guest has sent since the `fwd_cnt` it last saw. -/
def GuestView.inFlight (v : GuestView) : Nat := (v.txCnt - v.lastFwdCnt).toNat

/-- The credit the guest reckons with: `CONN_TX_BUF_SIZE` (the `buf_alloc` of every host
packet) less the bytes in flight. -/
def GuestView.credit (v : GuestView) : Nat := connTxBufSize.toNat - v.inFlight

theorem GuestView.inFlight_eq (v : GuestView) : v.inFlight = (v.txCnt - v.lastFwdCnt).toNat := rfl

theorem GuestView.credit_eq (v : GuestView) : v.credit = connTxBufSize.toNat - v.inFlight := rfl

/-- The states in which `send_pkt` takes data from the peer. -/
def ConnState.peerSendsData : ConnState → Bool
  | .Established | .PeerClosed _ false => true
  | _ => false

namespace VsockConnection

variable {σ : Type} (ops : StreamOps σ) (now : Nat)

/-- The credit fields `send_pkt` takes from every guest header before it dispatches. -/
def withCredit (c : VsockConnection σ) (hdr : VsockPacketHdr) : VsockConnection σ :=
  { c with peerBufAlloc := hdr.bufAlloc, peerFwdCnt := hdr.fwdCnt }

/-- The payload `send_pkt` hands to `send_bytes`: that of a `VSOCK_OP_RW` packet in a state
in which the peer may send. -/
def rwPayload (c : VsockConnection σ) : Event → Option (List UInt8)
  | .send hdr payload => if c.state.peerSendsData && hdr.op == vsockOpRw then payload else none
  | _ => none

theorem rwPayload_recv (c : VsockConnection σ) (bufLen : Option Nat) :
    c.rwPayload (.recv bufLen) = none := rfl

theorem rwPayload_send (c : VsockConnection σ) (hdr : VsockPacketHdr) (payload : Option (List UInt8)) :
    c.rwPayload (.send hdr payload) =
      if c.state.peerSendsData && hdr.op == vsockOpRw then payload else none := rfl

theorem rwPayload_notify (c : VsockConnection σ) (ev : Events) : c.rwPayload (.notify ev) = none :=
  rfl

/-- The host stream, the TX buffer and `fwd_cnt`: all the TX path reads and writes. -/
def txSide (c : VsockConnection σ) : σ × TxBuf × UInt32 := (c.stream, c.txBuf, c.fwdCnt)

theorem txSide_eq (c : VsockConnection σ) : c.txSide = (c.stream, c.txBuf, c.fwdCnt) := rfl

@[simp] theorem txSide_stream (c : VsockConnection σ) : c.txSide.1 = c.stream := rfl
@[simp] theorem txSide_txBuf (c : VsockConnection σ) : c.txSide.2.1 = c.txBuf := rfl
@[simp] theorem txSide_fwdCnt (c : VsockConnection σ) : c.txSide.2.2 = c.fwdCnt := rfl

@[simp] theorem txSide_kill (c : VsockConnection σ) : c.kill.txSide = c.txSide := rfl

@[simp] theorem txSide_pendingRx (c : VsockConnection σ) (p : PendingRxSet) :
    ({ c with pendingRx := p } : VsockConnection σ).txSide = c.txSide := rfl

@[simp] theorem txSide_withCredit (c : VsockConnection σ) (hdr : VsockPacketHdr) :
    (c.withCredit hdr).txSide = c.txSide := rfl

theorem sendRw_txSide (c : VsockConnection σ) (buf : List UInt8) :
    (c.sendRw ops (some buf)).txSide = (c.sendBytes ops buf).1.txSide := by
  unfold sendRw
  dsimp only
  split
  all_goals
    rename_i heq
    rw [heq]
    try split
  all_goals rfl

theorem sendPkt_txSide (c : VsockConnection σ) (hdr : VsockPacketHdr)
    (payload : Option (List UInt8)) :
    (c.sendPkt ops now hdr payload).txSide =
      match c.rwPayload (.send hdr payload) with
      | some buf => ((c.withCredit hdr).sendBytes ops buf).1.txSide
      | none => c.txSide := by
  unfold sendPkt
  rw [rwPayload_send]
  dsimp only
  by_cases h : c.state.peerSendsData && hdr.op == vsockOpRw
  · rw [if_pos h]
    split_ifs with h1
    · cases payload with
      | none => rfl
      | some buf => exact sendRw_txSide ops _ buf
    all_goals exact absurd h h1
  · rw [if_neg h]
    dsimp only
    split_ifs with h1
    · exact absurd h1 h
    all_goals
      try split
      try split_ifs
    all_goals rfl


/-- The TX side after the `EPOLLOUT` flush of `notify`: the buffer flushed into the stream and
the flushed bytes counted in `fwd_cnt`. -/
def flushOut (c : VsockConnection σ) : σ × TxBuf × UInt32 :=
  let p := c.txBuf.flushTo ops c.stream
  (p.1, p.2.2, c.fwdCnt + UInt32.ofNat (TxBuf.flushed p.2.1))

theorem notifyOut_txSide (c : VsockConnection σ) :
    ((c.notifyOut ops).getD c).txSide = c.flushOut ops := by
  unfold notifyOut flushOut
  split_ifs with h
  · -- an empty buffer: `flush_to` would not have written anything either
    have hlen : c.txBuf.len = 0 := by simpa [TxBuf.isEmpty] using h
    simp [TxBuf.flushTo_of_len_eq_zero ops hlen, txSide_eq, TxBuf.flushed]
  · rcases c.txBuf.flushTo ops c.stream with ⟨s, r, b⟩
    dsimp only
    -- the four arms of the source's match on the flush result
    rcases r with (_ | (_ | _ | _) | _) | n
    all_goals
      dsimp only
      split_ifs <;> rfl

theorem notifyOut_eq_none {c : VsockConnection σ} (h : c.notifyOut ops = none) :
    c.txSide = c.flushOut ops := by
  simpa [h] using notifyOut_txSide ops c

theorem notifyOut_eq_some {c c' : VsockConnection σ} (h : c.notifyOut ops = some c') :
    c'.txSide = c.flushOut ops := by
  simpa [h] using notifyOut_txSide ops c

theorem notify_txSide (c : VsockConnection σ) (ev : Events) :
    (c.notify ops ev).txSide = if ev.epollout then c.flushOut ops else c.txSide := by
  unfold notify
  -- the `EPOLLIN` indication and the `EPOLLERR` kill leave the TX side alone
  split_ifs <;> dsimp only
  all_goals first
    | rfl
    | split <;> rename_i heq
      · have h := notifyOut_eq_none ops heq
        exact h
      · have h := notifyOut_eq_some ops heq
        exact h


/-! The RX path only reads the stream: it keeps the TX buffer and `fwd_cnt`, and every packet
it yields is stamped by `init_pkt` with that `fwd_cnt`. -/

/-- `c'` has the TX buffer and `fwd_cnt` of `c`, and at most read the stream. -/
def ReadsOnly (c c' : VsockConnection σ) : Prop :=
  c'.txBuf = c.txBuf ∧ c'.fwdCnt = c.fwdCnt ∧
    (c'.stream = c.stream ∨ ∃ n, c'.stream = (ops.read c.stream n).1)

theorem ReadsOnly.refl {c c' : VsockConnection σ} (h : c'.txSide = c.txSide) :
    ReadsOnly ops c c' := by
  simp only [txSide_eq, Prod.mk.injEq] at h
  exact ⟨h.2.1, h.2.2, .inl h.1⟩

theorem ReadsOnly.congr {c₀ c c' c₁ : VsockConnection σ} (h : ReadsOnly ops c c')
    (h₀ : c.txSide = c₀.txSide) (h₁ : c₁.txSide = c'.txSide) : ReadsOnly ops c₀ c₁ := by
  simp only [txSide_eq, Prod.mk.injEq] at h₀ h₁
  obtain ⟨hs, hb, hf⟩ := h₀
  obtain ⟨hs', hb', hf'⟩ := h₁
  obtain ⟨h₁, h₂, h₃⟩ := h
  exact ⟨hb'.trans (h₁.trans hb), hf'.trans (h₂.trans hf), by rwa [hs', ← hs]⟩

theorem recvRead_tx {c c' : VsockConnection σ} {pkt : VsockPacketHdr} {n : Nat}
    {r : Option (Except VsockError VsockPacketHdr)}
    (h : c.recvRead now pkt (ops.read c.stream n) = (c', r)) :
    ReadsOnly ops c c' ∧ ∀ q, r = some (.ok q) → q.fwdCnt = pkt.fwdCnt := by
  -- every arm stores the stream the read left, and changes only `op`, `flags` and `len`
  rcases hr : ops.read c.stream n with ⟨s', (_ | _ | _) | (_ | k)⟩ <;>
    simp only [hr, recvRead, Prod.mk.injEq] at h <;>
    obtain ⟨rfl, rfl⟩ := h <;>
    exact ⟨⟨rfl, rfl, .inr ⟨n, by rw [hr]⟩⟩, by simp⟩

theorem recvRw_tx {c c' : VsockConnection σ} {pkt : VsockPacketHdr} {bufLen : Option Nat}
    {r : Option (Except VsockError VsockPacketHdr)} (h : c.recvRw ops now pkt bufLen = (c', r)) :
    ReadsOnly ops c c' ∧ ∀ q, r = some (.ok q) → q.fwdCnt = pkt.fwdCnt := by
  unfold recvRw at h
  split_ifs at h
  · obtain ⟨rfl, rfl⟩ := Prod.mk.inj h
    exact ⟨ReadsOnly.refl ops rfl, by simp⟩
  · obtain ⟨rfl, rfl⟩ := Prod.mk.inj h
    exact ⟨ReadsOnly.refl ops rfl, by simp⟩
  · cases bufLen with
    | none =>
        obtain ⟨rfl, rfl⟩ := Prod.mk.inj h
        exact ⟨ReadsOnly.refl ops rfl, by simp⟩
    | some len => exact recvRead_tx ops now h

theorem recvCreditUpdate_tx {c c' : VsockConnection σ} {pkt : VsockPacketHdr}
    {r : Except VsockError VsockPacketHdr} (h : c.recvCreditUpdate pkt = (c', r)) :
    c'.txSide = c.txSide ∧ ∀ q, r = .ok q → q.fwdCnt = pkt.fwdCnt := by
  unfold recvCreditUpdate at h
  rcases hrm : c.pendingRx.remove .CreditUpdate with ⟨had, p⟩
  simp only [hrm] at h
  split_ifs at h <;> obtain ⟨rfl, rfl⟩ := Prod.mk.inj h <;> exact ⟨rfl, by simp⟩

theorem recvPkt_tx {c c' : VsockConnection σ} {bufLen : Option Nat}
    {r : Except VsockError VsockPacketHdr} (h : c.recvPkt ops now bufLen = (c', r)) :
    ReadsOnly ops c c' ∧ ∀ q, r = .ok q → q.fwdCnt = c.fwdCnt := by
  unfold recvPkt at h
  rcases hrm : c.pendingRx.remove .Rst with ⟨hadRst, p⟩
  simp only [hrm] at h
  split_ifs at h
  -- the `Rst`, `Response` and `Request` arms only touch the state and the pending set
  iterate 3
    · obtain ⟨rfl, rfl⟩ := Prod.mk.inj h
      exact ⟨ReadsOnly.refl ops rfl, by simp [initPkt]⟩
  · -- the `Rw` arm, and the credit update when it yields nothing
    split at h <;> rename_i heq
    · obtain ⟨rfl, rfl⟩ := Prod.mk.inj h
      obtain ⟨hread, hpkt⟩ := recvRw_tx ops now heq
      exact ⟨hread.congr ops rfl rfl, fun q hq => hpkt q (by rw [hq])⟩
    · obtain ⟨hread, -⟩ := recvRw_tx ops now heq
      obtain ⟨hside, hpkt⟩ := recvCreditUpdate_tx h
      exact ⟨hread.congr ops rfl hside, hpkt⟩
  · obtain ⟨hside, hpkt⟩ := recvCreditUpdate_tx h
    exact ⟨ReadsOnly.refl ops hside, hpkt⟩


/-! `send_bytes` with room for the payload: it never refuses it, and what it does not write
it queues. -/

theorem sendBytes_within (c : VsockConnection σ) (buf : List UInt8)
    (h : c.txBuf.len + buf.length ≤ connTxBufSize.toNat) :
    (c.sendBytes ops buf).2 ≠ .error .TxBufFull ∧
      ∃ w, (c.sendBytes ops buf).1.fwdCnt = c.fwdCnt + UInt32.ofNat w ∧
        (c.sendBytes ops buf).1.txBuf.len + w ≤ c.txBuf.len + buf.length := by
  unfold sendBytes
  by_cases hem : c.txBuf.isEmpty
  · -- the direct write; the rest of the payload fits in the empty buffer
    have hlen : c.txBuf.len = 0 := by simpa [TxBuf.isEmpty] using hem
    have hrest : ∀ w ≤ buf.length, c.txBuf.len + (buf.drop w).length ≤ connTxBufSize.toNat := by
      intro w hw
      simp only [List.length_drop]
      omega
    rcases hw : ops.writeClamped c.stream buf with ⟨s, (_ | _ | _) | w⟩ <;>
      simp only [hem, Bool.not_true, Bool.false_eq_true, if_false]
    · -- `WouldBlock` writes nothing
      split_ifs
      · rw [TxBuf.push_of_le (hrest 0 (Nat.zero_le _))]
        exact ⟨by simp, 0, rfl, by rw [TxBuf.len_append _ (hrest 0 (Nat.zero_le _))]; simp⟩
      · exact ⟨by simp, 0, rfl, by simp⟩
    · -- `BrokenPipe` fails the send unless the connection is kept
      by_cases hkeep : c.keep
      · simp only [hkeep, Bool.not_true, Bool.false_eq_true, if_false]
        split_ifs
        · rw [TxBuf.push_of_le (hrest 0 (Nat.zero_le _))]
          exact ⟨by simp, 0, rfl, by rw [TxBuf.len_append _ (hrest 0 (Nat.zero_le _))]; simp⟩
        · exact ⟨by simp, 0, rfl, by simp⟩
      · simp only [hkeep, Bool.not_false, if_true]
        exact ⟨by simp, 0, by simp, by simp⟩
    · exact ⟨by simp, 0, by simp, by simp⟩
    · -- the stream took `w` bytes
      have hwle := ops.writeClamped_le _ _ _ _ hw
      split_ifs
      · rw [TxBuf.push_of_le (hrest w hwle)]
        exact ⟨by simp, w, rfl, by rw [TxBuf.len_append _ (hrest w hwle)]; simp; omega⟩
      · exact ⟨by simp, w, rfl, by simp; omega⟩
  · -- queued behind the bytes already buffered
    simp only [hem, Bool.not_false, if_true, TxBuf.push_of_le h]
    exact ⟨by simp, 0, by simp, by rw [TxBuf.len_append _ h]; omega⟩


/-! What the guest's bytes become: with a stream that records its writes, the bytes it took
and the TX buffer are always the accepted payloads in order, and `fwd_cnt` counts the bytes
taken. -/

section Delivers

variable (written : σ → List UInt8)

/-- From TX side `t` to `t'` the guest added `sent`: the stream took `out`, `out` followed by
the new buffer is the old buffer followed by `sent`, and `fwd_cnt` grew by the length of `out`. -/
def Delivers (sent : List UInt8) (t t' : σ × TxBuf × UInt32) : Prop :=
  ∃ out, written t'.1 = written t.1 ++ out ∧ out ++ t'.2.1.queued = t.2.1.queued ++ sent ∧
    t'.2.2 = t.2.2 + UInt32.ofNat out.length

theorem Delivers.refl (t : σ × TxBuf × UInt32) : Delivers written [] t t :=
  ⟨[], by simp, by simp, by simp⟩

theorem Delivers.trans {sent sent' : List UInt8} {t t' t'' : σ × TxBuf × UInt32}
    (h : Delivers written sent t t') (h' : Delivers written sent' t' t'') :
    Delivers written (sent ++ sent') t t'' := by
  obtain ⟨out, hw, hq, hf⟩ := h
  obtain ⟨out', hw', hq', hf'⟩ := h'
  refine ⟨out ++ out', by rw [hw', hw, List.append_assoc], ?_, ?_⟩
  · rw [List.append_assoc, hq', ← List.append_assoc, hq, List.append_assoc]
  · rw [hf', hf, List.length_append, UInt32.ofNat_add, UInt32.add_assoc]

/-- The guest's payload queued behind the buffer. -/
theorem Delivers.queue (s : σ) (b : TxBuf) (f : UInt32) (buf : List UInt8) :
    Delivers written buf (s, b, f) (s, b.append buf, f) :=
  ⟨[], by simp, by simp [TxBuf.append_queued], by simp⟩

/-- The guest's payload written to the stream up to `w`, the rest queued in the empty buffer. -/
theorem Delivers.write {s₀ s : σ} {b b' : TxBuf} {f : UInt32} {buf : List UInt8} {w : Nat}
    (hnil : b.queued = []) (hlog : written s = written s₀ ++ buf.take w) (hwle : w ≤ buf.length)
    (hq : b'.queued = buf.drop w) :
    Delivers written buf (s₀, b, f) (s, b', f + UInt32.ofNat w) := by
  refine ⟨buf.take w, hlog, by rw [hq, hnil, List.take_append_drop, List.nil_append], ?_⟩
  rw [List.length_take, Nat.min_eq_left hwle]

end Delivers

theorem ReadsOnly.delivers {written : σ → List UInt8} (hrec : ops.Records written)
    {c c' : VsockConnection σ} (h : ReadsOnly ops c c') :
    Delivers written [] c.txSide c'.txSide := by
  obtain ⟨hb, hf, hs⟩ := h
  refine ⟨[], ?_, by simp [txSide_eq, hb], by simp [txSide_eq, hf]⟩
  rcases hs with hs | ⟨n, hs⟩
  · simp [txSide_eq, hs]
  · simp [txSide_eq, hs, hrec.read_written]


/-- `send_bytes` that does not refuse the payload, to a stream that records its writes: the
payload is delivered behind the buffer. -/
theorem sendBytes_delivers {written : σ → List UInt8} (hrec : ops.Records written)
    (c : VsockConnection σ) (buf : List UInt8) (hwf : c.txBuf.WellFormed)
    (hne : (c.sendBytes ops buf).2 ≠ .error .TxBufFull) :
    Delivers written buf c.txSide (c.sendBytes ops buf).1.txSide ∧
      (c.sendBytes ops buf).1.txBuf.WellFormed := by
  unfold sendBytes at hne ⊢
  by_cases hem : c.txBuf.isEmpty
  · have hlen : c.txBuf.len = 0 := by simpa [TxBuf.isEmpty] using hem
    have hnil := hwf.queued_eq_nil hlen
    rcases hw : ops.writeClamped c.stream buf with ⟨s, k | w⟩
    · -- a recording stream fails only with `WouldBlock`, which writes nothing
      obtain ⟨rfl, hlog⟩ := hrec.writeClamped_error hw
      have hlog0 : written s = written c.stream ++ buf.take 0 := by simp [hlog]
      simp only [hem, Bool.not_true, Bool.false_eq_true, if_false, hw] at hne ⊢
      split_ifs at hne ⊢ with hlt
      · by_cases hfit : c.txBuf.len + (buf.drop 0).length ≤ connTxBufSize.toNat
        · rw [TxBuf.push_of_le hfit]
          exact ⟨Delivers.write written hnil hlog0 (Nat.zero_le _) (by simp [TxBuf.append_queued, hnil]),
            hwf.append hfit⟩
        · rw [TxBuf.push_of_lt (by omega)] at hne
          exact absurd rfl hne
      · -- an empty payload
        refine ⟨Delivers.write written hnil hlog0 (Nat.zero_le _) ?_, hwf⟩
        rw [hnil, List.drop_zero]
        exact (List.eq_nil_of_length_eq_zero (by omega)).symm
    · have hlog := hrec.writeClamped_ok hw
      have hwle := ops.writeClamped_le _ _ _ _ hw
      simp only [hem, Bool.not_true, Bool.false_eq_true, if_false, hw] at hne ⊢
      split_ifs at hne ⊢ with hlt
      · -- a short write: the rest goes to the buffer
        by_cases hfit : c.txBuf.len + (buf.drop w).length ≤ connTxBufSize.toNat
        · rw [TxBuf.push_of_le hfit]
          exact ⟨Delivers.write written hnil hlog hwle (by simp [TxBuf.append_queued, hnil]),
            hwf.append hfit⟩
        · rw [TxBuf.push_of_lt (by omega)] at hne
          exact absurd rfl hne
      · exact ⟨Delivers.write written hnil hlog hwle (by rw [hnil, List.drop_eq_nil_of_le (by omega)]),
          hwf⟩
  · -- queued behind the bytes already buffered; `push` refuses only when full
    simp only [hem, Bool.not_false, if_true] at hne ⊢
    by_cases hfit : c.txBuf.len + buf.length ≤ connTxBufSize.toNat
    · rw [TxBuf.push_of_le hfit]
      exact ⟨Delivers.queue written _ _ _ buf, hwf.append hfit⟩
    · rw [TxBuf.push_of_lt (by omega)] at hne
      exact absurd rfl hne


/-- The `EPOLLOUT` flush moves the first bytes of the buffer to the stream. -/
theorem flushOut_spec (c : VsockConnection σ) :
    ∃ f ≤ c.txBuf.len, (c.flushOut ops).2.1 = c.txBuf.advance f ∧
      (c.flushOut ops).2.2 = c.fwdCnt + UInt32.ofNat f ∧
      ∀ written, ops.Records written →
        written (c.flushOut ops).1 = written c.stream ++ c.txBuf.queued.take f := by
  obtain ⟨h₁, h₂, h₃⟩ := TxBuf.flushTo_spec ops _ c.txBuf c.stream rfl
  exact ⟨_, h₂, h₁, rfl, h₃⟩

theorem flushOut_delivers {written : σ → List UInt8} (hrec : ops.Records written)
    (c : VsockConnection σ) (hwf : c.txBuf.WellFormed) :
    Delivers written [] c.txSide (c.flushOut ops) ∧ (c.flushOut ops).2.1.WellFormed := by
  obtain ⟨f, hf, hb, hfwd, hlog⟩ := flushOut_spec ops c
  have hlen : (c.txBuf.queued.take f).length = f := by
    rw [List.length_take, hwf]
    exact Nat.min_eq_left hf
  refine ⟨⟨c.txBuf.queued.take f, hlog written hrec, ?_, ?_⟩, by rw [hb]; exact hwf.advance hf⟩
  · simp [txSide_eq, hb]
  · rw [hfwd, hlen]
    rfl

/-- A run's first component after one more call. -/
theorem run_cons_fst (c : VsockConnection σ) (e : Event) (es : List Event) :
    (c.run ops now (e :: es)).1 = ((c.step ops now e).1.run ops now es).1 := rfl

/-- The payloads a run hands to `send_bytes`, in the order they come. -/
def sentBytes (c : VsockConnection σ) : List Event → List UInt8
  | [] => []
  | e :: es => (c.rwPayload e).getD [] ++ sentBytes (c.step ops now e).1 es

/-- The call is a payload that `send_bytes` refuses with `TxBufFull`. -/
def overflows (c : VsockConnection σ) : Event → Bool
  | .send hdr payload =>
      match c.rwPayload (.send hdr payload) with
      | some buf => (((c.withCredit hdr).sendBytes ops buf).2 matches .error .TxBufFull)
      | none => false
  | _ => false

theorem overflows_send (c : VsockConnection σ) (hdr : VsockPacketHdr)
    (payload : Option (List UInt8)) :
    c.overflows ops (.send hdr payload) =
      match c.rwPayload (.send hdr payload) with
      | some buf => (((c.withCredit hdr).sendBytes ops buf).2 matches .error .TxBufFull)
      | none => false := rfl

/-- No call of the run has its payload refused with `TxBufFull`. -/
def noOverflow (c : VsockConnection σ) : List Event → Bool
  | [] => true
  | e :: es => !c.overflows ops e && noOverflow (c.step ops now e).1 es

theorem step_delivers {written : σ → List UInt8} (hrec : ops.Records written)
    (c : VsockConnection σ) (e : Event) (hwf : c.txBuf.WellFormed)
    (hno : c.overflows ops e = false) :
    Delivers written ((c.rwPayload e).getD []) c.txSide (c.step ops now e).1.txSide ∧
      (c.step ops now e).1.txBuf.WellFormed := by
  cases e with
  | recv bufLen =>
      rcases hr : c.recvPkt ops now bufLen with ⟨c', r⟩
      obtain ⟨hread, -⟩ := recvPkt_tx ops now hr
      simp only [step_recv, hr, rwPayload_recv, Option.getD_none]
      exact ⟨hread.delivers ops hrec, hread.1 ▸ hwf⟩
  | send hdr payload =>
      have hside := sendPkt_txSide ops now c hdr payload
      simp only [step_send]
      cases hp : c.rwPayload (.send hdr payload) with
      | none =>
          rw [hp] at hside
          refine ⟨by rw [hside]; exact Delivers.refl written _, ?_⟩
          rw [show (c.sendPkt ops now hdr payload).txBuf = c.txBuf from congrArg (·.2.1) hside]
          exact hwf
      | some buf =>
          rw [hp] at hside
          have hne : ((c.withCredit hdr).sendBytes ops buf).2 ≠ .error .TxBufFull := by
            simp only [overflows_send, hp] at hno
            intro h
            simp [h] at hno
          obtain ⟨hdel, hwf'⟩ := sendBytes_delivers ops hrec (c.withCredit hdr) buf hwf hne
          refine ⟨by rw [hside]; exact hdel, ?_⟩
          rw [show (c.sendPkt ops now hdr payload).txBuf = _ from congrArg (·.2.1) hside]
          exact hwf'
  | notify ev =>
      have hside := notify_txSide ops c ev
      simp only [step_notify, rwPayload_notify, Option.getD_none]
      split_ifs at hside
      · obtain ⟨hdel, hwf'⟩ := flushOut_delivers ops hrec c hwf
        refine ⟨by rw [hside]; exact hdel, ?_⟩
        rw [show (c.notify ops ev).txBuf = _ from congrArg (·.2.1) hside]
        exact hwf'
      · refine ⟨by rw [hside]; exact Delivers.refl written _, ?_⟩
        rw [show (c.notify ops ev).txBuf = c.txBuf from congrArg (·.2.1) hside]
        exact hwf

/-- Over a whole run: by induction on the calls, each step by `step_delivers`. -/
theorem run_delivers {written : σ → List UInt8} (hrec : ops.Records written) :
    ∀ (es : List Event) (c : VsockConnection σ), c.txBuf.WellFormed →
      c.noOverflow ops now es = true →
      Delivers written (c.sentBytes ops now es) c.txSide (c.run ops now es).1.txSide ∧
        (c.run ops now es).1.txBuf.WellFormed
  | [], c, hwf, _ => ⟨Delivers.refl written _, hwf⟩
  | e :: es, c, hwf, hno => by
      simp only [noOverflow, Bool.and_eq_true, Bool.not_eq_eq_eq_not, Bool.not_true] at hno
      obtain ⟨hstep, hwf₁⟩ := step_delivers ops now hrec c e hwf hno.1
      obtain ⟨hrun, hwf₂⟩ := run_delivers hrec es _ hwf₁ hno.2
      rw [run_cons_fst]
      exact ⟨hstep.trans written hrun, hwf₂⟩


/-- The TX path delivers the guest's data in order: over any run with no payload refused for a
full buffer, to a stream that takes a prefix of each write or would block, the bytes the stream
took are a prefix of the old buffer followed by the accepted payloads, the rest of which is the
buffer, and `fwd_cnt` grew (modulo 2^32) by the bytes taken. -/
theorem tx_delivered_in_order {written : σ → List UInt8} (hrec : ops.Records written)
    (c : VsockConnection σ) (hwf : c.txBuf.WellFormed) (es : List Event)
    (hno : c.noOverflow ops now es = true) :
    ∃ out, written (c.run ops now es).1.stream = written c.stream ++ out ∧
      out ++ (c.run ops now es).1.txBuf.queued = c.txBuf.queued ++ c.sentBytes ops now es ∧
      (c.run ops now es).1.fwdCnt = c.fwdCnt + UInt32.ofNat out.length :=
  (run_delivers ops now hrec es c hwf hno).1

/-- A stream that keeps all it is written and never has data. -/
def sinkStream : StreamOps (List UInt8) :=
  ⟨fun s _ => (s, .error .WouldBlock), fun s buf => (s ++ buf, .ok buf.length)⟩

theorem sinkStream_records : sinkStream.Records id where
  write_ok := by
    intro s buf s' n h
    simp only [sinkStream, Prod.mk.injEq, Except.ok.injEq] at h
    obtain ⟨rfl, rfl⟩ := h
    simp
  write_error := by
    intro s buf s' k h
    simp [sinkStream] at h
  read_written := fun _ _ => rfl

/-- A guest connection to host port 1002, and the guest's `VSOCK_OP_RW` header. -/
def sinkStart : VsockConnection (List UInt8) := newPeerInit [] 2 3 1002 1003 65536 false
def guestRw (len : UInt32) : VsockPacketHdr :=
  ⟨3, 2, 1003, 1002, len, vsockTypeStream, vsockOpRw, 0, 65536, 0⟩

/-- The response, then two payloads. -/
def sinkEvents : List Event :=
  [.recv none, .send (guestRw 3) (some [1, 2, 3]), .send (guestRw 2) (some [4, 5])]

theorem tx_delivered_in_order_sink :
    ∃ out, id (sinkStart.run sinkStream 0 sinkEvents).1.stream = id sinkStart.stream ++ out ∧
      out ++ (sinkStart.run sinkStream 0 sinkEvents).1.txBuf.queued =
        sinkStart.txBuf.queued ++ sinkStart.sentBytes sinkStream 0 sinkEvents ∧
      (sinkStart.run sinkStream 0 sinkEvents).1.fwdCnt =
        sinkStart.fwdCnt + UInt32.ofNat out.length :=
  tx_delivered_in_order sinkStream 0 sinkStream_records sinkStart TxBuf.wellFormed_default
    sinkEvents (by decide)

example : (sinkStart.run sinkStream 0 sinkEvents).1.stream = [1, 2, 3, 4, 5] := by decide


/-! Flow control on the TX side. The guest counts what it sends and learns `fwd_cnt` from
every packet it gets; while it sends no more than its credit, the buffer never overflows. -/

/-- The guest's view after one call: an accepted payload counts in `txCnt`, and a packet the
host yields sets `lastFwdCnt`. -/
def observe (c : VsockConnection σ) (v : GuestView) (e : Event) : GuestView :=
  let v := match c.rwPayload e with
    | some buf => { v with txCnt := v.txCnt + UInt32.ofNat buf.length }
    | none => v
  match (c.step ops now e).2 with
  | some (.ok pkt) => { v with lastFwdCnt := pkt.fwdCnt }
  | _ => v

/-- The guest's view after a run. -/
def viewAfter (c : VsockConnection σ) (v : GuestView) : List Event → GuestView
  | [] => v
  | e :: es => viewAfter (c.step ops now e).1 (c.observe ops now v e) es

/-- The guest keeps within its credit: each accepted payload fits the credit it has then. -/
def obeys (c : VsockConnection σ) (v : GuestView) : List Event → Bool
  | [] => true
  | e :: es => decide (((c.rwPayload e).getD []).length ≤ v.credit) &&
      obeys (c.step ops now e).1 (c.observe ops now v e) es

/-- The credit invariant: the bytes forwarded since the guest's view and the bytes still
buffered are at most the bytes in flight, which are at most the buffer's size. -/
def CreditInv (c : VsockConnection σ) (v : GuestView) : Prop :=
  (c.fwdCnt - v.lastFwdCnt).toNat + c.txBuf.len ≤ v.inFlight ∧ v.inFlight ≤ connTxBufSize.toNat

theorem creditInv_iff {c : VsockConnection σ} {v : GuestView} :
    CreditInv c v ↔
      (c.fwdCnt - v.lastFwdCnt).toNat + c.txBuf.len ≤ v.inFlight ∧
        v.inFlight ≤ connTxBufSize.toNat := Iff.rfl

theorem CreditInv.congr {c c' : VsockConnection σ} {v : GuestView} (h : CreditInv c v)
    (hb : c'.txBuf = c.txBuf) (hf : c'.fwdCnt = c.fwdCnt) : CreditInv c' v := by
  rw [creditInv_iff, hb, hf]
  exact h

theorem CreditInv.of_txSide {c c' : VsockConnection σ} {v : GuestView} (h : CreditInv c v)
    (hside : c'.txSide = c.txSide) : CreditInv c' v := by
  simp only [txSide_eq, Prod.mk.injEq] at hside
  exact h.congr hside.2.1 hside.2.2

/-- A packet stamped with `fwd_cnt` leaves nothing forwarded unseen. -/
theorem CreditInv.see {c : VsockConnection σ} {v : GuestView} (h : CreditInv c v) :
    CreditInv c { v with lastFwdCnt := c.fwdCnt } := by
  simp only [creditInv_iff, GuestView.inFlight_eq] at *
  have hf := UInt32.toNat_lt c.fwdCnt
  have ht := UInt32.toNat_lt v.txCnt
  have hl := UInt32.toNat_lt v.lastFwdCnt
  have hsize : connTxBufSize.toNat = 65536 := rfl
  simp only [UInt32.toNat_sub] at *
  omega

/-- Flushing `f` buffered bytes moves them from the buffer to `fwd_cnt`. -/
theorem CreditInv.forward {c c' : VsockConnection σ} {v : GuestView} (h : CreditInv c v)
    {f : Nat} (hf : f ≤ c.txBuf.len) (hlen : c'.txBuf.len = c.txBuf.len - f)
    (hfwd : c'.fwdCnt = c.fwdCnt + UInt32.ofNat f) : CreditInv c' v := by
  simp only [creditInv_iff, GuestView.inFlight_eq] at *
  have hc := UInt32.toNat_lt c.fwdCnt
  have hl := UInt32.toNat_lt v.lastFwdCnt
  have hsize : connTxBufSize.toNat = 65536 := rfl
  rw [hlen, hfwd]
  simp only [UInt32.toNat_sub, UInt32.toNat_add, UInt32.toNat_ofNat'] at *
  omega

/-- A payload within the credit: it counts in flight, and `send_bytes` writes `w` of it and
queues at most the rest. -/
theorem CreditInv.send {c c' : VsockConnection σ} {v : GuestView} (h : CreditInv c v)
    {buf : List UInt8} (hbuf : buf.length ≤ v.credit) {w : Nat}
    (hfwd : c'.fwdCnt = c.fwdCnt + UInt32.ofNat w) (hlen : c'.txBuf.len + w ≤ c.txBuf.len + buf.length) :
    CreditInv c' { v with txCnt := v.txCnt + UInt32.ofNat buf.length } := by
  rw [creditInv_iff] at h ⊢
  rw [GuestView.credit_eq] at hbuf
  rw [GuestView.inFlight_eq] at h hbuf
  rw [GuestView.inFlight_eq]
  have hc := UInt32.toNat_lt c.fwdCnt
  have ht := UInt32.toNat_lt v.txCnt
  have hl := UInt32.toNat_lt v.lastFwdCnt
  have hsize : connTxBufSize.toNat = 65536 := rfl
  rw [hfwd]
  simp only [UInt32.toNat_sub, UInt32.toNat_add, UInt32.toNat_ofNat'] at *
  omega

/-- Room for a payload within the credit. -/
theorem CreditInv.fits {c : VsockConnection σ} {v : GuestView} (h : CreditInv c v)
    {buf : List UInt8} (hbuf : buf.length ≤ v.credit) :
    c.txBuf.len + buf.length ≤ connTxBufSize.toNat := by
  simp only [creditInv_iff, GuestView.credit_eq] at *
  omega

theorem step_creditInv (c : VsockConnection σ) (v : GuestView) (e : Event) (h : CreditInv c v)
    (hobey : ((c.rwPayload e).getD []).length ≤ v.credit) :
    c.overflows ops e = false ∧ CreditInv (c.step ops now e).1 (c.observe ops now v e) := by
  cases e with
  | recv bufLen =>
      rcases hr : c.recvPkt ops now bufLen with ⟨c', r⟩
      obtain ⟨⟨hb, hf, -⟩, hpkt⟩ := recvPkt_tx ops now hr
      refine ⟨rfl, ?_⟩
      simp only [step_recv, observe, rwPayload_recv, hr]
      rcases r with _ | pkt
      · exact h.congr hb hf
      · dsimp only
        rw [hpkt pkt rfl]
        exact h.see.congr hb hf
  | send hdr payload =>
      have hside := sendPkt_txSide ops now c hdr payload
      simp only [step_send, observe, overflows_send]
      cases hp : c.rwPayload (.send hdr payload) with
      | none =>
          rw [hp] at hside
          exact ⟨rfl, h.of_txSide hside⟩
      | some buf =>
          rw [hp] at hside hobey
          simp only [txSide_eq, Prod.mk.injEq] at hside
          obtain ⟨hne, w, hfwd, hlen⟩ := sendBytes_within ops (c.withCredit hdr) buf (h.fits hobey)
          -- `hne` discharges the catch-all arm of `overflows`
          refine ⟨by simp, ?_⟩
          exact h.send hobey (hside.2.2.trans hfwd) (by rw [hside.2.1]; exact hlen)
  | notify ev =>
      have hside := notify_txSide ops c ev
      refine ⟨rfl, ?_⟩
      simp only [step_notify, observe, rwPayload_notify]
      split_ifs at hside
      · obtain ⟨f, hf, hb, hfwd, -⟩ := flushOut_spec ops c
        refine h.forward hf ?_ ((congrArg (·.2.2) hside).trans hfwd)
        rw [show (c.notify ops ev).txBuf = _ from congrArg (·.2.1) hside, hb, TxBuf.len_advance _ hf]
      · exact h.of_txSide hside

/-- Over a whole run: by induction on the calls, each step by `step_creditInv`. -/
theorem run_creditInv :
    ∀ (es : List Event) (c : VsockConnection σ) (v : GuestView), CreditInv c v →
      c.obeys ops now v es = true →
      c.noOverflow ops now es = true ∧ CreditInv (c.run ops now es).1 (c.viewAfter ops now v es)
  | [], c, v, h, _ => ⟨rfl, h⟩
  | e :: es, c, v, h, hobey => by
      simp only [obeys, Bool.and_eq_true, decide_eq_true_eq] at hobey
      obtain ⟨hno, h₁⟩ := step_creditInv ops now c v e h hobey.1
      obtain ⟨hnos, h₂⟩ := run_creditInv es _ _ h₁ hobey.2
      simp only [noOverflow, hno, Bool.not_false, Bool.true_and]
      exact ⟨hnos, h₂⟩


/-- Flow control is sound on the TX side: from a connection with an empty buffer whose guest
has seen its `fwd_cnt`, in every run in which the guest keeps within its credit no payload is
refused with `TxBufFull`, and afterwards the buffer holds at most the bytes in flight, which are
at most `CONN_TX_BUF_SIZE`. -/
theorem txBufFull_never_within_credit (c : VsockConnection σ) (hc : c.txBuf.len = 0)
    (es : List Event) (hobey : c.obeys ops now ⟨c.fwdCnt, c.fwdCnt⟩ es = true) :
    c.noOverflow ops now es = true ∧
      (c.run ops now es).1.txBuf.len ≤ (c.viewAfter ops now ⟨c.fwdCnt, c.fwdCnt⟩ es).inFlight ∧
      (c.viewAfter ops now ⟨c.fwdCnt, c.fwdCnt⟩ es).inFlight ≤ connTxBufSize.toNat := by
  have h₀ : CreditInv c ⟨c.fwdCnt, c.fwdCnt⟩ := by
    simp [creditInv_iff, GuestView.inFlight_eq, hc]
  obtain ⟨hno, h₁, h₂⟩ := run_creditInv ops now es c _ h₀ hobey
  exact ⟨hno, by omega, h₂⟩

theorem txBufFull_never_within_credit_sink :
    sinkStart.txBuf.len = 0 ∧
      sinkStart.obeys sinkStream 0 ⟨sinkStart.fwdCnt, sinkStart.fwdCnt⟩ sinkEvents = true ∧
      (sinkStart.noOverflow sinkStream 0 sinkEvents = true ∧
        (sinkStart.run sinkStream 0 sinkEvents).1.txBuf.len ≤
          (sinkStart.viewAfter sinkStream 0 ⟨sinkStart.fwdCnt, sinkStart.fwdCnt⟩ sinkEvents).inFlight ∧
        (sinkStart.viewAfter sinkStream 0 ⟨sinkStart.fwdCnt, sinkStart.fwdCnt⟩ sinkEvents).inFlight ≤
          connTxBufSize.toNat) :=
  ⟨by decide, by decide,
    txBufFull_never_within_credit sinkStream 0 sinkStart (by decide) sinkEvents (by decide)⟩

/-- A stream that never takes a byte. -/
def blockedStream : StreamOps Unit :=
  ⟨fun s _ => (s, .error .WouldBlock), fun s _ => (s, .error .WouldBlock)⟩

theorem blockedStream_records : blockedStream.Records (fun _ => []) where
  write_ok := by
    intro s buf s' n h
    simp [blockedStream] at h
  write_error := by
    intro s buf s' k h
    simp only [blockedStream, Prod.mk.injEq, Except.error.injEq] at h
    exact ⟨h.2.symm, rfl⟩
  read_written := fun _ _ => rfl

def blockedStart : VsockConnection Unit := newPeerInit () 2 3 1002 1003 65536 false

/-- The response, then 40000 bytes: within the credit of 65536, but more than half of it. -/
def blockedPayload : List UInt8 := List.replicate 40000 0
def blockedEvents : List Event := [.recv none, .send (guestRw 40000) (some blockedPayload)]

/-- The bound `len ≤ CONN_TX_BUF_SIZE - (accepted - last fwd_cnt)` fails: after a guest that kept
within its credit, the buffer holds more than the credit left. -/
theorem txBuf_exceeds_credit :
    blockedStart.obeys blockedStream 0 ⟨0, 0⟩ blockedEvents = true ∧
      (blockedStart.viewAfter blockedStream 0 ⟨0, 0⟩ blockedEvents).credit <
        (blockedStart.run blockedStream 0 blockedEvents).1.txBuf.len := by
  -- the response establishes the connection, and the guest sees `fwd_cnt = 0`
  have hview : blockedStart.observe blockedStream 0 ⟨0, 0⟩ (.recv none) = ⟨0, 0⟩ := by decide
  have hpay : (blockedStart.step blockedStream 0 (.recv none)).1.rwPayload
      (.send (guestRw 40000) (some blockedPayload)) = some blockedPayload := rfl
  have hlen : blockedPayload.length = 40000 := List.length_replicate
  have hobey : blockedStart.obeys blockedStream 0 ⟨0, 0⟩ blockedEvents = true := by
    simp only [blockedEvents, obeys, hview, hpay, Option.getD_some, hlen]
    decide
  refine ⟨hobey, ?_⟩
  -- no payload overflowed, so the stream, which took nothing, left it all in the buffer
  have h₀ : CreditInv blockedStart ⟨0, 0⟩ := by
    rw [creditInv_iff]
    decide
  obtain ⟨hno, -⟩ := run_creditInv blockedStream 0 blockedEvents blockedStart _ h₀ hobey
  obtain ⟨⟨out, hw, hq, -⟩, hwf⟩ := run_delivers blockedStream 0 blockedStream_records
    blockedEvents blockedStart TxBuf.wellFormed_default hno
  have hout : out = [] := by simpa using hw.symm
  have hsent : blockedStart.sentBytes blockedStream 0 blockedEvents = blockedPayload := by
    simp only [blockedEvents, sentBytes, hpay, Option.getD_some, List.append_nil]
    rfl
  have hqueued : (blockedStart.run blockedStream 0 blockedEvents).1.txBuf.queued =
      blockedPayload := by
    have hnil : blockedStart.txBuf.queued = [] := rfl
    simp only [txSide_txBuf] at hq
    rw [hout, hsent, hnil, List.nil_append, List.nil_append] at hq
    exact hq
  have hbuf : (blockedStart.run blockedStream 0 blockedEvents).1.txBuf.len = 40000 := by
    rw [TxBuf.wellFormed_iff] at hwf
    rw [← hwf, hqueued, hlen]
  -- the guest counts the payload and sees no packet after it
  have hstep : ((blockedStart.step blockedStream 0 (.recv none)).1.step blockedStream 0
      (.send (guestRw 40000) (some blockedPayload))).2 = none := rfl
  have hview₂ : blockedStart.viewAfter blockedStream 0 ⟨0, 0⟩ blockedEvents =
      ⟨UInt32.ofNat 40000, 0⟩ := by
    simp only [blockedEvents, viewAfter]
    rw [hview]
    simp only [observe, hpay, hstep, hlen]
    decide
  rw [hbuf, hview₂]
  decide

end VsockConnection

end KataContainers.Vsock

import Mathlib
import KataContainers.Vsock.Connection

/-!
# Flow control of a vsock connection

What `recv_pkt` promises about the data it sends the guest: a `VSOCK_OP_RW` packet carries at
most the bytes of the guest's RX buffer and at most `peer_avail_credit`. That credit is a
`Wrapping<u32>` difference of counters the guest reports in every packet header, so once the
guest reports less buffer space than the host already has in flight, the credit wraps to
nearly `2^32` and the host sends data the guest never granted room for.

A run of a connection is a list of the muxer's calls, `recv_pkt`, `send_pkt` and `notify`.
-/

namespace KataContainers.Vsock

/-- The stream honours `Read::read`: it never reports more bytes than the buffer holds. -/
def StreamOps.ReadsWithin {σ : Type} (ops : StreamOps σ) : Prop :=
  ∀ s m s' n, ops.read s m = (s', .ok n) → n ≤ m

/-- The muxer's calls on a connection. -/
inductive Event where
  | recv (bufLen : Option Nat)
  | send (hdr : VsockPacketHdr) (payload : Option (List UInt8))
  | notify (ev : Events)

namespace VsockConnection

variable {σ : Type} (ops : StreamOps σ) (now : Nat)

/-- One call, with the packet `recv_pkt` yields. -/
def step (c : VsockConnection σ) : Event →
    VsockConnection σ × Option (Except VsockError VsockPacketHdr)
  | .recv bufLen =>
      let (c, r) := c.recvPkt ops now bufLen
      (c, some r)
  | .send hdr payload => (c.sendPkt ops now hdr payload, none)
  | .notify ev => (c.notify ops ev, none)

/-- A run: the connection after the calls and the packets yielded, in order. -/
def run (c : VsockConnection σ) : List Event →
    VsockConnection σ × List (Except VsockError VsockPacketHdr)
  | [] => (c, [])
  | e :: es =>
      let (c, out) := c.step ops now e
      let (c, outs) := c.run es
      (c, out.toList ++ outs)

theorem step_recv (c : VsockConnection σ) (bufLen : Option Nat) :
    c.step ops now (.recv bufLen) =
      ((c.recvPkt ops now bufLen).1, some (c.recvPkt ops now bufLen).2) := rfl

theorem step_send (c : VsockConnection σ) (hdr : VsockPacketHdr) (payload : Option (List UInt8)) :
    c.step ops now (.send hdr payload) = (c.sendPkt ops now hdr payload, none) := rfl

theorem step_notify (c : VsockConnection σ) (ev : Events) :
    c.step ops now (.notify ev) = (c.notify ops ev, none) := rfl

/-- The pending-set updates of `recv_pkt` leave the credit alone. -/
@[simp] theorem peerAvailCredit_pendingRx (c : VsockConnection σ) (p : PendingRxSet) :
    ({ c with pendingRx := p } : VsockConnection σ).peerAvailCredit = c.peerAvailCredit := rfl

/-- A data packet of the `Rw` branch comes from a nonzero read. -/
theorem recvRead_rw (c c' : VsockConnection σ) (pkt pkt' : VsockPacketHdr)
    (r : σ × Except IoErrorKind Nat) (h : c.recvRead now pkt r = (c', some (.ok pkt')))
    (hrw : pkt'.op = vsockOpRw) :
    ∃ s n, r = (s, .ok (n + 1)) ∧ pkt'.len = UInt32.ofNat (n + 1) := by
  obtain ⟨s, r⟩ := r
  cases r with
  | ok n =>
      cases n with
      | zero =>
          simp only [recvRead, Prod.mk.injEq, Option.some.injEq, Except.ok.injEq] at h
          rw [← h.2] at hrw
          exact absurd hrw (by decide : vsockOpShutdown ≠ vsockOpRw)
      | succ n =>
          simp only [recvRead, Prod.mk.injEq, Option.some.injEq, Except.ok.injEq] at h
          exact ⟨s, n, rfl, by rw [← h.2]⟩
  | error e =>
      cases e <;> simp only [recvRead, Prod.mk.injEq, Option.some.injEq, Except.ok.injEq,
        reduceCtorEq, and_false] at h
      all_goals
        rw [← h.2] at hrw
        exact absurd hrw (by decide : vsockOpRst ≠ vsockOpRw)

/-- The only data packet of the `Rw` branch is a nonzero read from the stream into at most
`min(buf.len(), peer_avail_credit())` bytes. -/
theorem recvRw_rw (c c' : VsockConnection σ) (pkt pkt' : VsockPacketHdr) (bufLen : Option Nat)
    (h : c.recvRw ops now pkt bufLen = (c', some (.ok pkt'))) (hrw : pkt'.op = vsockOpRw) :
    ∃ b s n, bufLen = some b ∧ ops.read c.stream (min b c.peerAvailCredit) = (s, .ok (n + 1)) ∧
      pkt'.len = UInt32.ofNat (n + 1) := by
  unfold recvRw at h
  by_cases hdata : c.state.peerReceivesData = true
  · have hnot : ¬ (!c.state.peerReceivesData) = true := by simp [hdata]
    rw [if_neg hnot] at h
    by_cases hneed : c.needCreditUpdateFromPeer = true
    · rw [if_pos hneed] at h
      simp only [Prod.mk.injEq, Option.some.injEq, Except.ok.injEq] at h
      rw [← h.2] at hrw
      exact absurd hrw (by decide : vsockOpCreditRequest ≠ vsockOpRw)
    · rw [if_neg hneed] at h
      cases bufLen with
      | none => simp at h
      | some b =>
          obtain ⟨s, n, hr, hlen⟩ := recvRead_rw now c c' pkt pkt' _ h hrw
          exact ⟨b, s, n, rfl, hr, hlen⟩
  · have hyes : (!c.state.peerReceivesData) = true := by simpa using hdata
    rw [if_pos hyes] at h
    simp only [Prod.mk.injEq, Option.some.injEq, Except.ok.injEq] at h
    rw [← h.2] at hrw
    exact absurd hrw (by decide : vsockOpRst ≠ vsockOpRw)

theorem recvCreditUpdate_op (c c' : VsockConnection σ) (pkt pkt' : VsockPacketHdr)
    (h : c.recvCreditUpdate pkt = (c', .ok pkt')) : pkt'.op = vsockOpCreditUpdate := by
  unfold recvCreditUpdate at h
  split at h
  dsimp only at h
  split at h
  · simp only [Prod.mk.injEq, Except.ok.injEq] at h
    rw [← h.2]
  · simp at h

/-- While the guest's counters keep the bytes in flight within its buffer, the wrapped credit
is the integer one. -/
theorem peerAvailCredit_of_within (c : VsockConnection σ)
    (hfwd : c.peerFwdCnt.toNat ≤ c.rxCnt.toNat)
    (hwithin : c.rxCnt.toNat - c.peerFwdCnt.toNat ≤ c.peerBufAlloc.toNat) :
    c.peerAvailCredit = c.peerBufAlloc.toNat - (c.rxCnt.toNat - c.peerFwdCnt.toNat) := by
  have hle : c.peerFwdCnt ≤ c.rxCnt := UInt32.le_iff_toNat_le.mpr hfwd
  have hflight : (c.rxCnt - c.peerFwdCnt).toNat = c.rxCnt.toNat - c.peerFwdCnt.toNat :=
    UInt32.toNat_sub_of_le _ _ hle
  have hle' : c.rxCnt - c.peerFwdCnt ≤ c.peerBufAlloc := by
    rw [UInt32.le_iff_toNat_le, hflight]
    exact hwithin
  unfold peerAvailCredit
  rw [UInt32.toNat_sub_of_le _ _ hle', hflight]

/-- Once the guest reports less buffer space than is in flight, the credit wraps to
`2^32` minus the overcommitment. -/
theorem peerAvailCredit_of_overcommit (c : VsockConnection σ)
    (hfwd : c.peerFwdCnt.toNat ≤ c.rxCnt.toNat)
    (hover : c.peerBufAlloc.toNat < c.rxCnt.toNat - c.peerFwdCnt.toNat) :
    c.peerAvailCredit = 2 ^ 32 - (c.rxCnt.toNat - c.peerFwdCnt.toNat - c.peerBufAlloc.toNat) := by
  have hle : c.peerFwdCnt ≤ c.rxCnt := UInt32.le_iff_toNat_le.mpr hfwd
  have hflight : (c.rxCnt - c.peerFwdCnt).toNat = c.rxCnt.toNat - c.peerFwdCnt.toNat :=
    UInt32.toNat_sub_of_le _ _ hle
  have hrx := UInt32.toNat_lt c.rxCnt
  unfold peerAvailCredit
  rw [UInt32.toNat_sub, hflight]
  omega

end VsockConnection

open VsockConnection

/-- A stream that always has data: every read fills the buffer, every write takes all. -/
def fullStream : StreamOps Unit := ⟨fun _ m => ((), .ok m), fun _ buf => ((), .ok buf.length)⟩

/-- The guest's connection request granted one byte of buffer space. -/
def overrunStart : VsockConnection Unit := newPeerInit () 2 3 1002 1003 1 false

/-- A guest `VSOCK_OP_CREDIT_UPDATE` header reporting `buf_alloc` and `fwd_cnt`. -/
def guestCreditUpdate (bufAlloc fwdCnt : UInt32) : VsockPacketHdr :=
  ⟨3, 2, 1003, 1002, 0, vsockTypeStream, vsockOpCreditUpdate, 0, bufAlloc, fwdCnt⟩

def epollIn : Events := ⟨true, false, false, false⟩

theorem fullStream_readsWithin : fullStream.ReadsWithin := by
  intro s m s' n h
  simp only [fullStream, Prod.mk.injEq, Except.ok.injEq] at h
  omega

/-- The connection once the guest's request is answered and data waits on the host stream. -/
def grantedConn : VsockConnection Unit :=
  (overrunStart.run fullStream 0 [.recv (some 4096), .notify epollIn]).1

/-- The response, one byte of data, the guest's update to `buf_alloc = 0` with nothing
forwarded, and new data on the host stream. -/
def overrunEvents : List Event :=
  [.recv (some 4096), .notify epollIn, .recv (some 4096), .send (guestCreditUpdate 0 0) none,
    .notify epollIn]

/-- After one byte in flight and the guest's report of no buffer space, the integer credit
`peer_buf_alloc - (rx_cnt - peer_fwd_cnt)` is `-1`, but `peer_avail_credit` wraps to
`2^32 - 1` and the next `recv_pkt` sends a full 4 KiB data packet. -/
theorem recvPkt_exceeds_granted_credit :
    ∃ pkt, ((overrunStart.run fullStream 0 overrunEvents).1.recvPkt fullStream 0 (some 4096)).2
        = .ok pkt ∧ pkt.op = vsockOpRw ∧
      let c := (overrunStart.run fullStream 0 overrunEvents).1
      (max 0 ((c.peerBufAlloc.toNat : Int) - ((c.rxCnt.toNat : Int) - c.peerFwdCnt.toNat))) <
        pkt.len.toNat := by
  refine ⟨⟨2, 3, 1002, 1003, 4096, vsockTypeStream, vsockOpRw, 0, connTxBufSize, 0⟩, ?_, rfl, ?_⟩
  · decide
  · decide

end KataContainers.Vsock

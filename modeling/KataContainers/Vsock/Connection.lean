import KataContainers.Vsock.TxBuf

/-!
# A vsock connection

`VsockConnection` of `vsock::csm::connection`: the connection state, the flow-control counters
(`Wrapping<u32>` values are `UInt32`s), the pending RX indications and the TX buffer, with
`recv_pkt`, `send_pkt`, `notify` and their helpers. The host stream is a state `σ` with
`StreamOps`; the current time, for the kill timer, is an argument `now` in milliseconds. Of a
packet only its header is kept: `recv_pkt` is told the length of the guest's RX buffer, and
`send_pkt` gets the payload `buf[..len]` that `VsockPacket::from_tx_virtq_head` has checked.
-/

namespace KataContainers.Vsock

/-- `CONN_REQUEST_TIMEOUT_MS` and `CONN_SHUTDOWN_TIMEOUT_MS`. -/
def connRequestTimeoutMs : Nat := 2000
def connShutdownTimeoutMs : Nat := 2000

/-- The `uapi` operations, shutdown flags and socket type. -/
def vsockOpRequest : UInt16 := 1
def vsockOpResponse : UInt16 := 2
def vsockOpRst : UInt16 := 3
def vsockOpShutdown : UInt16 := 4
def vsockOpRw : UInt16 := 5
def vsockOpCreditUpdate : UInt16 := 6
def vsockOpCreditRequest : UInt16 := 7
def vsockFlagsShutdownRcv : UInt32 := 1
def vsockFlagsShutdownSend : UInt32 := 2
def vsockTypeStream : UInt16 := 1

inductive ConnState where
  | LocalInit
  | PeerInit
  | Established
  | LocalClosed
  | PeerClosed (recvOff sendOff : Bool)
  | Killed
deriving DecidableEq, Repr

/-- The states in which the peer may still be sent data. -/
def ConnState.peerReceivesData : ConnState → Bool
  | .Established | .PeerClosed false _ => true
  | _ => false

inductive PendingRx where
  | Request
  | Response
  | Rst
  | Rw
  | CreditUpdate
deriving DecidableEq, Repr

/-- `into_mask`: bit `self as u16`. -/
def PendingRx.intoMask : PendingRx → UInt16
  | .Request => (1 : UInt16) <<< (0 : UInt16)
  | .Response => (1 : UInt16) <<< (1 : UInt16)
  | .Rst => (1 : UInt16) <<< (2 : UInt16)
  | .Rw => (1 : UInt16) <<< (3 : UInt16)
  | .CreditUpdate => (1 : UInt16) <<< (4 : UInt16)

structure PendingRxSet where
  data : UInt16
deriving DecidableEq, Repr

namespace PendingRxSet

def ofPendingRx (it : PendingRx) : PendingRxSet := ⟨it.intoMask⟩
def insert (p : PendingRxSet) (it : PendingRx) : PendingRxSet := ⟨p.data ||| it.intoMask⟩
def contains (p : PendingRxSet) (it : PendingRx) : Bool := p.data &&& it.intoMask != 0
/-- `remove`: whether the item was in the set, and the set without it. -/
def remove (p : PendingRxSet) (it : PendingRx) : Bool × PendingRxSet :=
  (p.contains it, ⟨p.data &&& ~~~it.intoMask⟩)
def isEmpty (p : PendingRxSet) : Bool := p.data == 0

end PendingRxSet

/-- The header of a `VsockPacket`. -/
structure VsockPacketHdr where
  srcCid : UInt64
  dstCid : UInt64
  srcPort : UInt32
  dstPort : UInt32
  len : UInt32
  type_ : UInt16
  op : UInt16
  flags : UInt32
  bufAlloc : UInt32
  fwdCnt : UInt32
deriving DecidableEq, Repr

/-- The errors of `recv_pkt`. -/
inductive VsockError where
  | NoData
  | PktBufMissing
deriving DecidableEq, Repr

/-- The epoll events `notify` looks at. -/
structure Events where
  epollin : Bool
  epollout : Bool
  epollerr : Bool
  epollhup : Bool
deriving DecidableEq, Repr

structure VsockConnection (σ : Type) where
  state : ConnState
  localCid : UInt64
  peerCid : UInt64
  localPort : UInt32
  peerPort : UInt32
  stream : σ
  keep : Bool
  txBuf : TxBuf
  fwdCnt : UInt32
  peerBufAlloc : UInt32
  peerFwdCnt : UInt32
  rxCnt : UInt32
  lastFwdCntToPeer : UInt32
  pendingRx : PendingRxSet
  expiry : Option Nat

namespace VsockConnection

variable {σ : Type} (ops : StreamOps σ) (now : Nat)

def newPeerInit (stream : σ) (localCid peerCid : UInt64) (localPort peerPort : UInt32)
    (peerBufAlloc : UInt32) (keep : Bool) : VsockConnection σ :=
  ⟨.PeerInit, localCid, peerCid, localPort, peerPort, stream, keep, TxBuf.default, 0,
    peerBufAlloc, 0, 0, 0, .ofPendingRx .Response, none⟩

def newLocalInit (stream : σ) (localCid peerCid : UInt64) (localPort peerPort : UInt32)
    (keep : Bool) : VsockConnection σ :=
  ⟨.LocalInit, localCid, peerCid, localPort, peerPort, stream, keep, TxBuf.default, 0, 0, 0, 0,
    0, .ofPendingRx .Request, none⟩

def kill (c : VsockConnection σ) : VsockConnection σ :=
  { c with state := .Killed, pendingRx := c.pendingRx.insert .Rst }

def hasPendingRx (c : VsockConnection σ) : Bool := !c.pendingRx.isEmpty

/-- `peer_avail_credit`: `Wrapping(peer_buf_alloc) - (rx_cnt - peer_fwd_cnt)`. -/
def peerAvailCredit (c : VsockConnection σ) : Nat :=
  (c.peerBufAlloc - (c.rxCnt - c.peerFwdCnt)).toNat

def needCreditUpdateFromPeer (c : VsockConnection σ) : Bool := c.peerAvailCredit == 0

def peerNeedsCreditUpdate (c : VsockConnection σ) : Bool :=
  connTxBufSize - (c.fwdCnt - c.lastFwdCntToPeer) < connCreditUpdateThreshold

/-- `init_pkt`: a zeroed header with the addresses, the type and our credit. -/
def initPkt (c : VsockConnection σ) : VsockPacketHdr :=
  ⟨c.localCid, c.peerCid, c.localPort, c.peerPort, 0, vsockTypeStream, 0, 0, connTxBufSize,
    c.fwdCnt⟩

/-- The end of the `Rw` branch of `recv_pkt`, after `self.stream.read(&mut buf[..max_len])`
has answered `r`: a shutdown for an end of stream, data for a nonzero read, and no packet
when the read would block. -/
def recvRead (c : VsockConnection σ) (pkt : VsockPacketHdr) :
    σ × Except IoErrorKind Nat → VsockConnection σ × Option (Except VsockError VsockPacketHdr)
  | (stream, .ok 0) =>
      let pkt := { pkt with op := vsockOpShutdown,
                            flags := pkt.flags ||| vsockFlagsShutdownRcv ||| vsockFlagsShutdownSend }
      ({ c with stream := stream, state := .LocalClosed, expiry := some (now + connShutdownTimeoutMs),
                rxCnt := c.rxCnt + pkt.len, lastFwdCntToPeer := c.fwdCnt }, some (.ok pkt))
  | (stream, .ok (readCnt + 1)) =>
      let pkt := { pkt with op := vsockOpRw, len := UInt32.ofNat (readCnt + 1) }
      ({ c with stream := stream, rxCnt := c.rxCnt + pkt.len, lastFwdCntToPeer := c.fwdCnt },
        some (.ok pkt))
  | (stream, .error .WouldBlock) => ({ c with stream := stream }, none)
  | (stream, .error _) =>
      ({ c with stream := stream, lastFwdCntToPeer := c.fwdCnt }, some (.ok { pkt with op := vsockOpRst }))

/-- The `PendingRx::Rw` branch of `recv_pkt`, after the indication has been removed: the
connection and the packet, or no packet when `recv_pkt` goes on to the credit update. -/
def recvRw (c : VsockConnection σ) (pkt : VsockPacketHdr) (bufLen : Option Nat) :
    VsockConnection σ × Option (Except VsockError VsockPacketHdr) :=
  if !c.state.peerReceivesData then (c, some (.ok { pkt with op := vsockOpRst }))
  else if c.needCreditUpdateFromPeer then
    ({ c with lastFwdCntToPeer := c.fwdCnt }, some (.ok { pkt with op := vsockOpCreditRequest }))
  else
    match bufLen with
    | none => (c, some (.error .PktBufMissing))
    | some bufLen =>
        -- the read is bounded by the RX buffer and by the credit the peer granted
        c.recvRead now pkt (ops.read c.stream (min bufLen c.peerAvailCredit))

/-- The last part of `recv_pkt`: a credit update, sent only when nothing else is pending
(the indication is removed either way). -/
def recvCreditUpdate (c : VsockConnection σ) (pkt : VsockPacketHdr) :
    VsockConnection σ × Except VsockError VsockPacketHdr :=
  let (hadCreditUpdate, pendingRx) := c.pendingRx.remove .CreditUpdate
  let c := { c with pendingRx := pendingRx }
  if hadCreditUpdate && !c.hasPendingRx then
    ({ c with lastFwdCntToPeer := c.fwdCnt }, .ok { pkt with op := vsockOpCreditUpdate })
  else (c, .error .NoData)

/-- `recv_pkt`: the pending indications are served in the order `Rst`, `Response`,
`Request`, `Rw`, `CreditUpdate`. -/
def recvPkt (c : VsockConnection σ) (bufLen : Option Nat) :
    VsockConnection σ × Except VsockError VsockPacketHdr :=
  let pkt := c.initPkt
  let (hadRst, pendingRx) := c.pendingRx.remove .Rst
  let c := { c with pendingRx := pendingRx }
  if hadRst then (c, .ok { pkt with op := vsockOpRst })
  else
    let (hadResponse, pendingRx) := c.pendingRx.remove .Response
    let c := { c with pendingRx := pendingRx }
    if hadResponse then ({ c with state := .Established }, .ok { pkt with op := vsockOpResponse })
    else
      let (hadRequest, pendingRx) := c.pendingRx.remove .Request
      let c := { c with pendingRx := pendingRx }
      if hadRequest then
        ({ c with expiry := some (now + connRequestTimeoutMs) }, .ok { pkt with op := vsockOpRequest })
      else
        let (hadRw, pendingRx) := c.pendingRx.remove .Rw
        let c := { c with pendingRx := pendingRx }
        match if hadRw then c.recvRw ops now pkt bufLen else (c, none) with
        | (c, some r) => (c, r)
        | (c, none) => c.recvCreditUpdate pkt

/-- `send_bytes`: straight to the stream when the TX buffer is empty, the rest buffered. -/
def sendBytes (c : VsockConnection σ) (buf : List UInt8) : VsockConnection σ × Except Error Unit :=
  if !c.txBuf.isEmpty then
    match c.txBuf.push buf with
    | .ok txBuf => ({ c with txBuf := txBuf }, .ok ())
    | .error e => (c, .error e)
  else
    let (stream, r) := ops.writeClamped c.stream buf
    let c := { c with stream := stream }
    let written : Except Error Nat := match r with
      | .ok cnt => .ok cnt
      | .error .WouldBlock => .ok 0
      | .error .BrokenPipe => if !c.keep then .error (.StreamWrite .BrokenPipe) else .ok 0
      | .error k => .error (.StreamWrite k)
    match written with
    | .error e => (c, .error e)
    | .ok written =>
        let c := { c with fwdCnt := c.fwdCnt + UInt32.ofNat written }
        if written < buf.length then
          match c.txBuf.push (buf.drop written) with
          | .ok txBuf => ({ c with txBuf := txBuf }, .ok ())
          | .error e => (c, .error e)
        else (c, .ok ())

/-- The `VSOCK_OP_RW` arm of `send_pkt`. -/
def sendRw (c : VsockConnection σ) (payload : Option (List UInt8)) : VsockConnection σ :=
  match payload with
  | none => c
  | some buf =>
      match c.sendBytes ops buf with
      | (c, .error .TxBufFull) => if !c.keep then c.kill else c
      | (c, .error _) => c.kill
      | (c, .ok ()) =>
          if c.peerNeedsCreditUpdate then { c with pendingRx := c.pendingRx.insert .CreditUpdate }
          else c

/-- `send_pkt`: the credit fields of every guest packet are taken as they are; the arms of
the source's `match` are tried in order, each with its guard. -/
def sendPkt (c : VsockConnection σ) (hdr : VsockPacketHdr) (payload : Option (List UInt8)) :
    VsockConnection σ :=
  let c := { c with peerBufAlloc := hdr.bufAlloc, peerFwdCnt := hdr.fwdCnt }
  let recvOff := hdr.flags &&& vsockFlagsShutdownRcv != 0
  let sendOff := hdr.flags &&& vsockFlagsShutdownSend != 0
  let peerSends := match c.state with
    | .Established | .PeerClosed _ false => true
    | _ => false
  let peerReceives := match c.state with
    | .Established | .PeerInit | .PeerClosed false _ => true
    | _ => false
  if peerSends && hdr.op == vsockOpRw then c.sendRw ops payload
  else if c.state == .LocalInit && hdr.op == vsockOpResponse then
    { c with expiry := none, state := .Established }
  else if c.state == .Established && hdr.op == vsockOpShutdown then
    let c := { c with state := .PeerClosed recvOff sendOff }
    if recvOff && sendOff then
      if c.txBuf.isEmpty then { c with pendingRx := c.pendingRx.insert .Rst }
      else { c with expiry := some (now + connShutdownTimeoutMs) }
    else c
  else if hdr.op == vsockOpShutdown then
    match c.state with
    | .PeerClosed r s =>
        let c := { c with state := .PeerClosed (r || recvOff) (s || sendOff) }
        if (r || recvOff) && (s || sendOff) && c.txBuf.isEmpty then
          { c with pendingRx := c.pendingRx.insert .Rst }
        else c
    | _ => c
  else if peerReceives && hdr.op == vsockOpCreditUpdate then c
  else if (peerSends || c.state == .PeerInit) && hdr.op == vsockOpCreditRequest then
    { c with pendingRx := c.pendingRx.insert .CreditUpdate }
  else c

/-- The `EPOLLOUT` part of `notify`: flush the TX buffer, or return early when it is empty. -/
def notifyOut (c : VsockConnection σ) : Option (VsockConnection σ) :=
  if c.txBuf.isEmpty then none
  else
    let (stream, r, txBuf) := c.txBuf.flushTo ops c.stream
    let c := { c with stream := stream, txBuf := txBuf }
    let (c, flushed) := match r with
      | .ok n => (c, n)
      | .error (.TxBufFlush .WouldBlock) => (c, 0)
      | .error (.TxBufFlush .BrokenPipe) => (if !c.keep then c.kill else c, 0)
      | .error _ => (c.kill, 0)
    let c := { c with fwdCnt := c.fwdCnt + UInt32.ofNat flushed }
    if c.state == .PeerClosed true true && c.txBuf.isEmpty then
      some { c with pendingRx := c.pendingRx.insert .Rst }
    else if c.peerNeedsCreditUpdate then some { c with pendingRx := c.pendingRx.insert .CreditUpdate }
    else some c

def notify (c : VsockConnection σ) (ev : Events) : VsockConnection σ :=
  let c := if ev.epollin || ev.epollhup then { c with pendingRx := c.pendingRx.insert .Rw } else c
  match if ev.epollout then c.notifyOut ops else some c with
  | none => c
  | some c => if ev.epollerr && !ev.epollin && !ev.epollout then c.kill else c

end VsockConnection

end KataContainers.Vsock

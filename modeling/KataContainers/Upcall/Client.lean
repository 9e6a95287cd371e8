import Mathlib

/-!
# The upcall client

`dbs_upcall`: the client state shared by the API callers and the epoll handler, the requests a
caller sends and the stream and reconnect-timer events the handler processes. The I/O of an
event is its outcome: whether the server and service checks pass and the response the service
reads (`none` for a read error, a malformed response or the end of the stream). A callback is
known by a number, and invoking it appends it with its response to `invoked`; the stream is only
present or not. `set_reconnect` always returns `Ok`, so the `ReconnectError` arms after it never
run.
-/

namespace KataContainers.Upcall

inductive UpcallClientState where
  | WaitingServer
  | WaitingService
  | ServiceConnected
  | ServiceBusy
  | ReconnectError
deriving DecidableEq, Repr

inductive UpcallClientError where
  | SendRequest
  | UpcallIsNotConnected
  | UpcallIsBusy
deriving DecidableEq, Repr

inductive UpcallClientResponse (α : Type) where
  | DevMgr (response : α)
  | UpcallReset
deriving DecidableEq, Repr

def serverMaxReconnectTime : Nat := 500

structure UpcallClientInfo where
  stream : Bool
  state : UpcallClientState
  resultCallback : Option Nat
deriving DecidableEq, Repr

structure UpcallEpollHandler where
  reconnectTimerArmed : Bool
  reconnectTime : Nat
  inReconnect : Bool
deriving DecidableEq, Repr

/-- The client's info, its epoll handler, and the callbacks invoked so far with their responses. -/
structure Client (α : Type) where
  info : UpcallClientInfo
  handler : UpcallEpollHandler
  invoked : List (Nat × UpcallClientResponse α)
deriving DecidableEq, Repr

/-- The outcomes of the I/O of a stream event: `server_connection_check`, `connection_start` and
`connection_check` of the service, and `handle_response`. -/
structure StreamIo (α : Type) where
  serverCheck : Bool
  serviceStart : Bool
  serviceCheck : Bool
  response : Option (UpcallClientResponse α)

inductive Event (α : Type) where
  /-- `send_request` with a callback, or `send_request_without_result`; `sendOk` is the write. -/
  | send (callback : Option Nat) (sendOk : Bool)
  | stream (io : StreamIo α)
  /-- The reconnect timer fires; `connectOk` is `server_connection_start`. -/
  | reconnect (connectOk : Bool)

def UpcallEpollHandler.setReconnect (h : UpcallEpollHandler) : UpcallEpollHandler :=
  if h.inReconnect then h
  else if h.reconnectTime > serverMaxReconnectTime then
    { h with inReconnect := true, reconnectTimerArmed := false }
  else { h with inReconnect := true, reconnectTimerArmed := true, reconnectTime := h.reconnectTime + 1 }

namespace Client

variable {α : Type} (s : Client α)

/-- The client after `UpcallClient::connect`, whose `server_connection_start` succeeded. -/
def connected : Client α := ⟨⟨true, .WaitingServer, none⟩, ⟨false, 0, false⟩, []⟩

def setState (state : UpcallClientState) : Client α := { s with info.state := state }

@[simp] theorem setState_info (state : UpcallClientState) :
    (s.setState state).info = { s.info with state := state } := rfl

@[simp] theorem setState_invoked (state : UpcallClientState) :
    (s.setState state).invoked = s.invoked := rfl

@[simp] theorem setState_handler (state : UpcallClientState) : (s.setState state).handler = s.handler := rfl

def consumeCallback (response : UpcallClientResponse α) : Client α :=
  match s.info.resultCallback with
  | some cb => { s with info.resultCallback := none, invoked := s.invoked ++ [(cb, response)] }
  | none => s

/-- `send_request_inner`; `none` where `stream.as_mut().unwrap()` panics. -/
def sendRequestInner (callback : Option Nat) (sendOk : Bool) :
    Option (Client α × Except UpcallClientError Unit) :=
  match s.info.state with
  | .WaitingServer | .WaitingService | .ReconnectError => some (s, .error .UpcallIsNotConnected)
  | .ServiceBusy => some (s, .error .UpcallIsBusy)
  | .ServiceConnected =>
      if !s.info.stream then none
      else if !sendOk then some (s, .error .SendRequest)
      else
        let s := s.setState .ServiceBusy
        match callback with
        | some cb => some ({ s with info.resultCallback := some cb }, .ok ())
        | none => some (s, .ok ())

/-- The failure arm of each state: back to `WaitingServer`, and `set_reconnect`. -/
def reconnectAfterFailure : Client α :=
  { s with info.state := .WaitingServer, handler := s.handler.setReconnect }

/-- The `match info.state` of `handle_stream_event`. -/
def streamTransition (io : StreamIo α) : Client α :=
  match s.info.state with
  | .WaitingServer =>
      if !io.serverCheck then s.reconnectAfterFailure
      else if !io.serviceStart then s.reconnectAfterFailure
      else s.setState .WaitingService
  | .WaitingService =>
      if !io.serviceCheck then s.reconnectAfterFailure else s.setState .ServiceConnected
  | .ServiceBusy =>
      match io.response with
      | some response => (s.setState .ServiceConnected).consumeCallback response
      | none => s.reconnectAfterFailure
  | .ServiceConnected | .ReconnectError => s

def handleStreamEvent (io : StreamIo α) : Client α :=
  let s := s.streamTransition io
  -- the old stream is dropped and the pending callback told of the reset
  if s.handler.inReconnect then
    ({ s with info.stream := false }).consumeCallback .UpcallReset
  else s

def handleReconnectEvent (connectOk : Bool) : Client α :=
  let handler := { s.handler with inReconnect := false, reconnectTimerArmed := false }
  if connectOk then { s with handler, info.stream := true }
  else { s with handler := handler.setReconnect }

/-- `process`: a stream event comes only while there is a stream, a timer event only while the
timer is armed, and a request is sent only when it returns (`none` for a panic). -/
def step : Event α → Option (Client α)
  | .send callback sendOk => (s.sendRequestInner callback sendOk).map Prod.fst
  | .stream io => if s.info.stream then some (s.handleStreamEvent io) else none
  | .reconnect connectOk =>
      if s.handler.reconnectTimerArmed then some (s.handleReconnectEvent connectOk) else none

/-- The callback a request registers when `send_request` returns `Ok`. -/
def accepted : Event α → List Nat
  | .send (some cb) sendOk =>
      match s.sendRequestInner (some cb) sendOk with
      | some (_, .ok ()) => [cb]
      | _ => []
  | _ => []

/-- A run of events, with the callbacks of the requests that returned `Ok`. -/
def run (s : Client α) : List (Event α) → Option (Client α × List Nat)
  | [] => some (s, [])
  | e :: es => do
      let s' ← s.step e
      let (s'', acc) ← s'.run es
      pure (s'', s.accepted e ++ acc)

def Reachable : Prop := ∃ es acc, (connected : Client α).run es = some (s, acc)

/-- The callbacks the client was given: those invoked, in order, then the pending one. -/
def callbacks : List Nat := s.invoked.map Prod.fst ++ s.info.resultCallback.toList

theorem callbacks_eq : s.callbacks = s.invoked.map Prod.fst ++ s.info.resultCallback.toList := rfl

end Client

/-! ### What a step keeps -/

theorem UpcallEpollHandler.setReconnect_eq (h : UpcallEpollHandler) :
    h.setReconnect =
      if h.inReconnect then h
      else if h.reconnectTime > serverMaxReconnectTime then
        { h with inReconnect := true, reconnectTimerArmed := false }
      else { h with inReconnect := true, reconnectTimerArmed := true, reconnectTime := h.reconnectTime + 1 } :=
  rfl

theorem UpcallEpollHandler.setReconnect_inReconnect (h : UpcallEpollHandler) :
    h.setReconnect.inReconnect = true := by
  rw [setReconnect_eq]
  split
  case isTrue hin => exact hin
  case isFalse => split <;> rfl

/-- After `set_reconnect` a reconnect is scheduled or the budget is spent. -/
theorem UpcallEpollHandler.setReconnect_scheduled (h : UpcallEpollHandler)
    (hh : h.inReconnect → h.reconnectTimerArmed ∨ serverMaxReconnectTime < h.reconnectTime) :
    h.setReconnect.reconnectTimerArmed ∨ serverMaxReconnectTime < h.setReconnect.reconnectTime := by
  rw [setReconnect_eq]
  split
  case isTrue hin => exact hh hin
  case isFalse =>
    split
    case isTrue hgt => exact .inr hgt
    case isFalse => exact .inl rfl

namespace Client

variable {α : Type} {s s' : Client α}

/-- What every reachable client keeps: a callback is pending only while a request is, a
reconnect in progress has dropped the stream from `WaitingServer` and is scheduled or out of
budget, and only `WaitingServer` may lack a stream. -/
structure Inv (s : Client α) : Prop where
  callback_busy : s.info.resultCallback.isSome → s.info.state = .ServiceBusy
  reconnect_waiting : s.handler.inReconnect → s.info.state = .WaitingServer ∧ s.info.stream = false
  armed_reconnect : s.handler.reconnectTimerArmed → s.handler.inReconnect
  reconnect_scheduled : s.handler.inReconnect →
    s.handler.reconnectTimerArmed ∨ serverMaxReconnectTime < s.handler.reconnectTime
  stream_of_ne : s.info.state ≠ .WaitingServer → s.info.stream = true
  ne_reconnectError : s.info.state ≠ .ReconnectError

theorem inv_connected : (connected : Client α).Inv :=
  ⟨fun h => by simp [connected] at h, fun h => by simp [connected] at h,
    fun h => by simp [connected] at h, fun h => by simp [connected] at h,
    fun h => by simp [connected] at h, by simp [connected]⟩

section ConsumeCallback

variable (r : UpcallClientResponse α)

/-- What `consume_callback` can do: nothing without a pending callback, or invoke it. -/
theorem consumeCallback_cases :
    s.info.resultCallback = none ∧ s.consumeCallback r = s ∨
      ∃ cb, s.info.resultCallback = some cb ∧
        s.consumeCallback r =
          { s with info.resultCallback := none, invoked := s.invoked ++ [(cb, r)] } := by
  unfold consumeCallback
  split
  case h_1 cb hcb => exact .inr ⟨cb, hcb, rfl⟩
  case h_2 hnone => exact .inl ⟨hnone, rfl⟩

@[simp] theorem callbacks_consumeCallback : (s.consumeCallback r).callbacks = s.callbacks := by
  rcases consumeCallback_cases (s := s) r with ⟨-, h⟩ | ⟨cb, hcb, h⟩ <;> rw [h]
  simp [callbacks_eq, hcb]

@[simp] theorem consumeCallback_state : (s.consumeCallback r).info.state = s.info.state := by
  rcases consumeCallback_cases (s := s) r with ⟨-, h⟩ | ⟨cb, -, h⟩ <;> rw [h]

@[simp] theorem consumeCallback_stream : (s.consumeCallback r).info.stream = s.info.stream := by
  rcases consumeCallback_cases (s := s) r with ⟨-, h⟩ | ⟨cb, -, h⟩ <;> rw [h]

@[simp] theorem consumeCallback_resultCallback : (s.consumeCallback r).info.resultCallback = none := by
  rcases consumeCallback_cases (s := s) r with ⟨hnone, h⟩ | ⟨cb, -, h⟩ <;> rw [h]
  exact hnone

@[simp] theorem consumeCallback_handler : (s.consumeCallback r).handler = s.handler := by
  rcases consumeCallback_cases (s := s) r with ⟨-, h⟩ | ⟨cb, -, h⟩ <;> rw [h]

end ConsumeCallback

theorem Inv.not_inReconnect (hd : s.Inv) (hs : s.info.stream = true) : s.handler.inReconnect = false := by
  cases hin : s.handler.inReconnect
  · rfl
  · simp [(hd.reconnect_waiting hin).2] at hs

/-- A failure drops the stream, resets the pending callback and schedules a reconnect. -/
theorem Inv.reset (hd : s.Inv) :
    let s' := ({ s.reconnectAfterFailure with info.stream := false }).consumeCallback .UpcallReset
    s'.Inv ∧ s'.callbacks = s.callbacks ∧ s'.info.state = .WaitingServer ∧ s'.info.stream = false ∧
      (s'.handler.reconnectTimerArmed ∨ serverMaxReconnectTime < s'.handler.reconnectTime) := by
  intro s'
  have hsched := s.handler.setReconnect_scheduled hd.reconnect_scheduled
  have hin := s.handler.setReconnect_inReconnect
  refine ⟨⟨?_, ?_, ?_, ?_, ?_, ?_⟩, ?_, ?_, ?_, ?_⟩
  case refine_7 =>
    simp only [s', callbacks_consumeCallback]
    simp [callbacks_eq, reconnectAfterFailure]
  all_goals simp [s', reconnectAfterFailure, hin, hsched]

theorem Inv.setState_of_stream (hd : s.Inv) (hs : s.info.stream = true)
    (hcb : s.info.resultCallback = none) {state : UpcallClientState} (hne : state ≠ .ReconnectError) :
    (s.setState state).Inv := by
  have hin := hd.not_inReconnect hs
  refine ⟨fun h => by simp [setState_info, hcb] at h, fun h => by simp [hin] at h,
    fun h => absurd (hd.armed_reconnect h) (by simp [hin]), fun h => by simp [hin] at h,
    fun _ => hs, hne⟩

theorem Inv.send {cb : Option Nat} {sendOk : Bool} {r : Except UpcallClientError Unit}
    (hd : s.Inv) (h : s.sendRequestInner cb sendOk = some (s', r)) :
    s'.Inv ∧ s'.callbacks = s.callbacks ++ s.accepted (.send cb sendOk) := by
  cases hst : s.info.state
  case ServiceConnected =>
    have hcb : s.info.resultCallback = none := by
      cases hc : s.info.resultCallback
      · rfl
      · simp [hd.callback_busy (by simp [hc])] at hst
    cases hs : s.info.stream
    · simp [Client.sendRequestInner, hst, hs] at h
    have hin := hd.not_inReconnect hs
    cases sendOk
    · have hres : s.sendRequestInner cb false = some (s, .error .SendRequest) := by
        simp [Client.sendRequestInner, hst, hs]
      rw [hres] at h
      cases h
      cases cb <;> exact ⟨hd, by simp [accepted, hres]⟩
    cases cb with
    | none =>
        have hres : s.sendRequestInner none true = some (s.setState .ServiceBusy, .ok ()) := by
          simp [Client.sendRequestInner, hst, hs]
        rw [hres] at h
        cases h
        exact ⟨hd.setState_of_stream hs hcb (by decide), by simp [accepted, callbacks_eq, setState_info, setState_invoked]⟩
    | some c =>
        have hres : s.sendRequestInner (some c) true =
            some ({ s.setState .ServiceBusy with info.resultCallback := some c }, .ok ()) := by
          simp [Client.sendRequestInner, hst, hs]
        rw [hres] at h
        cases h
        refine ⟨⟨fun _ => rfl, fun h' => by simp [hin] at h', ?_, ?_, fun _ => hs,
          by simp [setState_info]⟩, by simp [accepted, hres, callbacks_eq, setState_info,
            setState_invoked, hcb]⟩
        · exact fun h' => absurd (hd.armed_reconnect h') (by simp [hin])
        · exact fun h' => by simp [hin] at h'
  all_goals
    have hres := h
    simp only [Client.sendRequestInner, hst] at h
    cases h
    cases cb <;> exact ⟨hd, by simp [accepted, hres]⟩

@[simp] theorem reconnectAfterFailure_inReconnect : s.reconnectAfterFailure.handler.inReconnect = true :=
  s.handler.setReconnect_inReconnect

theorem handleStreamEvent_eq_reset {io : StreamIo α}
    (h : s.streamTransition io = s.reconnectAfterFailure) :
    s.handleStreamEvent io =
      ({ s.reconnectAfterFailure with info.stream := false }).consumeCallback .UpcallReset := by
  simp only [handleStreamEvent, h, reconnectAfterFailure_inReconnect, if_true]

theorem handleStreamEvent_eq_of_not {io : StreamIo α}
    (h : (s.streamTransition io).handler.inReconnect = false) :
    s.handleStreamEvent io = s.streamTransition io := by
  simp [handleStreamEvent, h]

/-- A stream event keeps the invariant and the callbacks, in every state of the client. -/
theorem Inv.stream (hd : s.Inv) (hs : s.info.stream = true) (io : StreamIo α) :
    (s.handleStreamEvent io).Inv ∧ (s.handleStreamEvent io).callbacks = s.callbacks := by
  have hin := hd.not_inReconnect hs
  have hreset := hd.reset
  have hcb : s.info.state ≠ .ServiceBusy → s.info.resultCallback = none := fun hne => by
    cases hc : s.info.resultCallback
    · rfl
    · exact absurd (hd.callback_busy (by simp [hc])) hne
  cases hst : s.info.state
  case WaitingServer =>
    have hnone := hcb (by simp [hst])
    cases hcheck : io.serverCheck
    · rw [handleStreamEvent_eq_reset (by simp [streamTransition, hst, hcheck])]
      exact ⟨hreset.1, hreset.2.1⟩
    cases hstart : io.serviceStart
    · rw [handleStreamEvent_eq_reset (by simp [streamTransition, hst, hcheck, hstart])]
      exact ⟨hreset.1, hreset.2.1⟩
    have ht : s.streamTransition io = s.setState .WaitingService := by
      simp [streamTransition, hst, hcheck, hstart]
    rw [handleStreamEvent_eq_of_not (by rw [ht, setState_handler, hin]), ht]
    exact ⟨hd.setState_of_stream hs hnone (by decide), rfl⟩
  case WaitingService =>
    have hnone := hcb (by simp [hst])
    cases hcheck : io.serviceCheck
    · rw [handleStreamEvent_eq_reset (by simp [streamTransition, hst, hcheck])]
      exact ⟨hreset.1, hreset.2.1⟩
    have ht : s.streamTransition io = s.setState .ServiceConnected := by
      simp [streamTransition, hst, hcheck]
    rw [handleStreamEvent_eq_of_not (by rw [ht, setState_handler, hin]), ht]
    exact ⟨hd.setState_of_stream hs hnone (by decide), rfl⟩
  case ServiceBusy =>
    cases hresp : io.response with
    | none =>
        rw [handleStreamEvent_eq_reset (by simp [streamTransition, hst, hresp])]
        exact ⟨hreset.1, hreset.2.1⟩
    | some response =>
        have ht : s.streamTransition io = (s.setState .ServiceConnected).consumeCallback response := by
          simp [streamTransition, hst, hresp]
        rw [handleStreamEvent_eq_of_not (by rw [ht, consumeCallback_handler, setState_handler, hin]), ht]
        refine ⟨⟨by simp, fun h => by simp [hin] at h,
          fun h => absurd (hd.armed_reconnect (by simpa using h)) (by simp [hin]),
          fun h => by simp [hin] at h,
          fun _ => by simp [setState_info, hs], by simp [setState_info]⟩, ?_⟩
        rw [callbacks_consumeCallback]
        rfl
  case ServiceConnected =>
    have ht : s.streamTransition io = s := by simp [streamTransition, hst]
    rw [handleStreamEvent_eq_of_not (by rw [ht, hin]), ht]
    exact ⟨hd, rfl⟩
  case ReconnectError => exact absurd hst hd.ne_reconnectError

theorem Inv.reconnect (hd : s.Inv) (harmed : s.handler.reconnectTimerArmed = true) (connectOk : Bool) :
    (s.handleReconnectEvent connectOk).Inv ∧ (s.handleReconnectEvent connectOk).callbacks = s.callbacks := by
  obtain ⟨hwaiting, hstream⟩ := hd.reconnect_waiting (hd.armed_reconnect harmed)
  have hnone : s.info.resultCallback = none := by
    cases hc : s.info.resultCallback
    · rfl
    · simp [hd.callback_busy (by simp [hc])] at hwaiting
  cases connectOk
  · have hsched := UpcallEpollHandler.setReconnect_scheduled
      { s.handler with inReconnect := false, reconnectTimerArmed := false } (by simp)
    refine ⟨⟨?_, ?_, ?_, ?_, ?_, ?_⟩, rfl⟩ <;>
      simp_all [handleReconnectEvent, UpcallEpollHandler.setReconnect_inReconnect]
  · refine ⟨⟨?_, ?_, ?_, ?_, ?_, ?_⟩, rfl⟩ <;> simp_all [handleReconnectEvent]

theorem Inv.step {e : Event α} (hd : s.Inv) (h : s.step e = some s') :
    s'.Inv ∧ s'.callbacks = s.callbacks ++ s.accepted e := by
  cases e with
  | send callback sendOk =>
      simp only [Client.step, Option.map_eq_some_iff] at h
      obtain ⟨⟨s₁, r⟩, h₁, rfl⟩ := h
      exact hd.send h₁
  | stream io =>
      simp only [Client.step] at h
      split at h
      case isTrue hs =>
        cases h
        simpa [accepted] using hd.stream hs io
      case isFalse => cases h
  | reconnect connectOk =>
      simp only [Client.step] at h
      split at h
      case isTrue harmed =>
        cases h
        simpa [accepted] using hd.reconnect harmed connectOk
      case isFalse => cases h

theorem Inv.run {es : List (Event α)} {acc : List Nat} (hd : s.Inv) (h : s.run es = some (s', acc)) :
    s'.Inv ∧ s'.callbacks = s.callbacks ++ acc := by
  induction es generalizing s acc with
  | nil =>
      simp only [Client.run, Option.some.injEq, Prod.mk.injEq] at h
      obtain ⟨rfl, rfl⟩ := h
      exact ⟨hd, by simp⟩
  | cons e es ih =>
      simp only [Client.run, bind, Option.bind_eq_some_iff, pure, Option.some.injEq] at h
      obtain ⟨s₁, h₁, ⟨s₂, acc'⟩, h₂, heq⟩ := h
      simp only [Prod.mk.injEq] at heq
      obtain ⟨rfl, rfl⟩ := heq
      obtain ⟨hd₁, hc₁⟩ := hd.step h₁
      obtain ⟨hd₂, hc₂⟩ := ih hd₁ h₂
      exact ⟨hd₂, by rw [hc₂, hc₁, List.append_assoc]⟩

theorem Reachable.inv (hs : s.Reachable) : s.Inv := by
  obtain ⟨es, acc, h⟩ := hs
  exact (inv_connected.run h).1

/-- Every callback of a request that returned `Ok` has been invoked exactly once or is still
pending, in the order the requests were accepted, and no other callback ever is. -/
theorem run_callbacks {es : List (Event α)} {acc : List Nat}
    (h : (connected : Client α).run es = some (s, acc)) : s.callbacks = acc := by
  have hc := (inv_connected.run h).2
  simpa [callbacks_eq, connected] using hc

/-- In `ServiceConnected` a stream event only logs, whatever the stream reads: the client
stays connected to the stream, with no reconnect scheduled and none in progress. -/
theorem stream_event_keeps_service_connected (hs : s.Reachable)
    (hc : s.info.state = .ServiceConnected) (io : StreamIo α) :
    s.step (.stream io) = some s ∧ s.handler.reconnectTimerArmed = false ∧
      s.handler.inReconnect = false := by
  have hd := hs.inv
  have hstream := hd.stream_of_ne (by simp [hc])
  have hin := hd.not_inReconnect hstream
  have harmed : s.handler.reconnectTimerArmed = false := by
    cases h : s.handler.reconnectTimerArmed
    · rfl
    · simpa [hin] using hd.armed_reconnect h
  have ht : s.streamTransition io = s := by simp [streamTransition, hc]
  refine ⟨?_, harmed, hin⟩
  simp only [step, hstream, if_true]
  rw [handleStreamEvent_eq_of_not (by rw [ht, hin]), ht]

/-- The client once the server and then the service have answered. -/
def serviceConnected : Client Unit := ⟨⟨true, .ServiceConnected, none⟩, ⟨false, 0, false⟩, []⟩

theorem serviceConnected_reachable : serviceConnected.Reachable :=
  ⟨[.stream ⟨true, true, false, none⟩, .stream ⟨false, false, true, none⟩], [], rfl⟩

/-- Connecting to the server and then the service invokes no callback and leaves none pending. -/
theorem run_callbacks_service_connected :
    (connected : Client Unit).run
        [.stream ⟨true, true, false, none⟩, .stream ⟨false, false, true, none⟩] =
        some (serviceConnected, []) ∧
      serviceConnected.callbacks = [] := by
  have h : (connected : Client Unit).run
      [.stream ⟨true, true, false, none⟩, .stream ⟨false, false, true, none⟩] =
      some (serviceConnected, []) := rfl
  exact ⟨h, run_callbacks h⟩

/-- The end of the stream in `ServiceConnected`: every check fails and no response is read. -/
theorem end_of_stream_keeps_service_connected :
    serviceConnected.Reachable ∧ serviceConnected.info.state = .ServiceConnected ∧
      (serviceConnected.step (.stream ⟨false, false, false, none⟩) = some serviceConnected ∧
        serviceConnected.handler.reconnectTimerArmed = false ∧
        serviceConnected.handler.inReconnect = false) :=
  ⟨serviceConnected_reachable, rfl,
    stream_event_keeps_service_connected serviceConnected_reachable rfl _⟩

end Client

end KataContainers.Upcall

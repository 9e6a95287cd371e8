import KataContainers.Agent.Policy

/-!
# The agent's ttrpc service under a policy

`impl AgentService for AgentService` of `agent::rpc`, built with the `agent-policy` feature.
The agent's state is the loaded policy, everything else the handlers change (the sandbox with
its containers, processes, network and storage, and the guest system), and the memory agent.
What a handler does after its policy check is a parameter `work`: the model is about where the
checks stand, not about the bodies.

All handlers but five run `is_allowed(&req).await?` first. `set_policy` goes through
`do_set_policy`, which checks first as well. `read_stdout` and `read_stderr` read the stream
first and clear the data when the policy refuses; `mem_agent_memcg_set` and
`mem_agent_compact_set` consult no policy.
-/

namespace KataContainers.Agent

/-- The methods of `AgentService`. -/
inductive Method where
  | createContainer | startContainer | removeContainer | execProcess | signalProcess
  | waitProcess | updateContainer | statsContainer | pauseContainer | resumeContainer
  | removeStaleVirtiofsShareMounts | writeStdin | readStdout | readStderr | closeStdin
  | ttyWinResize | updateInterface | updateRoutes | updateEphemeralMounts | getIpTables
  | setIpTables | listInterfaces | listRoutes | createSandbox | destroySandbox
  | addArpNeighbors | onlineCpuMem | reseedRandomDev | getGuestDetails | memHotplugByProbe
  | setGuestDateTime | copyFile | getMetrics | getOomEvent | getVolumeStats | addSwap
  | addSwapPath | setPolicy | memAgentMemcgSet | memAgentCompactSet
deriving DecidableEq, Repr

/-- The name of each method's request message, `req.descriptor_dyn().name()`. -/
def Method.messageName : Method → String
  | .createContainer => "CreateContainerRequest"
  | .startContainer => "StartContainerRequest"
  | .removeContainer => "RemoveContainerRequest"
  | .execProcess => "ExecProcessRequest"
  | .signalProcess => "SignalProcessRequest"
  | .waitProcess => "WaitProcessRequest"
  | .updateContainer => "UpdateContainerRequest"
  | .statsContainer => "StatsContainerRequest"
  | .pauseContainer => "PauseContainerRequest"
  | .resumeContainer => "ResumeContainerRequest"
  | .removeStaleVirtiofsShareMounts => "RemoveStaleVirtiofsShareMountsRequest"
  | .writeStdin => "WriteStreamRequest"
  | .readStdout => "ReadStreamRequest"
  | .readStderr => "ReadStreamRequest"
  | .closeStdin => "CloseStdinRequest"
  | .ttyWinResize => "TtyWinResizeRequest"
  | .updateInterface => "UpdateInterfaceRequest"
  | .updateRoutes => "UpdateRoutesRequest"
  | .updateEphemeralMounts => "UpdateEphemeralMountsRequest"
  | .getIpTables => "GetIPTablesRequest"
  | .setIpTables => "SetIPTablesRequest"
  | .listInterfaces => "ListInterfacesRequest"
  | .listRoutes => "ListRoutesRequest"
  | .createSandbox => "CreateSandboxRequest"
  | .destroySandbox => "DestroySandboxRequest"
  | .addArpNeighbors => "AddARPNeighborsRequest"
  | .onlineCpuMem => "OnlineCPUMemRequest"
  | .reseedRandomDev => "ReseedRandomDevRequest"
  | .getGuestDetails => "GuestDetailsRequest"
  | .memHotplugByProbe => "MemHotplugByProbeRequest"
  | .setGuestDateTime => "SetGuestDateTimeRequest"
  | .copyFile => "CopyFileRequest"
  | .getMetrics => "GetMetricsRequest"
  | .getOomEvent => "GetOOMEventRequest"
  | .getVolumeStats => "VolumeStatsRequest"
  | .addSwap => "AddSwapRequest"
  | .addSwapPath => "AddSwapPathRequest"
  | .setPolicy => "SetPolicyRequest"
  | .memAgentMemcgSet => "MemAgentMemcgConfig"
  | .memAgentCompactSet => "MemAgentCompactConfig"

/-- The methods whose policy check comes before anything else and refuses the call. -/
def Method.checkedFirst : Method → Bool
  | .readStdout | .readStderr | .memAgentMemcgSet | .memAgentCompactSet => false
  | _ => true

structure AgentState (P W M : Type) where
  policy : P
  sandbox : W
  oma : Option M

/-- A request: its message, and that message serialized (`serde_json::to_string`). -/
structure Request (Msg : Type) where
  method : Method
  msg : Msg
  json : String

/-- What the handlers do besides consulting the policy. -/
structure Work (Msg W M R : Type) where
  /-- The rest of a handler that checks first, from its first effect on. -/
  body : Method → Msg → W → W × Except TtrpcError R
  /-- `do_read_stream(&req, stdout)`. -/
  readStream : Msg → Bool → W → W × Except TtrpcError R
  /-- `ReadStreamResponse::clear_data`. -/
  clearData : R → R
  /-- `SetPolicyRequest.policy`. -/
  policyText : Msg → String
  memcgSetConfig : M → Msg → M × Except String Unit
  compactSetConfig : M → Msg → M × Except String Unit
  /-- `Empty::new()`. -/
  empty : R

section
variable {P W M R Msg : Type} (policy : AgentPolicy P) (work : Work Msg W M R)

/-- The handlers that open with `is_allowed(&req).await?`. -/
def checkedHandler (req : Request Msg) (st : AgentState P W M) :
    AgentState P W M × Except TtrpcError R :=
  match isAllowed policy st.policy req.method.messageName req.json with
  | .error e => (st, .error e)
  | .ok p =>
      let (w, r) := work.body req.method req.msg st.sandbox
      ({ st with policy := p, sandbox := w }, r)

def createContainer := checkedHandler policy work
def startContainer := checkedHandler policy work
def removeContainer := checkedHandler policy work
def execProcess := checkedHandler policy work
def signalProcess := checkedHandler policy work
def waitProcess := checkedHandler policy work
def updateContainer := checkedHandler policy work
def statsContainer := checkedHandler policy work
def pauseContainer := checkedHandler policy work
def resumeContainer := checkedHandler policy work
def removeStaleVirtiofsShareMounts := checkedHandler policy work
def writeStdin := checkedHandler policy work
def closeStdin := checkedHandler policy work
def ttyWinResize := checkedHandler policy work
def updateInterface := checkedHandler policy work
def updateRoutes := checkedHandler policy work
def updateEphemeralMounts := checkedHandler policy work
def getIpTables := checkedHandler policy work
def setIpTables := checkedHandler policy work
def listInterfaces := checkedHandler policy work
def listRoutes := checkedHandler policy work
def createSandbox := checkedHandler policy work
def destroySandbox := checkedHandler policy work
def addArpNeighbors := checkedHandler policy work
def onlineCpuMem := checkedHandler policy work
def reseedRandomDev := checkedHandler policy work
def getGuestDetails := checkedHandler policy work
def memHotplugByProbe := checkedHandler policy work
def setGuestDateTime := checkedHandler policy work
def copyFile := checkedHandler policy work
def getMetrics := checkedHandler policy work
def getOomEvent := checkedHandler policy work
def getVolumeStats := checkedHandler policy work
def addSwap := checkedHandler policy work
def addSwapPath := checkedHandler policy work

/-- `read_stdout` and `read_stderr`: the stream is read before the policy is asked, and a
refusal only redacts the data. -/
def readStreamHandler (stdout : Bool) (req : Request Msg) (st : AgentState P W M) :
    AgentState P W M × Except TtrpcError R :=
  match work.readStream req.msg stdout st.sandbox with
  | (w, .error e) => ({ st with sandbox := w }, .error e)
  | (w, .ok response) =>
      match isAllowed policy st.policy req.method.messageName req.json with
      | .error _ => ({ st with sandbox := w }, .ok (work.clearData response))
      | .ok p => ({ st with policy := p, sandbox := w }, .ok response)

def readStdout := readStreamHandler policy work true
def readStderr := readStreamHandler policy work false

def setPolicy (req : Request Msg) (st : AgentState P W M) :
    AgentState P W M × Except TtrpcError R :=
  match doSetPolicy policy st.policy req.json (work.policyText req.msg) with
  | (p, .error e) => ({ st with policy := p }, .error e)
  | (p, .ok ()) => ({ st with policy := p }, .ok work.empty)

/-- `mem_agent_memcg_set` and `mem_agent_compact_set`: the memory agent is reconfigured
without a policy check. -/
def memAgentHandler (setConfig : M → Msg → M × Except String Unit) (what : String)
    (req : Request Msg) (st : AgentState P W M) : AgentState P W M × Except TtrpcError R :=
  match st.oma with
  | some ma =>
      match setConfig ma req.msg with
      | (ma, .error e) =>
          ({ st with oma := some ma },
            .error ⟨.INTERNAL, s!"ma.{what} fail: {e}"⟩)
      | (ma, .ok ()) => ({ st with oma := some ma }, .ok work.empty)
  | none => (st, .error ⟨.INTERNAL, "mem-agent is disabled"⟩)

def memAgentMemcgSet : Request Msg → AgentState P W M → AgentState P W M × Except TtrpcError R :=
  memAgentHandler work work.memcgSetConfig "memcg_set_config_async"
def memAgentCompactSet : Request Msg → AgentState P W M → AgentState P W M × Except TtrpcError R :=
  memAgentHandler work work.compactSetConfig "compact_set_config_async"

/-- The ttrpc dispatch of a request to its method's handler. -/
def handle (req : Request Msg) (st : AgentState P W M) : AgentState P W M × Except TtrpcError R :=
  match req.method with
  | .createContainer => createContainer policy work req st
  | .startContainer => startContainer policy work req st
  | .removeContainer => removeContainer policy work req st
  | .execProcess => execProcess policy work req st
  | .signalProcess => signalProcess policy work req st
  | .waitProcess => waitProcess policy work req st
  | .updateContainer => updateContainer policy work req st
  | .statsContainer => statsContainer policy work req st
  | .pauseContainer => pauseContainer policy work req st
  | .resumeContainer => resumeContainer policy work req st
  | .removeStaleVirtiofsShareMounts => removeStaleVirtiofsShareMounts policy work req st
  | .writeStdin => writeStdin policy work req st
  | .readStdout => readStdout policy work req st
  | .readStderr => readStderr policy work req st
  | .closeStdin => closeStdin policy work req st
  | .ttyWinResize => ttyWinResize policy work req st
  | .updateInterface => updateInterface policy work req st
  | .updateRoutes => updateRoutes policy work req st
  | .updateEphemeralMounts => updateEphemeralMounts policy work req st
  | .getIpTables => getIpTables policy work req st
  | .setIpTables => setIpTables policy work req st
  | .listInterfaces => listInterfaces policy work req st
  | .listRoutes => listRoutes policy work req st
  | .createSandbox => createSandbox policy work req st
  | .destroySandbox => destroySandbox policy work req st
  | .addArpNeighbors => addArpNeighbors policy work req st
  | .onlineCpuMem => onlineCpuMem policy work req st
  | .reseedRandomDev => reseedRandomDev policy work req st
  | .getGuestDetails => getGuestDetails policy work req st
  | .memHotplugByProbe => memHotplugByProbe policy work req st
  | .setGuestDateTime => setGuestDateTime policy work req st
  | .copyFile => copyFile policy work req st
  | .getMetrics => getMetrics policy work req st
  | .getOomEvent => getOomEvent policy work req st
  | .getVolumeStats => getVolumeStats policy work req st
  | .addSwap => addSwap policy work req st
  | .addSwapPath => addSwapPath policy work req st
  | .setPolicy => setPolicy policy work req st
  | .memAgentMemcgSet => memAgentMemcgSet work req st
  | .memAgentCompactSet => memAgentCompactSet work req st

/-- The agent serving requests one after another. -/
def run (st : AgentState P W M) : List (Request Msg) → AgentState P W M × List (Except TtrpcError R)
  | [] => (st, [])
  | req :: reqs =>
      let (st', r) := handle policy work req st
      let (st'', rs) := run st' reqs
      (st'', r :: rs)

/-! ## Where the checks stand -/

/-- The policy refuses the request in the state it is served in. -/
def Refused (st : AgentState P W M) (req : Request Msg) : Prop :=
  ∃ e, isAllowed policy st.policy req.method.messageName req.json = .error e

instance (st : AgentState P W M) (req : Request Msg) : Decidable (Refused policy st req) :=
  match h : isAllowed policy st.policy req.method.messageName req.json with
  | .error e => isTrue ⟨e, h⟩
  | .ok _ => isFalse fun ⟨_, he⟩ => by rw [h] at he; cases he

theorem checkedHandler_refused {req : Request Msg} {st : AgentState P W M} {e : TtrpcError}
    (h : isAllowed policy st.policy req.method.messageName req.json = .error e) :
    checkedHandler policy work req st = (st, .error e) := by
  unfold checkedHandler
  rw [h]

theorem setPolicy_refused {req : Request Msg} {st : AgentState P W M} {e : TtrpcError}
    (hm : req.method = .setPolicy)
    (h : isAllowed policy st.policy req.method.messageName req.json = .error e) :
    setPolicy policy work req st = (st, .error e) := by
  rw [hm] at h
  unfold setPolicy
  rw [doSetPolicy_denied policy h]

/-- A handler that checks first answers a refused request with the policy's error and
changes nothing. -/
theorem handle_refused {req : Request Msg} {st : AgentState P W M} {e : TtrpcError}
    (hfirst : req.method.checkedFirst = true)
    (h : isAllowed policy st.policy req.method.messageName req.json = .error e) :
    handle policy work req st = (st, .error e) := by
  have hchecked := checkedHandler_refused policy work h
  unfold handle
  -- every method but the five is `checkedHandler`; `set_policy` refuses through `do_set_policy`
  split <;> first
    | exact hchecked
    | exact setPolicy_refused policy work (by assumption) h
    | simp_all [Method.checkedFirst]

theorem readStreamHandler_refused {stdout : Bool} {req : Request Msg} {st : AgentState P W M}
    {e : TtrpcError} {w : W} {response : R}
    (hread : work.readStream req.msg stdout st.sandbox = (w, .ok response))
    (h : isAllowed policy st.policy req.method.messageName req.json = .error e) :
    readStreamHandler policy work stdout req st =
      ({ st with sandbox := w }, .ok (work.clearData response)) := by
  unfold readStreamHandler
  rw [hread]
  dsimp only
  rw [h]

/-- The requests of a run that have an effect: those whose handler does not refuse them
before anything else. -/
def effective (st : AgentState P W M) : List (Request Msg) → List (Request Msg)
  | [] => []
  | req :: reqs =>
      if req.method.checkedFirst ∧ Refused policy st req then effective st reqs
      else req :: effective (handle policy work req st).1 reqs

/-- Refused requests leave no trace: a run ends in the state reached by serving only the
requests that were not refused at their turn. -/
theorem run_eq_run_effective (st : AgentState P W M) (reqs : List (Request Msg)) :
    (run policy work st reqs).1 = (run policy work st (effective policy work st reqs)).1 := by
  induction reqs generalizing st with
  | nil => rfl
  | cons req reqs ih =>
      unfold effective
      split
      · next hrefused =>
          obtain ⟨hfirst, e, he⟩ := hrefused
          have hstep := handle_refused policy work hfirst he
          simp only [run, hstep]
          exact ih st
      · simp only [run]
        exact ih _

theorem checkedFirst_iff (m : Method) :
    m.checkedFirst = true ↔
      m ∉ [.readStdout, .readStderr, .memAgentMemcgSet, .memAgentCompactSet] := by
  cases m <;> decide

end

/-- A policy that refuses every request. -/
def refuseAll : AgentPolicy Unit := ⟨fun _ _ _ => .ok (.deny ""), fun p _ => (p, .ok ())⟩

/-- One process whose stdout pipe holds the sandbox's bytes; a read takes as many as the
request asks, and each reconfiguration of the memory agent bumps its generation. -/
def pipeWork : Work Nat (List UInt8) Nat (List UInt8) where
  body _ _ w := (w, .ok [])
  readStream len _ w := (w.drop len, .ok (w.take len))
  clearData _ := []
  policyText _ := ""
  memcgSetConfig ma _ := (ma + 1, .ok ())
  compactSetConfig ma _ := (ma + 1, .ok ())
  empty := []

end KataContainers.Agent

import Mathlib
import PmuSimulator.Management.Connection
import PmuSimulator.Management.Console

/-!
# The server

The whole state of the simulator, how it is bound, and how it answers management requests.
-/

namespace PmuSimulator

structure Server where
  endpoints : List Endpoint
  nextConnectionId : Nat
  scheduler : Scheduler
  wallClock : WallClock
  seed : UInt64
  stats : ServerStats
  scenarioController : Option ScenarioController
  timeHealthMonitor : TimeHealthMonitor
  timeSynchronizationSource : TimeSynchronizationSource
  timeHealthState : TimeHealthState
  management : Option ManagementListener
  nextManagementConnectionId : Nat
  ready : Bool
  consoleProcessIdentity : String

/-- An attempt on the server. -/
abbrev ServerAttempt (α : Type) := Attempt Failure Server Report α

/-! ### Counters -/

namespace ServerStats

def add (stats : ServerStats) (amount : Nat) : Counter → ServerStats
  | .acceptedClients => { stats with acceptedClients := stats.acceptedClients + amount }
  | .closedClients => { stats with closedClients := stats.closedClients + amount }
  | .rejectedClients => { stats with rejectedClients := stats.rejectedClients + amount }
  | .malformedCommands => { stats with malformedCommands := stats.malformedCommands + amount }
  | .unsupportedCommands => { stats with unsupportedCommands := stats.unsupportedCommands + amount }
  | .slowClients => { stats with slowClients := stats.slowClients + amount }
  | .sentDataFrames => { stats with sentDataFrames := stats.sentDataFrames + amount }
  | .skippedTicks => { stats with skippedTicks := stats.skippedTicks + amount }

/-- Counters are bumped where the log says so. -/
def count (stats : ServerStats) : Report → ServerStats
  | .connection _ _ _ (.counted counter) => stats.add 1 counter
  | .counter counter amount => stats.add amount counter
  | _ => stats

end ServerStats

/-! ### Binding -/

/-- The static frames of an endpoint. -/
def staticFrames (descriptor : EndpointDescriptor) (timestamp : Timestamp) :
    Except Failure EndpointFrames :=
  match descriptor.wireVersion with
  | .v2 => do
    let header ← WireV2.encodeHeader descriptor timestamp
    let configuration1 ← WireV2.encodeConfiguration1 descriptor timestamp
    let configuration2 ← WireV2.encodeConfiguration2 descriptor timestamp
    return .v2 header configuration1 configuration2
  | .v3 => do
    let capability ← WireV3.encodeCapability descriptor timestamp
    let streamConfiguration ← WireV3.encodeStreamConfiguration descriptor timestamp
    return .v3 capability streamConfiguration

/-- `PERIODIC_DATA_FRAME_BYTES` of either version. -/
def periodicDataFrameBytes : WireVersion → Nat
  | .v2 => 46
  | .v3 => 48

def emptyDataFrame : WireVersion → DataFrame
  | .v2 => .v2 (List.replicate (periodicDataFrameBytes .v2) 0)
  | .v3 => .v3 (List.replicate (periodicDataFrameBytes .v3) 0)

def bindEndpoint (limits : Limits) (timestamp : Timestamp) (descriptor : EndpointDescriptor) :
    Except Failure Endpoint := do
  let frames ← staticFrames descriptor timestamp
  return {
    descriptor, limits, frames
    dataFrame := emptyDataFrame descriptor.wireVersion
    connections := fun _ => none }

/-- The frame `selected_wire_frames_are_valid` looks at is a frame of its endpoint. -/
def selectedWireFrameIsValid (e : Endpoint) : Bool :=
  let valid (parsed : Except FrameError FrameView) (version frameType : UInt8) : Bool :=
    match parsed with
    | .error _ => false
    | .ok frame => frame.version = version && frame.frameType = frameType &&
        frame.idcode = e.descriptor.streamId
  match e.descriptor.wireVersion, e.frames with
  | .v2, .v2 header _ _ =>
    valid (WireV2.parse header) v2ProtocolVersion WireV2.frameTypeHeader
  | .v3, .v3 capability _ =>
    valid (WireV3.parse capability) v3ProtocolVersion WireV3.frameTypeCapability
  | _, _ => false

/-- What `bind_inner` is given: a profile, perhaps a catalog, a source of time synchronization,
whether management is on; the clocks, and the identity made for the console. -/
structure BindInput where
  profile : CompiledProfile
  catalog : Option ScenarioCatalog
  timeSynchronizationSource : TimeSynchronizationSource
  managed : Bool
  wallClock : SystemTime
  now : Instant
  consoleProcessIdentity : String

/-- `bind_inner`, where every listener can be bound and registered. -/
def bindInner (input : BindInput) : Except Failure Server :=
  match input.profile.endpoints with
  | [] => .error (.server (.message "compiled profile has no endpoints"))
  | first :: _ =>
    if input.profile.endpoints.any fun endpoint =>
        endpoint.dataRateHz ≠ first.dataRateHz || endpoint.timeBase ≠ first.timeBase then
      .error (.server (.message ("the simulator requires one shared data_rate_hz and TIME_BASE " ++
        "across all endpoints")))
    else if first.dataRateHz = 0 then
      .error (.server (.message "data_rate_hz must be greater than zero"))
    else do
      let (wallClock, firstSampleAt) ←
        WallClock.alignedStart first.dataRateHz first.timeBase input.wallClock input.now
      let endpoints ← input.profile.endpoints.mapM
        (bindEndpoint input.profile.limits (wallClock.timestampForSample 0))
      return {
        endpoints
        nextConnectionId := 1
        scheduler := .new first.dataRateHz firstSampleAt
        wallClock
        seed := input.profile.seed
        stats := {}
        scenarioController := input.catalog.map ScenarioController.new
        timeHealthMonitor := .new (nanosPerSecond / first.dataRateHz.toNat)
        timeSynchronizationSource := input.timeSynchronizationSource
        timeHealthState := .unobserved
        management := if input.managed then some ⟨fun _ => none, 0⟩ else none
        nextManagementConnectionId := 1
        ready := endpoints.all selectedWireFrameIsValid
        consoleProcessIdentity := input.consoleProcessIdentity }

/-! ### Management requests -/

def scenarioTargetFromManagement (target : ManagementTarget) : ScenarioTarget :=
  match target.connectionId with
  | some connectionId => .pdc target.streamId connectionId
  | none => .endpoint target.streamId

def Endpoint.state (e : Endpoint) : ManagementEndpointState where
  streamId := e.descriptor.streamId
  activeConnections := (slots.filterMap e.connections).length
  connections := (slots.filterMap e.connections).map fun c =>
    { connectionId := c.connectionId, streaming := c.streaming }

namespace Server

def overview (s : Server) : ServerOverview where
  ready := s.ready
  timeHealth := s.timeHealthState
  stats := s.stats
  endpoints := s.endpoints.map Endpoint.state

/-- `scenario_target_is_admitted`. -/
def scenarioTargetIsAdmitted (s : Server) (target : ScenarioTarget)
    (allowsDisconnectedActivePdc : Bool) : Bool :=
  match target with
  | .endpoint streamId => s.endpoints.any fun e => e.descriptor.streamId = streamId
  | .pdc streamId connectionId =>
    (s.endpoints.any fun e => e.descriptor.streamId = streamId &&
        slots.any fun slot => e.holds slot connectionId) ||
      (allowsDisconnectedActivePdc &&
        s.scenarioController.any fun c => c.active.contains target)

/-- Answer with the result of a controller operation, and keep the controller it leaves. -/
def answerWith {α : Type} (s : Server) (respond : α → ManagementResponse)
    (outcome : Except Failure (Outcome α)) : Except Failure (ManagementResponse × Server) :=
  match outcome with
  | .error failure => .error failure
  | .ok (.error _, c) =>
    .ok (scenarioRequestRejectedResponse, { s with scenarioController := some c })
  | .ok (.ok a, c) => .ok (respond a, { s with scenarioController := some c })

/-- A request on a token: the token must not be zero, and the actor label must be valid. -/
def answerToken {α : Type} (s : Server) (token : Nat) (actorLabel : Option String)
    (respond : α → ManagementResponse)
    (operate : ScenarioController → ActivationToken → Except Failure (Outcome α)) :
    Except Failure (ManagementResponse × Server) :=
  match ActivationToken.fromValue token with
  | none => .ok (invalidTokenResponse, s)
  | some token =>
    match s.scenarioController with
    | none => .ok (scenarioControllerUnavailableResponse, s)
    | some c =>
      match validateActorLabel actorLabel with
      | .error _ => .ok (scenarioRequestRejectedResponse, s)
      | .ok () => s.answerWith respond (operate c token)

/-- A request on a target: the target must be admitted. -/
def answerTarget (s : Server) (target : ScenarioTarget) (allowsDisconnectedActivePdc : Bool)
    (operate : ScenarioController → Except Failure (Outcome PreparedScenarioSnapshot)) :
    Except Failure (ManagementResponse × Server) :=
  match s.scenarioController with
  | none => .ok (scenarioControllerUnavailableResponse, s)
  | some c =>
    if s.scenarioTargetIsAdmitted target allowsDisconnectedActivePdc then
      s.answerWith .prepared (operate c)
    else .ok (scenarioRequestRejectedResponse, s)

/-- The offset a console request asks for; `none` where its cursor is of another process or of
another revision. -/
def consoleOffset (s : Server) (controllerRevision : Nat) : Option ConsoleStateCursor → Option Nat
  | none => some 0
  | some cursor =>
    if cursor.processIdentity ≠ s.consoleProcessIdentity ||
        cursor.controllerRevision ≠ controllerRevision then none
    else some cursor.offset

/-- The answer to a console request, from the snapshot it took of the controller. -/
def consolePage (s : Server) (cursor : Option ConsoleStateCursor)
    (snapshot : ScenarioControllerSnapshot) (c : ScenarioController) : ManagementResponse :=
  match s.consoleOffset c.revision cursor with
  | none => staleConsoleCursorResponse
  | some offset =>
    match managementConsoleLifecyclePage snapshot offset with
    | none => invalidConsoleCursorResponse
    | some (page, nextOffset) =>
      if cursor.isSome && page.prepared.isEmpty && page.pending.isEmpty && page.active.isEmpty then
        invalidConsoleCursorResponse
      else
        .consoleState
          { processIdentity := s.consoleProcessIdentity
            controllerRevision := c.revision
            overview := s.overview
            scenarioController := page
            nextCursor := nextOffset.map fun nextOffset =>
              consoleCursor s.consoleProcessIdentity c.revision nextOffset }

/-- `management_console_state_response`. -/
def managementConsoleStateResponse (s : Server) (cursor : Option ConsoleStateCursor)
    (now : Instant) : Except Failure (ManagementResponse × Server) :=
  match s.scenarioController with
  | none => .ok (scenarioControllerUnavailableResponse, s)
  | some c => do
    let (snapshot, c) ← c.snapshot now
    return (s.consolePage cursor snapshot c, { s with scenarioController := some c })

/-- `management_state_response`. -/
def managementStateResponse (s : Server) (now : Instant) :
    Except Failure (ManagementResponse × Server) :=
  match s.scenarioController with
  | none => .ok (.state s.overview none, s)
  | some c => do
    let (snapshot, c) ← c.snapshot now
    return (.state s.overview (some snapshot), { s with scenarioController := some c })

/-- `management_request_response`; `now` is the reading of the monotonic clock it takes. -/
def managementRequestResponse (s : Server) (now : Instant) :
    ManagementRequest → Except Failure (ManagementResponse × Server)
  | .healthz => .ok (.healthz, s)
  | .readyz => .ok (.readyz s.ready, s)
  | .metrics =>
    .ok (.metrics s.overview (s.management.map ManagementListener.rejectedConnections), s)
  | .catalog =>
    match s.scenarioController with
    | none => .ok (scenarioControllerUnavailableResponse, s)
    | some c => .ok (.catalog c.catalog, s)
  | .state => s.managementStateResponse now
  | .consoleState cursor => s.managementConsoleStateResponse cursor now
  | .prepare target scenarioName actorLabel =>
    let target := scenarioTargetFromManagement target
    s.answerTarget target false fun c => c.prepareActivation target scenarioName actorLabel now
  | .confirm token actorLabel =>
    s.answerToken token actorLabel .confirmed fun c token => c.confirm token now
  | .clear target actorLabel =>
    let target := scenarioTargetFromManagement target
    s.answerTarget target true fun c => c.prepareClear target actorLabel now
  | .cancel token actorLabel =>
    s.answerToken token actorLabel .cancelled fun c token => c.cancel token now

end Server

end PmuSimulator

import Mathlib
import PmuSimulator.Foundation.Machine
import PmuSimulator.Server.State

/-!
# The event loop

`run_until` takes one input at a time: an event, a look at the deadlines, a look at the scheduler. An
input carries everything the operating system answers while it is handled. The loop goes on until an
input ends it with a failure, and the state it ends in stays to be looked at.
-/

namespace PmuSimulator

/-! ### Inputs -/

structure Event where
  token : Nat
  readable : Bool
  writable : Bool
  /-- The accepts of a listener, up to the first that would block. -/
  accepts : List AcceptAnswer
  answers : Answers

/-- What is read and answered around `take_due` and `emit_data`. -/
structure BoundaryAnswers where
  now : Instant
  wallClock : SystemTime
  /-- What reading the synchronization status file gives. -/
  status : Option String
  answers : Nat → Slot → Answers

inductive Input where
  | event (event : Event)
  | expire (now : Instant)
  | boundary (answers : BoundaryAnswers)

/-! ### Parts of the server -/

namespace Server

/-- An attempt on one endpoint of the server; an index without an endpoint is a panic. -/
def onEndpoint (i : Nat) (attempt : Endpoint → EndpointAttempt Unit) (s : Server) :
    ServerAttempt Unit :=
  match s.endpoints[i]? with
  | none => .failed (.panic "index out of bounds") s
  | some e =>
    (attempt e).lift (fun e => { s with endpoints := s.endpoints.set i e })
      fun entry => .connection i entry.1 entry.2.1 entry.2.2

/-- Attempt something on every endpoint in turn. -/
def eachEndpoint (attempt : Nat → Endpoint → EndpointAttempt Unit) (s : Server) :
    ServerAttempt Unit :=
  Attempt.each (fun i s => s.onEndpoint i (attempt i)) (List.range s.endpoints.length) s

end Server

section Registered

variable (registry : Registry) (codec : ManagementCodec)

/-! ### Events -/

namespace Server

def acceptAt (endpointIndex : Nat) (accepts : List AcceptAnswer) (s : Server) :
    ServerAttempt Unit :=
  match s.endpoints[endpointIndex]? with
  | none => .failed (.panic "index out of bounds") s
  | some e =>
    (acceptConnections registry s.endpoints.length endpointIndex accepts
      (e, s.nextConnectionId)).lift
        (fun r => { s with
          endpoints := s.endpoints.set endpointIndex r.1
          nextConnectionId := r.2 }) (AcceptActivity.report (some endpointIndex))

def acceptManagement (accepts : List AcceptAnswer) (s : Server) : ServerAttempt Unit :=
  match s.management with
  | none => .done () s
  | some m =>
    (acceptManagementConnections registry managementConnectionLimit accepts
      (m, s.nextManagementConnectionId)).lift
        (fun r => { s with
          management := some r.1
          nextManagementConnectionId := r.2 }) (AcceptActivity.report none)

/-- An attempt on the management listener, where there is one. -/
def onManagement
    (attempt : ManagementListener → Attempt Failure ManagementListener Report Unit) (s : Server) :
    ServerAttempt Unit :=
  match s.management with
  | none => .done () s
  | some m => (attempt m).lift (fun m => { s with management := some m }) id

/-- An attempt on a management connection that must be there. -/
def onManagementConnection {α : Type} (slot : ManagementSlot)
    (attempt : ManagementConnection → ManagementAttempt α) (s : Server) : ServerAttempt α :=
  match s.management with
  | none => .failed (.panic "management connection requires a management listener") s
  | some m =>
    match m.connections slot with
    | none => .failed (.panic "current management connection must occupy its slot") s
    | some c =>
      (attempt c).lift (fun c => { s with management := some (m.setSlot slot (some c)) }) id

/-- `queue_management_response` of the server: a connection that is gone is passed over. -/
def queueResponse (slot : ManagementSlot) (connectionId : Nat) (response : ManagementResponse) :
    Server → ServerAttempt Unit :=
  onManagement fun m =>
    match m.connections slot with
    | none => .done () m
    | some c =>
      if c.connectionId ≠ connectionId then .done () m
      else
        (queueManagementResponse registry codec response c).lift
          (fun c => m.setSlot slot (some c)) id

def closeManagement (slot : ManagementSlot) (connectionId : Nat) : Server → ServerAttempt Unit :=
  onManagement (closeManagementConnection registry slot connectionId)

/-- The read of a management connection, unless a response is already queued. -/
def readManagement (slot : ManagementSlot) (reads : List ReadAnswer) :
    Server → ServerAttempt (Option (Except ErrorKind ManagementReadResult)) :=
  onManagementConnection slot fun c =>
    if c.response.isSome then .done none c
    else .done (some (c.read codec reads).1) (c.read codec reads).2

/-- What a read of a management connection leads to; `false` where the connection is closed. -/
def answerRead (slot : ManagementSlot) (connectionId : Nat) (now : Instant)
    (result : Option (Except ErrorKind ManagementReadResult)) (s : Server) : ServerAttempt Bool :=
  match result with
  | some (.ok (.request request)) =>
    match s.managementRequestResponse now request with
    | .error failure => .failed failure s
    | .ok (response, s) =>
      (s.queueResponse registry codec slot connectionId response).andThen fun _ s => .done true s
  | some (.ok (.response response)) =>
    (s.queueResponse registry codec slot connectionId response).andThen fun _ s => .done true s
  | some (.ok .closed) | some (.error _) =>
    (s.closeManagement registry slot connectionId).andThen fun _ s => .done false s
  | some (.ok .incomplete) | none => .done true s

/-- `dispatch_management_connection`. -/
def dispatchManagementConnection (slot : ManagementSlot) (connectionId : Nat)
    (readable writable : Bool) (answers : Answers) (s : Server) : ServerAttempt Unit :=
  if s.management.any fun m => m.holds slot connectionId then
    (if readable then
      (s.readManagement codec slot answers.reads).andThen fun result s =>
        s.answerRead registry codec slot connectionId (answers.readClock 0) result
    else .done true s).andThen fun served s =>
      if served && writable then
        (s.onManagementConnection slot
          (flushManagementConnection registry answers.write)).andThen fun kept s =>
            match kept with
            | .ok true => .done () s
            | _ => s.closeManagement registry slot connectionId
      else .done () s
  else .done () s

/-- One turn of the loop of `dispatch_events`. -/
def dispatchEvent (event : Event) (s : Server) : ServerAttempt Unit :=
  match eventTarget event.token s.endpoints.length with
  | some (.listener endpointIndex) =>
    if event.readable then s.acceptAt registry endpointIndex event.accepts else .done () s
  | some (.connection endpointIndex slotIndex connectionId) =>
    s.onEndpoint endpointIndex fun e =>
      e.onSlot (Fin.ofNat 2 slotIndex) (dispatchConnection registry e.toEndpointContext e.dataFrame
        connectionId event.readable event.writable event.answers)
  | some .managementListener =>
    if event.readable then s.acceptManagement registry event.accepts else .done () s
  | some (.managementConnection slotIndex connectionId) =>
    s.dispatchManagementConnection registry codec (Fin.ofNat 8 slotIndex) connectionId
      event.readable event.writable event.answers
  | none => .done () s

/-- `expire_connections`. -/
def expireConnections (now : Instant) (s : Server) : ServerAttempt Unit :=
  s.eachEndpoint fun _ =>
    Attempt.each (fun slot e => e.onSlot slot (expireConnection registry now)) slots

/-! ### Boundaries -/

/-- The message of `emit_data` where the controller refuses a boundary, with the text of the one
error `advance_boundary` has. -/
def boundaryRefused (sampleIndex : Nat) (error : ScenarioControllerError) : Failure :=
  let reason :=
    match error with
    | .nonMonotonicBoundary previous received =>
      "reporting boundaries must increase: received " ++ toString received ++ " after " ++
        toString previous
    | _ => ""
  .server (.message ("scenario controller failed at reporting boundary " ++ toString sampleIndex ++
    ": " ++ reason))

/-- The controller after a boundary, if there is one. -/
def advanceController (sampleIndex : Nat) :
    Option ScenarioController → Except Failure (Option ScenarioController)
  | none => .ok none
  | some c =>
    match c.advanceBoundary sampleIndex with
    | .error failure => .error failure
    | .ok (.ok (), c) => .ok (some c)
    | .ok (.error e, _) => .error (boundaryRefused sampleIndex e)

/-- The time health observed at a boundary. -/
def observeTime (answers : BoundaryAnswers) (s : Server) : Server :=
  let (state, monitor) := s.timeHealthMonitor.observeBoundary answers.wallClock
    (s.timeSynchronizationSource.isVerified answers.status)
  { s with timeHealthState := state, timeHealthMonitor := monitor }

/-- The boundary `emit_data` emits, from the controller behind it. -/
def boundaryAt (sampleIndex : Nat) (s : Server) : Boundary where
  sampleIndex := sampleIndex
  timestamp := s.wallClock.timestampForSample sampleIndex
  forceDegradedTime := s.timeHealthState.isDegraded
  plans := s.endpoints.map fun e =>
    s.scenarioController.map fun c => c.framePlan e.descriptor.streamId

/-- The two passes of `emit_data` over the endpoints. -/
def emitBoundary (boundary : Boundary) (answers : Nat → Slot → Answers) (s : Server) :
    ServerAttempt Unit :=
  (s.eachEndpoint fun i => disconnectAllPlanned registry (boundary.plan i)).andThen fun _ s =>
    s.eachEndpoint fun i =>
      emitEndpoint registry s.seed boundary (boundary.plan i) (answers i)

/-- `emit_data`. -/
def emitData (sampleIndex : Nat) (answers : BoundaryAnswers) (s : Server) : ServerAttempt Unit :=
  let s := s.observeTime answers
  match advanceController sampleIndex s.scenarioController with
  | .error failure => .failed failure s
  | .ok scenarioController =>
    let s := { s with scenarioController }
    (Attempt.note (.boundary (s.boundaryAt sampleIndex)) s).andThen fun _ s =>
      s.emitBoundary registry (s.boundaryAt sampleIndex) answers.answers

/-- The end of an iteration of `run_until`: a boundary that is due is emitted. -/
def takeBoundary (answers : BoundaryAnswers) (s : Server) : ServerAttempt Unit :=
  match s.scheduler.takeDue answers.now with
  | (none, _) => .done () s
  | (some (sampleIndex, skipped), scheduler) =>
    (Attempt.note (.counter .skippedTicks skipped) { s with scheduler }).andThen fun _ s =>
      s.emitData registry sampleIndex answers

/-! ### The loop -/

/-- Handle one input. -/
def handle (s : Server) : Input → ServerAttempt Unit
  | .event event => s.dispatchEvent registry codec event
  | .expire now => s.expireConnections registry now
  | .boundary answers => s.takeBoundary registry answers

end Server

/-- `run_until` at the top of its loop: the server, and the failure that ended it if one has. -/
structure EventLoop where
  server : Server
  ended : Option Failure

/-- The failure in a result. -/
def failureOf {α : Type} : Except Failure α → Option Failure
  | .ok _ => none
  | .error failure => some failure

namespace EventLoop

/-- One input: what is counted is in the log. -/
def step (l : EventLoop) (input : Input) : Except Failure (List Report × EventLoop) :=
  match l.ended with
  | some failure => .error failure
  | none =>
    let handled := l.server.handle registry codec input
    .ok (handled.log,
      { server := { handled.state with
          stats := handled.log.foldl ServerStats.count handled.state.stats }
        ended := failureOf handled.result })

end EventLoop

/-- The event loop over any order of inputs. -/
def eventLoop : Machine EventLoop Input (List Report) Failure := ⟨EventLoop.step registry codec⟩

end Registered

/-- The loop at its start: the server was bound, and nothing has happened. -/
def Started (l : EventLoop) : Prop := l.ended = none ∧ ∃ input, bindInner input = .ok l.server

/-! ### A fleet of one endpoint -/

/-- An endpoint with nothing but what its wire version needs. -/
def soleEndpoint (wireVersion : WireVersion) : EndpointDescriptor where
  index := 0
  port := 4712
  streamId := 7
  pmuId := 7
  protocolVersion := wireVersion.protocolVersion
  wireVersion := wireVersion
  v2 := some ⟨[], [], [], true⟩
  pdcName := []
  pmuName := []
  globalPmuId := []
  channelNames := []
  timeBase := 1000000
  dataRateHz := 50
  nominalFrequencyHz := 50
  voltageMagnitude := 0
  voltageVariation := 0
  voltageClass := 0
  voltageScale := 0
  currentMagnitude := 0
  currentVariation := 0
  currentScale := 0
  frequencyDeviation := ⟨0, 0⟩
  rocof := ⟨0, 0⟩

def soleInput (wireVersion : WireVersion) (catalog : Option ScenarioCatalog) : BindInput where
  profile := ⟨1, ⟨64⟩, [soleEndpoint wireVersion]⟩
  catalog := catalog
  timeSynchronizationSource := .alwaysVerified
  managed := false
  wallClock := 0
  now := 0
  consoleProcessIdentity := ""

/-- A registry that takes everything. -/
def takingRegistry : Registry := ⟨fun _ _ => .ok (), fun _ _ => .ok (), fun _ => .ok ()⟩

def silentCodec : ManagementCodec := ⟨fun _ => .incomplete, fun _ => []⟩

/-- Answers at the start of all clocks. -/
def soleAnswers (reads : List ReadAnswer) (write : WriteAnswer) : Answers :=
  ⟨reads, write, fun _ => 0, fun _ => 0, 0⟩

/-- The listener is given one stream. -/
def acceptOne : Input :=
  .event ⟨0, true, false, [.connected (.ok ()) 0], soleAnswers [] (.failed .wouldBlock)⟩

/-- The bytes of a command for the endpoint. -/
def soleCommand (command : WireV2.Command) : List UInt8 :=
  match WireV2.encodeCommand 7 command ⟨0, 0⟩ with
  | .ok bytes => bytes
  | .error _ => []

/-- A connection is given bytes to read. -/
def bytesArrive (token : Nat) (bytes : List UInt8) : Input :=
  .event ⟨token, true, false, [], soleAnswers [.data bytes] (.failed .wouldBlock)⟩

/-- The scheduler is looked at, and writes are answered alike. -/
def boundaryAnswered (now : Instant) (write : WriteAnswer) : Input :=
  .boundary ⟨now, 0, none, fun _ _ => soleAnswers [] write⟩

/-- The peer of a connection ends its stream. -/
def endOfStream (token : Nat) : Input :=
  .event ⟨token, true, false, [], soleAnswers [.data []] (.failed .wouldBlock)⟩

/-- The connection in a slot of the one endpoint. -/
def EventLoop.soleConnection (l : EventLoop) (slot : Slot) : Option Connection :=
  l.server.endpoints[0]?.bind fun e => e.connections slot

/-- Take the inputs one after the other, and keep what is logged. -/
def EventLoop.play : List Input → EventLoop → Except Failure (List Report × EventLoop)
  | [], l => .ok ([], l)
  | input :: inputs, l =>
    match (eventLoop takingRegistry silentCodec).step l input with
    | .error failure => .error failure
    | .ok (log, l') =>
      match play inputs l' with
      | .error failure => .error failure
      | .ok (log', l'') => .ok (log ++ log', l'')

/-- The inputs are taken, and what they log and end in passes the check. -/
def EventLoop.passes (inputs : List Input) (check : List Report → EventLoop → Bool)
    (l : EventLoop) : Bool :=
  match l.play inputs with
  | .error _ => false
  | .ok (log, l') => check log l'

def soleRun (wireVersion : WireVersion) (catalog : Option ScenarioCatalog) (inputs : List Input)
    (check : List Report → EventLoop → Bool) : Bool :=
  match bindInner (soleInput wireVersion catalog) with
  | .error _ => false
  | .ok server => EventLoop.passes inputs check ⟨server, none⟩

lemma run_of_play {inputs : List Input} {log : List Report} {l l' : EventLoop}
    (h : l.play inputs = .ok (log, l')) :
    ∃ steps, steps.map Machine.Taken.input = inputs ∧ steps.flatMap Machine.Taken.output = log ∧
      (eventLoop takingRegistry silentCodec).Run l steps l' := by
  induction inputs generalizing l log with
  | nil =>
    obtain ⟨rfl, rfl⟩ := Prod.mk.inj (Except.ok.inj h)
    exact ⟨[], rfl, rfl, .nil⟩
  | cons input inputs ih =>
    unfold EventLoop.play at h
    cases hs : (eventLoop takingRegistry silentCodec).step l input with
    | error failure => simp [hs] at h
    | ok taken =>
      obtain ⟨log₁, r⟩ := taken
      simp only [hs] at h
      cases hrest : r.play inputs with
      | error failure => simp [hrest] at h
      | ok played =>
        obtain ⟨log₂, r'⟩ := played
        simp only [hrest] at h
        obtain ⟨rfl, rfl⟩ := Prod.mk.inj (Except.ok.inj h)
        obtain ⟨steps, rfl, rfl, run⟩ := ih hrest
        exact ⟨⟨l, input, log₁, r⟩ :: steps, rfl, rfl, .cons hs run⟩

lemma run_of_passes {inputs : List Input} {check : List Report → EventLoop → Bool} {l : EventLoop}
    (h : l.passes inputs check = true) :
    ∃ steps l', steps.map Machine.Taken.input = inputs ∧
      (eventLoop takingRegistry silentCodec).Run l steps l' ∧
      check (steps.flatMap Machine.Taken.output) l' = true := by
  unfold EventLoop.passes at h
  cases hplay : l.play inputs with
  | error failure => simp [hplay] at h
  | ok played =>
    obtain ⟨log, l'⟩ := played
    simp only [hplay] at h
    obtain ⟨steps, hinputs, rfl, run⟩ := run_of_play hplay
    exact ⟨steps, l', hinputs, run, h⟩

lemma run_of_soleRun {wireVersion : WireVersion} {catalog : Option ScenarioCatalog}
    {inputs : List Input} {check : List Report → EventLoop → Bool}
    (h : soleRun wireVersion catalog inputs check = true) :
    ∃ server steps l, bindInner (soleInput wireVersion catalog) = .ok server ∧
      steps.map Machine.Taken.input = inputs ∧
      (eventLoop takingRegistry silentCodec).Run ⟨server, none⟩ steps l ∧
      check (steps.flatMap Machine.Taken.output) l = true := by
  unfold soleRun at h
  cases hbind : bindInner (soleInput wireVersion catalog) with
  | error failure => simp [hbind] at h
  | ok server =>
    simp only [hbind] at h
    obtain ⟨steps, l, hinputs, run, hcheck⟩ := run_of_passes h
    exact ⟨server, steps, l, rfl, hinputs, run, hcheck⟩

/-! ### Steps of a fleet of one endpoint -/

abbrev Steps := List (Machine.Taken EventLoop Input (List Report))

/-- Take the inputs one after the other, and keep the steps. -/
def EventLoop.trace : List Input → EventLoop → Except Failure (Steps × EventLoop)
  | [], l => .ok ([], l)
  | input :: inputs, l =>
    match (eventLoop takingRegistry silentCodec).step l input with
    | .error failure => .error failure
    | .ok (log, l') =>
      match trace inputs l' with
      | .error failure => .error failure
      | .ok (steps, l'') => .ok (⟨l, input, log, l'⟩ :: steps, l'')

/-- The inputs are taken from the start, and the steps pass the check. -/
def soleTrace (wireVersion : WireVersion) (catalog : Option ScenarioCatalog) (inputs : List Input)
    (check : Steps → EventLoop → Bool) : Bool :=
  match bindInner (soleInput wireVersion catalog) with
  | .error _ => false
  | .ok server =>
    match EventLoop.trace inputs ⟨server, none⟩ with
    | .error _ => false
    | .ok (steps, l) => check steps l

lemma run_of_trace {inputs : List Input} {steps : Steps} {l l' : EventLoop}
    (h : l.trace inputs = .ok (steps, l')) :
    steps.map Machine.Taken.input = inputs ∧
      (eventLoop takingRegistry silentCodec).Run l steps l' := by
  induction inputs generalizing l steps with
  | nil =>
    obtain ⟨rfl, rfl⟩ := Prod.mk.inj (Except.ok.inj h)
    exact ⟨rfl, .nil⟩
  | cons input inputs ih =>
    unfold EventLoop.trace at h
    cases hs : (eventLoop takingRegistry silentCodec).step l input with
    | error failure => simp [hs] at h
    | ok taken =>
      obtain ⟨log, r⟩ := taken
      simp only [hs] at h
      cases hrest : r.trace inputs with
      | error failure => simp [hrest] at h
      | ok traced =>
        obtain ⟨steps', r'⟩ := traced
        simp only [hrest] at h
        obtain ⟨rfl, rfl⟩ := Prod.mk.inj (Except.ok.inj h)
        obtain ⟨rfl, run⟩ := ih hrest
        exact ⟨rfl, .cons hs run⟩

lemma bound_of_soleTrace {wireVersion : WireVersion} {catalog : Option ScenarioCatalog}
    {inputs : List Input} {check : Steps → EventLoop → Bool}
    (h : soleTrace wireVersion catalog inputs check = true) :
    ∃ server steps l, bindInner (soleInput wireVersion catalog) = .ok server ∧
      steps.map Machine.Taken.input = inputs ∧
      (eventLoop takingRegistry silentCodec).Run ⟨server, none⟩ steps l ∧ check steps l = true := by
  unfold soleTrace at h
  cases hbind : bindInner (soleInput wireVersion catalog) with
  | error failure => simp [hbind] at h
  | ok server =>
    simp only [hbind] at h
    cases htrace : EventLoop.trace inputs ⟨server, none⟩ with
    | error failure => simp [htrace] at h
    | ok traced =>
      obtain ⟨steps, l⟩ := traced
      simp only [htrace] at h
      obtain ⟨hinputs, run⟩ := run_of_trace htrace
      exact ⟨server, steps, l, rfl, hinputs, run, h⟩

lemma run_of_soleTrace {wireVersion : WireVersion} {catalog : Option ScenarioCatalog}
    {inputs : List Input} {check : Steps → EventLoop → Bool}
    (h : soleTrace wireVersion catalog inputs check = true) :
    ∃ l₀ steps l, Started l₀ ∧ steps.map Machine.Taken.input = inputs ∧
      (eventLoop takingRegistry silentCodec).Run l₀ steps l ∧ check steps l = true := by
  obtain ⟨server, steps, l, hbind, hinputs, run, hcheck⟩ := bound_of_soleTrace h
  exact ⟨⟨server, none⟩, steps, l, ⟨rfl, _, hbind⟩, hinputs, run, hcheck⟩

end PmuSimulator

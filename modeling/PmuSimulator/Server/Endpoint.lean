import Mathlib
import PmuSimulator.Management.Request
import PmuSimulator.Server.Connection
import PmuSimulator.Server.EventTarget

/-!
# One endpoint

Two slots for connections, and one buffer for the data frame of the current tick that both of them
are sent from. An endpoint accepts connections, serves events on them, closes them, and emits data.
-/

namespace PmuSimulator

/-- What the scenario controller and the clocks make of a reporting boundary. -/
structure Boundary where
  sampleIndex : Nat
  timestamp : Timestamp
  forceDegradedTime : Bool
  plans : List (Option FramePlan)

/-- The plan of an endpoint. -/
def Boundary.plan (boundary : Boundary) (i : Nat) : Option FramePlan := (boundary.plans[i]?).join

/-- One of the `PDC_SLOTS_PER_ENDPOINT` slots. -/
abbrev Slot := Fin 2

instance neZeroSlots : NeZero 2 := ⟨Nat.succ_ne_zero 1⟩

def slots : List Slot := [0, 1]

structure Endpoint extends EndpointContext where
  dataFrame : DataFrame
  connections : Slot → Option Connection

/-- An attempt on a slot. What is logged is of the connection in it. -/
abbrev SlotAttempt (α : Type) := Attempt Failure (Option Connection) (Nat × Activity) α

/-- An attempt on one endpoint. -/
abbrev EndpointAttempt (α : Type) := Attempt Failure Endpoint (Slot × Nat × Activity) α

namespace Endpoint

def setSlot (e : Endpoint) (slot : Slot) (connection : Option Connection) : Endpoint :=
  { e with connections := Function.update e.connections slot connection }

@[simp] lemma setSlot_context (e : Endpoint) (slot : Slot) (connection : Option Connection) :
    (e.setSlot slot connection).toEndpointContext = e.toEndpointContext := rfl

@[simp] lemma setSlot_dataFrame (e : Endpoint) (slot : Slot) (connection : Option Connection) :
    (e.setSlot slot connection).dataFrame = e.dataFrame := rfl

@[simp] lemma setSlot_same (e : Endpoint) (slot : Slot) (connection : Option Connection) :
    (e.setSlot slot connection).connections slot = connection := by
  simp [setSlot]

lemma setSlot_other (e : Endpoint) {slot slot' : Slot} (connection : Option Connection)
    (h : slot' ≠ slot) : (e.setSlot slot connection).connections slot' = e.connections slot' := by
  simp [setSlot, h]

/-- Whether a slot holds the connection of an identifier. -/
def holds (e : Endpoint) (slot : Slot) (connectionId : Nat) : Bool :=
  (e.connections slot).any fun c => c.connectionId = connectionId

/-- `connections.iter().position(Option::is_none)`. -/
def freeSlot (e : Endpoint) : Option Slot := slots.find? fun slot => (e.connections slot).isNone

def anyStreaming (e : Endpoint) : Bool :=
  slots.any fun slot => (e.connections slot).any Connection.streaming

/-- An attempt on one slot of an endpoint: the other slot is out of its reach. -/
def onSlot {α : Type} (slot : Slot) (attempt : Option Connection → SlotAttempt α) (e : Endpoint) :
    EndpointAttempt α :=
  (attempt (e.connections slot)).lift (e.setSlot slot) (slot, ·)

end Endpoint

section Registered

variable (registry : Registry)

/-! ### Slots -/

/-- An attempt on the connection of a slot; there is nothing to do where the slot is empty. -/
def onConnection (attempt : Connection → ConnectionAttempt Bool) :
    Option Connection → SlotAttempt Bool
  | none => .done true none
  | some c => (attempt c).lift some (c.connectionId, ·)

/-- `close_connection`. -/
def closeConnection (connectionId : Nat) : Option Connection → SlotAttempt Unit
  | none => .done () none
  | some c =>
    if c.connectionId ≠ connectionId then .done () (some c)
    else
      match registry.deregister c.token with
      | .error kind => .failed (ioFailure kind) none
      | .ok () => .note (connectionId, .counted .closedClients) none

/-- Close a connection that is not to be kept open. -/
def keepOrClose (connectionId : Nat) (keep : Bool) (slot : Option Connection) :
    SlotAttempt Unit :=
  if keep then .done () slot else closeConnection registry connectionId slot

/-- The connection arm of `dispatch_events`. -/
def dispatchConnection (context : EndpointContext) (dataFrame : DataFrame) (connectionId : Nat)
    (readable writable : Bool) (answers : Answers) (slot : Option Connection) : SlotAttempt Unit :=
  if slot.any fun c => c.connectionId = connectionId then
    (onConnection (serveConnection registry context dataFrame readable writable answers)
      slot).andThen (keepOrClose registry connectionId)
  else .done () slot

/-- The turn of `expire_connections` on a slot. -/
def expireConnection (now : Instant) : Option Connection → SlotAttempt Unit
  | none => .done () none
  | some c =>
    if c.deadlineExpired now then closeConnection registry c.connectionId (some c)
    else .done () (some c)

/-- The slow check of `emit_data`: a streaming connection that has a frame left to send is closed. -/
def dropSlow : Option Connection → SlotAttempt Unit
  | none => .done () none
  | some c =>
    if !c.streaming then .done () (some c)
    else if c.pending.isPending then
      (Attempt.note (c.connectionId, .counted .slowClients) (some c)).andThen fun _ slot =>
        closeConnection registry c.connectionId slot
    else .done () (some c)

/-- The sending loop of `emit_data`: the encoded frame is handed to a streaming connection. -/
def sendTick (context : EndpointContext) (dataFrame : DataFrame) (tick : Tick) (answers : Answers) :
    Option Connection → SlotAttempt Unit
  | none => .done () none
  | some c =>
    if !c.streaming then .done () (some c)
    else
      (onConnection (sendDataFrame registry context dataFrame tick answers) (some c)).andThen
        (keepOrClose registry c.connectionId)

/-! ### Accepting -/

/-- An accept: a stream, with whether its options could be set and when the connection was made, or
an error. -/
inductive AcceptAnswer where
  | connected (configured : Except ErrorKind Unit) (acceptedAt : Instant)
  | failed (kind : ErrorKind)

/-- What an accept loop does: it calls `accept`, and it counts a client. -/
inductive AcceptActivity where
  | called (answer : AcceptAnswer)
  | counted (counter : Counter)

/-- `configure_stream`, from its socket options on. -/
def configureStream (configured : Except ErrorKind Unit) (token : Nat) : Except ErrorKind Unit :=
  match configured with
  | .error kind => .error kind
  | .ok () => registry.register token .readable

/-- One stream `accept_connections` was given. -/
def admitConnection (endpointCount endpointIndex : Nat) (configured : Except ErrorKind Unit)
    (acceptedAt : Instant) (s : Endpoint × Nat) :
    Attempt Failure (Endpoint × Nat) AcceptActivity Unit :=
  match s.1.freeSlot with
  | none => .note (.counted .rejectedClients) s
  | some slot =>
    match checkedAdd s.2 1 with
    | none => .note (.counted .rejectedClients) s
    | some nextId =>
      match connectionToken endpointCount endpointIndex slot s.2 with
      | .error _ => .note (.counted .rejectedClients) s
      | .ok token =>
        match configureStream registry configured token with
        | .error _ => .note (.counted .rejectedClients) s
        | .ok () =>
          .note (.counted .acceptedClients)
            (s.1.setSlot slot (some (.new s.2 token s.1.limits.commandFrameBytes
              s.1.descriptor.wireVersion acceptedAt)), nextId)

/-- `accept_connections`. Behind the last answer a call would block. -/
def acceptConnections (endpointCount endpointIndex : Nat) :
    List AcceptAnswer → Endpoint × Nat → Attempt Failure (Endpoint × Nat) AcceptActivity Unit
  | [], s => .note (.called (.failed .wouldBlock)) s
  | .failed .wouldBlock :: _, s => .note (.called (.failed .wouldBlock)) s
  | .failed kind :: _, s => ⟨.error (ioFailure kind), s, [.called (.failed kind)]⟩
  | .connected configured acceptedAt :: answers, s =>
    (Attempt.note (.called (.connected configured acceptedAt)) s).andThen fun _ s =>
      (admitConnection registry endpointCount endpointIndex configured acceptedAt s).andThen
        fun _ s => acceptConnections endpointCount endpointIndex answers s

/-! ### Emitting data -/

/-- The first pass of `emit_data`, for one identifier of a frame plan. -/
def disconnectPlanned (connectionId : Nat) (e : Endpoint) : EndpointAttempt Unit :=
  match slots.find? fun slot => e.holds slot connectionId with
  | none => .done () e
  | some slot => e.onSlot slot (closeConnection registry connectionId)

def disconnectAllPlanned (plan : Option FramePlan) (e : Endpoint) : EndpointAttempt Unit :=
  match plan with
  | none => .done () e
  | some plan => Attempt.each (disconnectPlanned registry) plan.disconnectPdcConnectionIds e

/-- What a frame plan leaves of a boundary, for its endpoint. -/
def Boundary.tick (boundary : Boundary) (plan : Option FramePlan) : Tick where
  sampleIndex := boundary.sampleIndex
  timestamp := boundary.timestamp
  degradedTime := boundary.forceDegradedTime || plan.any FramePlan.degradedTime
  signal := plan.bind FramePlan.signal

/-- The data frame of a tick, in the storage of the wire version. -/
def encodeDataFrame (context : EndpointContext) (seed : UInt64) (tick : Tick)
    (storage : DataFrame) : Except Failure DataFrame :=
  match context.descriptor.wireVersion, storage with
  | .v2, .v2 _ =>
    match WireV2.encodePeriodicDataWithScenario context.descriptor seed tick.sampleIndex
      tick.timestamp tick.degradedTime tick.signal with
    | .error e => .error e
    | .ok frame => .ok (.v2 frame)
  | .v3, .v3 _ =>
    .ok (.v3 (WireV3.encodePeriodicDataWithScenario context.descriptor seed tick.sampleIndex
      tick.timestamp tick.degradedTime tick.signal))
  | _, _ => .error (.server (.message "endpoint frame storage does not match its wire version"))

/-- The part of the second pass of `emit_data` behind the slow connections. -/
def emitTick (seed : UInt64) (tick : Tick) (omitData : Bool) (answers : Slot → Answers)
    (e : Endpoint) : EndpointAttempt Unit :=
  if !e.anyStreaming then .done () e
  else if omitData then .done () e
  else
    match encodeDataFrame e.toEndpointContext seed tick e.dataFrame with
    | .error failure => .failed failure e
    | .ok dataFrame =>
      Attempt.each (fun slot e => e.onSlot slot
        (sendTick registry e.toEndpointContext e.dataFrame tick (answers slot)))
        slots { e with dataFrame }

/-- The second pass of `emit_data`, for one endpoint. -/
def emitEndpoint (seed : UInt64) (boundary : Boundary) (plan : Option FramePlan)
    (answers : Slot → Answers) (e : Endpoint) : EndpointAttempt Unit :=
  (Attempt.each (fun slot e => e.onSlot slot (dropSlow registry)) slots e).andThen fun _ e =>
    emitTick registry seed (boundary.tick plan) (plan.any FramePlan.omitData) answers e

end Registered

/-! ### The log of the server -/

inductive Report where
  /-- Something happened on the connection of an endpoint's slot. -/
  | connection (endpointIndex : Nat) (slot : Slot) (connectionId : Nat) (activity : Activity)
  /-- A call of `accept`, for an endpoint or for the management. -/
  | accept (endpointIndex : Option Nat) (answer : AcceptAnswer)
  | counter (counter : Counter) (amount : Nat)
  | boundary (boundary : Boundary)
  | answered (connectionId : Nat) (response : ManagementResponse)

/-- What a listener's accept loop logs of the server. -/
def AcceptActivity.report (endpointIndex : Option Nat) : AcceptActivity → Report
  | called answer => .accept endpointIndex answer
  | counted counter => .counter counter 1

end PmuSimulator

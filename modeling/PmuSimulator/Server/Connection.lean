import Mathlib
import PmuSimulator.Foundation.Attempt
import PmuSimulator.Server.Clock
import PmuSimulator.Server.ReceiveBuffer

/-!
# One PDC connection

Reading commands, handling them, and writing frames. Everything the operating system answers is an
argument: what reads and writes give, what the clocks read, whether the registry takes a
registration. What a function does is logged as it goes.
-/

namespace PmuSimulator

/-! ### What the operating system answers -/

inductive Interest where
  | readable
  | writable
  | readableWritable
  deriving DecidableEq, Repr

/-- The calls on the poll registry, by token. -/
structure Registry where
  register : Nat → Interest → Except ErrorKind Unit
  reregister : Nat → Interest → Except ErrorKind Unit
  deregister : Nat → Except ErrorKind Unit

/-- A read: bytes, of which none mean the end of the stream, or an error. -/
inductive ReadAnswer where
  | data (bytes : List UInt8)
  | failed (kind : ErrorKind)
  deriving DecidableEq, Repr

/-- A write: how many bytes are taken at most, or an error. -/
inductive WriteAnswer where
  | accepts (count : Nat)
  | failed (kind : ErrorKind)
  deriving DecidableEq, Repr

/-- The answers while one connection is served: its reads up to the first that would block, its
write, the monotonic clock at each command handled after either, and the wall clock. -/
structure Answers where
  reads : List ReadAnswer
  write : WriteAnswer
  readClock : Nat → Instant
  writeClock : Nat → Instant
  wallClock : SystemTime

/-! ### Frames -/

inductive EndpointFrames where
  | v2 (header configuration1 configuration2 : List UInt8)
  | v3 (capability streamConfiguration : List UInt8)
  deriving DecidableEq, Repr

inductive DataFrame where
  | v2 (frame : List UInt8)
  | v3 (frame : List UInt8)
  deriving DecidableEq, Repr

def DataFrame.bytes : DataFrame → List UInt8
  | v2 frame => frame
  | v3 frame => frame

/-- What an endpoint keeps from its bind on. -/
structure EndpointContext where
  descriptor : EndpointDescriptor
  limits : Limits
  frames : EndpointFrames

inductive PendingFrame where
  | none
  | v2Header (offset : Nat)
  | v2Configuration1 (offset : Nat)
  | v2Configuration2 (offset : Nat)
  | v3Capability (offset : Nat)
  | v3StreamConfiguration (offset : Nat)
  | error (offset : Nat)
  | data (offset : Nat)
  deriving DecidableEq, Repr

namespace PendingFrame

def isPending : PendingFrame → Bool
  | none => false
  | _ => true

def isData : PendingFrame → Bool
  | data _ => true
  | _ => false

def withOffset (pending : PendingFrame) (offset : Nat) : PendingFrame :=
  match pending with
  | none => none
  | v2Header _ => v2Header offset
  | v2Configuration1 _ => v2Configuration1 offset
  | v2Configuration2 _ => v2Configuration2 offset
  | v3Capability _ => v3Capability offset
  | v3StreamConfiguration _ => v3StreamConfiguration offset
  | error _ => error offset
  | data _ => data offset

def offset : PendingFrame → Nat
  | none => 0
  | v2Header offset => offset
  | v2Configuration1 offset => offset
  | v2Configuration2 offset => offset
  | v3Capability offset => offset
  | v3StreamConfiguration offset => offset
  | error offset => offset
  | data offset => offset

end PendingFrame

/-- One data frame: the tick it is for, and what the tick makes of it. -/
structure Tick where
  sampleIndex : Nat
  timestamp : Timestamp
  degradedTime : Bool
  signal : Option SignalExcursion

/-- A frame a connection is given to send. -/
inductive QueuedFrame where
  | information (command : ServerCommand)
  | data (tick : Tick)
  | errorResponse (streamId : UInt16) (code : WireV3.ErrorResponseCode) (timestamp : Timestamp)

/-! ### The log -/

/-- The counters of `ServerStats`. -/
inductive Counter where
  | acceptedClients
  | closedClients
  | rejectedClients
  | malformedCommands
  | unsupportedCommands
  | slowClients
  | sentDataFrames
  | skippedTicks
  deriving DecidableEq, Repr

/-- What happens on a connection. -/
inductive Activity where
  /-- A readable event is served: what the reads answered. -/
  | read (answered : List ReadAnswer)
  /-- A command of this stream is taken. -/
  | accepted (command : ServerCommand)
  | queued (frame : QueuedFrame)
  /-- A writable event is served. -/
  | writable
  /-- A write is tried: the bytes taken, and whether the frame is complete. -/
  | wrote (bytes : List UInt8) (completed : Bool)
  | registered (interest : Interest)
  | counted (counter : Counter)

/-! ### The connection -/

structure Connection where
  connectionId : Nat
  token : Nat
  receive : ReceiveBuffer
  pending : PendingFrame
  errorFrame : Option (List UInt8)
  streaming : Bool
  acceptedAt : Instant
  firstValidCommandAt : Option Instant
  lastValidCommandAt : Instant
  closeAfterFlush : Bool

/-- `FIRST_VALID_COMMAND_DEADLINE`: fifteen seconds. -/
def firstValidCommandDeadline : Duration := 15 * nanosPerSecond

/-- `IDLE_NON_STREAMING_DEADLINE`: five minutes. -/
def idleNonStreamingDeadline : Duration := 5 * 60 * nanosPerSecond

def errorResponseFrameBytes : Nat := 20

/-- An attempt on one connection. -/
abbrev ConnectionAttempt (α : Type) := Attempt Failure Connection Activity α

namespace Connection

def new (connectionId token commandLimit : Nat) (wireVersion : WireVersion)
    (acceptedAt : Instant) : Connection where
  connectionId := connectionId
  token := token
  receive := .new commandLimit
  pending := .none
  errorFrame := if wireVersion = .v3 then some (List.replicate errorResponseFrameBytes 0) else none
  streaming := false
  acceptedAt := acceptedAt
  firstValidCommandAt := none
  lastValidCommandAt := acceptedAt
  closeAfterFlush := false

def recordValidCommand (c : Connection) (now : Instant) : Connection :=
  { c with
    firstValidCommandAt := some (c.firstValidCommandAt.getD now)
    lastValidCommandAt := now }

def deadlineExpired (c : Connection) (now : Instant) : Bool :=
  if c.firstValidCommandAt.isNone then now - c.acceptedAt ≥ firstValidCommandDeadline
  else !c.streaming && now - c.lastValidCommandAt ≥ idleNonStreamingDeadline

end Connection

inductive ReadResult where
  | open
  | closed
  | closedWithBufferedData
  deriving DecidableEq, Repr

/-- What `read_from` comes back with: its result, the buffer, and what the reads answered. -/
structure ReadOutcome where
  result : Except ErrorKind ReadResult
  buffer : ReceiveBuffer
  answered : List ReadAnswer

/-- The outcome of a loop that made more reads before. -/
def ReadOutcome.behind (outcome : ReadOutcome) (answers : List ReadAnswer) : ReadOutcome :=
  { outcome with answered := answers ++ outcome.answered }

/-- `read_from`: read until the buffer is full, or there is nothing to read for now or for ever.
Behind the last answer a read would block. -/
def ReceiveBuffer.readFrom (buffer : ReceiveBuffer) (answers : List ReadAnswer) : ReadOutcome :=
  if buffer.bytes.length = buffer.limit then ⟨.ok .open, buffer, []⟩
  else
    match answers with
    | [] => ⟨.ok .open, buffer, [.failed .wouldBlock]⟩
    | .data [] :: _ =>
      ⟨.ok (if buffer.bytes.length = 0 then .closed else .closedWithBufferedData), buffer,
        [.data []]⟩
    | .data (b :: bytes) :: answers =>
      ((buffer.extend (b :: bytes)).readFrom answers).behind [.data (b :: bytes)]
    | .failed .wouldBlock :: _ => ⟨.ok .open, buffer, [.failed .wouldBlock]⟩
    | .failed kind :: _ => ⟨.error kind, buffer, [.failed kind]⟩

/-- `?` on an I/O result. -/
def ioFailure (kind : ErrorKind) : Failure := .server (.io kind)

section Registered

variable (registry : Registry)

/-- `reregister_connection`. -/
def reregisterConnection (writable : Bool) (c : Connection) : ConnectionAttempt Unit :=
  let interest := if writable then Interest.readableWritable else Interest.readable
  match registry.reregister c.token interest with
  | .error kind => .failed (ioFailure kind) c
  | .ok () => ⟨.ok (), c, [.registered interest]⟩

variable (context : EndpointContext)

/-- `queue_error_response`. -/
def queueErrorResponse (wallClock : SystemTime) (streamId : UInt16)
    (code : WireV3.ErrorResponseCode) (c : Connection) : ConnectionAttempt Unit :=
  match responseTimestamp context.descriptor.timeBase wallClock with
  | .error e => .failed e c
  | .ok timestamp =>
    match c.errorFrame with
    | none => .failed (.panic "V3 error responses require a V3 connection") c
    | some _ =>
      (Attempt.note (.queued (.errorResponse streamId code timestamp))
        { c with
          errorFrame := some (WireV3.encodeErrorResponse streamId code timestamp)
          pending := .error 0
          streaming := false
          closeAfterFlush := true }).andThen fun _ c =>
        reregisterConnection registry true c

/-- What the three arms of `process_buffered_commands` do with a command they refuse: a V3
connection is kept open for an error response. -/
def refuseCommand (wallClock : SystemTime) (wireVersion : WireVersion) (counter : Counter)
    (streamId : UInt16) (code : WireV3.ErrorResponseCode) (c : Connection) :
    ConnectionAttempt Bool :=
  (Attempt.note (.counted counter) c).andThen fun _ c =>
    if wireVersion = .v3 then
      (queueErrorResponse registry context wallClock streamId code c).andThen fun _ c =>
        .done true c
    else
      .done false c

/-- The pending frame an information command asks for, by the wire version of the endpoint. -/
def informationPending : WireVersion → ServerCommand → Option PendingFrame
  | .v2, .v2Header => some (.v2Header 0)
  | .v2, .v2Configuration1 => some (.v2Configuration1 0)
  | .v2, .v2Configuration2 => some (.v2Configuration2 0)
  | .v3, .v3Capability => some (.v3Capability 0)
  | .v3, .v3StreamConfiguration => some (.v3StreamConfiguration 0)
  | _, _ => none

/-- The end of `handle_command`: the interest follows the pending frame. -/
def settleCommand (c : Connection) : ConnectionAttempt Bool :=
  (reregisterConnection registry c.pending.isPending c).andThen fun _ c => .done true c

/-- The other arms of `handle_command`: a frame is queued, or the command is not for this version. -/
def queueInformation (command : ServerCommand) (c : Connection) : ConnectionAttempt Bool :=
  match informationPending context.descriptor.wireVersion command with
  | some pending =>
    (Attempt.note (.queued (.information command)) { c with pending }).andThen fun _ c =>
      settleCommand registry c
  | none => ⟨.ok false, c, [.counted .unsupportedCommands]⟩

/-- `handle_command`. -/
def handleCommand (command : ServerCommand) (c : Connection) : ConnectionAttempt Bool :=
  if c.pending.isPending then ⟨.ok false, c, [.counted .slowClients]⟩
  else
    match command with
    | .stop => settleCommand registry { c with streaming := false }
    | .start => settleCommand registry { c with streaming := true }
    | command => queueInformation registry context command c

lemma reregisterConnection_state (writable : Bool) (c : Connection) :
    (reregisterConnection registry writable c).state = c := by
  simp only [reregisterConnection]
  split <;> rfl

lemma settleCommand_state (c : Connection) : (settleCommand registry c).state = c :=
  (Attempt.andThen_state fun _ _ => rfl).trans (reregisterConnection_state registry _ c)

lemma queueInformation_receive (command : ServerCommand) (c : Connection) :
    (queueInformation registry context command c).state.receive = c.receive := by
  unfold queueInformation
  cases informationPending context.descriptor.wireVersion command with
  | none => rfl
  | some pending =>
    simp only
    rw [Attempt.andThen_state fun _ => settleCommand_state registry]
    rfl

/-- Handling a command leaves the receive buffer alone. -/
lemma handleCommand_receive (command : ServerCommand) (c : Connection) :
    (handleCommand registry context command c).state.receive = c.receive := by
  unfold handleCommand
  by_cases hp : c.pending.isPending
  · rw [if_pos hp]
  rw [if_neg hp]
  cases command <;> simp only [settleCommand_state, queueInformation_receive]

/-- `process_buffered_commands`: handle buffered commands until one leaves a frame to be sent.
`clock` gives the readings of the monotonic clock, one for each valid command. -/
def processBufferedCommands (wallClock : SystemTime) (clock : Nat → Instant) (c : Connection) :
    ConnectionAttempt Bool :=
  if c.pending.isPending || c.closeAfterFlush then .done true c
  else
    match _next : c.receive.nextCommand context.descriptor.wireVersion with
    | .error malformed =>
      refuseCommand registry context wallClock context.descriptor.wireVersion .malformedCommands
        (malformed.idcode.getD context.descriptor.streamId) .rejectedCommand c
    | .ok none => .done true c
    | .ok (some (.rejected idcode wireVersion, receive)) =>
      refuseCommand registry context wallClock wireVersion .unsupportedCommands idcode
        .rejectedCommand { c with receive }
    | .ok (some (.accepted request, receive)) =>
      if request.idcode ≠ context.descriptor.streamId then
        refuseCommand registry context wallClock context.descriptor.wireVersion
          .malformedCommands request.idcode .wrongStreamOrPmu { c with receive }
      else
        let taken := ({ c with receive } : Connection).recordValidCommand (clock 0)
        let handled := handleCommand registry context request.command taken
        match handled.result with
        | .error e => ⟨.error e, handled.state, .accepted request.command :: handled.log⟩
        | .ok false => ⟨.ok false, handled.state, .accepted request.command :: handled.log⟩
        | .ok true =>
          let rest := processBufferedCommands wallClock (fun i => clock (i + 1)) handled.state
          ⟨rest.result, rest.state, .accepted request.command :: handled.log ++ rest.log⟩
termination_by c.receive.bytes.length
decreasing_by
  rw [handleCommand_receive]
  exact ReceiveBuffer.nextCommand_shorter _next

/-- `read_connection`. -/
def readConnection (answers : Answers) (c : Connection) : ConnectionAttempt Bool :=
  if c.closeAfterFlush then .done true c
  else
    let read := c.receive.readFrom answers.reads
    (Attempt.note (.read read.answered) { c with receive := read.buffer }).andThen fun _ c =>
      match read.result with
      | .error _ => ⟨.ok false, c, [.counted .malformedCommands]⟩
      | .ok .closed => .done false c
      | .ok .closedWithBufferedData =>
        (processBufferedCommands registry context answers.wallClock answers.readClock c).andThen
          fun keep c => .done (keep && c.closeAfterFlush && c.pending.isPending) c
      | .ok .open =>
        processBufferedCommands registry context answers.wallClock answers.readClock c

/-- The frame behind a pending frame. -/
def pendingFrameBytes (dataFrame : DataFrame) (c : Connection) : Except Failure (List UInt8) :=
  let unreachable (message : String) : Except Failure (List UInt8) :=
    .error (.panic ("internal error: entered unreachable code: " ++ message))
  match c.pending, context.frames with
  | .none, _ => .ok []
  | .v2Header _, .v2 header _ _ => .ok header
  | .v2Configuration1 _, .v2 _ configuration1 _ => .ok configuration1
  | .v2Configuration2 _, .v2 _ _ configuration2 => .ok configuration2
  | .v3Capability _, .v3 capability _ => .ok capability
  | .v3StreamConfiguration _, .v3 _ streamConfiguration => .ok streamConfiguration
  | .error _, _ =>
    match c.errorFrame with
    | some frame => .ok frame
    | none => .error (.panic "pending error response requires a V3 connection")
  | .data _, _ => .ok dataFrame.bytes
  | .v2Header _, .v3 .. => unreachable "V2 pending frame requires V2 endpoint"
  | .v2Configuration1 _, .v3 .. => unreachable "V2 pending frame requires V2 endpoint"
  | .v2Configuration2 _, .v3 .. => unreachable "V2 pending frame requires V2 endpoint"
  | .v3Capability _, .v2 .. => unreachable "V3 pending frame requires V3 endpoint"
  | .v3StreamConfiguration _, .v2 .. => unreachable "V3 pending frame requires V3 endpoint"

/-- What `flush_connection` does with a frame whose last bytes were taken. -/
def frameWritten (answers : Answers) (bytes : List UInt8) (c : Connection) :
    ConnectionAttempt Bool :=
  (⟨.ok (), { c with pending := .none }, .wrote bytes true ::
      if c.pending.isData then [.counted .sentDataFrames] else []⟩ :
    ConnectionAttempt Unit).andThen fun _ c =>
  if c.closeAfterFlush then .done false c
  else
    (processBufferedCommands registry context answers.wallClock answers.writeClock c).andThen
      fun keep c =>
        if !keep then .done false c
        else if c.pending.isPending then .done true c
        else (reregisterConnection registry false c).andThen fun _ c => .done true c

/-- `flush_connection`: at most one write is tried. -/
def flushConnection (dataFrame : DataFrame) (answers : Answers) (c : Connection) :
    ConnectionAttempt Bool :=
  if !c.pending.isPending then .done true c
  else
    match pendingFrameBytes context dataFrame c with
    | .error e => .failed e c
    | .ok frame =>
      if frame.length < c.pending.offset then
        .failed (.panic "range start index out of range for slice") c
      else
        let bytes := frame.drop c.pending.offset
        match answers.write with
        | .failed .wouldBlock =>
          (Attempt.note (.wrote [] false) c).andThen fun _ c =>
            (reregisterConnection registry true c).andThen fun _ c => .done true c
        | .failed _ => ⟨.ok false, c, [.wrote [] false]⟩
        | .accepts count =>
          let written := min count bytes.length
          if written = 0 then ⟨.ok false, c, [.wrote [] false]⟩
          else if c.pending.offset + written = c.pending.offset + bytes.length then
            frameWritten registry context answers bytes c
          else
            (Attempt.note (.wrote (bytes.take written) false)
              { c with pending := c.pending.withOffset (c.pending.offset + written) }).andThen
              fun _ c => (reregisterConnection registry true c).andThen fun _ c => .done true c

/-- One event of `dispatch_events` on a connection; `false` where it is to be closed. -/
def serveConnection (dataFrame : DataFrame) (readable writable : Bool) (answers : Answers)
    (c : Connection) : ConnectionAttempt Bool :=
  (if readable then readConnection registry context answers c else .done true c).andThen
    fun keep c =>
      if !keep then .done false c
      else if writable then
        (Attempt.note .writable c).andThen fun _ c =>
          flushConnection registry context dataFrame answers c
      else .done true c

/-- The turn of `emit_data` on a streaming connection: the encoded frame is pending, and a write is
tried at once. -/
def sendDataFrame (dataFrame : DataFrame) (tick : Tick) (answers : Answers) (c : Connection) :
    ConnectionAttempt Bool :=
  (Attempt.note (.queued (.data tick)) { c with pending := .data 0 }).andThen fun _ c =>
    (reregisterConnection registry true c).andThen fun _ c =>
      flushConnection registry context dataFrame answers c

end Registered

end PmuSimulator

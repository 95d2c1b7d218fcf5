import Mathlib
import PmuSimulator.Probe.Formats
import PmuSimulator.Server.Connection

/-!
# One client of the probe

A client asks for the static frames one after the other, starts the stream, and then takes data
frames. It sends one command at a time, and every frame that is not the one it waits for is an
error.
-/

namespace PmuSimulator

namespace Probe

/-- `Command` of either version. -/
inductive Command where
  | v2 (command : WireV2.Command)
  | v3 (command : WireV3.Command)
  deriving DecidableEq, Repr

/-- `ClientState` of either probe. -/
inductive ClientState where
  | connecting
  | sending (command : Command)
  | awaitingHeader
  | awaitingConfiguration1
  | awaitingConfiguration2
  | awaitingCapability
  | awaitingStreamConfiguration
  | streaming
  deriving DecidableEq, Repr

/-- `Client` of either probe; the buffers are their filled parts. -/
structure Client where
  wireVersion : WireVersion
  streamId : UInt16
  dataRateHz : UInt16
  input : List UInt8
  output : List UInt8
  outputOffset : Nat
  state : ClientState
  configuration : Option ConfigurationSummary
  lastTimestamp : Option Timestamp
  dataFrames : Nat
  deriving DecidableEq, Repr

namespace Command

/-- `encode_command` of the version. -/
def encode (streamId : UInt16) (timestamp : Timestamp) : Command → Except Failure (List UInt8)
  | v2 command => WireV2.encodeCommand streamId command timestamp
  | v3 command => WireV3.encodeCommand streamId command timestamp

/-- What a client waits for when a command is written; the probe does not send a stop. -/
def written : Command → Option ClientState
  | v2 .header => some .awaitingHeader
  | v2 .configuration1 => some .awaitingConfiguration1
  | v2 .configuration2 => some .awaitingConfiguration2
  | v2 .start => some .streaming
  | v2 .stop => none
  | v3 .capability => some .awaitingCapability
  | v3 .streamConfiguration => some .awaitingStreamConfiguration
  | v3 .start => some .streaming
  | v3 .stop => none

end Command

/-- The first command of a client. -/
def firstCommand : WireVersion → Command
  | .v2 => .v2 .header
  | .v3 => .v3 .capability

/-- How the texts of either probe start. -/
def probeLabel : WireVersion → String
  | .v2 => "C37.118 V2"
  | .v3 => "C37.118"

/-- `COMMAND_FRAME_BYTES`. -/
def commandFrameBytes : Nat := 18

/-- A failure of the encoder that the probe shares with the simulator. -/
def ofFailure : Failure → ProbeFailure
  | .panic message => .panic message
  | .server (.io kind) => .io kind
  | .server (.message text) => .probe text

/-- `validate_frame_identity` of the version. -/
def validateFrameIdentity : WireVersion → DecodedFrame → UInt16 → Except ProbeFailure Unit
  | .v2 => validateFrameIdentityWith "C37.118 V2" "IDCODE"
  | .v3 => validateFrameIdentityWith "C37.118" "STREAM_ID"

namespace Client

/-- `Client::new`. -/
def new (wireVersion : WireVersion) (streamId dataRateHz : UInt16) : Client where
  wireVersion := wireVersion
  streamId := streamId
  dataRateHz := dataRateHz
  input := []
  output := []
  outputOffset := 0
  state := .connecting
  configuration := none
  lastTimestamp := none
  dataFrames := 0

def queueCommand (command : Command) (client : Client) : Except ProbeFailure Client :=
  match command.encode client.streamId ⟨0, 0⟩ with
  | .error failure => .error (ofFailure failure)
  | .ok frame =>
    if frame.length ≠ commandFrameBytes then
      .error (.probe (probeLabel client.wireVersion ++ " command frame has an unexpected size"))
    else .ok { client with output := frame, outputOffset := 0, state := .sending command }

/-! ### Writing -/

section Registered

variable (registry : Registry) (token : Nat)

/-- The write of `write_ready`, of a command that is being sent: the bytes taken. -/
def writeCommand (command : Command) (write : WriteAnswer) (client : Client) :
    Except ProbeFailure (List UInt8 × Client) :=
  let rest := client.output.drop client.outputOffset
  match write with
  | .failed .wouldBlock => .ok ([], client)
  | .failed kind => .error (.io kind)
  | .accepts count =>
    let count := min count rest.length
    let client := { client with outputOffset := client.outputOffset + count }
    if count = 0 then .error (.probe "peer closed during command write")
    else if client.outputOffset = client.output.length then
      match command.written with
      | none => .error (.probe "probe does not send stop")
      | some state =>
        match registry.reregister token .readable with
        | .error kind => .error (.io kind)
        | .ok () => .ok (rest.take count, { client with state })
    else .ok (rest.take count, client)

/-- The start of `write_ready`: a client that is connected sends its first command. -/
def connected (takeError : Except ErrorKind (Option String)) (client : Client) :
    Except ProbeFailure Client :=
  if client.state = .connecting then
    match takeError with
    | .error kind => .error (.io kind)
    | .ok (some text) => .error (.probe ("connection failed: " ++ text))
    | .ok none => client.queueCommand (firstCommand client.wireVersion)
  else .ok client

/-- `write_ready`; `takeError` is the pending error of the socket, by its text. -/
def writeReady (takeError : Except ErrorKind (Option String)) (write : WriteAnswer)
    (client : Client) : Except ProbeFailure (List UInt8 × Client) :=
  match client.connected takeError with
  | .error failure => .error failure
  | .ok client =>
    match client.state with
    | .sending command => client.writeCommand registry token command write
    | _ => .ok ([], client)

/-! ### Frames -/

def configured (frame : DecodedFrame) (client : Client) : Except ProbeFailure Client := do
  let configuration ←
    decodeConfiguration client.wireVersion frame.body client.dataRateHz
  return { client with configuration := some configuration }

/-- The arm of a second configuration: it must be the first one again. -/
def confirmed (disagree : String) (frame : DecodedFrame) (client : Client) :
    Except ProbeFailure Client := do
  let configuration ← decodeConfiguration client.wireVersion frame.body client.dataRateHz
  if client.configuration ≠ some configuration then .error (.probe disagree) else .ok client

/-- The arm of a data frame. -/
def takeData (early : String) (frame : DecodedFrame) (client : Client) :
    Except ProbeFailure Client :=
  match client.configuration with
  | none => .error (.probe early)
  | some configuration => do
    decodePeriodicData client.wireVersion frame configuration client.lastTimestamp
    return { client with
      lastTimestamp := some frame.timestamp
      dataFrames := client.dataFrames + 1 }

/-- The `match` of `handle_frame` of the V2 probe. -/
def handleV2Frame (frame : DecodedFrame) (client : Client) : Except ProbeFailure Client :=
  if client.state = .awaitingHeader ∧ frame.frameType = WireV2.frameTypeHeader then do
    decodeHeader frame.body
    client.queueCommand (.v2 .configuration1)
  else if client.state = .awaitingConfiguration1 ∧
      frame.frameType = WireV2.frameTypeConfiguration1 then do
    let client ← client.configured frame
    client.queueCommand (.v2 .configuration2)
  else if client.state = .awaitingConfiguration2 ∧
      frame.frameType = WireV2.frameTypeConfiguration2 then do
    let client ← client.confirmed "CFG-1 and CFG-2 frames disagree" frame
    client.queueCommand (.v2 .start)
  else if client.state = .streaming ∧ frame.frameType = WireV2.frameTypePeriodicData then
    client.takeData "periodic data arrived before CFG-2" frame
  else .error (.probe "unexpected C37.118 V2 frame for protocol state")

/-- The `match` of `handle_frame` of the V3 probe. -/
def handleV3Frame (frame : DecodedFrame) (client : Client) : Except ProbeFailure Client :=
  if client.state = .awaitingCapability ∧ frame.frameType = WireV3.frameTypeCapability then do
    let client ← client.configured frame
    client.queueCommand (.v3 .streamConfiguration)
  else if client.state = .awaitingStreamConfiguration ∧
      frame.frameType = WireV3.frameTypeStreamConfiguration then do
    let client ← client.confirmed "capability and stream-configuration frames disagree" frame
    client.queueCommand (.v3 .start)
  else if client.state = .streaming ∧ frame.frameType = WireV3.frameTypePeriodicData then
    client.takeData "periodic data arrived before stream configuration" frame
  else if frame.frameType = WireV3.frameTypeErrorResponse then do
    let code ← decodeErrorResponse frame.body
    .error (.probe ("source returned C37.118 error response " ++ toString code))
  else .error (.probe "unexpected C37.118 frame for protocol state")

/-- The `match` of `handle_frame` of the client's version. -/
def answered (frame : DecodedFrame) (client : Client) : Except ProbeFailure Client :=
  match client.wireVersion with
  | .v2 => client.handleV2Frame frame
  | .v3 => client.handleV3Frame frame

/-- `handle_frame`: a command that is queued is to be written. -/
def handleFrame (frame : DecodedFrame) (client : Client) : Except ProbeFailure Client :=
  match client.answered frame with
  | .error failure => .error failure
  | .ok client =>
    match client.state with
    | .sending _ =>
      match registry.reregister token .readableWritable with
      | .error kind => .error (.io kind)
      | .ok () => .ok client
    | _ => .ok client

/-! ### Reading -/

/-- The first loop of `read_ready`, over the reads up to the first that would block. -/
def fill (client : Client) : List ReadAnswer → Except ProbeFailure Client
  | [] =>
    if client.input.length = maxFrameBytes then
      .error (.probe (probeLabel client.wireVersion ++ " probe receive buffer is full"))
    else .ok client
  | answer :: answers =>
    if client.input.length = maxFrameBytes then
      .error (.probe (probeLabel client.wireVersion ++ " probe receive buffer is full"))
    else
      match answer with
      | .data [] => .error (.probe "peer closed during frame read")
      | .data (b :: bytes) =>
        { client with
          input := client.input ++ (b :: bytes).take (maxFrameBytes - client.input.length)
          : Client }.fill answers
      | .failed .wouldBlock => .ok client
      | .failed kind => .error (.io kind)

/-- The check of a declared size in `read_ready` of either probe. -/
def checkSize (wireVersion : WireVersion) (frameSize : Nat) : Except ProbeFailure Unit :=
  match wireVersion with
  | .v2 =>
    if frameHeaderBytes + frameChecksumBytes ≤ frameSize ∧ frameSize ≤ maxFrameBytes then .ok ()
    else .error (.probe "received C37.118 V2 frame has an invalid declared size")
  | .v3 =>
    if frameSize > maxFrameBytes then
      .error (.probe "received C37.118 frame exceeds probe buffer")
    else .ok ()

/-- The first frame in a buffer, if it is there to its end. -/
def nextFrame (wireVersion : WireVersion) (streamId : UInt16) (input : List UInt8) :
    Except ProbeFailure (Option DecodedFrame) :=
  if input.length < 4 then .ok none
  else
    match checkSize wireVersion (FrameView.declaredSize input) with
    | .error failure => .error failure
    | .ok () =>
      if input.length < FrameView.declaredSize input then .ok none
      else
        match decodeFrame wireVersion (input.take (FrameView.declaredSize input)) with
        | .error failure => .error failure
        | .ok frame =>
          match validateFrameIdentity wireVersion frame streamId with
          | .error failure => .error failure
          | .ok () => .ok (some frame)

/-- What is found is a frame of the client's version that starts the buffer. -/
lemma nextFrame_some {wireVersion : WireVersion} {streamId : UInt16} {input : List UInt8}
    {frame : DecodedFrame} (h : nextFrame wireVersion streamId input = .ok (some frame)) :
    FrameView.declaredSize input ≤ input.length ∧
      decodeFrame wireVersion (input.take (FrameView.declaredSize input)) = .ok frame := by
  unfold nextFrame at h
  by_cases hshort : input.length < 4
  · simp [hshort] at h
  rw [if_neg hshort] at h
  cases hsize : checkSize wireVersion (FrameView.declaredSize input) with
  | error failure => simp [hsize] at h
  | ok _ =>
    by_cases hwaits : input.length < FrameView.declaredSize input
    · simp [hsize, hwaits] at h
    cases hdecoded : decodeFrame wireVersion (input.take (FrameView.declaredSize input)) with
    | error failure => simp [hsize, hwaits, hdecoded] at h
    | ok frame' =>
      cases hvalid : validateFrameIdentity wireVersion frame' streamId with
      | error failure => simp [hsize, hwaits, hdecoded, hvalid] at h
      | ok _ =>
        simp only [hsize, hwaits, hdecoded, hvalid, if_false, Except.ok.injEq,
          Option.some.injEq] at h
        exact ⟨Nat.not_lt.mp hwaits, congrArg Except.ok h⟩

/-- A frame that is found is at least an envelope. -/
lemma nextFrame_enough {wireVersion : WireVersion} {streamId : UInt16} {input : List UInt8}
    {frame : DecodedFrame} (h : nextFrame wireVersion streamId input = .ok (some frame)) :
    16 ≤ FrameView.declaredSize input := by
  obtain ⟨-, hdecoded⟩ := nextFrame_some h
  obtain ⟨view, hparse, -⟩ := decodeFrame_iff.mp hdecoded
  have hbytes : view.bytes = input.take (FrameView.declaredSize input) := by
    cases wireVersion <;> exact (parseWith_iff.mp hparse).1
  have henough : 16 ≤ view.bytes.length := view.enough
  rw [hbytes, List.length_take] at henough
  omega

lemma queueCommand_ok {command : Command} {client client' : Client}
    (h : client.queueCommand command = .ok client') :
    ∃ frame, command.encode client.streamId ⟨0, 0⟩ = .ok frame ∧ frame.length = 18 ∧
      client' = { client with output := frame, outputOffset := 0, state := .sending command } := by
  unfold queueCommand at h
  cases hframe : command.encode client.streamId ⟨0, 0⟩ with
  | error failure => simp [hframe] at h
  | ok frame =>
    simp only [hframe] at h
    split_ifs at h with hsize
    exact ⟨frame, rfl, not_not.mp hsize, (Except.ok.inj h).symm⟩

lemma configured_ok {frame : DecodedFrame} {client client' : Client}
    (h : client.configured frame = .ok client') : client'.input = client.input := by
  obtain ⟨configuration, -, h⟩ := bind_eq_ok.mp h
  rw [← Except.ok.inj h]

lemma confirmed_ok {disagree : String} {frame : DecodedFrame} {client client' : Client}
    (h : client.confirmed disagree frame = .ok client') : client' = client := by
  obtain ⟨configuration, -, h⟩ := bind_eq_ok.mp h
  split_ifs at h
  exact (Except.ok.inj h).symm

lemma takeData_ok {early : String} {frame : DecodedFrame} {client client' : Client}
    (h : client.takeData early frame = .ok client') : client'.input = client.input := by
  unfold takeData at h
  cases hconfiguration : client.configuration with
  | none => simp [hconfiguration] at h
  | some configuration =>
    simp only [hconfiguration] at h
    obtain ⟨_, -, h⟩ := bind_eq_ok.mp h
    rw [← Except.ok.inj h]

lemma answered_input {frame : DecodedFrame} {client client' : Client}
    (h : client.answered frame = .ok client') : client'.input = client.input := by
  have hqueued {command : Command} {client : Client}
      (h : client.queueCommand command = .ok client') : client'.input = client.input := by
    obtain ⟨-, -, -, rfl⟩ := queueCommand_ok h
    rfl
  unfold answered at h
  cases hversion : client.wireVersion with
  | v2 =>
    simp only [hversion, handleV2Frame] at h
    split_ifs at h
    · obtain ⟨_, -, h⟩ := bind_eq_ok.mp h
      exact hqueued h
    · obtain ⟨_, hfirst, h⟩ := bind_eq_ok.mp h
      exact (hqueued h).trans (configured_ok hfirst)
    · obtain ⟨_, hagree, h⟩ := bind_eq_ok.mp h
      exact (hqueued h).trans (congrArg input (confirmed_ok hagree))
    · exact takeData_ok h
  | v3 =>
    simp only [hversion, handleV3Frame] at h
    split_ifs at h
    · obtain ⟨_, hfirst, h⟩ := bind_eq_ok.mp h
      exact (hqueued h).trans (configured_ok hfirst)
    · obtain ⟨_, hagree, h⟩ := bind_eq_ok.mp h
      exact (hqueued h).trans (congrArg input (confirmed_ok hagree))
    · exact takeData_ok h
    · obtain ⟨_, -, h⟩ := bind_eq_ok.mp h
      cases h

/-- Handling a frame leaves the buffer alone. -/
lemma handleFrame_input {frame : DecodedFrame} {client client' : Client}
    (h : client.handleFrame registry token frame = .ok client') : client'.input = client.input := by
  unfold handleFrame at h
  cases hanswered : client.answered frame with
  | error failure => simp [hanswered] at h
  | ok handled =>
    refine Eq.trans ?_ (answered_input hanswered)
    simp only [hanswered] at h
    cases hstate : handled.state with
    | sending command =>
      simp only [hstate] at h
      cases hregistered : registry.reregister token .readableWritable with
      | error kind => simp [hregistered] at h
      | ok _ =>
        simp only [hregistered] at h
        rw [Except.ok.inj h]
    | _ =>
      simp only [hstate] at h
      rw [Except.ok.inj h]

/-- The second loop of `read_ready`: every frame that is complete is taken out and handled. -/
def handleFrames (client : Client) : Except ProbeFailure Client :=
  match _next : nextFrame client.wireVersion client.streamId client.input with
  | .error failure => .error failure
  | .ok none => .ok client
  | .ok (some frame) =>
    let rest := client.input.drop (FrameView.declaredSize client.input)
    match _handled : ({ client with input := rest } : Client).handleFrame registry token frame with
    | .error failure => .error failure
    | .ok client => handleFrames client
termination_by client.input.length
decreasing_by
  have hinput := handleFrame_input registry token _handled
  have henough := nextFrame_enough _next
  have hwithin := (nextFrame_some _next).1
  rw [hinput, List.length_drop]
  omega

/-- `read_ready`. -/
def readReady (reads : List ReadAnswer) (client : Client) : Except ProbeFailure Client :=
  match client.fill reads with
  | .error failure => .error failure
  | .ok client => client.handleFrames registry token

end Registered

end Client

end Probe

end PmuSimulator

import Mathlib
import PmuSimulator.Probe.Client
import PmuSimulator.Probe.Profiles

/-!
# What a client does with the answers of the simulator

A client that is given the bytes of the simulator, in whatever pieces, finds its frames in them one
after the other: the answer to its command, which makes it send the next one, or the data frames of
consecutive samples.
-/

namespace PmuSimulator

/-- A write that takes something, or would block. -/
def WriteAnswer.Works : WriteAnswer → Prop
  | accepts count => 0 < count
  | failed kind => kind = .wouldBlock

instance WriteAnswer.decidableWorks : (answer : WriteAnswer) → Decidable answer.Works
  | accepts count => inferInstanceAs (Decidable (0 < count))
  | failed kind => inferInstanceAs (Decidable (kind = .wouldBlock))

lemma WriteAnswer.Works.cases {answer : WriteAnswer} (works : answer.Works) :
    answer = .failed .wouldBlock ∨ ∃ count, answer = .accepts (count + 1) := by
  cases answer with
  | accepts count =>
    obtain ⟨n, rfl⟩ := Nat.exists_eq_add_of_lt works
    exact .inr ⟨n, by rw [Nat.zero_add]⟩
  | failed kind => exact .inl (congrArg failed works)

namespace Probe

/-! ### Commands -/

namespace Command

def wireVersion : Command → WireVersion
  | v2 _ => .v2
  | v3 _ => .v3

/-- The command as the simulator takes it. -/
def server : Command → ServerCommand
  | v2 command => serverCommandOfV2 command
  | v3 command => serverCommandOfV3 command

/-- The command a client sends when this one is answered. -/
def next : Command → Option Command
  | v2 .header => some (.v2 .configuration1)
  | v2 .configuration1 => some (.v2 .configuration2)
  | v2 .configuration2 => some (.v2 .start)
  | v3 .capability => some (.v3 .streamConfiguration)
  | v3 .streamConfiguration => some (.v3 .start)
  | _ => none

/-- What a client knows of its endpoint when it sends the command. -/
def known (e : EndpointDescriptor) : Command → Option ConfigurationSummary
  | v2 .header | v2 .configuration1 | v3 .capability => none
  | _ => some ⟨e.timeBase, e.pmuId, e.dataRateHz⟩

/-- Every command can be encoded, to eighteen bytes. -/
lemma encode_eq (streamId : UInt16) (k : Command) :
    ∃ frame, k.encode streamId ⟨0, 0⟩ = .ok frame ∧ frame.length = 18 := by
  have hsize (code : UInt16) : minFrameBytes + (u16ToBeBytes code).length ≤ 65535 :=
    show 18 ≤ 65535 by decide
  cases k with
  | v2 command => exact ⟨_, encodeFrameWith_ok (hsize command.code), frameWith_length ..⟩
  | v3 command => exact ⟨_, encodeFrameWith_ok (hsize command.code), frameWith_length ..⟩

end Command

/-- A command that has an answer asks for a static frame. -/
lemma informationPending_server {k k' : Command} (hnext : k.next = some k') :
    (informationPending k.wireVersion k.server).isSome ∧ k'.wireVersion = k.wireVersion := by
  cases k with
  | v2 command => cases command <;> cases hnext <;> exact ⟨rfl, rfl⟩
  | v3 command => cases command <;> cases hnext <;> exact ⟨rfl, rfl⟩

namespace Client

variable {client : Client}

/-- The bytes of a command that are still to be written. -/
def unwritten (client : Client) : List UInt8 :=
  match client.state with
  | .sending _ => client.output.drop client.outputOffset
  | _ => []

/-- A command is being written, or it is written and its answer is waited for. -/
inductive Asks (client : Client) (k : Command) : Prop where
  | sending (state : client.state = .sending k) (short : client.outputOffset < client.output.length)
  | sent (state : k.written = some client.state)

lemma queueCommand_eq (client : Client) {k : Command} {frame : List UInt8}
    (h : k.encode client.streamId ⟨0, 0⟩ = .ok frame) (hlength : frame.length = 18) :
    client.queueCommand k =
      .ok { client with output := frame, outputOffset := 0, state := .sending k } := by
  unfold queueCommand
  simp only [h]
  rw [if_neg (show ¬frame.length ≠ commandFrameBytes from not_not.mpr hlength)]

/-! ### Finding frames -/

/-- The bytes are a frame that a client of the stream is looking for. -/
structure Finds (wireVersion : WireVersion) (streamId : UInt16) (bytes : List UInt8)
    (frame : DecodedFrame) : Prop where
  fits : bytes.length ≤ maxFrameBytes
  decoded : decodeFrame wireVersion bytes = .ok frame
  streamId : frame.streamId = streamId

lemma Finds.size {wireVersion : WireVersion} {streamId : UInt16} {bytes : List UInt8}
    {frame : DecodedFrame} (h : Finds wireVersion streamId bytes frame) :
    16 ≤ bytes.length ∧ FrameView.declaredSize bytes = bytes.length := by
  obtain ⟨view, hparse, -⟩ := decodeFrame_iff.mp h.decoded
  have hparse : ∃ validSync, FrameView.parseWith validSync bytes 65535 = .ok view := by
    cases wireVersion <;> exact ⟨_, hparse⟩
  obtain ⟨validSync, hparse⟩ := hparse
  obtain ⟨-, henough, -, hsize, -⟩ := parseWith_iff.mp hparse
  exact ⟨henough, hsize⟩

lemma checkSize_ok (wireVersion : WireVersion) {size : Nat} (hmin : 16 ≤ size)
    (hmax : size ≤ maxFrameBytes) : checkSize wireVersion size = .ok () := by
  cases wireVersion with
  | v2 => exact if_pos ⟨hmin, hmax⟩
  | v3 => exact if_neg (Nat.not_lt.mpr hmax)

/-- The frame in front of other bytes is found. -/
lemma nextFrame_front {wireVersion : WireVersion} {streamId : UInt16} {bytes : List UInt8}
    {frame : DecodedFrame} (h : Finds wireVersion streamId bytes frame) (more : List UInt8) :
    FrameView.declaredSize (bytes ++ more) = bytes.length ∧
      nextFrame wireVersion streamId (bytes ++ more) = .ok (some frame) := by
  obtain ⟨henough, hsize⟩ := h.size
  have hdeclared : FrameView.declaredSize (bytes ++ more) = bytes.length :=
    (declaredSize_append (by omega) more).trans hsize
  have hvalid : validateFrameIdentity wireVersion frame streamId = .ok () := by
    cases wireVersion <;> exact if_neg (not_not.mpr h.streamId)
  have hlength : (bytes ++ more).length = bytes.length + more.length := List.length_append
  refine ⟨hdeclared, ?_⟩
  unfold nextFrame
  rw [if_neg (by omega)]
  simp only [hdeclared, checkSize_ok wireVersion henough h.fits]
  rw [if_neg (by omega), List.take_left]
  simp only [h.decoded, hvalid]

/-- The beginning of a frame is waited on. -/
lemma nextFrame_begun {wireVersion : WireVersion} {streamId : UInt16} {input bytes : List UInt8}
    {frame : DecodedFrame} (h : Finds wireVersion streamId bytes frame) (front : input <+: bytes)
    (begun : input ≠ bytes) : nextFrame wireVersion streamId input = .ok none := by
  obtain ⟨henough, hsize⟩ := h.size
  have hless : input.length < bytes.length :=
    Nat.lt_of_le_of_ne front.length_le fun heq => begun (front.eq_of_length heq)
  unfold nextFrame
  by_cases h4 : input.length < 4
  · rw [if_pos h4]
  obtain ⟨more, rfl⟩ := front
  rw [declaredSize_append (by omega)] at hsize
  rw [if_neg h4]
  simp only [hsize, checkSize_ok wireVersion henough h.fits]
  rw [if_pos hless]

/-! ### Writing -/

section Registered

variable {registry : Registry} {token : Nat} {write : WriteAnswer}

/-- A write that works takes some of the command that is being sent. -/
lemma writeCommand_ok (registers : ∀ interest, registry.reregister token interest = .ok ())
    (works : write.Works) {k : Command} {state : ClientState} (hstate : client.state = .sending k)
    (hsent : k.written = some state) (hshort : client.outputOffset < client.output.length) :
    ∃ bytes client' n, client.writeCommand registry token k write = .ok (bytes, client') ∧
      client' = { client with outputOffset := n, state := client'.state } ∧ client'.Asks k ∧
      bytes ++ client'.unwritten = client.unwritten := by
  have hrest : client.unwritten = client.output.drop client.outputOffset := by
    simp only [unwritten, hstate]
  unfold writeCommand
  rcases works.cases with rfl | ⟨count, rfl⟩
  · exact ⟨[], client, _, rfl, rfl, .sending hstate hshort, rfl⟩
  simp only [List.length_drop]
  rw [if_neg (by omega)]
  by_cases hall : client.outputOffset +
      min (count + 1) (client.output.length - client.outputOffset) = client.output.length
  · rw [if_pos hall]
    simp only [hsent, registers]
    refine ⟨_, _, _, rfl, rfl, .sent hsent, ?_⟩
    have hnothing : ∀ output n,
        unwritten { client with output, outputOffset := n, state } = [] := by
      intro output n
      cases k with
      | v2 command => cases command <;> cases hsent <;> rfl
      | v3 command => cases command <;> cases hsent <;> rfl
    rw [hnothing, hrest, List.append_nil, List.take_of_length_le]
    rw [List.length_drop]
    omega
  · rw [if_neg hall]
    refine ⟨_, _, _, rfl, by rw [hstate], .sending hstate ?_, ?_⟩
    · change client.outputOffset + _ < client.output.length
      omega
    · rw [hrest]
      simp only [unwritten, hstate]
      rw [← List.drop_drop, List.take_append_drop]

/-! ### Reading -/

/-- Pieces that leave room in the buffer are all read. -/
lemma fill_pieces {pieces : List (List UInt8)} (hsome : ∀ piece ∈ pieces, piece ≠ [])
    (hroom : client.input.length + pieces.flatten.length < maxFrameBytes) :
    client.fill (pieces.map .data) =
      .ok { client with input := client.input ++ pieces.flatten } := by
  induction pieces generalizing client with
  | nil =>
    have hroom : ¬ client.input.length = maxFrameBytes := by
      simp only [List.flatten_nil, List.length_nil] at hroom
      omega
    rw [List.map_nil, fill, if_neg hroom, List.flatten_nil, List.append_nil]
  | cons piece pieces ih =>
    obtain ⟨b, bytes, rfl⟩ := List.exists_cons_of_ne_nil (hsome piece List.mem_cons_self)
    rw [List.flatten_cons, List.length_append] at hroom
    have htake : (b :: bytes).take (maxFrameBytes - client.input.length) = b :: bytes :=
      List.take_of_length_le (by omega)
    rw [List.map_cons, fill, if_neg (by omega)]
    simp only [htake]
    rw [ih (fun piece hmem => hsome piece (List.mem_cons_of_mem _ hmem)) (by
      simp only [List.length_append]
      omega)]
    simp only [List.flatten_cons, List.append_assoc]

lemma handleFrames_waits
    (h : nextFrame client.wireVersion client.streamId client.input = .ok none) :
    client.handleFrames registry token = .ok client := by
  rw [handleFrames]
  split
  · rename_i hnext
    cases h.symm.trans hnext
  · rfl
  · rename_i hnext
    cases h.symm.trans hnext

/-- A frame in front of other bytes is handled, and the rest looked through. -/
lemma handleFrames_front {bytes more : List UInt8} {frame : DecodedFrame} {client' : Client}
    (hinput : client.input = bytes ++ more)
    (hfinds : Finds client.wireVersion client.streamId bytes frame)
    (hhandled : ({ client with input := more } : Client).handleFrame registry token frame =
      .ok client') :
    client.handleFrames registry token = client'.handleFrames registry token := by
  obtain ⟨hsize, hfound⟩ := nextFrame_front hfinds more
  rw [← hinput] at hsize hfound
  have hrest : client.input.drop (FrameView.declaredSize client.input) = more := by
    rw [hsize, hinput, List.drop_left]
  rw [handleFrames]
  split
  · rename_i hnext
    cases hfound.symm.trans hnext
  · rename_i hnext
    cases hfound.symm.trans hnext
  · rename_i frame' hnext
    obtain rfl := Option.some.inj (Except.ok.inj (hfound.symm.trans hnext))
    rw [hrest]
    dsimp only
    split
    · rename_i hfailed
      cases hhandled.symm.trans hfailed
    · rename_i handled hok
      obtain rfl := Except.ok.inj (hhandled.symm.trans hok)
      rfl

end Registered

/-! ### Answers -/

/-- A client that belongs to an endpoint. -/
structure Of (e : EndpointDescriptor) (client : Client) : Prop where
  wireVersion : client.wireVersion = e.wireVersion
  streamId : client.streamId = e.streamId
  dataRateHz : client.dataRateHz = e.dataRateHz

lemma bind_ok {α β : Type} {x : Except ProbeFailure α} {a : α} {f : α → Except ProbeFailure β}
    (h : x = .ok a) : (x >>= f) = f a := by
  rw [h]
  rfl

section Answers

variable {e : EndpointDescriptor} {timestamp : Timestamp} {bytes : List UInt8}
  {frame : DecodedFrame} {k k' : Command}

/-- A configuration of the endpoint is taken for what it is. -/
lemma decodeConfiguration_answer (of : client.Of e)
    (h : DecodesAnswer e timestamp k.server bytes frame) (hne : k.server ≠ .v2Header) :
    decodeConfiguration client.wireVersion frame.body client.dataRateHz =
      .ok ⟨e.timeBase, e.pmuId, e.dataRateHz⟩ := by
  rw [of.wireVersion, of.dataRateHz]
  exact (h.configuration hne _ _).mpr ⟨rfl, rfl⟩

lemma configured_answer (of : client.Of e)
    (h : DecodesAnswer e timestamp k.server bytes frame) (hne : k.server ≠ .v2Header) :
    client.configured frame =
      .ok { client with configuration := some ⟨e.timeBase, e.pmuId, e.dataRateHz⟩ } :=
  bind_ok (decodeConfiguration_answer of h hne)

lemma confirmed_answer (of : client.Of e)
    (h : DecodesAnswer e timestamp k.server bytes frame) (hne : k.server ≠ .v2Header)
    (hknown : client.configuration = some ⟨e.timeBase, e.pmuId, e.dataRateHz⟩) (text : String) :
    client.confirmed text frame = .ok client :=
  (bind_ok (decodeConfiguration_answer of h hne)).trans (if_neg (not_not.mpr hknown))

lemma answered_v2 (h : client.wireVersion = .v2) :
    client.answered frame = client.handleV2Frame frame := by
  rw [answered, h]

lemma answered_v3 (h : client.wireVersion = .v3) :
    client.answered frame = client.handleV3Frame frame := by
  rw [answered, h]

/-- A client that knows its configuration is left alone by being told. -/
lemma known_again {configuration : Option ConfigurationSummary}
    (h : client.configuration = configuration) : { client with configuration } = client := by
  rw [← h]

/-- The answer to a command makes the client queue the next one. -/
lemma answered_answer (of : client.Of e) (hnext : k.next = some k')
    (hversion : k.wireVersion = e.wireVersion) (hsent : k.written = some client.state)
    (hknown : client.configuration = k.known e)
    (h : DecodesAnswer e timestamp k.server bytes frame) :
    client.answered frame =
      ({ client with configuration := k'.known e } : Client).queueCommand k' := by
  have hclient : client.wireVersion = k.wireVersion := of.wireVersion.trans hversion.symm
  have htype := h.frameType
  cases k with
  | v2 command =>
    rw [answered_v2 hclient, handleV2Frame]
    cases command with
    | header =>
      obtain rfl := Option.some.inj hnext
      have hstate : client.state = .awaitingHeader := (Option.some.inj hsent).symm
      rw [if_pos ⟨hstate, (Option.some.inj htype).symm⟩, bind_ok (h.header rfl)]
      exact congrArg _ (known_again hknown).symm
    | configuration1 =>
      obtain rfl := Option.some.inj hnext
      have hstate : client.state = .awaitingConfiguration1 := (Option.some.inj hsent).symm
      rw [if_neg (by simp [hstate]), if_pos ⟨hstate, (Option.some.inj htype).symm⟩,
        bind_ok (configured_answer of h (by decide))]
      rfl
    | configuration2 =>
      obtain rfl := Option.some.inj hnext
      have hstate : client.state = .awaitingConfiguration2 := (Option.some.inj hsent).symm
      rw [if_neg (by simp [hstate]), if_neg (by simp [hstate]),
        if_pos ⟨hstate, (Option.some.inj htype).symm⟩,
        bind_ok (confirmed_answer of h (by decide) hknown _)]
      exact congrArg _ (known_again hknown).symm
    | _ => cases hnext
  | v3 command =>
    rw [answered_v3 hclient, handleV3Frame]
    cases command with
    | capability =>
      obtain rfl := Option.some.inj hnext
      have hstate : client.state = .awaitingCapability := (Option.some.inj hsent).symm
      rw [if_pos ⟨hstate, (Option.some.inj htype).symm⟩,
        bind_ok (configured_answer of h (by decide))]
      rfl
    | streamConfiguration =>
      obtain rfl := Option.some.inj hnext
      have hstate : client.state = .awaitingStreamConfiguration := (Option.some.inj hsent).symm
      rw [if_neg (by simp [hstate]), if_pos ⟨hstate, (Option.some.inj htype).symm⟩,
        bind_ok (confirmed_answer of h (by decide) hknown _)]
      exact congrArg _ (known_again hknown).symm
    | _ => cases hnext

/-- A client with a command in front of it, none of it written. -/
def queued (client : Client) (e : EndpointDescriptor) (k : Command) (output : List UInt8) :
    Client :=
  { client with
    configuration := k.known e
    output
    outputOffset := 0
    state := .sending k }

lemma handleFrame_answer {registry : Registry} {token : Nat}
    (registers : ∀ interest, registry.reregister token interest = .ok ())
    (of : client.Of e) (hnext : k.next = some k') (hversion : k.wireVersion = e.wireVersion)
    (hsent : k.written = some client.state) (hknown : client.configuration = k.known e)
    (h : DecodesAnswer e timestamp k.server bytes frame) {output : List UInt8}
    (hencoded : k'.encode e.streamId ⟨0, 0⟩ = .ok output) (hlength : output.length = 18) :
    client.handleFrame registry token frame = .ok (client.queued e k' output) := by
  have hqueued := queueCommand_eq { client with configuration := k'.known e }
    (of.streamId ▸ hencoded) hlength
  unfold handleFrame
  rw [answered_answer of hnext hversion hsent hknown h, hqueued]
  simp only [registers]
  rfl

end Answers

/-! ### Data frames -/

/-- A client that has taken the data frames of some ticks. -/
structure Streams (e : EndpointDescriptor) (taken : List Tick) (client : Client) : Prop where
  state : client.state = .streaming
  configuration : client.configuration = some ⟨e.timeBase, e.pmuId, e.dataRateHz⟩
  lastTimestamp : client.lastTimestamp = taken.getLast?.map Tick.timestamp
  dataFrames : client.dataFrames = taken.length

end Client

/-- Ticks of consecutive samples of a clock. -/
structure Consecutive (clock : WallClock) (ticks : List Tick) : Prop where
  sampled : ∀ tick ∈ ticks, tick.timestamp = clock.timestampForSample tick.sampleIndex ∧
    clock.Reaches tick.sampleIndex
  follows : ticks.IsChain fun tick tick' => tick'.sampleIndex = tick.sampleIndex + 1

/-- What a client relies on of its endpoint. -/
structure Legible (context : EndpointContext) (clock : WallClock) : Prop where
  readable : Readable context.descriptor
  admitted : AdmittedRate context.descriptor.dataRateHz context.descriptor.timeBase
  aligned : clock.Aligned context.descriptor.dataRateHz context.descriptor.timeBase
  answers : ∀ command, (informationPending context.descriptor.wireVersion command).isSome →
    ∃ bytes frame, context.frames.staticFrame command = some bytes ∧
      DecodesAnswer context.descriptor (clock.timestampForSample 0) command bytes frame

/-- The bytes of the data frame of a tick. -/
def tickBytes (context : EndpointContext) (seed : UInt64) (tick : Tick) : List UInt8 :=
  ((QueuedFrame.data tick).contents context seed).getD []

section Data

variable {context : EndpointContext} {clock : WallClock} {seed : UInt64} {taken due : List Tick}
  {tick : Tick} {client : Client} {registry : Registry} {token : Nat}

/-- The data frame of the next sample is found and taken. -/
lemma handleFrame_data (seed : UInt64) (registry : Registry) (token : Nat) (client : Client)
    (legible : Legible context clock) (of : client.Of context.descriptor)
    (streams : client.Streams context.descriptor taken)
    (consecutive : Consecutive clock (taken ++ [tick])) :
    ∃ frame, Client.Finds client.wireVersion client.streamId (tickBytes context seed tick) frame ∧
      client.handleFrame registry token frame = .ok { client with
        lastTimestamp := some tick.timestamp
        dataFrames := client.dataFrames + 1 } := by
  obtain ⟨htick, hreaches⟩ := consecutive.sampled tick (by simp)
  obtain ⟨bytes, frame, hcontents, hlength, hdecoded, htype, hid, htime, htaken⟩ :=
    contents_taken legible.readable legible.admitted legible.aligned seed htick hreaches
  obtain ⟨hfirst, hnext⟩ := htaken ⟨_, context.descriptor.pmuId, _⟩ rfl rfl
  have hbytes : tickBytes context seed tick = bytes := by
    rw [tickBytes, hcontents, Option.getD_some]
  have hperiodic : decodePeriodicData client.wireVersion frame
      ⟨context.descriptor.timeBase, context.descriptor.pmuId, context.descriptor.dataRateHz⟩
      client.lastTimestamp = .ok () := by
    rw [of.wireVersion, streams.lastTimestamp]
    cases hlast : taken.getLast? with
    | none => exact hfirst
    | some last =>
      obtain ⟨earlier, rfl⟩ := List.getLast?_eq_some_iff.mp hlast
      obtain ⟨htimestamp, hlastReaches⟩ := consecutive.sampled last (by simp)
      rw [Option.map_some, htimestamp, hnext _ hlastReaches]
      have hfollows := consecutive.follows
      rw [List.append_assoc, List.isChain_append] at hfollows
      simpa using hfollows.2.1
  have hdone : ∀ text, client.takeData text frame = .ok { client with
      lastTimestamp := some tick.timestamp
      dataFrames := client.dataFrames + 1 } := by
    intro text
    unfold Client.takeData
    rw [streams.configuration]
    simp only [hperiodic, htick, ← htime]
    rfl
  refine ⟨frame, ⟨?_, ?_, hid.trans of.streamId.symm⟩, ?_⟩
  · rw [hbytes, hlength]
    cases context.descriptor.wireVersion <;> decide
  · rw [hbytes, of.wireVersion]
    exact hdecoded
  · have hanswered : client.answered frame = .ok { client with
        lastTimestamp := some tick.timestamp
        dataFrames := client.dataFrames + 1 } := by
      have hstate := streams.state
      have hversion := of.wireVersion
      cases hcontext : context.descriptor.wireVersion with
      | v2 =>
        rw [hcontext] at hversion htype
        rw [Client.answered_v2 hversion, Client.handleV2Frame, if_neg (by simp [hstate]),
          if_neg (by simp [hstate]), if_neg (by simp [hstate]), if_pos ⟨hstate, htype⟩, hdone]
      | v3 =>
        rw [hcontext] at hversion htype
        rw [Client.answered_v3 hversion, Client.handleV3Frame, if_neg (by simp [hstate]),
          if_neg (by simp [hstate]), if_pos ⟨hstate, htype⟩, hdone]
    unfold Client.handleFrame
    rw [hanswered]
    simp only [streams.state]

/-- The bytes of the data frames of some ticks. -/
def streamBytes (context : EndpointContext) (seed : UInt64) (ticks : List Tick) : List UInt8 :=
  ticks.flatMap (tickBytes context seed)

/-- A client that has taken some ticks and holds the beginning of what comes behind them. -/
structure Client.Follows (context : EndpointContext) (seed : UInt64) (taken due : List Tick)
    (client : Client) : Prop where
  streams : client.Streams context.descriptor taken
  short : ∀ tick ∈ due.head?, client.input ≠ tickBytes context seed tick ∧
    client.input <+: tickBytes context seed tick
  nothing : due = [] → client.input = []

lemma isPrefix_append_cases {α : Type} {input front rest : List α} (h : input <+: front ++ rest) :
    input <+: front ∧ input ≠ front ∨ ∃ more, input = front ++ more ∧ more <+: rest := by
  by_cases hlong : front.length ≤ input.length
  · right
    obtain ⟨more, rfl⟩ := List.prefix_of_prefix_length_le (List.prefix_append front rest) h hlong
    exact ⟨more, rfl, (List.prefix_append_right_inj _).mp h⟩
  · left
    refine ⟨List.prefix_of_prefix_length_le h (List.prefix_append front rest) (by omega), ?_⟩
    rintro rfl
    exact hlong (le_refl _)

/-- Whatever part of the data frames of consecutive samples a client holds, it takes the frames that
are there to their ends, and waits for the next one. -/
lemma handleFrames_data (registry : Registry) (token : Nat) (client : Client)
    (legible : Legible context clock) (of : client.Of context.descriptor)
    (streams : client.Streams context.descriptor taken)
    (consecutive : Consecutive clock (taken ++ due))
    (front : client.input <+: streamBytes context seed due) :
    ∃ done rest client', due = done ++ rest ∧
      client.handleFrames registry token = .ok client' ∧ client'.Of context.descriptor ∧
      client'.Follows context seed (taken ++ done) rest ∧
      client.input = streamBytes context seed done ++ client'.input := by
  induction due generalizing client taken with
  | nil =>
    have hempty : client.input = [] := List.prefix_nil.mp front
    have hwaits : Client.nextFrame client.wireVersion client.streamId client.input = .ok none := by
      rw [hempty]
      rfl
    refine ⟨[], [], client, rfl, Client.handleFrames_waits hwaits, of,
      ⟨?_, by simp, fun _ => hempty⟩, rfl⟩
    rwa [List.append_nil]
  | cons tick due ih =>
    rw [List.append_cons] at consecutive
    have hfirst : Consecutive clock (taken ++ [tick]) :=
      ⟨fun t ht => consecutive.sampled t (List.mem_append_left _ ht),
        consecutive.follows.left_of_append⟩
    obtain ⟨frame, hfinds, -⟩ :=
      handleFrame_data seed registry token client legible of streams hfirst
    rcases isPrefix_append_cases front with ⟨hshort, hne⟩ | ⟨more, hinput, hmore⟩
    · refine ⟨[], tick :: due, client, rfl,
        Client.handleFrames_waits (Client.nextFrame_begun hfinds hshort hne), of, ⟨?_, ?_, ?_⟩, rfl⟩
      · rwa [List.append_nil]
      · rintro _ ⟨⟩
        exact ⟨hne, hshort⟩
      · rintro ⟨⟩
    · obtain ⟨frame', hfinds', hhandled⟩ := handleFrame_data seed registry token
        { client with input := more } legible
        ⟨of.wireVersion, of.streamId, of.dataRateHz⟩
        ⟨streams.state, streams.configuration, streams.lastTimestamp, streams.dataFrames⟩ hfirst
      obtain ⟨done, rest, client', rfl, hrest, of', follows, hmore'⟩ := ih
        { client with
          input := more
          lastTimestamp := some tick.timestamp
          dataFrames := client.dataFrames + 1 } ⟨of.wireVersion, of.streamId, of.dataRateHz⟩
        ⟨streams.state, streams.configuration, by simp, by simp [streams.dataFrames]⟩ consecutive
        hmore
      refine ⟨tick :: done, rest, client', rfl, ?_, of', ?_, ?_⟩
      · rw [Client.handleFrames_front hinput hfinds' hhandled]
        exact hrest
      · rwa [List.append_cons]
      · rw [hinput]
        simp only [streamBytes, List.flatMap_cons, List.append_assoc] at hmore' ⊢
        rw [hmore']

end Data

end Probe

end PmuSimulator

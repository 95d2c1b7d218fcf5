import Mathlib
import PmuSimulator.Probe.Exchange

/-!
# A client and its endpoint

A client of the probe talks to an endpoint that answers as the simulator does: every command with a
static frame, as soon as it has been sent to its end, and the start of the stream with data frames.
In whatever pieces commands are written and answers are read, the client goes through its commands
in order, never fails, and has taken exactly the frames that it was given to their ends.
-/

namespace PmuSimulator

namespace Probe

/-! ### What is said -/

/-- The commands of a client, in order. -/
def script : WireVersion → List Command
  | .v2 => [.v2 .header, .v2 .configuration1, .v2 .configuration2, .v2 .start]
  | .v3 => [.v3 .capability, .v3 .streamConfiguration, .v3 .start]

namespace Command

/-- The bytes of a command. -/
def bytes (streamId : UInt16) (k : Command) : List UInt8 :=
  (k.encode streamId ⟨0, 0⟩).toOption.getD []

/-- The frames an endpoint queues for a command, with the ticks its stream is given. -/
def replies (ticks : List Tick) (k : Command) : List QueuedFrame :=
  match k.server with
  | .start => ticks.map .data
  | .stop => []
  | command => [.information command]

end Command

/-- The bytes of the commands in front of the script. -/
def commandBytes (e : EndpointDescriptor) (n : Nat) : List UInt8 :=
  ((script e.wireVersion).take n).flatMap (Command.bytes e.streamId)

/-- The frames queued for the commands in front of the script. -/
def repliesTo (e : EndpointDescriptor) (ticks : List Tick) (n : Nat) : List QueuedFrame :=
  ((script e.wireVersion).take n).flatMap (Command.replies ticks)

/-- The bytes of frames that are queued. -/
def frameBytes (context : EndpointContext) (seed : UInt64) (queued : List QueuedFrame) :
    List UInt8 :=
  queued.flatMap fun frame => (frame.contents context seed).getD []

/-! ### Talking -/

/-- A client, with the bytes it has sent and those it has been given. -/
structure Talk where
  client : Client
  sent : List UInt8
  given : List UInt8
  deriving DecidableEq, Repr

/-- What a client hears of its socket. -/
inductive ClientEvent where
  | writable (write : WriteAnswer)
  | readable (pieces : List (List UInt8))

namespace Talk

/-- The client of an endpoint, before it is connected. -/
def begun (e : EndpointDescriptor) : Talk := ⟨.new e.wireVersion e.streamId e.dataRateHz, [], []⟩

section Registered

variable (registry : Registry) (token : Nat)

/-- The client's part of the loop of `Probe::run`. -/
def handle (t : Talk) : ClientEvent → Except ProbeFailure Talk
  | .writable write => do
    let (bytes, client) ← t.client.writeReady registry token (.ok none) write
    return ⟨client, t.sent ++ bytes, t.given⟩
  | .readable pieces => do
    let client ← t.client.readReady registry token (pieces.map .data)
    return ⟨client, t.sent, t.given ++ pieces.flatten⟩

/-- The machine of one client. -/
def machine : Machine Talk ClientEvent Unit ProbeFailure :=
  ⟨fun t event => (t.handle registry token event).map fun t' => ((), t')⟩

end Registered

/-- What may happen: a write works, and what is read is a reply to the commands that have been sent
to their ends, and leaves room in the buffer. -/
def Allows (context : EndpointContext) (seed : UInt64) (ticks : List Tick) (t : Talk) :
    ClientEvent → Prop
  | .writable write => write.Works
  | .readable pieces => (∀ piece ∈ pieces, piece ≠ []) ∧
      t.client.input.length + pieces.flatten.length < maxFrameBytes ∧
      t.given ++ pieces.flatten <+: frameBytes context seed
        (repliesTo context.descriptor ticks (t.sent.length / commandFrameBytes))

end Talk

/-! ### The script -/

section Script

variable {v : WireVersion} {n : Nat} {k : Command}

/-- The places of the script. -/
lemma script_cases (turn : (script v)[n]? = some k) :
    k.wireVersion = v ∧ (script v)[n + 1]? = k.next ∧ (∃ state, k.written = some state) ∧
      (k.next = none → k.server = .start ∧ k.written = some .streaming) := by
  have hlt : n < 4 := by
    refine (List.getElem?_eq_some_iff.mp turn).1.trans_le ?_
    cases v <;> decide
  cases v with
  | v2 => interval_cases n <;> cases turn <;> simp [Command.wireVersion, Command.next, script,
      Command.server, Command.written, serverCommandOfV2]
  | v3 => interval_cases n <;> cases turn <;> simp [Command.wireVersion, Command.next, script,
      Command.server, Command.written, serverCommandOfV3]

lemma encode_bytes (streamId : UInt16) (k : Command) :
    k.encode streamId ⟨0, 0⟩ = .ok (k.bytes streamId) ∧ (k.bytes streamId).length = 18 := by
  obtain ⟨frame, hframe, hlength⟩ := Command.encode_eq streamId k
  have hbytes : k.bytes streamId = frame := by
    rw [Command.bytes, hframe]
    rfl
  rw [hbytes]
  exact ⟨hframe, hlength⟩

variable {e : EndpointDescriptor}

lemma commandBytes_succ (turn : (script e.wireVersion)[n]? = some k) :
    commandBytes e (n + 1) = commandBytes e n ++ k.bytes e.streamId := by
  rw [commandBytes, List.take_add_one, turn, List.flatMap_append]
  exact congrArg _ (List.append_nil _)

lemma repliesTo_succ (ticks : List Tick) (turn : (script e.wireVersion)[n]? = some k) :
    repliesTo e ticks (n + 1) = repliesTo e ticks n ++ k.replies ticks := by
  rw [repliesTo, List.take_add_one, turn, List.flatMap_append]
  exact congrArg _ (List.append_nil _)

lemma commandBytes_length (h : n ≤ (script e.wireVersion).length) :
    (commandBytes e n).length = 18 * n := by
  induction n with
  | zero => rfl
  | succ n ih =>
    have turn := List.getElem?_eq_getElem (show n < (script e.wireVersion).length from h)
    rw [commandBytes_succ turn, List.length_append, ih (Nat.le_of_succ_le h),
      (encode_bytes _ _).2, Nat.mul_succ]

lemma frameBytes_append (context : EndpointContext) (seed : UInt64)
    (queued queued' : List QueuedFrame) : frameBytes context seed (queued ++ queued') =
      frameBytes context seed queued ++ frameBytes context seed queued' := List.flatMap_append

lemma streamBytes_append (context : EndpointContext) (seed : UInt64) (ticks ticks' : List Tick) :
    streamBytes context seed (ticks ++ ticks') =
      streamBytes context seed ticks ++ streamBytes context seed ticks' := List.flatMap_append

/-- A command that another one follows is answered with a static frame. -/
lemma replies_of_next {k' : Command} (ticks : List Tick) (hnext : k.next = some k') :
    k.replies ticks = [.information k.server] := by
  cases k with
  | v2 command => cases command <;> cases hnext <;> rfl
  | v3 command => cases command <;> cases hnext <;> rfl

lemma frameBytes_answer {context : EndpointContext} {seed : UInt64} {command : ServerCommand}
    {bytes : List UInt8} (answer : context.frames.staticFrame command = some bytes) :
    frameBytes context seed [.information command] = bytes := by
  simp [frameBytes, QueuedFrame.contents, answer]

/-- The start of the stream is answered with data frames. -/
lemma replies_of_start (ticks : List Tick) (hstart : k.server = .start) :
    k.replies ticks = ticks.map .data := by
  rw [Command.replies, hstart]

lemma frameBytes_data (context : EndpointContext) (seed : UInt64) (ticks : List Tick) :
    frameBytes context seed (ticks.map .data) = streamBytes context seed ticks := by
  rw [frameBytes, List.flatMap_map]
  rfl

end Script

/-! ### Where a client stands -/

/-- A command that is written is not being sent any more. -/
lemma written_ne_sending (k k' : Command) : k.written ≠ some (.sending k') := by
  cases k with
  | v2 command => cases command <;> simp [Command.written]
  | v3 command => cases command <;> simp [Command.written]

lemma Client.unwritten_of_written {client : Client} {k : Command}
    (h : k.written = some client.state) : client.unwritten = [] := by
  cases hstate : client.state with
  | sending k' => exact absurd (hstate ▸ h) (written_ne_sending k k')
  | _ => simp only [Client.unwritten, hstate]

lemma Client.unwritten_of_sending {client : Client} {k : Command}
    (h : client.state = .sending k) :
    client.unwritten = client.output.drop client.outputOffset := by
  simp only [Client.unwritten, h]

/-- A client that is at a command of the script: those before it are answered. -/
structure Turn (context : EndpointContext) (seed : UInt64) (ticks : List Tick) (t : Talk) (n : Nat)
    (k : Command) : Prop where
  turn : (script context.descriptor.wireVersion)[n]? = some k
  sent : t.sent ++ t.client.unwritten = commandBytes context.descriptor (n + 1)
  known : t.client.configuration = k.known context.descriptor
  fresh : t.client.lastTimestamp = none ∧ t.client.dataFrames = 0
  given : t.given =
    frameBytes context seed (repliesTo context.descriptor ticks n) ++ t.client.input

/-- Where a client stands in the conversation. -/
inductive Stands (context : EndpointContext) (seed : UInt64) (ticks : List Tick) (t : Talk) : Prop
  | connecting (fresh : t = .begun context.descriptor)
  | sending {n : Nat} {k : Command} (turn : Turn context seed ticks t n k)
      (state : t.client.state = .sending k) (output : t.client.output.length = 18)
      (short : t.client.outputOffset < 18) (empty : t.client.input = [])
  | waiting {n : Nat} {k k' : Command} {bytes : List UInt8} (turn : Turn context seed ticks t n k)
      (state : k.written = some t.client.state) (next : k.next = some k')
      (answer : context.frames.staticFrame k.server = some bytes)
      (front : t.client.input <+: bytes) (begun : t.client.input ≠ bytes)
  | streaming {n : Nat} {k : Command} {taken rest : List Tick}
      (turn : (script context.descriptor.wireVersion)[n]? = some k) (last : k.server = .start)
      (sent : t.sent = commandBytes context.descriptor (n + 1)) (all : ticks = taken ++ rest)
      (follows : t.client.Follows context seed taken rest)
      (given : t.given = frameBytes context seed (repliesTo context.descriptor ticks n) ++
        (streamBytes context seed taken ++ t.client.input))

section Steps

variable {context : EndpointContext} {clock : WallClock} {seed : UInt64} {ticks : List Tick}
  {t : Talk} {n : Nat} {k : Command} {registry : Registry} {token : Nat}

lemma Turn.lt (h : Turn context seed ticks t n k) :
    n < (script context.descriptor.wireVersion).length := (List.getElem?_eq_some_iff.mp h.turn).1

/-- The commands before this one are sent to their ends. -/
lemma Turn.before (h : Turn context seed ticks t n k) (state : t.client.state = .sending k)
    (output : t.client.output.length = 18) (short : t.client.outputOffset < 18) :
    t.sent.length / commandFrameBytes = n := by
  have hlength := congrArg List.length h.sent
  rw [List.length_append, commandBytes_length h.lt, Client.unwritten_of_sending state,
    List.length_drop, output] at hlength
  rw [commandFrameBytes]
  omega

lemma whole_sent (hlt : n < (script context.descriptor.wireVersion).length)
    (h : t.sent = commandBytes context.descriptor (n + 1)) :
    t.sent.length / commandFrameBytes = n + 1 := by
  rw [h, commandBytes_length hlt, commandFrameBytes, Nat.mul_div_cancel_left _ (by decide)]

lemma Turn.sent_eq (h : Turn context seed ticks t n k) (state : k.written = some t.client.state) :
    t.sent = commandBytes context.descriptor (n + 1) := by
  rw [← h.sent, Client.unwritten_of_written state, List.append_nil]

/-! ### Writing -/

/-- The answer to a command, as the client finds it. -/
lemma Legible.answer (legible : Legible context clock) {k' : Command} (hnext : k.next = some k')
    (hversion : k.wireVersion = context.descriptor.wireVersion) :
    ∃ bytes frame, context.frames.staticFrame k.server = some bytes ∧
      DecodesAnswer context.descriptor (clock.timestampForSample 0) k.server bytes frame :=
  legible.answers k.server (hversion ▸ (informationPending_server hnext).1)

lemma DecodesAnswer.finds {e : EndpointDescriptor} {timestamp : Timestamp}
    {command : ServerCommand} {bytes : List UInt8} {frame : DecodedFrame}
    (h : DecodesAnswer e timestamp command bytes frame) :
    Client.Finds e.wireVersion e.streamId bytes frame := ⟨h.fits.le, h.decoded, h.streamId⟩

lemma Client.Finds.ne_nil {wireVersion : WireVersion} {streamId : UInt16} {bytes : List UInt8}
    {frame : DecodedFrame} (h : Client.Finds wireVersion streamId bytes frame) : [] ≠ bytes := by
  rintro rfl
  exact absurd h.size.1 (by decide)

/-- A client that is told to stream has taken nothing, and waits for the first tick. -/
lemma follows_start (seed : UInt64) (legible : Legible context clock)
    (consecutive : Consecutive clock ticks) {client : Client} (of : client.Of context.descriptor)
    (streams : client.Streams context.descriptor []) (empty : client.input = []) :
    client.Follows context seed [] ticks where
  streams := streams
  short := by
    intro tick htick
    obtain ⟨rest, rfl⟩ := List.head?_eq_some_iff.mp htick
    have hfirst : Consecutive clock ([] ++ [tick]) :=
      ⟨fun t ht => consecutive.sampled t (List.mem_singleton.mp ht ▸ List.mem_cons_self),
        List.isChain_singleton _⟩
    obtain ⟨frame, hfinds, -⟩ := handleFrame_data seed takingRegistry 0 client legible of streams
      hfirst
    rw [empty]
    exact ⟨hfinds.ne_nil, List.nil_prefix⟩
  nothing := fun _ => empty

/-- A command that is written to its end is waited on, and the last one starts the stream. -/
lemma stands_written (legible : Legible context clock) (consecutive : Consecutive clock ticks)
    (of : t.client.Of context.descriptor) (turn : Turn context seed ticks t n k)
    (state : k.written = some t.client.state) (empty : t.client.input = []) :
    Stands context seed ticks t := by
  obtain ⟨hversion, -, -, hlast⟩ := script_cases turn.turn
  cases hnext : k.next with
  | some k' =>
    obtain ⟨bytes, frame, hbytes, hanswer⟩ := legible.answer hnext hversion
    refine .waiting turn state hnext hbytes ?_ ?_
    · rw [empty]
      exact List.nil_prefix
    · rw [empty]
      exact hanswer.finds.ne_nil
  | none =>
    obtain ⟨hstart, hstreaming⟩ := hlast hnext
    have hstate : t.client.state = .streaming := Option.some.inj (state.symm.trans hstreaming)
    have hknown : t.client.configuration =
        some ⟨context.descriptor.timeBase, context.descriptor.pmuId,
          context.descriptor.dataRateHz⟩ := by
      rw [turn.known]
      cases k with
      | v2 command => cases command <;> cases hstreaming; rfl
      | v3 command => cases command <;> cases hstreaming; rfl
    have streams : t.client.Streams context.descriptor [] :=
      ⟨hstate, hknown, turn.fresh.1, turn.fresh.2⟩
    exact .streaming turn.turn hstart (turn.sent_eq state) (List.nil_append _).symm
      (follows_start seed legible consecutive of streams empty) turn.given

/-- A write of a command that is being sent. -/
lemma stands_write (legible : Legible context clock) (consecutive : Consecutive clock ticks)
    (registers : ∀ interest, registry.reregister token interest = .ok ())
    (of : t.client.Of context.descriptor) (turn : Turn context seed ticks t n k)
    (state : t.client.state = .sending k) (output : t.client.output.length = 18)
    (short : t.client.outputOffset < 18) (empty : t.client.input = []) {write : WriteAnswer}
    (works : write.Works) :
    ∃ bytes client', t.client.writeCommand registry token k write = .ok (bytes, client') ∧
      client'.Of context.descriptor ∧
      Stands context seed ticks ⟨client', t.sent ++ bytes, t.given⟩ := by
  obtain ⟨-, -, ⟨state', hwritten⟩, -⟩ := script_cases turn.turn
  obtain ⟨bytes, client', offset, hwrite, hrest, asks, hbytes⟩ :=
    Client.writeCommand_ok registers works state hwritten (output ▸ short)
  have of' : client'.Of context.descriptor := by
    rw [hrest]
    exact ⟨of.wireVersion, of.streamId, of.dataRateHz⟩
  have hinput : client'.input = t.client.input := by rw [hrest]
  have houtput : client'.output.length = 18 := by
    rw [hrest]
    exact output
  have turn' : Turn context seed ticks ⟨client', t.sent ++ bytes, t.given⟩ n k := by
    refine ⟨turn.turn, ?_, ?_, ?_, ?_⟩
    · rw [List.append_assoc, hbytes, turn.sent]
    · rw [hrest]
      exact turn.known
    · rw [hrest]
      exact turn.fresh
    · rw [hinput]
      exact turn.given
  refine ⟨bytes, client', hwrite, of', ?_⟩
  cases asks with
  | sending hstate hshort =>
    exact .sending turn' hstate houtput (houtput ▸ hshort) (hinput.trans empty)
  | sent hstate =>
    exact stands_written legible consecutive of' turn' hstate (hinput.trans empty)

/-! ### Reading -/

/-- What is read is put behind what is left of the buffer. -/
lemma readReady_pieces {client : Client} {pieces : List (List UInt8)}
    (hsome : ∀ piece ∈ pieces, piece ≠ [])
    (hroom : client.input.length + pieces.flatten.length < maxFrameBytes) :
    client.readReady registry token (pieces.map .data) =
      ({ client with input := client.input ++ pieces.flatten } : Client).handleFrames registry
        token := by
  rw [Client.readReady, Client.fill_pieces hsome hroom]

lemma nextFrame_nil (wireVersion : WireVersion) (streamId : UInt16) :
    Client.nextFrame wireVersion streamId [] = .ok none := rfl

/-- Where nothing is to be read, nothing happens. -/
lemma stands_idle {pieces : List (List UInt8)} (hsome : ∀ piece ∈ pieces, piece ≠ [])
    (empty : t.client.input = []) (hnothing : pieces.flatten = []) :
    t.client.readReady registry token (pieces.map .data) = .ok t.client := by
  have hroom : t.client.input.length + pieces.flatten.length < maxFrameBytes := by
    rw [empty, hnothing]
    decide
  have hsame : ({ t.client with input := t.client.input ++ pieces.flatten } : Client) =
      t.client := by
    rw [hnothing, List.append_nil]
  rw [readReady_pieces hsome hroom, hsame]
  refine Client.handleFrames_waits ?_
  rw [empty]
  exact nextFrame_nil _ _

/-- A part of an answer is waited on, a whole one brings the next command. -/
lemma stands_answer (legible : Legible context clock)
    (registers : ∀ interest, registry.reregister token interest = .ok ())
    (of : t.client.Of context.descriptor) (turn : Turn context seed ticks t n k)
    (state : k.written = some t.client.state) {k' : Command} (next : k.next = some k')
    {bytes : List UInt8} (answer : context.frames.staticFrame k.server = some bytes)
    {pieces : List (List UInt8)} (hsome : ∀ piece ∈ pieces, piece ≠ [])
    (hroom : t.client.input.length + pieces.flatten.length < maxFrameBytes)
    (front : t.client.input ++ pieces.flatten <+: bytes) :
    ∃ client', t.client.readReady registry token (pieces.map .data) = .ok client' ∧
      client'.Of context.descriptor ∧
      Stands context seed ticks ⟨client', t.sent, t.given ++ pieces.flatten⟩ := by
  obtain ⟨hversion, hturn, -, -⟩ := script_cases turn.turn
  obtain ⟨bytes', frame, hbytes, hanswer⟩ := legible.answer next hversion
  obtain rfl := Option.some.inj (answer.symm.trans hbytes)
  have hfinds : Client.Finds t.client.wireVersion t.client.streamId bytes frame := by
    rw [of.wireVersion, of.streamId]
    exact hanswer.finds
  rw [readReady_pieces hsome hroom]
  by_cases hwhole : t.client.input ++ pieces.flatten = bytes
  · obtain ⟨hencoded, hlength⟩ := encode_bytes context.descriptor.streamId k'
    have of' : ({ t.client with input := [] } : Client).Of context.descriptor :=
      ⟨of.wireVersion, of.streamId, of.dataRateHz⟩
    have hinput : t.client.input ++ pieces.flatten = bytes ++ [] := by
      rw [List.append_nil]
      exact hwhole
    have hhandled : ({ t.client with input := [] } : Client).handleFrame registry token frame =
        .ok (({ t.client with input := [] } : Client).queued context.descriptor k'
          (k'.bytes context.descriptor.streamId)) :=
      Client.handleFrame_answer registers of' next hversion state turn.known hanswer hencoded
        hlength
    have hfront : ({ t.client with input := t.client.input ++ pieces.flatten } :
        Client).handleFrames registry token = _ := Client.handleFrames_front hinput hfinds hhandled
    refine ⟨_, hfront.trans (Client.handleFrames_waits (nextFrame_nil _ _)),
      ⟨of.wireVersion, of.streamId, of.dataRateHz⟩, ?_⟩
    · refine .sending (n := n + 1) (k := k') ⟨hturn.trans next, ?_, rfl, turn.fresh, ?_⟩ rfl hlength
        (show 0 < 18 by decide) rfl
      · rw [commandBytes_succ (hturn.trans next), ← turn.sent_eq state]
        rfl
      · rw [turn.given, List.append_assoc, hwhole, repliesTo_succ ticks turn.turn,
          replies_of_next ticks next, frameBytes_append]
        rw [frameBytes_answer answer]
        exact (List.append_nil _).symm
  · refine ⟨_, Client.handleFrames_waits (Client.nextFrame_begun hfinds front hwhole),
      ⟨of.wireVersion, of.streamId, of.dataRateHz⟩, ?_⟩
    refine .waiting ⟨turn.turn, ?_, turn.known, turn.fresh, ?_⟩ state next answer front hwhole
    · rw [← turn.sent]
      rfl
    · rw [turn.given, List.append_assoc]

/-- Data frames are taken as they become whole. -/
lemma stands_stream (legible : Legible context clock) (consecutive : Consecutive clock ticks)
    (of : t.client.Of context.descriptor) {taken rest : List Tick}
    (turn : (script context.descriptor.wireVersion)[n]? = some k) (last : k.server = .start)
    (sent : t.sent = commandBytes context.descriptor (n + 1)) (all : ticks = taken ++ rest)
    (follows : t.client.Follows context seed taken rest)
    (given : t.given = frameBytes context seed (repliesTo context.descriptor ticks n) ++
      (streamBytes context seed taken ++ t.client.input))
    {pieces : List (List UInt8)} (hsome : ∀ piece ∈ pieces, piece ≠ [])
    (hroom : t.client.input.length + pieces.flatten.length < maxFrameBytes)
    (front : t.client.input ++ pieces.flatten <+: streamBytes context seed rest) :
    ∃ client', t.client.readReady registry token (pieces.map .data) = .ok client' ∧
      client'.Of context.descriptor ∧
      Stands context seed ticks ⟨client', t.sent, t.given ++ pieces.flatten⟩ := by
  obtain ⟨done, rest', client', rfl, hhandled, of', follows', hinput⟩ := handleFrames_data registry
    token { t.client with input := t.client.input ++ pieces.flatten } legible
    ⟨of.wireVersion, of.streamId, of.dataRateHz⟩
    ⟨follows.streams.state, follows.streams.configuration, follows.streams.lastTimestamp,
      follows.streams.dataFrames⟩ (all ▸ consecutive) front
  rw [readReady_pieces hsome hroom]
  refine ⟨client', hhandled, of', .streaming turn last sent ?_ follows' ?_⟩
  · rw [all, List.append_assoc]
  · have hbytes : t.client.input ++ pieces.flatten =
        streamBytes context seed done ++ client'.input := hinput
    rw [given, List.append_assoc, List.append_assoc, hbytes, streamBytes_append, List.append_assoc]

/-! ### One event -/

lemma writeReady_sending {client : Client} (state : client.state = .sending k)
    (takeError : Except ErrorKind (Option String)) (write : WriteAnswer) :
    client.writeReady registry token takeError write =
      client.writeCommand registry token k write := by
  have hconnected : client.connected takeError = .ok client := by
    unfold Client.connected
    rw [if_neg (by simp [state])]
  simp only [Client.writeReady, hconnected, state]

/-- A client that has nothing to write writes nothing. -/
lemma writeReady_idle {client : Client} (begun : client.state ≠ .connecting)
    (idle : ∀ k, client.state ≠ .sending k) (takeError : Except ErrorKind (Option String))
    (write : WriteAnswer) :
    client.writeReady registry token takeError write = .ok ([], client) := by
  have hconnected : client.connected takeError = .ok client := by
    unfold Client.connected
    rw [if_neg begun]
  cases hstate : client.state with
  | sending k => exact absurd hstate (idle k)
  | _ => simp only [Client.writeReady, hconnected, hstate]

lemma handle_writable {write : WriteAnswer} {bytes : List UInt8} {client : Client}
    (h : t.client.writeReady registry token (.ok none) write = .ok (bytes, client)) :
    t.handle registry token (.writable write) = .ok ⟨client, t.sent ++ bytes, t.given⟩ := by
  rw [Talk.handle, h]
  rfl

lemma handle_readable {pieces : List (List UInt8)} {client : Client}
    (h : t.client.readReady registry token (pieces.map .data) = .ok client) :
    t.handle registry token (.readable pieces) =
      .ok ⟨client, t.sent, t.given ++ pieces.flatten⟩ := by
  rw [Talk.handle, h]
  rfl

/-- The client of an endpoint with its first command in front of it. -/
def opening (e : EndpointDescriptor) : Client :=
  { Client.new e.wireVersion e.streamId e.dataRateHz with
    output := (firstCommand e.wireVersion).bytes e.streamId
    state := .sending (firstCommand e.wireVersion) }

/-- A client that is connected starts with the first command. -/
lemma writeReady_begun (e : EndpointDescriptor) (write : WriteAnswer) :
    (Talk.begun e).client.writeReady registry token (.ok none) write =
      (opening e).writeCommand registry token (firstCommand e.wireVersion) write := by
  obtain ⟨hencoded, hlength⟩ := encode_bytes e.streamId (firstCommand e.wireVersion)
  have hqueued : (Talk.begun e).client.queueCommand (firstCommand e.wireVersion) =
      .ok (opening e) := Client.queueCommand_eq _ hencoded hlength
  have hconnected : (Talk.begun e).client.connected (.ok none) = .ok (opening e) := hqueued
  simp only [Client.writeReady, hconnected]
  rfl

lemma turn_opening (context : EndpointContext) (seed : UInt64) (ticks : List Tick) :
    Turn context seed ticks ⟨opening context.descriptor, [], []⟩ 0
      (firstCommand context.descriptor.wireVersion) := by
  have hfirst : (script context.descriptor.wireVersion)[0]? =
      some (firstCommand context.descriptor.wireVersion) := by
    cases context.descriptor.wireVersion <;> rfl
  refine ⟨hfirst, ?_, ?_, ⟨rfl, rfl⟩, rfl⟩
  · rw [commandBytes_succ hfirst]
    rfl
  · have hunknown : (firstCommand context.descriptor.wireVersion).known context.descriptor =
        none := by
      cases context.descriptor.wireVersion <;> rfl
    exact hunknown.symm

/-- Where everything that was answered is given, nothing is left to be read. -/
lemma nothing_left {l m : List UInt8} (h : l ++ m <+: l) : m = [] := by
  have hlength := h.length_le
  rw [List.length_append] at hlength
  exact List.eq_nil_of_length_eq_zero (by omega)

/-- A command that is written is waited on, or the stream has started. -/
lemma written_idle {client : Client} (h : k.written = some client.state) :
    client.state ≠ .connecting ∧ ∀ k', client.state ≠ .sending k' := by
  refine ⟨fun hstate => ?_, fun k' hstate => written_ne_sending k k' (hstate ▸ h)⟩
  rw [hstate] at h
  cases k with
  | v2 command => cases command <;> cases h
  | v3 command => cases command <;> cases h

/-- A write that takes nothing changes nothing. -/
lemma handle_idle (of : t.client.Of context.descriptor) (stands : Stands context seed ticks t)
    (begun : t.client.state ≠ .connecting) (idle : ∀ k, t.client.state ≠ .sending k)
    (write : WriteAnswer) :
    ∃ t', t.handle registry token (.writable write) = .ok t' ∧ t'.client.Of context.descriptor ∧
      Stands context seed ticks t' := by
  have hsame : (⟨t.client, t.sent ++ [], t.given⟩ : Talk) = t := by rw [List.append_nil]
  exact ⟨t, (handle_writable (writeReady_idle begun idle _ write)).trans (congrArg _ hsame), of,
    stands⟩

/-- Whatever may happen, the client handles it, and stands somewhere in the conversation again. -/
lemma stands_handle (legible : Legible context clock) (consecutive : Consecutive clock ticks)
    (registers : ∀ interest, registry.reregister token interest = .ok ())
    (of : t.client.Of context.descriptor) (stands : Stands context seed ticks t)
    {event : ClientEvent} (allowed : t.Allows context seed ticks event) :
    ∃ t', t.handle registry token event = .ok t' ∧ t'.client.Of context.descriptor ∧
      Stands context seed ticks t' := by
  cases event with
  | writable write =>
    cases stands with
    | connecting fresh =>
      subst fresh
      have hlength := (encode_bytes context.descriptor.streamId
        (firstCommand context.descriptor.wireVersion)).2
      have works : write.Works := allowed
      obtain ⟨bytes, client', hwrite, of', stands'⟩ := stands_write legible consecutive
        registers ⟨rfl, rfl, rfl⟩ (turn_opening context seed ticks) rfl hlength
        (show 0 < 18 by decide) rfl works
      exact ⟨_, handle_writable ((writeReady_begun _ write).trans hwrite), of', stands'⟩
    | sending turn state output short empty =>
      obtain ⟨bytes, client', hwrite, of', stands'⟩ := stands_write legible consecutive registers of
        turn state output short empty allowed
      exact ⟨_, handle_writable ((writeReady_sending state _ write).trans hwrite), of', stands'⟩
    | waiting turn state next answer front begun =>
      obtain ⟨hbegun, hidle⟩ := written_idle state
      exact handle_idle of (.waiting turn state next answer front begun) hbegun hidle write
    | streaming turn last sent all follows given =>
      refine handle_idle of (.streaming turn last sent all follows given) ?_ ?_ write
      · rw [follows.streams.state]
        nofun
      · rw [follows.streams.state]
        nofun
  | readable pieces =>
    obtain ⟨hsome, hroom, hgiven⟩ := allowed
    have hstay (empty : t.client.input = []) (hnothing : pieces.flatten = []) :
        ∃ t', t.handle registry token (.readable pieces) = .ok t' ∧
          t'.client.Of context.descriptor ∧ Stands context seed ticks t' := by
      have hsame : (⟨t.client, t.sent, t.given ++ pieces.flatten⟩ : Talk) = t := by
        rw [hnothing, List.append_nil]
      exact ⟨t, (handle_readable (stands_idle hsome empty hnothing)).trans (congrArg _ hsame), of,
        stands⟩
    cases stands with
    | connecting fresh =>
      subst fresh
      have hnone : (Talk.begun context.descriptor).sent.length / commandFrameBytes = 0 :=
        Nat.zero_div _
      rw [hnone, repliesTo, List.take_zero] at hgiven
      exact hstay rfl (List.prefix_nil.mp hgiven)
    | sending turn state output short empty =>
      rw [turn.before state output short, turn.given, empty, List.append_nil] at hgiven
      exact hstay empty (nothing_left hgiven)
    | waiting turn state next answer front begun =>
      rw [whole_sent turn.lt (turn.sent_eq state), turn.given, repliesTo_succ ticks turn.turn,
        frameBytes_append, List.append_assoc, List.prefix_append_right_inj,
        replies_of_next ticks next] at hgiven
      rw [frameBytes_answer answer] at hgiven
      obtain ⟨client', hread, of', stands'⟩ :=
        stands_answer legible registers of turn state next answer hsome hroom hgiven
      exact ⟨_, handle_readable hread, of', stands'⟩
    | streaming turn last sent all follows given =>
      rw [whole_sent (List.getElem?_eq_some_iff.mp turn).1 sent, given, repliesTo_succ ticks turn,
        frameBytes_append, List.append_assoc, List.prefix_append_right_inj,
        replies_of_start ticks last, frameBytes_data, all, streamBytes_append, List.append_assoc,
        List.prefix_append_right_inj] at hgiven
      obtain ⟨client', hread, of', stands'⟩ := stands_stream legible consecutive of turn last
        sent all follows given hsome hroom hgiven
      exact ⟨_, handle_readable hread, of', stands'⟩

/-! ### Every run -/

/-- No data frames are queued before the stream starts. -/
lemma ticks_before (turn : (script context.descriptor.wireVersion)[n]? = some k)
    (ticks : List Tick) :
    (repliesTo context.descriptor ticks n).filterMap QueuedFrame.tick = [] := by
  have hlt : n < 4 := by
    refine (List.getElem?_eq_some_iff.mp turn).1.trans_le ?_
    cases context.descriptor.wireVersion <;> decide
  rw [repliesTo]
  generalize context.descriptor.wireVersion = v at turn
  cases v with
  | v2 => interval_cases n <;> rfl
  | v3 => interval_cases n <;> first | rfl | cases turn

lemma ticks_data (ticks : List Tick) :
    (ticks.map QueuedFrame.data).filterMap QueuedFrame.tick = ticks := by
  rw [List.filterMap_map]
  exact List.filterMap_some

lemma commandBytes_front (e : EndpointDescriptor) (n : Nat) :
    commandBytes e n <+: commandBytes e (script e.wireVersion).length := by
  obtain ⟨rest, hrest⟩ := List.take_prefix n (script e.wireVersion)
  refine ⟨rest.flatMap (Command.bytes e.streamId), ?_⟩
  rw [commandBytes, commandBytes, List.take_length, ← List.flatMap_append, hrest]

/-- What is sent in every place of the conversation. -/
lemma Stands.sent_front (stands : Stands context seed ticks t) :
    t.sent <+: commandBytes context.descriptor (script context.descriptor.wireVersion).length := by
  cases stands with
  | connecting fresh =>
    subst fresh
    exact List.nil_prefix
  | sending turn state output short empty =>
    exact List.IsPrefix.trans ⟨_, turn.sent⟩ (commandBytes_front ..)
  | waiting turn state next answer front begun =>
    exact List.IsPrefix.trans ⟨_, turn.sent⟩ (commandBytes_front ..)
  | streaming turn last sent all follows given =>
    rw [sent]
    exact commandBytes_front ..

/-- The frames that were given to a client to their ends, and those that were not. -/
structure Received (context : EndpointContext) (seed : UInt64) (t : Talk)
    (taken due : List QueuedFrame) : Prop where
  given : t.given = frameBytes context seed taken ++ t.client.input
  short : ∀ frame ∈ due.head?, t.client.input <+: frameBytes context seed [frame] ∧
    t.client.input ≠ frameBytes context seed [frame]
  nothing : due = [] → t.client.input = []
  dataFrames : t.client.dataFrames = (taken.filterMap QueuedFrame.tick).length

/-- What is taken in every place of the conversation. -/
lemma Stands.taken (stands : Stands context seed ticks t) :
    ∃ taken due, repliesTo context.descriptor ticks (t.sent.length / commandFrameBytes) =
      taken ++ due ∧ Received context seed t taken due := by
  cases stands with
  | connecting fresh =>
    subst fresh
    have hnone : (Talk.begun context.descriptor).sent.length / commandFrameBytes = 0 :=
      Nat.zero_div _
    refine ⟨[], [], ?_, rfl, by simp, fun _ => rfl, rfl⟩
    rw [hnone, repliesTo, List.take_zero]
    rfl
  | sending turn state output short empty =>
    refine ⟨_, [], ?_, turn.given, by simp, fun _ => empty, ?_⟩
    · rw [turn.before state output short, List.append_nil]
    · rw [turn.fresh.2, ticks_before turn.turn, List.length_nil]
  | @waiting n k k' bytes turn state next answer front begun =>
    refine ⟨_, [.information k.server], ?_, turn.given, ?_, by simp, ?_⟩
    · rw [whole_sent turn.lt (turn.sent_eq state), repliesTo_succ ticks turn.turn,
        replies_of_next ticks next]
    · rintro _ ⟨⟩
      rw [frameBytes_answer answer]
      exact ⟨front, begun⟩
    · rw [turn.fresh.2, ticks_before turn.turn, List.length_nil]
  | @streaming n k taken rest turn last sent all follows given =>
    refine ⟨repliesTo context.descriptor ticks n ++ taken.map .data, rest.map .data, ?_, ?_, ?_, ?_,
      ?_⟩
    · rw [whole_sent (List.getElem?_eq_some_iff.mp turn).1 sent, repliesTo_succ ticks turn,
        replies_of_start ticks last, List.append_assoc, ← List.map_append, ← all]
    · rw [given, frameBytes_append, frameBytes_data, List.append_assoc]
    · intro frame hframe
      rw [List.head?_map, Option.mem_map] at hframe
      obtain ⟨tick, htick, rfl⟩ := hframe
      obtain ⟨hne, hfront⟩ := follows.short tick htick
      have hbytes : frameBytes context seed [.data tick] = tickBytes context seed tick :=
        List.append_nil _
      rw [hbytes]
      exact ⟨hfront, hne⟩
    · intro hnone
      exact follows.nothing (List.map_eq_nil_iff.mp hnone)
    · rw [follows.streams.dataFrames, List.filterMap_append, ticks_before turn, ticks_data,
        List.nil_append]

/-- Where everything is given, everything is taken. -/
lemma Received.all {taken due : List QueuedFrame} (h : Received context seed t taken due)
    (given : t.given = frameBytes context seed (taken ++ due)) : due = [] := by
  cases due with
  | nil => rfl
  | cons frame due =>
    obtain ⟨hfront, hne⟩ := h.short frame rfl
    rw [h.given, frameBytes_append, List.append_cancel_left_eq] at given
    have hlonger : frameBytes context seed [frame] <+: t.client.input := by
      have hcons : frame :: due = [frame] ++ due := rfl
      rw [given, hcons, frameBytes_append]
      exact List.prefix_append _ _
    exact absurd (hfront.eq_of_length_le hlonger.length_le) hne

/-- A client stands somewhere in the conversation in every run of allowed events. -/
lemma stands_of_run (legible : Legible context clock) (consecutive : Consecutive clock ticks)
    (registers : ∀ interest, registry.reregister token interest = .ok ())
    {h : List (Machine.Taken Talk ClientEvent Unit)}
    (run : (Talk.machine registry token).Run (.begun context.descriptor) h t)
    (allowed : ∀ x ∈ h, x.before.Allows context seed ticks x.input) :
    t.client.Of context.descriptor ∧ Stands context seed ticks t := by
  refine run.history (P := fun h t => (∀ x ∈ h, x.before.Allows context seed ticks x.input) →
    t.client.Of context.descriptor ∧ Stands context seed ticks t) ?_ ?_ allowed
  · exact fun _ => ⟨⟨rfl, rfl, rfl⟩, .connecting rfl⟩
  · intro h r event o r' _ ih hstep allowed
    obtain ⟨of, stands⟩ := ih fun x hx => allowed x (List.mem_append_left _ hx)
    obtain ⟨t', hhandle, of', stands'⟩ := stands_handle legible consecutive registers of stands
      (allowed ⟨r, event, o, r'⟩ (by simp))
    have hstep : (r.handle registry token event).map (fun t' => ((), t')) = .ok (o, r') := hstep
    rw [hhandle] at hstep
    obtain ⟨-, rfl⟩ := Prod.mk.inj (Except.ok.inj hstep)
    exact ⟨of', stands'⟩

end Steps

/-! ### Accepted profiles -/

section Numbers

variable {F : Type} [Add F] [Mul F] [Div F] [LT F] [LE F] [DecidableLT F] [DecidableLE F]
  [OfScientific F] [Numeric F]

/-- A client can rely on every endpoint a server is bound with. -/
lemma legible_of_bind (truncates : Numeric.Truncates F) {single : F → Float32}
    {profile : Profile F} {compiled : CompiledProfile} {wireVersion : WireVersion}
    {tables : ChannelTables} (h : profile.Compiles single compiled wireVersion tables)
    {input : BindInput} (hprofile : input.profile = compiled) {s : Server}
    (hbind : bindInner input = .ok s) {e : Endpoint} (he : e ∈ s.endpoints) :
    Legible e.toEndpointContext s.wallClock := by
  obtain ⟨first, rest, clock, started, endpoints, hall, hsame, aligned, hendpoints, rfl⟩ :=
    bindInner_ok hbind
  obtain ⟨descriptor, hmem, hmade⟩ := (exists_of_mapM_ok hendpoints).2 e he
  obtain ⟨frames, hframes, hmade⟩ := bind_eq_ok.mp hmade
  obtain rfl := Except.ok.inj hmade
  obtain ⟨hrate, hbase⟩ := hsame descriptor hmem
  rw [← hrate, ← hbase] at aligned
  rw [hprofile] at hall
  rw [← hall] at hmem
  have readable := readable_of_compiles truncates h hmem
  have admitted := admittedRate_of_compiles h hmem
  obtain ⟨frames', hframes', hanswers⟩ :=
    staticFrames_decoded readable (firstTimestamp_fracsec admitted aligned)
  obtain rfl := Except.ok.inj (hframes.symm.trans hframes')
  exact ⟨readable, admitted, WallClock.aligned_of_start admitted aligned, hanswers⟩

/-- A client talks to an endpoint of an accepted profile. As long as its socket works, and what it
reads is what the simulator queues for the commands it has sent, in whatever pieces, it does not
fail: it sends the commands of its script and nothing else, and has taken exactly the frames that
were given to it to their ends. -/
theorem conversation_of_run (single : F → Float32) (profile : Profile F)
    (compiled : CompiledProfile) (truncates : Numeric.Truncates F)
    (accepted : compileProfile single profile = .ok compiled) (input : BindInput)
    (hprofile : input.profile = compiled) (s : Server) (hbind : bindInner input = .ok s)
    (e : Endpoint) (he : e ∈ s.endpoints) (ticks : List Tick)
    (consecutive : Consecutive s.wallClock ticks) (registry : Registry) (token : Nat)
    (registers : ∀ interest, registry.reregister token interest = .ok ())
    (h : List (Machine.Taken Talk ClientEvent Unit)) (t : Talk)
    (run : (Talk.machine registry token).Run (.begun e.descriptor) h t)
    (allowed : ∀ x ∈ h, x.before.Allows e.toEndpointContext s.seed ticks x.input) :
    (∀ event, t.Allows e.toEndpointContext s.seed ticks event →
      ∃ t', (Talk.machine registry token).step t event = .ok ((), t')) ∧
    t.sent <+: commandBytes e.descriptor (script e.descriptor.wireVersion).length ∧
    ∃ taken due, repliesTo e.descriptor ticks (t.sent.length / commandFrameBytes) = taken ++ due ∧
      Received e.toEndpointContext s.seed t taken due ∧
      (t.given = frameBytes e.toEndpointContext s.seed (taken ++ due) → due = []) := by
  obtain ⟨wireVersion, tables, hcompiles⟩ := compileProfile_ok accepted
  have legible := legible_of_bind truncates hcompiles hprofile hbind he
  obtain ⟨of, stands⟩ := stands_of_run legible consecutive registers run allowed
  obtain ⟨taken, due, hreplies, received⟩ := stands.taken
  refine ⟨fun event hevent => ?_, stands.sent_front, taken, due, hreplies, received, received.all⟩
  obtain ⟨t', hhandle, -⟩ := stands_handle legible consecutive registers of stands hevent
  refine ⟨t', ?_⟩
  change (t.handle registry token event).map (fun t' => ((), t')) = _
  rw [hhandle]
  rfl

end Numbers

/-- What the simulator writes to a connection is what a client may be given, if the frames that it
queued are replies to the commands it was sent. -/
theorem written_of_replies {registry : Registry} {codec : ManagementCodec} {l₀ l : EventLoop}
    {h : List (Machine.Taken EventLoop Input (List Report))} (started : Started l₀)
    (run : (eventLoop registry codec).Run l₀ h l) {i : Nat} {e : Endpoint}
    (he : l.server.endpoints[i]? = some e) (slot : Slot) (connectionId : Nat) {ticks : List Tick}
    {n : Nat} (replies : framesQueued (connectionLog connectionId (placeHistory i slot h)) <+:
      repliesTo e.descriptor ticks n) :
    bytesWritten (connectionLog connectionId (placeHistory i slot h)) <+:
      frameBytes e.toEndpointContext l₀.server.seed (repliesTo e.descriptor ticks n) := by
  obtain ⟨frames, hframes, hwritten⟩ := (inOrder_of_run started run he slot connectionId).whole
  obtain ⟨due, hdue⟩ := replies
  have hflatten : frames.flatten = frameBytes e.toEndpointContext l₀.server.seed
      (framesQueued (connectionLog connectionId (placeHistory i slot h))) := by
    have hbytes := congrArg (List.map fun bytes => bytes.getD []) hframes
    rw [List.map_map, List.map_map] at hbytes
    have hsame : (fun bytes : Option (List UInt8) => bytes.getD []) ∘ some = id := rfl
    rw [hsame, List.map_id] at hbytes
    rw [frameBytes, List.flatMap_def, ← hbytes]
    rfl
  rw [← hdue, frameBytes_append, ← hflatten]
  exact hwritten.trans (List.prefix_append _ _)

/-! ### A conversation with the small profile -/

instance decidableAllows (context : EndpointContext) (seed : UInt64) (ticks : List Tick) (t : Talk)
    (event : ClientEvent) : Decidable (t.Allows context seed ticks event) :=
  match event with
  | .writable write => inferInstanceAs (Decidable write.Works)
  | .readable _ => inferInstanceAs (Decidable (_ ∧ _ ∧ _))

/-- Take events that are allowed, one after the other. -/
def Talk.plays (context : EndpointContext) (seed : UInt64) (ticks : List Tick) :
    List ClientEvent → Talk → Option Talk
  | [], t => some t
  | event :: events, t =>
    if t.Allows context seed ticks event then
      match t.handle takingRegistry 0 event with
      | .ok t' => plays context seed ticks events t'
      | .error _ => none
    else none

lemma run_of_plays {context : EndpointContext} {seed : UInt64} {ticks : List Tick}
    {events : List ClientEvent} {t t' : Talk} (h : t.plays context seed ticks events = some t') :
    ∃ steps, (Talk.machine takingRegistry 0).Run t steps t' ∧
      ∀ x ∈ steps, x.before.Allows context seed ticks x.input := by
  induction events generalizing t with
  | nil =>
    obtain rfl := Option.some.inj h
    exact ⟨[], .nil, by simp⟩
  | cons event events ih =>
    rw [Talk.plays] at h
    split_ifs at h with hallowed
    cases hhandle : t.handle takingRegistry 0 event with
    | error failure => simp [hhandle] at h
    | ok next =>
      rw [hhandle] at h
      obtain ⟨steps, run, hsteps⟩ := ih h
      have hstep : (Talk.machine takingRegistry 0).step t event = .ok ((), next) :=
        congrArg (Except.map fun t' => ((), t')) hhandle
      exact ⟨_, .cons hstep run, List.forall_mem_cons.mpr ⟨hallowed, hsteps⟩⟩

/-- An endpoint of the server. -/
def soleBound : Endpoint := soleServer.endpoints.head (by decide +kernel)

/-- The first tick of the server. -/
def soleTick : Tick := ⟨0, soleServer.wallClock.timestampForSample 0, false, none⟩

/-- A client writes its first two commands in pieces, and reads the first answer and the beginning
of the second one. -/
def soleEvents : List ClientEvent :=
  let answer (command : ServerCommand) := (soleBound.frames.staticFrame command).getD []
  [.writable (.accepts 3), .writable (.accepts 18), .readable [(answer .v2Header).take 2],
    .readable [(answer .v2Header).drop 2], .writable (.accepts 17), .writable (.accepts 18),
    .readable [(answer .v2Configuration1).take 50]]

theorem conversation_of_run_small : ∃ (h : List (Machine.Taken Talk ClientEvent Unit)) (t : Talk),
    (Talk.machine takingRegistry 0).Run (.begun soleBound.descriptor) h t ∧
      t.client.state = .awaitingConfiguration1 ∧ t.client.input.length = 50 ∧
      (∃ t', (Talk.machine takingRegistry 0).step t (.writable (.accepts 1)) = .ok ((), t')) ∧
      ∃ taken due, repliesTo soleBound.descriptor [soleTick] 2 = taken ++ due ∧
        Received soleBound.toEndpointContext soleServer.seed t taken due := by
  have hplays : ((Talk.begun soleBound.descriptor).plays soleBound.toEndpointContext soleServer.seed
      [soleTick] soleEvents).any (fun t => decide (t.client.state = .awaitingConfiguration1 ∧
        t.client.input.length = 50 ∧ t.sent.length / commandFrameBytes = 2)) = true := by
    decide +kernel
  obtain ⟨t, ht, hcheck⟩ := (Option.any_eq_true _ _).mp hplays
  obtain ⟨hstate, hinput, hsent⟩ := of_decide_eq_true hcheck
  obtain ⟨h, run, allowed⟩ := run_of_plays ht
  have consecutive : Consecutive soleServer.wallClock [soleTick] := by
    refine ⟨fun tick htick => ?_, List.isChain_singleton _⟩
    rw [List.mem_singleton.mp htick]
    exact ⟨rfl, by decide +kernel⟩
  obtain ⟨hnext, -, taken, due, hreplies, received, -⟩ := conversation_of_run singleOf
    (soleProfile 230000 400 10) soleCompiled Numeric.truncates_rat compileProfile_sole
    { soleInput .v2 none with profile := soleCompiled } rfl soleServer
    (eq_ok_get (x := bindInner { soleInput .v2 none with profile := soleCompiled }) _) soleBound
    (List.head_mem _) [soleTick] consecutive takingRegistry 0 (fun _ => rfl) h t run allowed
  rw [hsent] at hreplies
  exact ⟨h, t, run, hstate, hinput, hnext (.writable (.accepts 1)) Nat.one_pos, taken, due,
    hreplies, received⟩

end Probe

end PmuSimulator

import Mathlib
import PmuSimulator.Server.Histories
import PmuSimulator.Server.Reporting

/-!
# What is written to a connection

The bytes written to a connection are whole frames one after the other, up to a cut in the frame
that is pending: the static frames that were asked for, the data frames of ticks, and at most one
error response, at the end. The buffer of an endpoint's data frames is only written anew when no
connection has any of it left to send.
-/

namespace PmuSimulator

/-! ### Reading the log -/

namespace Activity

def queuedFrame : Activity → Option QueuedFrame
  | queued frame => some frame
  | _ => none

def written : Activity → List UInt8
  | wrote bytes _ => bytes
  | _ => []

/-- The information command that is taken. -/
def information : Activity → Option ServerCommand
  | accepted .stop => none
  | accepted .start => none
  | accepted command => some command
  | _ => none

end Activity

/-- The frames a connection was given, in order. -/
def framesQueued (log : List Activity) : List QueuedFrame := log.filterMap Activity.queuedFrame

/-- The bytes a connection was sent. -/
def bytesWritten (log : List Activity) : List UInt8 := log.flatMap Activity.written

@[simp] lemma framesQueued_append (log log' : List Activity) :
    framesQueued (log ++ log') = framesQueued log ++ framesQueued log' := List.filterMap_append

@[simp] lemma bytesWritten_append (log log' : List Activity) :
    bytesWritten (log ++ log') = bytesWritten log ++ bytesWritten log' := List.flatMap_append

@[simp] lemma framesQueued_wrote (bytes : List UInt8) (completed : Bool) :
    framesQueued [.wrote bytes completed] = [] := rfl

@[simp] lemma bytesWritten_wrote (bytes : List UInt8) (completed : Bool) :
    bytesWritten [.wrote bytes completed] = bytes := List.append_nil bytes

/-- The static frame a command asks for. -/
def EndpointFrames.staticFrame : EndpointFrames → ServerCommand → Option (List UInt8)
  | v2 header _ _, .v2Header => some header
  | v2 _ configuration1 _, .v2Configuration1 => some configuration1
  | v2 _ _ configuration2, .v2Configuration2 => some configuration2
  | v3 capability _, .v3Capability => some capability
  | v3 _ streamConfiguration, .v3StreamConfiguration => some streamConfiguration
  | _, _ => none

/-- The static frames are of the wire version of the endpoint. -/
def EndpointContext.Sound (context : EndpointContext) : Prop :=
  match context.frames with
  | .v2 .. => context.descriptor.wireVersion = .v2
  | .v3 .. => context.descriptor.wireVersion = .v3

namespace QueuedFrame

/-- The command a static frame answers. -/
def command : QueuedFrame → Option ServerCommand
  | information command => some command
  | _ => none

def tick : QueuedFrame → Option Tick
  | data tick => some tick
  | _ => none

def isErrorResponse : QueuedFrame → Bool
  | errorResponse .. => true
  | _ => false

/-- The bytes of a frame: a data frame is encoded for its tick alone. -/
def contents (context : EndpointContext) (seed : UInt64) : QueuedFrame → Option (List UInt8)
  | information command => context.frames.staticFrame command
  | data tick =>
    match encodeDataFrame context seed tick (emptyDataFrame context.descriptor.wireVersion) with
    | .ok dataFrame => some dataFrame.bytes
    | .error _ => none
  | errorResponse streamId code timestamp =>
    some (WireV3.encodeErrorResponse streamId code timestamp)

end QueuedFrame

/-- What is encoded does not depend on what the buffer held before. -/
lemma encodeDataFrame_empty {context : EndpointContext} {seed : UInt64} {tick : Tick}
    {storage dataFrame : DataFrame}
    (h : encodeDataFrame context seed tick storage = .ok dataFrame) :
    encodeDataFrame context seed tick (emptyDataFrame context.descriptor.wireVersion) =
      .ok dataFrame := by
  unfold encodeDataFrame at h ⊢
  cases hversion : context.descriptor.wireVersion <;> cases storage <;>
    simp_all [emptyDataFrame]

lemma contents_data {context : EndpointContext} {seed : UInt64} {tick : Tick}
    {storage dataFrame : DataFrame}
    (h : encodeDataFrame context seed tick storage = .ok dataFrame) :
    (QueuedFrame.data tick).contents context seed = some dataFrame.bytes := by
  simp only [QueuedFrame.contents, encodeDataFrame_empty h]

lemma pendingFrameBytes_information {context : EndpointContext} (sound : context.Sound)
    {command : ServerCommand} {pending : PendingFrame}
    (asked : informationPending context.descriptor.wireVersion command = some pending)
    (dataFrame : DataFrame) (c : Connection) :
    ∃ frame, context.frames.staticFrame command = some frame ∧ pending.isPending = true ∧
      pending.isData = false ∧ pending.offset = 0 ∧
      pendingFrameBytes context dataFrame { c with pending } = .ok frame := by
  unfold EndpointContext.Sound at sound
  cases hframes : context.frames <;> rw [hframes] at sound <;> simp only at sound <;>
    rw [sound] at asked <;> cases command <;>
    simp only [informationPending, Option.some.injEq, reduceCtorEq] at asked <;> subst asked <;>
    exact ⟨_, rfl, rfl, rfl, rfl, by simp only [pendingFrameBytes, hframes]⟩

/-- The bytes of a pending frame do not depend on how many are sent. -/
lemma pendingFrameBytes_withOffset (context : EndpointContext) (dataFrame : DataFrame)
    (c : Connection) (offset : Nat) :
    pendingFrameBytes context dataFrame { c with pending := c.pending.withOffset offset } =
      pendingFrameBytes context dataFrame c := by
  unfold pendingFrameBytes
  cases c.pending <;> cases context.frames <;> rfl

lemma pendingFrameBytes_dataFrame {context : EndpointContext} {c : Connection}
    (hdata : c.pending.isData = false) (dataFrame dataFrame' : DataFrame) :
    pendingFrameBytes context dataFrame c = pendingFrameBytes context dataFrame' c := by
  unfold pendingFrameBytes
  generalize c.pending = pending at hdata
  cases pending with
  | data offset => cases hdata
  | _ => cases context.frames <;> rfl

/-! ### What is sent -/

/-- The frames a connection was given are all sent, or all but the pending one, which is sent up to
its offset. -/
structure Sent (seed : UInt64) (context : EndpointContext) (dataFrame : DataFrame) (c : Connection)
    (log : List Activity) (frames : List (List UInt8)) : Prop where
  contents : (framesQueued log).map (QueuedFrame.contents context seed) = frames.map some
  idle : c.pending.isPending = false → bytesWritten log = frames.flatten
  waits : c.pending.isPending = true → ∃ earlier frame, frames = earlier ++ [frame] ∧
    pendingFrameBytes context dataFrame c = .ok frame ∧
    bytesWritten log = earlier.flatten ++ frame.take c.pending.offset

namespace Sent

variable {seed : UInt64} {context : EndpointContext} {dataFrame dataFrame' : DataFrame}
  {c c' : Connection} {log log' : List Activity} {frames : List (List UInt8)}

lemma isPrefix (h : Sent seed context dataFrame c log frames) :
    bytesWritten log <+: frames.flatten := by
  cases hp : c.pending.isPending with
  | false => rw [h.idle hp]
  | true =>
    obtain ⟨earlier, frame, rfl, -, hwritten⟩ := h.waits hp
    rw [hwritten, List.flatten_append, List.prefix_append_right_inj]
    simpa using List.take_prefix _ frame

/-- Nothing is queued or written. -/
lemma silent (h : Sent seed context dataFrame c log frames) (hqueued : framesQueued log' = [])
    (hwritten : bytesWritten log' = []) (hpending : c'.pending = c.pending)
    (hbytes : pendingFrameBytes context dataFrame' c' = pendingFrameBytes context dataFrame c) :
    Sent seed context dataFrame' c' (log ++ log') frames where
  contents := by simpa [hqueued] using h.contents
  idle hp := by simpa [hwritten] using h.idle (hpending ▸ hp)
  waits hp := by
    obtain ⟨earlier, frame, hframes, hframe, hw⟩ := h.waits (hpending ▸ hp)
    exact ⟨earlier, frame, hframes, hbytes.trans hframe, by simpa [hwritten, hpending] using hw⟩

/-- A frame is queued. -/
lemma queue (h : Sent seed context dataFrame c log frames) (hidle : c.pending.isPending = false)
    {queued : QueuedFrame} {frame : List UInt8} (hqueued : framesQueued log' = [queued])
    (hwritten : bytesWritten log' = []) (hcontents : queued.contents context seed = some frame)
    (hpending : c'.pending.isPending = true) (hoffset : c'.pending.offset = 0)
    (hbytes : pendingFrameBytes context dataFrame' c' = .ok frame) :
    Sent seed context dataFrame' c' (log ++ log') (frames ++ [frame]) where
  contents := by simp [hqueued, h.contents, hcontents]
  idle hp := by simp [hpending] at hp
  waits _ := ⟨frames, frame, rfl, hbytes, by simp [hwritten, h.idle hidle, hoffset]⟩

/-- Some of the pending frame is written. -/
lemma write (h : Sent seed context dataFrame c log frames) (hwaits : c.pending.isPending = true)
    {frame : List UInt8} (hframe : pendingFrameBytes context dataFrame c = .ok frame) {count : Nat}
    {completed : Bool} :
    Sent seed context dataFrame
      { c with pending := c.pending.withOffset (c.pending.offset + count) }
      (log ++ [.wrote ((frame.drop c.pending.offset).take count) completed]) frames where
  contents := by
    rw [framesQueued_append, framesQueued_wrote, List.append_nil]
    exact h.contents
  idle hp := by
    cases hpending : c.pending <;>
      simp [hpending, PendingFrame.isPending, PendingFrame.withOffset] at hp hwaits
  waits _ := by
    obtain ⟨earlier, frame', hframes, hframe', hw⟩ := h.waits hwaits
    obtain rfl := Except.ok.inj (hframe'.symm.trans hframe)
    refine ⟨earlier, frame', hframes, (pendingFrameBytes_withOffset _ _ _ _).trans hframe, ?_⟩
    have hoffset : (c.pending.withOffset (c.pending.offset + count)).offset =
        c.pending.offset + count := by
      cases hpending : c.pending with
      | none => simp [hpending, PendingFrame.isPending] at hwaits
      | _ => rfl
    simp only [bytesWritten_append, bytesWritten_wrote, hw, hoffset, List.append_assoc,
      List.take_add]

/-- The rest of the pending frame is written. -/
lemma finish (h : Sent seed context dataFrame c log frames) (hwaits : c.pending.isPending = true)
    {frame : List UInt8} (hframe : pendingFrameBytes context dataFrame c = .ok frame) :
    Sent seed context dataFrame { c with pending := .none }
      (log ++ [.wrote (frame.drop c.pending.offset) true]) frames where
  contents := by
    rw [framesQueued_append, framesQueued_wrote, List.append_nil]
    exact h.contents
  idle _ := by
    obtain ⟨earlier, frame', rfl, hframe', hw⟩ := h.waits hwaits
    obtain rfl := Except.ok.inj (hframe'.symm.trans hframe)
    simp [hw]
  waits hp := by cases hp

end Sent

/-! ### One connection -/

/-- What is sent to a connection is in order. -/
structure Delivering (seed : UInt64) (context : EndpointContext) (dataFrame : DataFrame)
    (c : Connection) (log : List Activity) : Prop where
  sound : context.Sound
  sent : ∃ frames, Sent seed context dataFrame c log frames
  information : (framesQueued log).filterMap QueuedFrame.command =
    log.filterMap Activity.information
  last : ∀ frame ∈ (framesQueued log).dropLast, frame.isErrorResponse = false
  stays : c.closeAfterFlush = false → ∀ frame ∈ framesQueued log, frame.isErrorResponse = false
  closes : c.closeAfterFlush = true → c.streaming = false
  streams : c.pending.isData = true → c.streaming = true

namespace Delivering

variable {seed : UInt64} {context : EndpointContext} {dataFrame dataFrame' : DataFrame}
  {c c' : Connection} {log log' : List Activity}

/-- A connection that was just opened. -/
lemma opened (sound : context.Sound) (connectionId token commandLimit : Nat)
    (wireVersion : WireVersion) (acceptedAt : Instant) :
    Delivering seed context dataFrame
      (.new connectionId token commandLimit wireVersion acceptedAt) [] where
  sound := sound
  sent := ⟨[], rfl, fun _ => rfl, fun hp => by cases hp⟩
  information := rfl
  last := by simp [framesQueued]
  stays _ := by simp [framesQueued]
  closes h := by cases h
  streams h := by cases h

/-- Where streaming connections have nothing to send, no data frame is left to be sent. -/
lemma dataless (h : Delivering seed context dataFrame c log)
    (idle : c.streaming = true → c.pending.isPending = false) : c.pending.isData = false := by
  by_contra hdata
  have hidle := idle (h.streams (by simpa using hdata))
  cases hpending : c.pending <;> simp_all [PendingFrame.isData, PendingFrame.isPending]

/-- The buffer of data frames is written anew. -/
lemma encoded (h : Delivering seed context dataFrame c log)
    (idle : c.streaming = true → c.pending.isPending = false) (dataFrame' : DataFrame) :
    Delivering seed context dataFrame' c log := by
  obtain ⟨frames, hsent⟩ := h.sent
  have hsent' : Sent seed context dataFrame' c (log ++ []) frames :=
    hsent.silent rfl rfl rfl (pendingFrameBytes_dataFrame (h.dataless idle) _ _)
  exact { h with sent := ⟨frames, by simpa using hsent'⟩ }

/-- A frame is queued on a connection that stays open. -/
lemma queue (h : Delivering seed context dataFrame c log) (idle : c.pending.isPending = false)
    (stays : c.closeAfterFlush = false) {queued : QueuedFrame} {frame : List UInt8}
    (hqueued : framesQueued log' = [queued]) (hwritten : bytesWritten log' = [])
    (hcommand : queued.command.toList = log'.filterMap Activity.information)
    (hcontents : queued.contents context seed = some frame)
    (hpending : c'.pending.isPending = true) (hoffset : c'.pending.offset = 0)
    (hbytes : pendingFrameBytes context dataFrame c' = .ok frame)
    (herror : c'.closeAfterFlush = false → queued.isErrorResponse = false)
    (hcloses : c'.closeAfterFlush = true → c'.streaming = false)
    (hstreams : c'.pending.isData = true → c'.streaming = true) :
    Delivering seed context dataFrame c' (log ++ log') where
  sound := h.sound
  sent := by
    obtain ⟨frames, hsent⟩ := h.sent
    exact ⟨_, hsent.queue idle hqueued hwritten hcontents hpending hoffset hbytes⟩
  information := by
    simp only [framesQueued_append, List.filterMap_append, h.information, hqueued, ← hcommand]
    cases hc : queued.command <;> simp [hc]
  last := by
    rw [framesQueued_append, hqueued, List.dropLast_concat]
    exact h.stays stays
  stays hstays := by
    rw [framesQueued_append, hqueued]
    intro frame hf
    rcases List.mem_append.mp hf with hf | hf
    · exact h.stays stays frame hf
    · obtain rfl := List.mem_singleton.mp hf
      exact herror hstays
  closes := hcloses
  streams := hstreams

/-- Nothing is queued. -/
lemma keep (h : Delivering seed context dataFrame c log) (hqueued : framesQueued log' = [])
    (hinformation : log'.filterMap Activity.information = [])
    (hsent : ∀ frames, Sent seed context dataFrame c log frames →
      Sent seed context dataFrame c' (log ++ log') frames)
    (hclose : c'.closeAfterFlush = c.closeAfterFlush)
    (hcloses : c'.closeAfterFlush = true → c'.streaming = false)
    (hstreams : c'.pending.isData = true → c'.streaming = true) :
    Delivering seed context dataFrame c' (log ++ log') where
  sound := h.sound
  sent := h.sent.imp hsent
  information := by simpa [hqueued, hinformation] using h.information
  last := by simpa [hqueued] using h.last
  stays hstays := by simpa [hqueued] using h.stays (hclose ▸ hstays)
  closes := hcloses
  streams := hstreams

/-- Every move of a connection keeps what it is sent in order. -/
lemma move (h : Delivering seed context dataFrame c log) (move : Move context dataFrame c log' c') :
    Delivering seed context dataFrame c' (log ++ log') := by
  cases move with
  | receive buffer =>
    exact h.keep rfl rfl (fun frames hsent => hsent.silent rfl rfl rfl rfl) rfl h.closes h.streams
  | read answered =>
    exact h.keep rfl rfl (fun frames hsent => hsent.silent rfl rfl rfl rfl) rfl h.closes h.streams
  | registered interest =>
    exact h.keep rfl rfl (fun frames hsent => hsent.silent rfl rfl rfl rfl) rfl h.closes h.streams
  | counted of =>
    exact h.keep rfl rfl (fun frames hsent => hsent.silent rfl rfl rfl rfl) rfl h.closes h.streams
  | writable =>
    exact h.keep rfl rfl (fun frames hsent => hsent.silent rfl rfl rfl rfl) rfl h.closes h.streams
  | switch now idle stays effect =>
    refine h.keep rfl ?_ (fun frames hsent => hsent.silent rfl rfl rfl rfl) rfl
      (fun hclose => ?_) fun hdata => ?_
    · rcases effect with ⟨rfl, -⟩ | ⟨rfl, -⟩ <;> rfl
    · change c.closeAfterFlush = true at hclose
      cases stays.symm.trans hclose
    · change c.pending.isData = true at hdata
      cases hpending : c.pending <;>
        simp [hpending, PendingFrame.isData, PendingFrame.isPending] at hdata idle
  | inform now idle stays asked =>
    obtain ⟨frame, hstatic, hpending, hdata, hoffset, hbytes⟩ :=
      pendingFrameBytes_information h.sound asked dataFrame (c.recordValidCommand now)
    refine h.queue idle stays rfl rfl ?_ hstatic hpending hoffset hbytes (fun _ => rfl) h.closes
      fun hd => absurd hd (by simpa using hdata)
    -- an information command is neither of the switches of the stream
    cases hversion : context.descriptor.wireVersion <;> rw [hversion] at asked <;>
      rename_i command _ <;> cases command <;> first | rfl | cases asked
  | respond streamId code timestamp idle stays storage =>
    exact h.queue idle stays rfl rfl rfl rfl rfl rfl rfl (fun hclose => by cases hclose)
      (fun _ => rfl) fun hd => by cases hd
  | stall waits =>
    exact h.keep rfl rfl (fun frames hsent => hsent.silent rfl rfl rfl rfl) rfl h.closes h.streams
  | part waits frames some short =>
    refine h.keep rfl rfl (fun _ hsent => hsent.write waits frames) rfl h.closes fun hdata => ?_
    refine h.streams ?_
    cases hpending : c.pending <;> simp_all [PendingFrame.withOffset, PendingFrame.isData]
  | finish waits frames some =>
    exact h.keep rfl rfl (fun _ hsent => hsent.finish waits frames) rfl h.closes
      fun hdata => by cases hdata

end Delivering

/-! ### One place -/

/-- What is sent to the connection of a place is in order. -/
def SlotView.Delivering (seed : UInt64) (v : SlotView) (log : List (Nat × Activity)) : Prop :=
  v.context.Sound ∧ ∀ c ∈ v.connection,
    PmuSimulator.Delivering seed v.context v.dataFrame c (connectionLog c.connectionId log)

lemma PlaceMove.delivering {seed : UInt64} {firstId : Nat} {v v' : SlotView}
    {due due' : Option Tick} {before log : List (Nat × Activity)}
    (hfresh : ∀ entry ∈ before ++ log, entry.1 < firstId) (hv : v.Delivering seed before)
    (move : PlaceMove seed firstId v due log v' due') : v'.Delivering seed (before ++ log) := by
  obtain ⟨sound, hv⟩ := hv
  cases move with
  | moved holds move =>
    refine ⟨sound, ?_⟩
    rintro c' ⟨⟩
    rw [connectionLog_append, move.identity.1, connectionLog_own]
    exact (hv _ holds).move move
  | tick holds idle streams encoded =>
    refine ⟨sound, ?_⟩
    rintro c' ⟨⟩
    rw [connectionLog_append, connectionLog_single]
    have hc := hv _ holds
    have stays : _ = false := Bool.eq_false_iff.mpr fun hclose => by
      cases (hc.closes hclose).symm.trans streams
    exact hc.queue idle stays rfl rfl rfl (contents_data encoded) rfl rfl rfl (fun _ => rfl)
      hc.closes fun _ => streams
  | slow holds streams waits =>
    refine ⟨sound, fun c hc => ?_⟩
    obtain rfl := Option.some.inj (holds.symm.trans hc)
    rw [connectionLog_append, connectionLog_single]
    exact (hv _ holds).keep rfl rfl (fun frames hsent => hsent.silent rfl rfl rfl rfl) rfl
      (hv _ holds).closes (hv _ holds).streams
  | closed holds => exact ⟨sound, by simp⟩
  | lost holds => exact ⟨sound, by simp⟩
  | encoded idle encoded =>
    refine ⟨sound, fun c hc => ?_⟩
    rw [List.append_nil]
    exact (hv c hc).encoded (idle c hc) _
  | @opened _ connectionId token acceptedAt empty fresh =>
    refine ⟨sound, ?_⟩
    rintro c ⟨⟩
    have hlog : connectionLog connectionId (before ++ []) = [] :=
      connectionLog_fresh fun entry he => Nat.lt_of_lt_of_le (hfresh entry he) fresh
    change PmuSimulator.Delivering seed v.context v.dataFrame _
      (connectionLog connectionId (before ++ []))
    rw [hlog]
    exact .opened sound _ _ _ _ _

/-- What is sent on a connection, by what is logged of it: whole frames up to a cut in the last of
them, a static frame for each information command, an error response only as the last frame. -/
structure InOrder (seed : UInt64) (context : EndpointContext) (log : List Activity) : Prop where
  whole : ∃ frames : List (List UInt8),
    (framesQueued log).map (QueuedFrame.contents context seed) = frames.map some ∧
      bytesWritten log <+: frames.flatten
  information : (framesQueued log).filterMap QueuedFrame.command =
    log.filterMap Activity.information
  last : ∀ frame ∈ (framesQueued log).dropLast, frame.isErrorResponse = false

lemma Delivering.inOrder {seed : UInt64} {context : EndpointContext} {dataFrame : DataFrame}
    {c : Connection} {log : List Activity} (h : Delivering seed context dataFrame c log) :
    InOrder seed context log where
  whole := h.sent.imp fun _ hsent => ⟨hsent.contents, hsent.isPrefix⟩
  information := h.information
  last := h.last

/-- What is counted is not sent. -/
lemma InOrder.counted {seed : UInt64} {context : EndpointContext} {log : List Activity}
    (h : InOrder seed context log) (counter : Counter) :
    InOrder seed context (log ++ [.counted counter]) := by
  have hqueued : framesQueued (log ++ [.counted counter]) = framesQueued log := by
    rw [framesQueued_append]
    exact List.append_nil _
  have hwritten : bytesWritten (log ++ [.counted counter]) = bytesWritten log := by
    rw [bytesWritten_append]
    exact List.append_nil _
  have hinformation : (log ++ [Activity.counted counter]).filterMap Activity.information =
      log.filterMap Activity.information := by
    rw [List.filterMap_append]
    exact List.append_nil _
  constructor
  · rw [hqueued, hwritten]
    exact h.whole
  · rw [hqueued, hinformation]
    exact h.information
  · rw [hqueued]
    exact h.last

/-- What is sent to every connection a place ever held is in order. -/
def SlotView.InOrder (seed : UInt64) (v : SlotView) (log : List (Nat × Activity)) : Prop :=
  ∀ connectionId, PmuSimulator.InOrder seed v.context (connectionLog connectionId log)

/-- Only the log of the connection that a move is about grows. -/
lemma SlotView.InOrder.grow {seed : UInt64} {v v' : SlotView} {before : List (Nat × Activity)}
    (h : v.InOrder seed before) (hcontext : v'.context = v.context) {connectionId : Nat}
    (log : List Activity) (hown : PmuSimulator.InOrder seed v.context
      (connectionLog connectionId before ++ log)) :
    v'.InOrder seed (before ++ log.map (connectionId, ·)) := by
  intro connectionId'
  rw [connectionLog_append, hcontext]
  by_cases hid : connectionId' = connectionId
  · subst hid
    rw [connectionLog_own]
    exact hown
  · have hnothing : connectionLog connectionId' (log.map (connectionId, ·)) = [] := by
      simp [connectionLog, Ne.symm hid]
    rw [hnothing, List.append_nil]
    exact h connectionId'

lemma PlaceMove.inOrder {seed : UInt64} {firstId : Nat} {v v' : SlotView} {due due' : Option Tick}
    {before log : List (Nat × Activity)} (hv : v.Delivering seed before)
    (hin : v.InOrder seed before) (move : PlaceMove seed firstId v due log v' due') :
    v'.InOrder seed (before ++ log) := by
  obtain ⟨-, hv⟩ := hv
  cases move with
  | moved holds move => exact hin.grow rfl _ ((hv _ holds).move move).inOrder
  | @tick c tick storage holds idle streams encoded =>
    have hc := hv _ holds
    have stays : c.closeAfterFlush = false := Bool.eq_false_iff.mpr fun hclose => by
      cases (hc.closes hclose).symm.trans streams
    have hqueued : PmuSimulator.Delivering seed v.context v.dataFrame
        { c with pending := .data 0 }
        (connectionLog c.connectionId before ++ [.queued (.data tick)]) :=
      hc.queue idle stays rfl rfl rfl (contents_data encoded) rfl rfl rfl (fun _ => rfl)
        hc.closes fun _ => streams
    exact hin.grow rfl [.queued (.data tick)] hqueued.inOrder
  | @slow _ c holds streams waits =>
    exact hin.grow rfl [.counted .slowClients] ((hin c.connectionId).counted _)
  | @closed _ c holds =>
    exact hin.grow rfl [.counted .closedClients] ((hin c.connectionId).counted _)
  | lost holds =>
    rw [List.append_nil]
    exact hin
  | encoded idle encoded =>
    rw [List.append_nil]
    exact hin
  | opened empty fresh =>
    rw [List.append_nil]
    exact hin

/-- The data frames that are queued on a log. -/
def ticksQueued (log : List (Nat × Activity)) : List Tick :=
  log.filterMap fun entry => entry.2.queuedFrame.bind QueuedFrame.tick

lemma ticksQueued_append (log log' : List (Nat × Activity)) :
    ticksQueued (log ++ log') = ticksQueued log ++ ticksQueued log' := List.filterMap_append

lemma ticksQueued_move {context : EndpointContext} {dataFrame : DataFrame} {c c' : Connection}
    {log : List Activity} (move : Move context dataFrame c log c') (connectionId : Nat) :
    ticksQueued (log.map (connectionId, ·)) = [] := by
  cases move <;> rfl

/-- A place is handed no tick but the one it is due, and that once. -/
lemma PlacePath.ticks {seed : UInt64} {firstId : Nat} {v v' : SlotView} {due due' : Option Tick}
    {log : List (Nat × Activity)} (h : PlacePath seed firstId v due log v' due') :
    (ticksQueued log ++ due'.toList).Sublist due.toList := by
  induction h with
  | nil => exact List.Sublist.refl _
  | snoc path move ih =>
    rw [ticksQueued_append]
    cases move with
    | moved holds move =>
      rw [ticksQueued_move move, List.append_nil]
      exact ih
    | tick holds idle streams encoded => simpa [ticksQueued, Activity.queuedFrame,
        QueuedFrame.tick] using ih
    | _ => simpa [ticksQueued, Activity.queuedFrame] using ih

/-- What is queued on one connection is queued at its place. -/
lemma framesQueued_connectionLog (connectionId : Nat) (log : List (Nat × Activity)) :
    ((framesQueued (connectionLog connectionId log)).filterMap QueuedFrame.tick).Sublist
      (ticksQueued log) := by
  simp only [framesQueued, connectionLog, ticksQueued, List.filterMap_filterMap]
  induction log with
  | nil => exact List.Sublist.refl _
  | cons entry log ih =>
    by_cases hid : entry.1 = connectionId
    · simp only [List.filterMap_cons, if_pos hid, Option.bind_some]
      cases entry.2.queuedFrame.bind QueuedFrame.tick with
      | none => exact ih
      | some tick => exact ih.cons_cons tick
    · simp only [List.filterMap_cons, if_neg hid, Option.bind_none]
      cases entry.2.queuedFrame.bind QueuedFrame.tick with
      | none => exact ih
      | some tick => exact ih.cons tick

/-! ### Runs -/

section Registered

variable {registry : Registry} {codec : ManagementCodec} {l₀ l : EventLoop}
  {h : List (Machine.Taken EventLoop Input (List Report))} {i : Nat}

lemma bindEndpoint_sound {limits : Limits} {timestamp : Timestamp}
    {descriptor : EndpointDescriptor} {e : Endpoint}
    (h : bindEndpoint limits timestamp descriptor = .ok e) : e.toEndpointContext.Sound := by
  obtain ⟨frames, hframes, h⟩ := bind_eq_ok.mp h
  obtain rfl := Except.ok.inj h
  unfold staticFrames at hframes
  cases hversion : descriptor.wireVersion with
  | v2 =>
    simp only [hversion] at hframes
    obtain ⟨header, -, hframes⟩ := bind_eq_ok.mp hframes
    obtain ⟨configuration1, -, hframes⟩ := bind_eq_ok.mp hframes
    obtain ⟨configuration2, -, hframes⟩ := bind_eq_ok.mp hframes
    obtain rfl := Except.ok.inj hframes
    exact hversion
  | v3 =>
    simp only [hversion] at hframes
    obtain ⟨capability, -, hframes⟩ := bind_eq_ok.mp hframes
    obtain ⟨streamConfiguration, -, hframes⟩ := bind_eq_ok.mp hframes
    obtain rfl := Except.ok.inj hframes
    exact hversion

lemma sound_of_started (started : Started l₀) {e : Endpoint} (he : e ∈ l₀.server.endpoints) :
    e.toEndpointContext.Sound := by
  obtain ⟨-, input, hbind⟩ := started
  obtain ⟨first, rest, clock, at₀, endpoints, -, -, -, hendpoints, hserver⟩ := bindInner_ok hbind
  rw [hserver] at he
  obtain ⟨j, hj, rfl⟩ := List.mem_iff_getElem.mp he
  have hbound := forall₂_of_mapM_ok hendpoints
  exact bindEndpoint_sound (hbound.get (hbound.length_eq ▸ hj) hj)

/-- What is sent to every connection is in order, in every run. -/
theorem delivering_of_run (started : Started l₀) (run : (eventLoop registry codec).Run l₀ h l)
    {e : Endpoint} (he : l.server.endpoints[i]? = some e) (slot : Slot) :
    (e.seen slot).Delivering l₀.server.seed (placeHistory i slot h) := by
  refine history_of_places (I := SlotView.Delivering l₀.server.seed) started run ?_
    (fun hfresh hv move => move.delivering hfresh hv) he slot
  intro e₀ he₀ slot
  refine ⟨sound_of_started started he₀, ?_⟩
  simp [Endpoint.seen, connections_of_started started he₀]

/-- What is sent to every connection that a place holds or held is in order, in every run. -/
theorem inOrder_of_run (started : Started l₀) (run : (eventLoop registry codec).Run l₀ h l)
    {e : Endpoint} (he : l.server.endpoints[i]? = some e) (slot : Slot) :
    (e.seen slot).InOrder l₀.server.seed (placeHistory i slot h) := by
  refine (history_of_places (I := fun v log => v.Delivering l₀.server.seed log ∧
    v.InOrder l₀.server.seed log) started run ?_
    (fun hfresh hv move => ⟨move.delivering hfresh hv.1, move.inOrder hv.1 hv.2⟩) he slot).2
  intro e₀ he₀ slot
  refine ⟨⟨sound_of_started started he₀, ?_⟩, fun connectionId => ?_⟩
  · simp [Endpoint.seen, connections_of_started started he₀]
  · exact ⟨⟨[], rfl, List.prefix_rfl⟩, rfl, by simp [framesQueued]⟩

/-- The ticks a place is handed are ticks of its endpoint, in order and each of them once. -/
theorem ticks_of_run (started : Started l₀) (run : (eventLoop registry codec).Run l₀ h l)
    {e : Endpoint} (he : l.server.endpoints[i]? = some e) (slot : Slot) :
    (ticksQueued (placeHistory i slot h)).Sublist
      (h.filterMap fun x => x.before.server.dueTick x.input i) := by
  revert e
  refine run.history (P := fun h l => ∀ {e : Endpoint}, l.server.endpoints[i]? = some e →
    (ticksQueued (placeHistory i slot h)).Sublist
      (h.filterMap fun x => x.before.server.dueTick x.input i)) ?_ ?_
  · exact fun _ => List.Sublist.refl _
  · intro h r input log r' run hr hs e' he'
    obtain ⟨e, he⟩ := endpoint_of_step hs he'
    have hnone : ∀ entry ∈ ([] : List (Nat × Activity)), entry.1 < r.server.nextConnectionId := by
      simp
    obtain ⟨firstId, due', hpath, -, -⟩ :=
      path_of_step slot hs (routed_of_run started run) hnone he he'
    have hstep := (List.sublist_append_left _ _).trans hpath.ticks
    rw [placeHistory_snoc, ticksQueued_append, List.filterMap_append]
    refine (hr he).append (hstep.trans ?_)
    cases hdue : r.server.dueTick input i <;> simp [hdue]

/-- The tick of an input is of the index the scheduler takes in it. -/
lemma dueTick_some {s : Server} {input : Input} {tick : Tick}
    (h : s.dueTick input i = some tick) :
    ∃ answers skipped scheduler, input = .boundary answers ∧
      s.scheduler.takeDue answers.now = (some (tick.sampleIndex, skipped), scheduler) := by
  obtain ⟨boundary, hboundary, rfl⟩ := Option.map_eq_some_iff.mp h
  cases input with
  | event event => cases hboundary
  | expire now => cases hboundary
  | boundary answers =>
    unfold Server.dueBoundary at hboundary
    cases hdue : s.scheduler.takeDue answers.now with
    | mk due scheduler =>
      cases due with
      | none => simp [hdue] at hboundary
      | some due =>
        obtain ⟨sampleIndex, skipped⟩ := due
        simp only [hdue] at hboundary
        cases hadvance : Server.advanceController sampleIndex s.scenarioController with
        | error failure => simp [hadvance] at hboundary
        | ok c =>
          simp only [hadvance, Option.some.injEq] at hboundary
          subst hboundary
          exact ⟨answers, skipped, scheduler, rfl, hdue⟩

/-- The scheduler after an input, before its index saturates. -/
lemma CoreStep.nextSampleIndex {core core' : ServerCore} {input : Input}
    (h : CoreStep core input core') (reaches : core.Reaches input) :
    core.scheduler.nextSampleIndex ≤ core'.scheduler.nextSampleIndex ∧
      ∀ answers sampleIndex skipped scheduler, input = .boundary answers →
        core.scheduler.takeDue answers.now = (some (sampleIndex, skipped), scheduler) →
        core.scheduler.nextSampleIndex ≤ sampleIndex ∧
          sampleIndex < core'.scheduler.nextSampleIndex := by
  have htaken : ∀ {answers sampleIndex skipped scheduler}, input = .boundary answers →
      core.scheduler.takeDue answers.now = (some (sampleIndex, skipped), scheduler) →
      scheduler.nextSampleIndex = sampleIndex + 1 ∧
        core.scheduler.nextSampleIndex ≤ sampleIndex := by
    intro answers sampleIndex skipped scheduler hinput hdue
    obtain ⟨-, hindex, rfl⟩ := Scheduler.takeDue_some hdue (reaches answers hinput)
    exact ⟨rfl, by omega⟩
  have hcrossed : ∀ {answers sampleIndex skipped scheduler}, input = .boundary answers →
      core.scheduler.takeDue answers.now = (some (sampleIndex, skipped), scheduler) →
      core.scheduler.nextSampleIndex ≤ scheduler.nextSampleIndex ∧
      ∀ answers' sampleIndex' skipped' scheduler', input = .boundary answers' →
        core.scheduler.takeDue answers'.now = (some (sampleIndex', skipped'), scheduler') →
        core.scheduler.nextSampleIndex ≤ sampleIndex' ∧
          sampleIndex' < scheduler.nextSampleIndex := by
    rintro answers sampleIndex skipped scheduler rfl hdue
    obtain ⟨hnext, hle⟩ := htaken rfl hdue
    refine ⟨by omega, ?_⟩
    rintro answers' sampleIndex' skipped' scheduler' ⟨⟩ hdue'
    cases hdue.symm.trans hdue'
    exact ⟨hle, by omega⟩
  cases h with
  | asks run requests => exact ⟨le_refl _, by simp⟩
  | expire => exact ⟨le_refl _, by simp⟩
  | waits waits =>
    refine ⟨le_refl _, ?_⟩
    rintro answers' sampleIndex' skipped' scheduler' ⟨⟩ hdue'
    simp [hdue'] at waits
  | refused due refused => exact hcrossed rfl due
  | crosses due advanced => exact hcrossed rfl due

/-- The ticks of an endpoint come in increasing order, before the index saturates. -/
theorem increasing_of_run (run : (eventLoop registry codec).Run l₀ h l)
    (reaches : ∀ x ∈ h, x.before.server.core.Reaches x.input) (i : Nat) :
    (h.filterMap fun x => x.before.server.dueTick x.input i).Pairwise
      fun tick tick' => tick.sampleIndex < tick'.sampleIndex := by
  have hboth : (∀ x ∈ h, x.before.server.core.Reaches x.input) →
      (h.filterMap fun x => x.before.server.dueTick x.input i).Pairwise
        (fun tick tick' => tick.sampleIndex < tick'.sampleIndex) ∧
      ∀ tick ∈ h.filterMap fun x => x.before.server.dueTick x.input i,
        tick.sampleIndex < l.server.scheduler.nextSampleIndex := by
    refine run.history (P := fun h l => (∀ x ∈ h, x.before.server.core.Reaches x.input) →
      (h.filterMap fun x => x.before.server.dueTick x.input i).Pairwise
        (fun tick tick' => tick.sampleIndex < tick'.sampleIndex) ∧
      ∀ tick ∈ h.filterMap fun x => x.before.server.dueTick x.input i,
        tick.sampleIndex < l.server.scheduler.nextSampleIndex) ?_ ?_
    · exact fun _ => ⟨.nil, by simp⟩
    · intro h r input log r' _ hr hs reaches
      obtain ⟨hincreasing, hbelow⟩ := hr fun x hx => reaches x (by simp [hx])
      obtain ⟨hmono, htaken⟩ :=
        (EventLoop.step_core hs).nextSampleIndex (reaches ⟨r, input, log, r'⟩ (by simp))
      rw [List.filterMap_append]
      cases hdue : r.server.dueTick input i with
      | none =>
        simp only [List.filterMap_cons, hdue, List.filterMap_nil, List.append_nil]
        exact ⟨hincreasing, fun tick ht => Nat.lt_of_lt_of_le (hbelow tick ht) hmono⟩
      | some tick =>
        obtain ⟨answers, skipped, scheduler, hinput, hdue'⟩ := dueTick_some hdue
        obtain ⟨hle, hlt⟩ := htaken answers _ skipped scheduler hinput hdue'
        simp only [List.filterMap_cons, hdue, List.filterMap_nil]
        refine ⟨List.pairwise_append.mpr ⟨hincreasing, List.pairwise_singleton _ _, ?_⟩, ?_⟩
        · intro earlier he later hl
          obtain rfl := List.mem_singleton.mp hl
          exact Nat.lt_of_lt_of_le (hbelow earlier he) hle
        · intro later hl
          rcases List.mem_append.mp hl with hl | hl
          · exact Nat.lt_of_lt_of_le (hbelow later hl) hmono
          · obtain rfl := List.mem_singleton.mp hl
            exact hlt
  exact (hboth reaches).1

/-! ### Encoding anew -/

/-- Where the data frame of an endpoint is encoded anew, no connection is left to send the old one. -/
lemma idle_of_encoding {seed : UInt64} {e : Endpoint} {slot : Slot}
    {log : List (Nat × Activity)} (hv : (e.seen slot).Delivering seed log)
    (plan : Option FramePlan)
    (hok : (Endpoint.eachSlot (fun _ _ _ => dropSlow registry)
      (disconnectAllPlanned registry plan e).state).result = .ok ()) :
    ∀ c ∈ (Endpoint.eachSlot (fun _ _ _ => dropSlow registry)
      (disconnectAllPlanned registry plan e).state).state.connections slot,
      c.pending.isData = false := by
  rw [Endpoint.eachSlot_connection hok slot]
  intro c hc
  have hidle := dropSlow_idle c hc
  have hplanned := dropSlow_subset _ c hc
  have hstreams := (hv.2 c (Endpoint.disconnectAllPlanned_subset plan e slot c hplanned)).streams
  cases hpending : c.pending with
  | data offset =>
    rw [hpending] at hidle hstreams
    cases hidle (hstreams rfl)
  | _ => rfl

/-- What is written to a connection, up to its end where it has been closed, are whole frames up to a
cut in the last of them: one static frame for each information command taken, in order; the data
frames of single ticks, in the order of the ticks, which is increasing before the index of the
scheduler saturates; an error response only as the last frame. And where the data frame of an endpoint
is encoded anew, none of its connections has any of it left to send. -/
theorem output_integrity (started : Started l₀) (run : (eventLoop registry codec).Run l₀ h l)
    {e : Endpoint} (he : l.server.endpoints[i]? = some e) (slot : Slot) :
    (∀ connectionId log, log = connectionLog connectionId (placeHistory i slot h) →
        (∃ frames : List (List UInt8), (framesQueued log).map
            (QueuedFrame.contents e.toEndpointContext l₀.server.seed) = frames.map some ∧
          bytesWritten log <+: frames.flatten) ∧
        (framesQueued log).filterMap QueuedFrame.command =
          log.filterMap Activity.information ∧
        (((framesQueued log).filterMap QueuedFrame.tick).Sublist
          (h.filterMap fun x => x.before.server.dueTick x.input i)) ∧
        ((∀ x ∈ h, x.before.server.core.Reaches x.input) →
          ((framesQueued log).filterMap QueuedFrame.tick).Pairwise
            fun tick tick' => tick.sampleIndex < tick'.sampleIndex) ∧
        ∀ frame ∈ (framesQueued log).dropLast, frame.isErrorResponse = false) ∧
      ∀ plan dropped, dropped = Attempt.each (fun slot e => e.onSlot slot (dropSlow registry)) slots
          (disconnectAllPlanned registry plan e).state → dropped.result = .ok () →
        ∀ c ∈ dropped.state.connections slot, c.pending.isData = false := by
  refine ⟨?_, ?_⟩
  · rintro connectionId log rfl
    have hlog := inOrder_of_run started run he slot connectionId
    have hticks := (framesQueued_connectionLog connectionId _).trans
      (ticks_of_run started run he slot)
    exact ⟨hlog.whole, hlog.information, hticks,
      fun reaches => (increasing_of_run run reaches i).sublist hticks, hlog.last⟩
  · rintro plan _ rfl hok
    exact idle_of_encoding (delivering_of_run started run he slot) plan hok

/-- A client of a V3 endpoint starts its stream, is sent a tick, asks for the capability, and sends
a frame that is larger than any command. -/
def refusedTrace : List Input :=
  let command (command : WireV3.Command) : Input :=
    bytesArrive 3 ((WireV3.encodeCommand 7 command ⟨0, 0⟩).toOption.getD [])
  let writable : Input := .event ⟨3, false, true, [], soleAnswers [] (.accepts 200)⟩
  [acceptOne, command .start, boundaryAnswered 20000000 (.accepts 200), command .capability,
    writable, bytesArrive 3 [0xaa, 0xc3, 0xff, 0xff, 0, 9], writable]

/-- The connection is closed in the step that sends the last of its error response. -/
theorem output_integrity_small : ∃ (l : EventLoop)
    (h : List (Machine.Taken EventLoop Input (List Report))) (frames : List (List UInt8)),
    h.map Machine.Taken.input = refusedTrace ∧ l.soleConnection 0 = none ∧ frames.length = 3 ∧
      (bytesWritten (connectionLog 1 (placeHistory 0 0 h))).length = 250 ∧
      bytesWritten (connectionLog 1 (placeHistory 0 0 h)) <+: frames.flatten ∧
      ∀ frame ∈ (framesQueued (connectionLog 1 (placeHistory 0 0 h))).dropLast,
        frame.isErrorResponse = false := by
  have hruns : soleRun .v3 none refusedTrace (fun log l =>
      decide (l.server.endpoints.length = 1 ∧ (l.soleConnection 0).isNone = true ∧
        (framesQueued (connectionLog 1 (Server.placeLog 0 0 log))).length = 3 ∧
        (bytesWritten (connectionLog 1 (Server.placeLog 0 0 log))).length = 250)) = true := by
    decide +kernel
  obtain ⟨server, h, l, hbind, hinputs, run, hcheck⟩ := run_of_soleRun hruns
  obtain ⟨hsole, hclosed, hqueued, hwritten⟩ := of_decide_eq_true hcheck
  obtain ⟨e, hendpoints⟩ := List.length_eq_one_iff.mp hsole
  have started : Started ⟨server, none⟩ := ⟨rfl, _, hbind⟩
  have he : l.server.endpoints[0]? = some e := by rw [hendpoints, List.getElem?_cons_zero]
  obtain ⟨⟨frames, hframes, hprefix⟩, -, -, -, hlast⟩ :=
    (output_integrity started run he 0).1 1 _ rfl
  refine ⟨l, h, frames, hinputs, Option.isNone_iff_eq_none.mp hclosed, ?_, hwritten, hprefix, hlast⟩
  have hlength := congrArg List.length hframes
  rw [List.length_map, List.length_map] at hlength
  exact hlength.symm.trans hqueued

/-- Where the index of the scheduler saturates, the same tick comes again. -/
theorem ticks_repeat : ¬ ∀ (registry : Registry) (codec : ManagementCodec) (l₀ l : EventLoop)
    (h : List (Machine.Taken EventLoop Input (List Report))), Started l₀ →
    (eventLoop registry codec).Run l₀ h l → ∀ i e slot, l.server.endpoints[i]? = some e →
    ∀ c ∈ e.connections slot,
      ((framesQueued (connectionLog c.connectionId (placeHistory i slot h))).filterMap
        QueuedFrame.tick).Pairwise fun tick tick' => tick.sampleIndex < tick'.sampleIndex := by
  intro hall
  have hruns : soleRun .v2 none [acceptOne, bytesArrive 3 (soleCommand .start),
      boundaryAnswered (2 ^ 89) (.accepts 100),
      boundaryAnswered (2 ^ 89 + 20000000) (.accepts 100)]
      (fun log l => decide ((l.soleConnection 0).map Connection.connectionId = some 1 ∧
        ((framesQueued (connectionLog 1 (Server.placeLog 0 0 log))).filterMap
          QueuedFrame.tick).map Tick.sampleIndex = [u64Max, u64Max])) = true := by
    decide +kernel
  obtain ⟨server, h, l, hbind, -, run, hcheck⟩ := run_of_soleRun hruns
  obtain ⟨hconnection, hticks⟩ := of_decide_eq_true hcheck
  obtain ⟨c, hbound, hid⟩ := Option.map_eq_some_iff.mp hconnection
  obtain ⟨e, he, hc⟩ := Option.bind_eq_some_iff.mp hbound
  have hincreasing := hall takingRegistry silentCodec _ l h ⟨rfl, _, hbind⟩ run 0 e 0 he c hc
  rw [hid] at hincreasing
  have hindices := List.pairwise_map.mpr hincreasing
  change List.Pairwise _ (((framesQueued (connectionLog 1 (Server.placeLog 0 0
    (h.flatMap Machine.Taken.output)))).filterMap QueuedFrame.tick).map Tick.sampleIndex)
    at hindices
  rw [hticks] at hindices
  simp at hindices

end Registered

end PmuSimulator

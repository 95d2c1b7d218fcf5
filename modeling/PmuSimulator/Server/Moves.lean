import Mathlib
import PmuSimulator.Server.Connection
import PmuSimulator.Server.Reassembly

/-!
# The moves of a connection

Serving a connection is a sequence of moves of a few kinds: bytes are taken in, a command is taken,
a response is queued, a write takes some of the pending frame or the rest of it. Every function on a
connection is shown to make only such moves, so that what holds of every run of a connection is
shown move by move.
-/

namespace PmuSimulator

/-- One move of a connection, with what it logs. -/
inductive Move (context : EndpointContext) (dataFrame : DataFrame) :
    Connection → List Activity → Connection → Prop where
  | receive (c : Connection) (buffer : ReceiveBuffer) :
    Move context dataFrame c [] { c with receive := buffer }
  | read (c : Connection) (answered : List ReadAnswer) :
      Move context dataFrame c [.read answered] c
  | registered (c : Connection) (interest : Interest) :
    Move context dataFrame c [.registered interest] c
  /-- A command is counted, or a data frame that was sent. Clients are not. -/
  | counted (c : Connection) {counter : Counter}
      (of : counter = .malformedCommands ∨ counter = .unsupportedCommands ∨
        counter = .sentDataFrames) : Move context dataFrame c [.counted counter] c
  | writable (c : Connection) : Move context dataFrame c [.writable] c
  | switch {c : Connection} {command : ServerCommand} {streaming : Bool} (now : Instant)
      (idle : c.pending.isPending = false) (stays : c.closeAfterFlush = false)
      (effect : command = .stop ∧ streaming = false ∨ command = .start ∧ streaming = true) :
    Move context dataFrame c [.accepted command] { c.recordValidCommand now with streaming }
  | inform {c : Connection} {command : ServerCommand} {pending : PendingFrame} (now : Instant)
      (idle : c.pending.isPending = false) (stays : c.closeAfterFlush = false)
      (asked : informationPending context.descriptor.wireVersion command = some pending) :
    Move context dataFrame c [.accepted command, .queued (.information command)]
      { c.recordValidCommand now with pending }
  | respond {c : Connection} (streamId : UInt16) (code : WireV3.ErrorResponseCode)
      (timestamp : Timestamp) (idle : c.pending.isPending = false)
      (stays : c.closeAfterFlush = false) (storage : c.errorFrame.isSome = true) :
    Move context dataFrame c [.queued (.errorResponse streamId code timestamp)]
      { c with
        errorFrame := some (WireV3.encodeErrorResponse streamId code timestamp)
        pending := .error 0
        streaming := false
        closeAfterFlush := true }
  | stall {c : Connection} (waits : c.pending.isPending = true) :
    Move context dataFrame c [.wrote [] false] c
  | part {c : Connection} {frame : List UInt8} {count : Nat}
      (waits : c.pending.isPending = true)
      (frames : pendingFrameBytes context dataFrame c = .ok frame)
      (some : 0 < count) (short : c.pending.offset + count < frame.length) :
    Move context dataFrame c [.wrote ((frame.drop c.pending.offset).take count) false]
      { c with pending := c.pending.withOffset (c.pending.offset + count) }
  | finish {c : Connection} {frame : List UInt8} (waits : c.pending.isPending = true)
      (frames : pendingFrameBytes context dataFrame c = .ok frame)
      (some : c.pending.offset < frame.length) :
    Move context dataFrame c [.wrote (frame.drop c.pending.offset) true]
      { c with pending := .none }

/-- Moves leave the identity of a connection alone. -/
lemma Move.identity {context : EndpointContext} {dataFrame : DataFrame} {c c' : Connection}
    {log : List Activity} (h : Move context dataFrame c log c') :
    c'.connectionId = c.connectionId ∧ c'.token = c.token := by
  cases h <;> exact ⟨rfl, rfl⟩

/-- Any number of moves. -/
inductive Moves (context : EndpointContext) (dataFrame : DataFrame) (c : Connection) :
    List Activity → Connection → Prop where
  | nil : Moves context dataFrame c [] c
  | snoc {log log' : List Activity} {c' c'' : Connection} (moves : Moves context dataFrame c log c')
      (move : Move context dataFrame c' log' c'') : Moves context dataFrame c (log ++ log') c''

namespace Moves

variable {context : EndpointContext} {dataFrame : DataFrame} {c c' c'' : Connection}
  {log log' : List Activity}

lemma single (h : Move context dataFrame c log c') : Moves context dataFrame c log c' :=
  .snoc .nil h

lemma trans (h : Moves context dataFrame c log c') (h' : Moves context dataFrame c' log' c'') :
    Moves context dataFrame c (log ++ log') c'' := by
  induction h' with
  | nil => simpa using h
  | snoc _ move ih =>
    rw [← List.append_assoc]
    exact .snoc ih move

/-- An invariant of moves is an invariant of the connection's whole log. -/
theorem invariant {I : Connection → List Activity → Prop} (h : Moves context dataFrame c log c')
    {before : List Activity} (hc : I c before)
    (hmove : ∀ {c before log c'}, I c before → Move context dataFrame c log c' →
      I c' (before ++ log)) : I c' (before ++ log) := by
  induction h with
  | nil => simpa using hc
  | snoc _ move ih =>
    rw [← List.append_assoc]
    exact hmove ih move

lemma identity (h : Moves context dataFrame c log c') :
    c'.connectionId = c.connectionId ∧ c'.token = c.token := by
  induction h with
  | nil => exact ⟨rfl, rfl⟩
  | snoc _ move ih => exact ⟨move.identity.1.trans ih.1, move.identity.2.trans ih.2⟩

end Moves

/-- An attempt on a connection only makes moves. -/
def ConnectionAttempt.Moving {α : Type} (context : EndpointContext) (dataFrame : DataFrame)
    (c : Connection) (p : ConnectionAttempt α) : Prop :=
  Moves context dataFrame c p.log p.state

open ConnectionAttempt

section

variable {registry : Registry} {context : EndpointContext} {dataFrame : DataFrame}
  {c : Connection} {α β : Type}

lemma moving_note {o : Activity} {c' : Connection} (h : Move context dataFrame c [o] c') :
    Moving context dataFrame c (.note o c') := .single h

lemma Moving.andThen {p : ConnectionAttempt α} {f : α → Connection → ConnectionAttempt β}
    (hp : Moving context dataFrame c p)
    (hf : ∀ a, p.result = .ok a → Moving context dataFrame p.state (f a p.state)) :
    Moving context dataFrame c (p.andThen f) := by
  cases h : p.result with
  | error e =>
    rw [Attempt.andThen_error h]
    exact hp
  | ok a =>
    rw [Attempt.andThen_ok h]
    exact hp.trans (hf a h)

lemma moving_reregister (writable : Bool) :
    Moving context dataFrame c (reregisterConnection registry writable c) := by
  simp only [reregisterConnection]
  cases registry.reregister c.token (if writable then .readableWritable else .readable) with
  | error e => exact .nil
  | ok _ => exact .single (.registered _ _)

lemma moving_reregister_done (writable : Bool) (a : α) :
    Moving context dataFrame c
      ((reregisterConnection registry writable c).andThen fun _ c => .done a c) :=
  Moving.andThen (moving_reregister writable) fun _ _ => .nil

lemma moving_queueErrorResponse {wallClock : SystemTime} {streamId : UInt16}
    {code : WireV3.ErrorResponseCode} (idle : c.pending.isPending = false)
    (stays : c.closeAfterFlush = false) :
    Moving context dataFrame c
      (queueErrorResponse registry context wallClock streamId code c) := by
  unfold queueErrorResponse
  cases responseTimestamp context.descriptor.timeBase wallClock with
  | error e => exact .nil
  | ok timestamp =>
    cases hs : c.errorFrame with
    | none => exact .nil
    | some frame =>
      refine Moving.andThen (moving_note ?_) fun _ _ => moving_reregister true
      exact .respond streamId code timestamp idle stays (by rw [hs]; rfl)

lemma moving_refuseCommand {wallClock : SystemTime} {wireVersion : WireVersion}
    {counter : Counter} {streamId : UInt16} {code : WireV3.ErrorResponseCode}
    (of : counter = .malformedCommands ∨ counter = .unsupportedCommands)
    (idle : c.pending.isPending = false) (stays : c.closeAfterFlush = false) :
    Moving context dataFrame c
      (refuseCommand registry context wallClock wireVersion counter streamId code c) := by
  refine Moving.andThen (moving_note (.counted _ (of.imp_right .inl))) fun _ _ => ?_
  split
  · exact Moving.andThen (moving_queueErrorResponse idle stays) fun _ _ => .nil
  · exact .nil

/-- What a command taken from the buffer does, logged together with its acceptance. -/
lemma moves_handleCommand {command : ServerCommand} {now : Instant}
    (idle : c.pending.isPending = false) (stays : c.closeAfterFlush = false)
    (known : command = .stop ∨ command = .start ∨
      (informationPending context.descriptor.wireVersion command).isSome = true) :
    Moves context dataFrame c
      (.accepted command ::
        (handleCommand registry context command (c.recordValidCommand now)).log)
      (handleCommand registry context command (c.recordValidCommand now)).state := by
  have hidle : ¬ (c.recordValidCommand now).pending.isPending = true := by
    change ¬ c.pending.isPending = true
    simp [idle]
  -- a switch of the stream, or a frame that is queued, and then the registration
  have hsettle : ∀ c' : Connection, Moves context dataFrame c' (settleCommand registry c').log
      (settleCommand registry c').state := fun c' => moving_reregister_done _ true
  have hinform : ∀ pending, informationPending context.descriptor.wireVersion command =
      some pending → Moves context dataFrame c
        (.accepted command ::
          (queueInformation registry context command (c.recordValidCommand now)).log)
        (queueInformation registry context command (c.recordValidCommand now)).state := by
    intro pending hpending
    simp only [queueInformation, hpending]
    rw [Attempt.andThen_ok (Attempt.note_result _ _)]
    exact (Moves.single (.inform now idle stays hpending)).trans (hsettle _)
  unfold handleCommand
  rw [if_neg hidle]
  cases command with
  | stop => exact (Moves.single (.switch now idle stays (.inl ⟨rfl, rfl⟩))).trans (hsettle _)
  | start => exact (Moves.single (.switch now idle stays (.inr ⟨rfl, rfl⟩))).trans (hsettle _)
  | _ =>
    simp only [reduceCtorEq, false_or] at known
    exact hinform _ (Option.some_get known).symm

/-- `next_command` only yields commands of its wire version. -/
lemma nextCommand_known {wireVersion : WireVersion} {buffer rest : ReceiveBuffer}
    {request : BufferedCommandRequest}
    (h : buffer.nextCommand wireVersion = .ok (some (.accepted request, rest))) :
    request.command = .stop ∨ request.command = .start ∨
      (informationPending wireVersion request.command).isSome = true := by
  obtain ⟨size, hn, -⟩ := ReceiveBuffer.nextCommand_some h
  obtain ⟨-, -, -, -, hr⟩ := nextFrame_some hn
  obtain ⟨-, houtcome⟩ := (receive_iff _ _ _).mp hr
  obtain ⟨-, -, hmem⟩ := commandIn_eq_some.mp (outcomeOf_accepted.mp houtcome.symm).1
  have hall : ∀ p ∈ commandTable wireVersion, p.2 = .stop ∨ p.2 = .start ∨
      (informationPending wireVersion p.2).isSome = true := by
    cases wireVersion <;> decide
  exact hall _ hmem

lemma moving_processBufferedCommands (wallClock : SystemTime) (clock : Nat → Instant) :
    Moving context dataFrame c
      (processBufferedCommands registry context wallClock clock c) := by
  fun_induction processBufferedCommands registry context wallClock clock c with
  | case1 clock c hbusy => exact .nil
  | case2 clock c hfree malformed hn =>
    rw [Bool.or_eq_true, not_or, Bool.not_eq_true, Bool.not_eq_true] at hfree
    exact moving_refuseCommand (.inl rfl) hfree.1 hfree.2
  | case3 clock c hfree hn => exact .nil
  | case4 clock c hfree idcode wireVersion receive hn =>
    rw [Bool.or_eq_true, not_or, Bool.not_eq_true, Bool.not_eq_true] at hfree
    exact (Moves.single (.receive c receive)).trans
      (moving_refuseCommand (.inr rfl) hfree.1 hfree.2)
  | case5 clock c hfree request receive hn hid =>
    rw [Bool.or_eq_true, not_or, Bool.not_eq_true, Bool.not_eq_true] at hfree
    exact (Moves.single (.receive c receive)).trans
      (moving_refuseCommand (.inl rfl) hfree.1 hfree.2)
  | case6 clock c hfree request receive hn hid taken handled e hr =>
    rw [Bool.or_eq_true, not_or, Bool.not_eq_true, Bool.not_eq_true] at hfree
    exact (Moves.single (.receive c receive)).trans
      (moves_handleCommand hfree.1 hfree.2 (nextCommand_known hn))
  | case7 clock c hfree request receive hn hid taken handled hr =>
    rw [Bool.or_eq_true, not_or, Bool.not_eq_true, Bool.not_eq_true] at hfree
    exact (Moves.single (.receive c receive)).trans
      (moves_handleCommand hfree.1 hfree.2 (nextCommand_known hn))
  | case8 clock c hfree request receive hn hid taken handled hr rest ih =>
    rw [Bool.or_eq_true, not_or, Bool.not_eq_true, Bool.not_eq_true] at hfree
    have hhandled : Moves context dataFrame c (.accepted request.command :: handled.log)
        handled.state := (Moves.single (.receive c receive)).trans
      (moves_handleCommand hfree.1 hfree.2 (nextCommand_known hn))
    exact hhandled.trans ih

/-- A read keeps what is buffered, and puts what it takes in behind it. -/
lemma readFrom_grows (buffer : ReceiveBuffer) (reads : List ReadAnswer) :
    (buffer.readFrom reads).buffer.limit = buffer.limit ∧
      buffer.bytes <+: (buffer.readFrom reads).buffer.bytes := by
  fun_induction ReceiveBuffer.readFrom buffer reads with
  | case4 buffer hroom b bytes answers ih =>
    exact ⟨ih.1, (List.prefix_append _ _).trans ih.2⟩
  | _ => exact ⟨rfl, List.prefix_refl _⟩

/-- An attempt behind a change of the buffer. -/
lemma Moving.receive {α : Type} {buffer : ReceiveBuffer} {p : ConnectionAttempt α}
    (h : Moving context dataFrame { c with receive := buffer } p) : Moving context dataFrame c p :=
  (Moves.single (.receive c buffer)).trans h

lemma moving_readConnection (answers : Answers) :
    Moving context dataFrame c (readConnection registry context answers c) := by
  unfold readConnection
  by_cases hclose : c.closeAfterFlush = true
  · rw [if_pos hclose]
    exact .nil
  rw [if_neg hclose]
  generalize c.receive.readFrom answers.reads = read
  dsimp only
  refine Moving.receive (Moving.andThen (moving_note (.read _ _)) fun _ _ => ?_)
  rcases read with ⟨- | result, receive, answered⟩
  · exact .single (.counted _ (.inl rfl))
  cases result with
  | «open» => exact moving_processBufferedCommands _ _
  | closed => exact .nil
  | closedWithBufferedData =>
    exact Moving.andThen (moving_processBufferedCommands _ _) fun _ _ => .nil

lemma moving_frameWritten {answers : Answers} {frame : List UInt8}
    (waits : c.pending.isPending = true)
    (frames : pendingFrameBytes context dataFrame c = .ok frame)
    (some : c.pending.offset < frame.length) :
    Moving context dataFrame c
      (frameWritten registry context answers (frame.drop c.pending.offset) c) := by
  refine Moving.andThen ?_ fun _ _ => ?_
  · have hfinish := Moves.single (Move.finish waits frames some)
    cases hd : c.pending.isData with
    | true =>
      simp only [Moving, if_true]
      exact hfinish.trans (.single (.counted _ (.inr (.inr rfl))))
    | false =>
      simp only [Moving, Bool.false_eq_true, if_false]
      exact hfinish
  · simp only
    split
    · exact .nil
    refine Moving.andThen (moving_processBufferedCommands _ _) fun keep _ => ?_
    split
    · exact .nil
    split
    · exact .nil
    · exact moving_reregister_done _ _

lemma moving_flushConnection (answers : Answers) :
    Moving context dataFrame c
      (flushConnection registry context dataFrame answers c) := by
  unfold flushConnection
  cases hwaits : c.pending.isPending with
  | false => exact .nil
  | true =>
    simp only [Bool.not_true, Bool.false_eq_true, if_false]
    cases hframe : pendingFrameBytes context dataFrame c with
    | error e => exact .nil
    | ok frame =>
      simp only
      by_cases hlong : frame.length < c.pending.offset
      · rw [if_pos hlong]
        exact .nil
      rw [if_neg hlong]
      cases answers.write with
      | failed kind =>
        cases kind with
        | wouldBlock =>
          exact Moving.andThen (moving_note (.stall hwaits)) fun _ _ =>
            moving_reregister_done _ _
        | _ => exact .single (.stall hwaits)
      | accepts count =>
        simp only [List.length_drop]
        split_ifs with hnone hall
        · exact .single (.stall hwaits)
        · exact moving_frameWritten hwaits hframe (by omega)
        · refine Moving.andThen (moving_note ?_) fun _ _ => moving_reregister_done _ _
          exact .part hwaits hframe (by omega) (by omega)

lemma moving_serveConnection (readable writable : Bool) (answers : Answers) :
    Moving context dataFrame c
      (serveConnection registry context dataFrame readable writable answers c) := by
  refine Moving.andThen ?_ fun keep _ => ?_
  · split
    · exact moving_readConnection answers
    · exact .nil
  · cases keep with
    | false => exact .nil
    | true =>
      cases writable with
      | false => exact .nil
      | true =>
        exact Moving.andThen (moving_note (.writable _)) fun _ _ => moving_flushConnection answers

/-- A data frame is queued, and moves follow. -/
lemma moves_sendDataFrame {tick : Tick} {answers : Answers} :
    ∃ log, (sendDataFrame registry context dataFrame tick answers c).log =
        .queued (.data tick) :: log ∧
      Moves context dataFrame { c with pending := .data 0 } log
        (sendDataFrame registry context dataFrame tick answers c).state := by
  have hrest : Moving context dataFrame { c with pending := .data 0 }
      ((reregisterConnection registry true { c with pending := .data 0 }).andThen fun _ c =>
        flushConnection registry context dataFrame answers c) :=
    Moving.andThen (moving_reregister true) fun _ _ => moving_flushConnection answers
  unfold sendDataFrame
  rw [Attempt.andThen_ok (Attempt.note_result _ _)]
  exact ⟨_, rfl, hrest⟩

lemma identity_sendDataFrame {tick : Tick} {answers : Answers} :
    (sendDataFrame registry context dataFrame tick answers c).state.connectionId =
        c.connectionId ∧
      (sendDataFrame registry context dataFrame tick answers c).state.token = c.token := by
  obtain ⟨log, -, moves⟩ : ∃ log, (sendDataFrame registry context dataFrame tick answers c).log =
        .queued (.data tick) :: log ∧
      Moves context dataFrame { c with pending := .data 0 } log
        (sendDataFrame registry context dataFrame tick answers c).state := moves_sendDataFrame
  exact moves.identity

end

end PmuSimulator

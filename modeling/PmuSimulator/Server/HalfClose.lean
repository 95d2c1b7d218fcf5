import Mathlib
import PmuSimulator.Server.Delivery
import PmuSimulator.Server.Emission
import PmuSimulator.Server.Segmentation

/-!
# The end of a stream

A peer that has no more commands may still read. Where the end of its stream is only seen when
everything it asked for was sent, it has all its answers. Where it is seen with the last commands,
the connection is kept for an error response and for nothing else.
-/

namespace PmuSimulator

/-! ### What is buffered -/

/-- A command that is not answered with a frame. -/
def ServerCommand.plain : ServerCommand → Bool
  | stop => true
  | start => true
  | _ => false

lemma isPending_information {wireVersion : WireVersion} {command : ServerCommand}
    {pending : PendingFrame} (h : informationPending wireVersion command = some pending) :
    pending.isPending = true ∧ pending.isData = false := by
  cases wireVersion <;> cases command <;> cases h <;> exact ⟨rfl, rfl⟩

/-- A command in a frame of the endpoint's version is plain, or asks for a frame of that version. -/
lemma commandTable_answered {wireVersion : WireVersion} {code : UInt16} {command : ServerCommand}
    (h : (code, command) ∈ commandTable wireVersion) (hplain : command.plain = false) :
    ∃ pending, informationPending wireVersion command = some pending := by
  cases wireVersion with
  | v2 => cases command <;> simp_all [commandTable, informationPending, ServerCommand.plain]
  | v3 => cases command <;> simp_all [commandTable, informationPending, ServerCommand.plain]

lemma commandVerdict_answered {wireVersion : WireVersion} {limit n : Nat} {bytes : List UInt8}
    {idcode : UInt16} {command : ServerCommand}
    (h : commandVerdict wireVersion limit bytes = .item (.accepted ⟨idcode, command⟩) n)
    (hplain : command.plain = false) :
    ∃ pending, informationPending wireVersion command = some pending := by
  obtain ⟨-, houtcome, -⟩ := commandVerdict_outcome h
  obtain ⟨hcommand, -⟩ := outcomeOf_accepted.mp houtcome.symm
  obtain ⟨-, -, hmem⟩ := commandIn_eq_some.mp hcommand
  exact commandTable_answered hmem hplain

section Registered

variable {registry : Registry} {context : EndpointContext} {c : Connection}

lemma settleCommand_result {keep : Bool} (h : (settleCommand registry c).result = .ok keep) :
    keep = true := by
  obtain ⟨_, -, hdone⟩ := Attempt.andThen_result_eq_ok.mp h
  exact (Except.ok.inj hdone).symm

/-- Handling a plain command leaves nothing to be sent. -/
lemma handleCommand_plain {command : ServerCommand} (idle : c.pending.isPending = false)
    (hplain : command.plain = true) :
    (handleCommand registry context command c).state.pending = c.pending ∧
      ∀ keep, (handleCommand registry context command c).result = .ok keep → keep = true := by
  unfold handleCommand
  rw [if_neg (by simp [idle])]
  cases command with
  | stop => exact ⟨by rw [settleCommand_state], fun keep h => settleCommand_result h⟩
  | start => exact ⟨by rw [settleCommand_state], fun keep h => settleCommand_result h⟩
  | _ => cases hplain

/-- Handling any other command leaves its answer to be sent. -/
lemma handleCommand_answered {command : ServerCommand} (idle : c.pending.isPending = false)
    (hplain : command.plain = false) {pending : PendingFrame}
    (hpending : informationPending context.descriptor.wireVersion command = some pending) :
    (handleCommand registry context command c).state.pending = pending ∧
      ∀ keep, (handleCommand registry context command c).result = .ok keep → keep = true := by
  have hinformed : (queueInformation registry context command c).state.pending = pending ∧
      ∀ keep, (queueInformation registry context command c).result = .ok keep → keep = true := by
    unfold queueInformation
    simp only [hpending]
    refine ⟨?_, fun keep h => ?_⟩
    · rw [Attempt.andThen_state fun _ => settleCommand_state registry]
      rfl
    · rw [Attempt.andThen_ok (Attempt.note_result _ _)] at h
      exact settleCommand_result h
  unfold handleCommand
  rw [if_neg (by simp [idle])]
  cases command with
  | stop => cases hplain
  | start => cases hplain
  | _ => exact hinformed

/-- A connection that is kept behind a refused command waits for its error response. -/
lemma closing_refuseCommand {wallClock : SystemTime} {wireVersion : WireVersion}
    {counter : Counter} {streamId : UInt16} {code : WireV3.ErrorResponseCode}
    (hkept : (refuseCommand registry context wallClock wireVersion counter streamId code c).result =
      .ok true) :
    (refuseCommand registry context wallClock wireVersion counter streamId code
      c).state.closeAfterFlush = true ∧
    (refuseCommand registry context wallClock wireVersion counter streamId code
      c).state.pending.isPending = true := by
  unfold refuseCommand at hkept ⊢
  rw [Attempt.andThen_ok (Attempt.note_result _ _)] at hkept ⊢
  by_cases hv3 : wireVersion = .v3
  · simp only [if_pos hv3, queueErrorResponse] at hkept ⊢
    cases htime : responseTimestamp context.descriptor.timeBase wallClock with
    | error failure => simp [htime] at hkept
    | ok timestamp =>
      cases hframe : c.errorFrame with
      | none => simp [htime, hframe] at hkept
      | some frame =>
        simp only [Attempt.note_state, hframe]
        rw [Attempt.andThen_state fun _ _ => rfl, Attempt.andThen_state fun _ c' =>
          reregisterConnection_state registry true c']
        exact ⟨rfl, rfl⟩
  · simp only [if_neg hv3] at hkept
    cases hkept

/-- The commands in a buffer that are taken before anything is refused. -/
def Connection.commands (context : EndpointContext) (bytes : List UInt8) : List ServerCommand :=
  ((serviceFramer context.descriptor.wireVersion context.limits.commandFrameBytes
    context.descriptor.streamId).drain bytes).items

lemma commands_taken {request : BufferedCommandRequest} {bytes : List UInt8} {n : Nat}
    (hown : request.idcode = context.descriptor.streamId)
    (hverdict : commandVerdict context.descriptor.wireVersion context.limits.commandFrameBytes
      bytes = .item (.accepted request) n) :
    Connection.commands context bytes =
      request.command :: Connection.commands context (bytes.drop n) := by
  unfold Connection.commands
  rw [Framer.drain_item (r := request.command)]
  · rfl
  · refine serviceVerdict_item.mpr ?_
    rw [← hown]
    exact hverdict

lemma commands_refused {bytes : List UInt8} {streamId : UInt16} {code : WireV3.ErrorResponseCode}
    (h : Refused context.descriptor.wireVersion context.limits.commandFrameBytes
      context.descriptor.streamId bytes streamId code) :
    Connection.commands context bytes = [] := by
  unfold Connection.commands
  rw [Framer.drain_fail h.fail]

lemma commands_waiting {buffer : ReceiveBuffer}
    (hlimit : buffer.limit = context.limits.commandFrameBytes)
    (h : buffer.nextCommand context.descriptor.wireVersion = .ok none) :
    Connection.commands context buffer.bytes = [] := by
  have hverdict : commandVerdict context.descriptor.wireVersion
      context.limits.commandFrameBytes buffer.bytes = .wait := by
    rw [← hlimit]
    exact Reassembly.verdict_of_none h
  have hwait : (serviceFramer context.descriptor.wireVersion context.limits.commandFrameBytes
      context.descriptor.streamId).next buffer.bytes = .wait := by
    change serviceVerdict _ _ _ buffer.bytes = .wait
    rw [serviceVerdict, hverdict]
  unfold Connection.commands
  rw [Framer.drain_wait hwait]

/-- Behind plain commands nothing is left to be sent but an error response. -/
lemma processed_plain (wallClock : SystemTime) (clock : Nat → Instant)
    (hlimit : c.receive.limit = context.limits.commandFrameBytes)
    (idle : c.pending.isPending = false)
    (hplain : ∀ command ∈ Connection.commands context c.receive.bytes, command.plain = true)
    (hkept : (processBufferedCommands registry context wallClock clock c).result = .ok true)
    (hpending : (processBufferedCommands registry context wallClock clock
      c).state.pending.isPending = true) :
    (processBufferedCommands registry context wallClock clock c).state.closeAfterFlush = true := by
  fun_induction processBufferedCommands registry context wallClock clock c with
  | case1 clock c hbusy => simpa [idle] using hbusy
  | case2 clock c hfree malformed hn => exact (closing_refuseCommand hkept).1
  | case3 clock c hfree hn => cases idle.symm.trans hpending
  | case4 clock c hfree idcode wireVersion receive hn => exact (closing_refuseCommand hkept).1
  | case5 clock c hfree request receive hn hid => exact (closing_refuseCommand hkept).1
  | case6 => cases hkept
  | case7 => cases hkept
  | case8 clock c hfree request receive hn hid taken handled hr rest =>
    rename_i ih
    obtain ⟨n, hverdict, rfl⟩ := nextCommand_item hn
    rw [hlimit] at hverdict
    rw [commands_taken (not_not.mp hid) hverdict] at hplain
    have hreceive : handled.state.receive = c.receive.dropFront n :=
      handleCommand_receive registry context request.command taken
    have hfirst : request.command.plain = true := hplain _ List.mem_cons_self
    refine ih ?_ ?_ ?_ hkept hpending
    · rw [hreceive]
      exact hlimit
    · rw [(handleCommand_plain (c := taken) idle hfirst).1]
      exact idle
    · rw [hreceive]
      exact fun command hmem => hplain command (List.mem_cons_of_mem _ hmem)

/-- Where there is any other command, the answer to the first one is left to be sent. -/
lemma processed_answered (wallClock : SystemTime) (clock : Nat → Instant)
    (hlimit : c.receive.limit = context.limits.commandFrameBytes)
    (idle : c.pending.isPending = false) (stays : c.closeAfterFlush = false)
    (hanswered : ∃ command ∈ Connection.commands context c.receive.bytes, command.plain = false)
    {keep : Bool}
    (hkept : (processBufferedCommands registry context wallClock clock c).result = .ok keep) :
    keep = true ∧
      (processBufferedCommands registry context wallClock clock c).state.pending.isPending = true ∧
      (processBufferedCommands registry context wallClock clock c).state.closeAfterFlush =
        false := by
  have hnone : ∀ {bytes : List UInt8}, Connection.commands context bytes = [] →
      ¬ ∃ command ∈ Connection.commands context bytes, command.plain = false := by
    rintro bytes hnone ⟨command, hmem, -⟩
    rw [hnone] at hmem
    cases hmem
  fun_induction processBufferedCommands registry context wallClock clock c with
  | case1 clock c hbusy => simp [idle, stays] at hbusy
  | case2 clock c hfree malformed hn =>
    obtain ⟨hverdict, rfl⟩ := nextCommand_error hn
    rw [hlimit] at hverdict
    exact absurd hanswered (hnone (commands_refused (.malformed hverdict)))
  | case3 clock c hfree hn =>
    exact absurd hanswered (hnone (commands_waiting hlimit hn))
  | case4 clock c hfree idcode wireVersion receive hn =>
    obtain ⟨n, hverdict, rfl⟩ := nextCommand_item hn
    rw [hlimit] at hverdict
    exact absurd hanswered (hnone (commands_refused (.rejected hverdict)))
  | case5 clock c hfree request receive hn hid =>
    obtain ⟨n, hverdict, rfl⟩ := nextCommand_item hn
    rw [hlimit] at hverdict
    exact absurd hanswered (hnone (commands_refused (.foreign hverdict hid)))
  | case6 => cases hkept
  | case7 clock c hfree request receive hn hid taken handled hr =>
    obtain ⟨n, hverdict, rfl⟩ := nextCommand_item hn
    cases hplain : request.command.plain with
    | true => cases (handleCommand_plain (c := taken) idle hplain).2 false hr
    | false =>
      obtain ⟨pending, hpending⟩ := commandVerdict_answered hverdict hplain
      cases (handleCommand_answered (c := taken) idle hplain hpending).2 false hr
  | case8 clock c hfree request receive hn hid taken handled hr rest =>
    rename_i ih
    obtain ⟨n, hverdict, rfl⟩ := nextCommand_item hn
    rw [hlimit] at hverdict
    have hreceive : handled.state.receive = c.receive.dropFront n :=
      handleCommand_receive registry context request.command taken
    have hstays : handled.state.closeAfterFlush = false :=
      (handleCommand_closeAfterFlush registry context request.command taken).trans stays
    cases hplain : request.command.plain with
    | true =>
      refine ih ?_ ?_ hstays ?_ hkept
      · rw [hreceive]
        exact hlimit
      · rw [(handleCommand_plain (c := taken) idle hplain).1]
        exact idle
      · rw [commands_taken (not_not.mp hid) hverdict] at hanswered
        obtain ⟨command, hmem, hcommand⟩ := hanswered
        rcases List.mem_cons.mp hmem with rfl | hmem
        · cases hplain.symm.trans hcommand
        · rw [hreceive]
          exact ⟨command, hmem, hcommand⟩
    | false =>
      obtain ⟨pending, hpending⟩ := commandVerdict_answered hverdict hplain
      have hstate : handled.state.pending = pending :=
        (handleCommand_answered (c := taken) idle hplain hpending).1
      have hbusy : handled.state.pending.isPending = true := by
        rw [hstate]
        exact (isPending_information hpending).1
      have hrest : rest = .done true handled.state := by
        change processBufferedCommands _ _ _ _ _ = _
        rw [processBufferedCommands, if_pos (by simp [hbusy])]
      rw [hrest] at hkept ⊢
      exact ⟨(Except.ok.inj hkept).symm, hbusy, hstays⟩

end Registered

/-! ### What is written -/

section Registered

variable {registry : Registry} {context : EndpointContext} {dataFrame : DataFrame} {c : Connection}

/-- A sequence of attempts logs what its first attempt does, and goes on from there. -/
lemma log_isPrefix {φ σ ω α β : Type} (p : Attempt φ σ ω α) (f : α → σ → Attempt φ σ ω β) :
    p.log <+: (p.andThen f).log := by
  cases hp : p.result with
  | error failure => rw [Attempt.andThen_error hp]
  | ok a =>
    rw [Attempt.andThen_ok hp]
    exact List.prefix_append _ _

/-- What was logged before a sequence of attempts stays in front of it. -/
lemma andThen_behind {φ σ ω α β : Type} (before : List ω) (p : Attempt φ σ ω α)
    (f : α → σ → Attempt φ σ ω β) :
    (⟨p.result, p.state, before ++ p.log⟩ : Attempt φ σ ω α).andThen f =
      ⟨(p.andThen f).result, (p.andThen f).state, before ++ (p.andThen f).log⟩ := by
  cases hp : p.result with
  | error failure =>
    rw [Attempt.andThen_error hp]
    rfl
  | ok a =>
    rw [Attempt.andThen_ok hp, Attempt.andThen_ok rfl, List.append_assoc]

lemma written_reregister {writable : Bool} :
    bytesWritten (reregisterConnection registry writable c).log = [] := by
  simp only [reregisterConnection]
  cases registry.reregister c.token (if writable then .readableWritable else .readable) with
  | error kind => rfl
  | ok _ => rfl

/-- Going on without a write. -/
lemma written_andThen {α β : Type} {p : ConnectionAttempt α}
    {f : α → Connection → ConnectionAttempt β}
    (hf : ∀ a c, bytesWritten (f a c).log = []) :
    bytesWritten (p.andThen f).log = bytesWritten p.log := by
  cases hp : p.result with
  | error failure => rw [Attempt.andThen_error hp]
  | ok a => rw [Attempt.andThen_ok hp, bytesWritten_append, hf, List.append_nil]

lemma written_settleCommand : bytesWritten (settleCommand registry c).log = [] :=
  (written_andThen fun _ _ => rfl).trans written_reregister

lemma written_handleCommand (command : ServerCommand) :
    bytesWritten (handleCommand registry context command c).log = [] := by
  have hinformed : bytesWritten (queueInformation registry context command c).log = [] := by
    unfold queueInformation
    cases informationPending context.descriptor.wireVersion command with
    | none => rfl
    | some pending => exact written_andThen fun _ _ => written_settleCommand
  unfold handleCommand
  by_cases hpending : c.pending.isPending
  · rw [if_pos hpending]
    rfl
  rw [if_neg hpending]
  cases command with
  | stop => exact written_settleCommand
  | start => exact written_settleCommand
  | _ => exact hinformed

lemma written_refuseCommand {wallClock : SystemTime} {wireVersion : WireVersion}
    {counter : Counter} {streamId : UInt16} {code : WireV3.ErrorResponseCode} :
    bytesWritten (refuseCommand registry context wallClock wireVersion counter streamId code
      c).log = [] := by
  refine (written_andThen fun _ c => ?_).trans rfl
  by_cases hv3 : wireVersion = .v3
  · rw [if_pos hv3]
    refine (written_andThen fun _ _ => rfl).trans ?_
    unfold queueErrorResponse
    cases responseTimestamp context.descriptor.timeBase wallClock with
    | error failure => rfl
    | ok timestamp =>
      cases c.errorFrame with
      | none => rfl
      | some frame => exact written_andThen fun _ _ => written_reregister
  · rw [if_neg hv3]
    rfl

/-- Handling commands writes nothing. -/
lemma written_processBufferedCommands (wallClock : SystemTime) (clock : Nat → Instant) :
    bytesWritten (processBufferedCommands registry context wallClock clock c).log = [] := by
  fun_induction processBufferedCommands registry context wallClock clock c with
  | case1 => rfl
  | case2 => exact written_refuseCommand
  | case3 => rfl
  | case4 => exact written_refuseCommand
  | case5 => exact written_refuseCommand
  | case6 clock c hfree request receive hn hid taken handled failure hr =>
    exact written_handleCommand request.command
  | case7 clock c hfree request receive hn hid taken handled hr =>
    exact written_handleCommand request.command
  | case8 clock c hfree request receive hn hid taken handled hr rest =>
    rename_i ih
    have hhandled : bytesWritten handled.log = [] := written_handleCommand request.command
    change bytesWritten (handled.log ++ rest.log) = []
    rw [bytesWritten_append, hhandled, ih, List.append_nil]

/-- A frame that is pending is written, unless a write is cut short or fails. -/
lemma written_flushConnection {answers : Answers} {keep : Bool}
    (hpending : c.pending.isPending = true)
    (hok : (flushConnection registry context dataFrame answers c).result = .ok keep)
    (complete : ∀ bytes,
      .wrote bytes false ∉ (flushConnection registry context dataFrame answers c).log) :
    bytesWritten (flushConnection registry context dataFrame answers c).log ≠ [] := by
  have hnoted : ∀ {α β : Type} {p : ConnectionAttempt α} {f : α → Connection → ConnectionAttempt β}
      {activity : Activity}, activity ∈ p.log → activity ∈ (p.andThen f).log :=
    fun hmem => (log_isPrefix _ _).subset hmem
  unfold flushConnection at hok complete ⊢
  simp only [hpending, Bool.not_true, Bool.false_eq_true, if_false] at hok complete ⊢
  cases hframe : pendingFrameBytes context dataFrame c with
  | error failure =>
    rw [hframe] at hok
    cases hok
  | ok frame =>
    simp only [hframe] at hok complete ⊢
    by_cases hlong : frame.length < c.pending.offset
    · rw [if_pos hlong] at hok
      cases hok
    rw [if_neg hlong] at complete ⊢
    cases hwrite : answers.write with
    | failed kind =>
      rw [hwrite] at complete
      cases kind with
      | wouldBlock => exact absurd (hnoted (List.mem_singleton_self _)) (complete [])
      | _ => exact absurd (List.mem_singleton_self _) (complete [])
    | accepts count =>
      simp only [hwrite] at complete ⊢
      split_ifs at complete ⊢ with hzero hall
      · exact absurd (List.mem_singleton_self _) (complete [])
      · have hsome : frame.drop c.pending.offset ≠ [] := by
          rintro hnil
          rw [hnil] at hzero
          exact hzero (Nat.min_zero count)
        intro hnone
        have hmem : Activity.wrote (frame.drop c.pending.offset) true ∈
            (frameWritten registry context answers (frame.drop c.pending.offset) c).log :=
          hnoted List.mem_cons_self
        exact hsome (List.flatMap_eq_nil_iff.mp hnone _ hmem)
      · exact absurd (hnoted (List.mem_singleton_self _)) (complete _)

end Registered

/-! ### Events of a connection -/

/-- A readiness event. -/
structure Readiness where
  readable : Bool
  writable : Bool
  answers : Answers

/-- What was sent on a slot. -/
def sent (log : List (Nat × Activity)) : List UInt8 := bytesWritten (log.map Prod.snd)

@[simp] lemma sent_append (log log' : List (Nat × Activity)) :
    sent (log ++ log') = sent log ++ sent log' := by
  simp [sent]

@[simp] lemma sent_own (connectionId : Nat) (log : List Activity) :
    sent (log.map (connectionId, ·)) = bytesWritten log := by
  simp [sent, Function.comp_def]

section Registered

variable (registry : Registry) (context : EndpointContext) (dataFrame : DataFrame)

/-- The events of a connection, one after the other, as `dispatch_events` serves them. -/
def serveEvents (connectionId : Nat) (events : List Readiness) (connection : Option Connection) :
    SlotAttempt Unit :=
  Attempt.each (fun event => dispatchConnection registry context dataFrame connectionId
    event.readable event.writable event.answers) events connection

variable {registry context dataFrame} {c : Connection} {event : Readiness}
  {events : List Readiness}

lemma serveEvents_none (connectionId : Nat) :
    serveEvents registry context dataFrame connectionId events none = .done () none := by
  induction events with
  | nil => rfl
  | cons event events ih =>
    simp only [serveEvents, Attempt.each, dispatchConnection, Option.any_none,
      Bool.false_eq_true, if_false, Attempt.done_andThen]
    exact ih

/-- An event on the connection, by what serving it comes to. -/
lemma serveEvents_cons : serveEvents registry context dataFrame c.connectionId (event :: events)
    (some c) =
      (((serveConnection registry context dataFrame event.readable event.writable event.answers
        c).lift some (c.connectionId, ·)).andThen (keepOrClose registry c.connectionId)).andThen
          fun _ => serveEvents registry context dataFrame c.connectionId events := by
  simp only [serveEvents, Attempt.each, dispatchConnection, Option.any_some, decide_true, if_true,
    onConnection]
  rfl

lemma sent_closeConnection (connectionId : Nat) (connection : Option Connection) :
    sent (closeConnection registry connectionId connection).log = [] := by
  cases connection with
  | none => rfl
  | some c =>
    simp only [closeConnection]
    split_ifs
    · rfl
    · cases registry.deregister c.token <;> rfl

/-- Behind an event that the connection survives. -/
lemma serveEvents_kept
    (hkept : (serveConnection registry context dataFrame event.readable event.writable
      event.answers c).result = .ok true) :
    serveEvents registry context dataFrame c.connectionId (event :: events) (some c) =
      let p := serveConnection registry context dataFrame event.readable event.writable
        event.answers c
      let rest := serveEvents registry context dataFrame c.connectionId events (some p.state)
      ⟨rest.result, rest.state, p.log.map (c.connectionId, ·) ++ rest.log⟩ := by
  have hlift : ((serveConnection registry context dataFrame event.readable event.writable
      event.answers c).lift some (c.connectionId, ·)).result = .ok true := hkept
  rw [serveEvents_cons, Attempt.andThen_assoc, Attempt.andThen_ok hlift]
  simp only [keepOrClose, if_true, Attempt.done_andThen, Attempt.lift_state, Attempt.lift_log]

/-- Behind an event that the connection does not survive. -/
lemma serveEvents_closed
    (hclosed : (serveConnection registry context dataFrame event.readable event.writable
      event.answers c).result ≠ .ok true) :
    sent (serveEvents registry context dataFrame c.connectionId (event :: events) (some c)).log =
        bytesWritten (serveConnection registry context dataFrame event.readable event.writable
          event.answers c).log ∧
      ((serveEvents registry context dataFrame c.connectionId (event :: events)
        (some c)).result = .ok () →
        (serveEvents registry context dataFrame c.connectionId (event :: events)
          (some c)).state = none) := by
  rw [serveEvents_cons, Attempt.andThen_assoc]
  have hid : (serveConnection registry context dataFrame event.readable event.writable
      event.answers c).state.connectionId = c.connectionId :=
    (moving_serveConnection event.readable event.writable event.answers).identity.1
  generalize serveConnection registry context dataFrame event.readable event.writable
    event.answers c = p at hclosed hid ⊢
  cases hp : p.result with
  | error failure =>
    have hlift : (p.lift some (c.connectionId, ·)).result = .error failure := hp
    rw [Attempt.andThen_error hlift]
    exact ⟨sent_own _ _, by simp⟩
  | ok keep =>
    cases keep with
    | true => exact absurd hp hclosed
    | false =>
      have hlift : (p.lift some (c.connectionId, ·)).result = .ok false := hp
      rw [Attempt.andThen_ok hlift]
      simp only [keepOrClose, Bool.false_eq_true, if_false, Attempt.lift_state, Attempt.lift_log,
        sent_append, sent_own]
      have hclose : (closeConnection registry c.connectionId (some p.state)).state = none := by
        rw [← hid]
        exact closeConnection_own
      have hquiet := @sent_closeConnection registry c.connectionId (some p.state)
      generalize closeConnection registry c.connectionId (some p.state) = q at hclose hquiet ⊢
      cases hq : q.result with
      | error failure =>
        rw [Attempt.andThen_error hq]
        exact ⟨by rw [hquiet, List.append_nil], by simp⟩
      | ok _ =>
        rw [Attempt.andThen_ok hq, hclose, serveEvents_none]
        refine ⟨?_, fun _ => rfl⟩
        rw [Attempt.done_log, List.append_nil, hquiet, List.append_nil]

lemma serveEvents_append (connectionId : Nat) (events events' : List Readiness)
    (connection : Option Connection) :
    serveEvents registry context dataFrame connectionId (events ++ events') connection =
      (serveEvents registry context dataFrame connectionId events connection).andThen fun _ =>
        serveEvents registry context dataFrame connectionId events' := by
  induction events generalizing connection with
  | nil => exact (Attempt.done_andThen _ _ _).symm
  | cons event events ih =>
    simp only [serveEvents, List.cons_append, Attempt.each, Attempt.andThen_assoc] at ih ⊢
    congr 1
    funext _ connection
    exact ih connection

/-- Behind a read that the connection survives, the event goes on as one that is only writable. -/
lemma serveEvents_read (hreadable : event.readable = true)
    (hread : (readConnection registry context event.answers c).result = .ok true) :
    serveEvents registry context dataFrame c.connectionId (event :: events) (some c) =
      let p := readConnection registry context event.answers c
      let rest := serveEvents registry context dataFrame c.connectionId
        ({ event with readable := false } :: events) (some p.state)
      ⟨rest.result, rest.state, p.log.map (c.connectionId, ·) ++ rest.log⟩ := by
  have hid : (readConnection registry context event.answers c).state.connectionId =
      c.connectionId := by
    have hmoving : ConnectionAttempt.Moving context dataFrame c
        (readConnection registry context event.answers c) := moving_readConnection event.answers
    exact hmoving.identity.1
  have hserve : serveConnection registry context dataFrame event.readable event.writable
      event.answers c =
      let p := readConnection registry context event.answers c
      let q := serveConnection registry context dataFrame false event.writable event.answers p.state
      ⟨q.result, q.state, p.log ++ q.log⟩ := by
    simp only [serveConnection, hreadable, if_true, Bool.false_eq_true, if_false,
      Attempt.done_andThen]
    rw [Attempt.andThen_ok hread]
  simp only at hserve ⊢
  generalize readConnection registry context event.answers c = p at hid hserve ⊢
  have hrest := @serveEvents_cons registry context dataFrame p.state
    { event with readable := false } events
  rw [hid] at hrest
  rw [serveEvents_cons, hserve, hrest]
  generalize serveConnection registry context dataFrame false event.writable event.answers
    p.state = q
  have hlift : (Attempt.lift (⟨q.result, q.state, p.log ++ q.log⟩ : ConnectionAttempt Bool) some
      (c.connectionId, ·)) = ⟨(q.lift some (c.connectionId, ·)).result,
        (q.lift some (c.connectionId, ·)).state,
        p.log.map (c.connectionId, ·) ++ (q.lift some (c.connectionId, ·)).log⟩ := by
    simp only [Attempt.lift, List.map_append]
  rw [hlift, andThen_behind, andThen_behind]

lemma serveEvents_log : ∃ more, (serveEvents registry context dataFrame c.connectionId
    (event :: events) (some c)).log = (serveConnection registry context dataFrame event.readable
      event.writable event.answers c).log.map (c.connectionId, ·) ++ more := by
  rw [serveEvents_cons]
  obtain ⟨more, hmore⟩ := (log_isPrefix _ _).trans (log_isPrefix _ _)
  exact ⟨more, hmore.symm⟩

/-- Serving writable events on a connection that has nothing to send. -/
lemma serveEvents_idle (hwrites : ∀ event ∈ events, event.readable = false)
    (idle : c.pending.isPending = false) :
    (serveEvents registry context dataFrame c.connectionId events (some c)).state = some c ∧
      sent (serveEvents registry context dataFrame c.connectionId events (some c)).log = [] := by
  induction events with
  | nil => exact ⟨rfl, rfl⟩
  | cons event events ih =>
    obtain ⟨hstate, hsent⟩ := ih fun event hmem => hwrites event (List.mem_cons_of_mem _ hmem)
    have hreadable : event.readable = false := hwrites event List.mem_cons_self
    have hflush : flushConnection registry context dataFrame event.answers c = .done true c := by
      rw [flushConnection, if_pos (by simp [idle])]
    have hserve : serveConnection registry context dataFrame event.readable event.writable
        event.answers c = ⟨.ok true, c, if event.writable then [.writable] else []⟩ := by
      rw [serveConnection, hreadable, if_neg Bool.false_ne_true, Attempt.done_andThen]
      cases event.writable with
      | true =>
        simp only [Bool.not_true, Bool.false_eq_true, if_false, if_true]
        rw [Attempt.andThen_ok (Attempt.note_result _ _), Attempt.note_state, hflush]
        rfl
      | false => rfl
    rw [serveEvents_kept (by rw [hserve]), hserve]
    refine ⟨hstate, ?_⟩
    simp only [sent_append, sent_own, hsent, List.append_nil]
    cases event.writable <;> rfl

/-- Serving writable events on a connection that has a frame to send, to the end. -/
lemma serveEvents_pending (hwrites : ∀ event ∈ events, event.readable = false)
    (hpending : c.pending.isPending = true)
    (hok : (serveEvents registry context dataFrame c.connectionId events (some c)).result = .ok ())
    (complete : ∀ connectionId bytes, (connectionId, .wrote bytes false) ∉
      (serveEvents registry context dataFrame c.connectionId events (some c)).log)
    (flushed : ∀ c' ∈ (serveEvents registry context dataFrame c.connectionId events
      (some c)).state, c'.pending.isPending = false) :
    sent (serveEvents registry context dataFrame c.connectionId events (some c)).log ≠ [] := by
  induction events with
  | nil => cases hpending.symm.trans (flushed c rfl)
  | cons event events ih =>
    have hreadable : event.readable = false := hwrites event List.mem_cons_self
    have hserve : serveConnection registry context dataFrame event.readable event.writable
        event.answers c = if event.writable then
          (Attempt.note .writable c).andThen fun _ c =>
            flushConnection registry context dataFrame event.answers c
        else .done true c := by
      rw [serveConnection, hreadable, if_neg Bool.false_ne_true, Attempt.done_andThen]
      rfl
    cases hwritable : event.writable with
    | false =>
      rw [hwritable, if_neg Bool.false_ne_true] at hserve
      rw [← hwritable] at hserve
      have hkept := @serveEvents_kept registry context dataFrame c event events
        (by rw [hserve]; rfl)
      rw [hkept, hserve] at hok complete flushed ⊢
      exact ih (fun event hmem => hwrites event (List.mem_cons_of_mem _ hmem)) hok complete flushed
    | true =>
      rw [hwritable, if_pos rfl, Attempt.andThen_ok (Attempt.note_result _ _)] at hserve
      rw [← hwritable] at hserve
      obtain ⟨more, hlog⟩ := @serveEvents_log registry context dataFrame c event events
      rw [serveEvents_cons] at hok
      obtain ⟨_, hok, -⟩ := Attempt.andThen_result_eq_ok.mp hok
      obtain ⟨keep, hok, -⟩ := Attempt.andThen_result_eq_ok.mp hok
      rw [hserve] at hok hlog
      rw [hlog] at complete ⊢
      have hwritten := written_flushConnection hpending hok fun bytes hmem =>
        complete c.connectionId bytes (List.mem_append_left _ (List.mem_map_of_mem
          (List.mem_append_right _ hmem)))
      rw [sent_append, sent_own]
      intro hnone
      exact hwritten (List.append_eq_nil_iff.mp (List.append_eq_nil_iff.mp hnone).1).2

end Registered

/-! ### The last commands -/

/-- The last bytes that a peer sends: the pieces in which they are read in one event, and what else
the event brings. -/
structure LastRead where
  pieces : List (List UInt8)
  writable : Bool
  answers : Answers

/-- The event of the last bytes; what is read behind them is still open. -/
def LastRead.event (last : LastRead) (ending : List ReadAnswer) : Readiness :=
  ⟨true, last.writable, { last.answers with reads := last.pieces.map .data ++ ending }⟩

/-- The end of the stream is seen in the event of the last bytes. -/
def LastRead.endSeen (last : LastRead) : Readiness := last.event [.data []]

/-- The socket would block behind the last bytes. -/
def LastRead.endUnseen (last : LastRead) : Readiness := last.event []

lemma readFrom_pieces {buffer : ReceiveBuffer} {pieces : List (List UInt8)}
    (hsome : ∀ piece ∈ pieces, piece ≠ [])
    (hroom : buffer.bytes.length + pieces.flatten.length < buffer.limit) :
    ∃ buffer' : ReceiveBuffer, buffer'.limit = buffer.limit ∧
      buffer'.bytes = buffer.bytes ++ pieces.flatten ∧
      ∀ ending, buffer.readFrom (pieces.map .data ++ ending) =
        (buffer'.readFrom ending).behind (pieces.map .data) := by
  induction pieces generalizing buffer with
  | nil => exact ⟨buffer, rfl, (List.append_nil _).symm, fun _ => rfl⟩
  | cons piece pieces ih =>
    obtain ⟨b, bytes, rfl⟩ := List.exists_cons_of_ne_nil (hsome piece List.mem_cons_self)
    rw [List.flatten_cons, List.length_append] at hroom
    have hextend : (buffer.extend (b :: bytes)).bytes = buffer.bytes ++ (b :: bytes) := by
      change buffer.bytes ++ (b :: bytes).take (buffer.limit - buffer.bytes.length) = _
      rw [List.take_of_length_le (by omega)]
    have hfits : (buffer.extend (b :: bytes)).bytes.length + pieces.flatten.length <
        (buffer.extend (b :: bytes)).limit := by
      rw [hextend, List.length_append]
      change _ < buffer.limit
      omega
    obtain ⟨buffer', hlimit, hbytes, hread⟩ :=
      ih (fun piece hmem => hsome piece (List.mem_cons_of_mem _ hmem)) hfits
    refine ⟨buffer', hlimit, ?_, fun ending => ?_⟩
    · rw [hbytes, hextend, List.flatten_cons, List.append_assoc]
    · rw [List.map_cons, List.cons_append, ReceiveBuffer.readFrom, if_neg (by omega)]
      simp only [hread ending]
      rfl

section Registered

variable {registry : Registry} {context : EndpointContext} {dataFrame : DataFrame} {c : Connection}
  {last : LastRead} {buffer : ReceiveBuffer} {ending : List ReadAnswer}

lemma readConnection_unseen (stays : c.closeAfterFlush = false)
    (hroom : buffer.bytes.length < buffer.limit)
    (hread : c.receive.readFrom last.endUnseen.answers.reads =
      (buffer.readFrom []).behind (last.pieces.map .data)) :
    readConnection registry context last.endUnseen.answers c =
      (Attempt.note (.read (last.pieces.map .data ++ [.failed .wouldBlock]))
        { c with receive := buffer }).andThen fun _ c =>
          processBufferedCommands registry context last.answers.wallClock last.answers.readClock
            c := by
  have hopen : buffer.readFrom [] = ⟨.ok .open, buffer, [.failed .wouldBlock]⟩ := by
    rw [ReceiveBuffer.readFrom, if_neg hroom.ne]
  rw [readConnection, if_neg (by simp [stays]), hread, hopen]
  rfl

lemma readConnection_seen (stays : c.closeAfterFlush = false)
    (hroom : buffer.bytes.length < buffer.limit)
    (hread : c.receive.readFrom last.endSeen.answers.reads =
      (buffer.readFrom [.data []]).behind (last.pieces.map .data)) :
    readConnection registry context last.endSeen.answers c =
      (Attempt.note (.read (last.pieces.map .data ++ [.data []]))
        { c with receive := buffer }).andThen fun _ c =>
          if buffer.bytes.length = 0 then .done false c
          else
            (processBufferedCommands registry context last.answers.wallClock last.answers.readClock
              c).andThen fun keep c =>
                .done (keep && c.closeAfterFlush && c.pending.isPending) c := by
  have hclosed : buffer.readFrom [.data []] =
      ⟨.ok (if buffer.bytes.length = 0 then .closed else .closedWithBufferedData), buffer,
        [.data []]⟩ := by
    rw [ReceiveBuffer.readFrom, if_neg hroom.ne]
  rw [readConnection, if_neg (by simp [stays]), hread, hclosed]
  by_cases hempty : buffer.bytes.length = 0
  · simp only [if_pos hempty]
    rfl
  · simp only [if_neg hempty]
    rfl

end Registered

/-! ### Connections without a short write -/

section Sessions

/-- A connection that is still open, on which every write so far took all it was given. -/
inductive Prompt (context : EndpointContext) : Connection → Prop where
  | accepted (connectionId token : Nat) (acceptedAt : Instant) :
    Prompt context (.new connectionId token context.limits.commandFrameBytes
      context.descriptor.wireVersion acceptedAt)
  | turn {c c' : Connection} {registry : Registry} {dataFrame : DataFrame} {seed : UInt64}
      {influence : Influence} (prompt : Prompt context c)
      (ok : (influence.turn registry context dataFrame seed c).result = .ok ())
      (survives : (influence.turn registry context dataFrame seed c).state = some c')
      (complete : ∀ connectionId bytes, (connectionId, .wrote bytes false) ∉
        (influence.turn registry context dataFrame seed c).log) : Prompt context c'

variable {context : EndpointContext} {c : Connection}

lemma Prompt.session (prompt : Prompt context c) : ∃ read, Session context read c := by
  induction prompt with
  | accepted connectionId token acceptedAt => exact ⟨_, .accepted connectionId token acceptedAt⟩
  | turn prompt ok survives complete ih =>
    obtain ⟨read, session⟩ := ih
    exact ⟨_, session.turn ok survives⟩

lemma Prompt.settled (prompt : Prompt context c) : Settled context c := by
  induction prompt with
  | accepted connectionId token acceptedAt => exact ⟨nofun, fun _ _ => rfl⟩
  | turn prompt ok survives complete ih => exact settled_turn ih ok survives

lemma isData_withOffset (pending : PendingFrame) (offset : Nat) :
    (pending.withOffset offset).isData = pending.isData := by
  cases pending <;> rfl

/-- A data frame stays pending for as long as it is not written to its end. -/
lemma Move.data {dataFrame : DataFrame} {c c' : Connection} {log : List Activity}
    (move : Move context dataFrame c log c') (hdata : c'.pending.isData = true) :
    c.pending.isData = true ∧ ∀ bytes, .wrote bytes true ∉ log := by
  cases move with
  | receive => exact ⟨hdata, by simp⟩
  | read => exact ⟨hdata, by simp⟩
  | registered => exact ⟨hdata, by simp⟩
  | counted => exact ⟨hdata, by simp⟩
  | writable => exact ⟨hdata, by simp⟩
  | switch => exact ⟨hdata, by simp⟩
  | inform now idle stays asked => cases (isPending_information asked).2.symm.trans hdata
  | respond => cases hdata
  | stall => exact ⟨hdata, by simp⟩
  | part =>
    rw [isData_withOffset] at hdata
    exact ⟨hdata, by simp⟩
  | finish => cases hdata

lemma Moves.data {dataFrame : DataFrame} {c c' : Connection} {log : List Activity}
    (moves : Moves context dataFrame c log c') (hdata : c'.pending.isData = true) :
    c.pending.isData = true ∧ ∀ bytes, .wrote bytes true ∉ log := by
  induction moves with
  | nil => exact ⟨hdata, by simp⟩
  | snoc moves move ih =>
    obtain ⟨hdata', hlast⟩ := move.data hdata
    obtain ⟨hdata, hbefore⟩ := ih hdata'
    refine ⟨hdata, fun bytes hmem => ?_⟩
    rcases List.mem_append.mp hmem with hmem | hmem
    · exact hbefore bytes hmem
    · exact hlast bytes hmem

/-- A data frame that is handed out is written to its end, unless a write is cut short. -/
lemma wrote_sendDataFrame {registry : Registry} {dataFrame : DataFrame} {tick : Tick}
    {answers : Answers} {keep : Bool}
    (hok : (sendDataFrame registry context dataFrame tick answers c).result = .ok keep)
    (complete : ∀ bytes, .wrote bytes false ∉
      (sendDataFrame registry context dataFrame tick answers c).log) :
    ∃ bytes, .wrote bytes true ∈ (sendDataFrame registry context dataFrame tick answers c).log := by
  unfold sendDataFrame at hok complete ⊢
  generalize hwaits : ({ c with pending := .data 0 } : Connection) = c₁ at hok complete ⊢
  obtain ⟨_, -, hok⟩ := Attempt.andThen_result_eq_ok.mp hok
  obtain ⟨_, hregistered, hflushed⟩ := Attempt.andThen_result_eq_ok.mp hok
  rw [reregisterConnection_state, Attempt.note_state] at hflushed
  have hmem : ∀ {activity : Activity},
      activity ∈ (flushConnection registry context dataFrame answers c₁).log →
        activity ∈ ((Attempt.note (.queued (.data tick)) c₁).andThen fun _ c =>
          (reregisterConnection registry true c).andThen fun _ c =>
            flushConnection registry context dataFrame answers c).log := by
    intro activity h
    rw [Attempt.andThen_ok (Attempt.note_result _ _), Attempt.andThen_ok hregistered,
      reregisterConnection_state, Attempt.note_state]
    exact List.mem_append_right _ (List.mem_append_right _ h)
  have hpending : c₁.pending.isPending = true := by rw [← hwaits]; rfl
  have hwritten := written_flushConnection hpending hflushed fun bytes h =>
    complete bytes (hmem h)
  obtain ⟨activity, hactivity, hbytes⟩ : ∃ activity ∈ (flushConnection registry context dataFrame
      answers c₁).log, activity.written ≠ [] := by
    by_contra hnone
    push Not at hnone
    exact hwritten (List.flatMap_eq_nil_iff.mpr hnone)
  cases activity with
  | wrote bytes completed =>
    cases completed with
    | true => exact ⟨bytes, hmem hactivity⟩
    | false => exact absurd (hmem hactivity) (complete bytes)
  | _ => exact absurd rfl hbytes

/-- On such a connection no data frame is left to be sent: what is, answers a command. -/
lemma Prompt.dataless (prompt : Prompt context c) : c.pending.isData = false := by
  induction prompt with
  | accepted connectionId token acceptedAt => rfl
  | @turn c c' registry dataFrame seed influence prompt ok survives complete ih =>
    by_contra hdata
    rw [Bool.not_eq_false] at hdata
    rcases turn_survives ok survives with ⟨rfl, -⟩ | ⟨p, hkept, rfl, hlog, hkind⟩
    · cases ih.symm.trans hdata
    rcases hkind with ⟨readable, writable, answers, -, rfl⟩ |
      ⟨tick, plan, answers, dataFrame', -, -, -, -, rfl⟩
    · have hbefore := (moving_serveConnection readable writable answers).data hdata
      cases ih.symm.trans hbefore.1
    · obtain ⟨log, hsent, moves⟩ :=
        @moves_sendDataFrame registry context dataFrame' c tick answers
      obtain ⟨bytes, hmem⟩ := wrote_sendDataFrame hkept fun bytes hmem =>
        complete c.connectionId bytes (hlog ▸ List.mem_map_of_mem hmem)
      rw [hsent] at hmem
      rcases List.mem_cons.mp hmem with hmem | hmem
      · cases hmem
      · exact (moves.data hdata).2 bytes hmem

/-- Every live connection of the event loop is prompt, if no write on it was cut short. So what is
left to be sent on it answers a command. -/
theorem prompt_of_run {registry : Registry} {codec : ManagementCodec} {l₀ l : EventLoop}
    {h : List (Machine.Taken EventLoop Input (List Report))} {i : Nat} {slot : Slot}
    (started : Started l₀) (run : (eventLoop registry codec).Run l₀ h l) (running : l.ended = none)
    {e : Endpoint} (he : l.server.endpoints[i]? = some e) (hc : e.connections slot = some c)
    (complete : ∀ bytes, .wrote bytes false ∉
      connectionLog c.connectionId (placeHistory i slot h)) :
    Prompt e.toEndpointContext c ∧ c.pending.isData = false := by
  have hprompt : Prompt e.toEndpointContext c := by
    refine history_of_turns (I := fun context c log => (∀ bytes, .wrote bytes false ∉ log) →
      Prompt context c) started run ?_ ?_ running he hc complete
    · exact fun context _ connectionId token acceptedAt _ => .accepted connectionId token acceptedAt
    · intro context _ dataFrame c log influence prompt hok c' hc'
      refine ⟨identity_of_turn hok hc', fun complete => ?_⟩
      have hbefore := prompt fun bytes hmem => complete bytes (List.mem_append_left _ hmem)
      rcases turn_survives hok hc' with ⟨rfl, -⟩ | ⟨p, -, -, hlog, -⟩
      · exact hbefore
      · refine hbefore.turn hok hc' fun connectionId bytes hmem => ?_
        rw [hlog] at hmem complete
        rw [connectionLog_own] at complete
        obtain ⟨activity, hactivity, heq⟩ := List.mem_map.mp hmem
        obtain ⟨-, rfl⟩ := Prod.mk.inj heq
        exact complete bytes (List.mem_append_right _ hactivity)
  exact ⟨hprompt, hprompt.dataless⟩

end Sessions

/-! ### Where the end of the stream is seen -/

section Registered

variable {registry : Registry} {context : EndpointContext} {dataFrame : DataFrame} {c : Connection}

/-- A connection that survives events is settled behind them, and the one it was. -/
lemma settled_serveEvents {events : List Readiness} (hsettled : Settled context c)
    (hok : (serveEvents registry context dataFrame c.connectionId events (some c)).result = .ok ())
    {c' : Connection}
    (hc' : (serveEvents registry context dataFrame c.connectionId events (some c)).state =
      some c') :
    Settled context c' ∧ c'.connectionId = c.connectionId := by
  induction events generalizing c with
  | nil =>
    obtain rfl := Option.some.inj hc'
    exact ⟨hsettled, rfl⟩
  | cons event events ih =>
    by_cases hkept : (serveConnection registry context dataFrame event.readable event.writable
        event.answers c).result = .ok true
    · rw [serveEvents_kept hkept] at hok hc'
      have hid : (serveConnection registry context dataFrame event.readable event.writable
          event.answers c).state.connectionId = c.connectionId :=
        (moving_serveConnection event.readable event.writable event.answers).identity.1
      have hrest := ih (settles_serveConnection hsettled hkept)
      rw [hid] at hrest
      exact hrest hok hc'
    · cases ((serveEvents_closed hkept).2 hok).symm.trans hc'

/-- Nothing is handled on a settled connection that is not busy. -/
lemma process_settled {wallClock : SystemTime} {clock : Nat → Instant}
    (hsettled : Settled context c) (idle : c.pending.isPending = false) :
    processBufferedCommands registry context wallClock clock c = .done true c := by
  rw [processBufferedCommands]
  split_ifs with hbusy
  · rfl
  · have hnone := hsettled.handled idle (by simpa [idle] using hbusy)
    split
    · rename_i hn
      cases hnone.symm.trans hn
    · rfl
    · rename_i hn
      cases hnone.symm.trans hn
    · rename_i hn
      cases hnone.symm.trans hn

/-- The end of a stream is seen on a connection that has nothing to send. -/
lemma written_endOfStream {event : Readiness} {more : List ReadAnswer}
    (hsettled : Settled context c) (idle : c.pending.isPending = false)
    (hreadable : event.readable = true) (hreads : event.answers.reads = .data [] :: more) :
    bytesWritten (serveConnection registry context dataFrame event.readable event.writable
      event.answers c).log = [] := by
  have hflush : flushConnection registry context dataFrame event.answers c = .done true c := by
    rw [flushConnection, if_pos (by simp [idle])]
  have hread : ∃ keep, ∃ log, readConnection registry context event.answers c =
      ⟨.ok keep, c, log⟩ ∧ bytesWritten log = [] := by
    by_cases hclose : c.closeAfterFlush = true
    · rw [readConnection, if_pos hclose]
      exact ⟨true, [], rfl, rfl⟩
    rw [readConnection, if_neg hclose, hreads, ReceiveBuffer.readFrom]
    by_cases hfull : c.receive.bytes.length = c.receive.limit
    · simp only [if_pos hfull]
      rw [Attempt.andThen_ok (Attempt.note_result _ _), Attempt.note_state,
        process_settled hsettled idle]
      exact ⟨true, _, rfl, rfl⟩
    · simp only [if_neg hfull]
      rw [Attempt.andThen_ok (Attempt.note_result _ _), Attempt.note_state]
      by_cases hempty : c.receive.bytes.length = 0
      · simp only [if_pos hempty]
        exact ⟨false, _, rfl, rfl⟩
      · simp only [if_neg hempty]
        rw [process_settled hsettled idle, Attempt.done_andThen]
        exact ⟨_, _, rfl, rfl⟩
  obtain ⟨keep, log, hread, hlog⟩ := hread
  rw [serveConnection, if_pos hreadable, hread, Attempt.andThen_ok rfl, bytesWritten_append, hlog,
    List.nil_append]
  cases keep with
  | false => rfl
  | true =>
    simp only [Bool.not_true, Bool.false_eq_true, if_false]
    split_ifs
    · rw [Attempt.andThen_ok (Attempt.note_result _ _), Attempt.note_state, hflush]
      rfl
    · rfl

lemma sent_serveEvents_single {event : Readiness} :
    sent (serveEvents registry context dataFrame c.connectionId [event] (some c)).log =
      bytesWritten (serveConnection registry context dataFrame event.readable event.writable
        event.answers c).log := by
  by_cases hkept : (serveConnection registry context dataFrame event.readable event.writable
      event.answers c).result = .ok true
  · rw [serveEvents_kept hkept, sent_append, sent_own]
    exact List.append_nil _
  · exact (serveEvents_closed hkept).1

/-- An event that is not readable does not come to what would be read. -/
lemma serveEvents_unread {last : LastRead} {connectionId : Nat} {writes : List Readiness}
    {connection : Option Connection} :
    serveEvents registry context dataFrame connectionId
        ({ last.endSeen with readable := false } :: writes) connection =
      serveEvents registry context dataFrame connectionId
        ({ last.endUnseen with readable := false } :: writes) connection := rfl

/-- A peer has nothing more to say, and hears all that it is told: the last bytes are read, then the
connection is served until nothing is left to be sent, and every write takes all it is given. -/
structure Answered (registry : Registry) (context : EndpointContext) (dataFrame : DataFrame)
    (c : Connection) (last : LastRead) (writes : List Readiness) : Prop where
  pieces : ∀ piece ∈ last.pieces, piece ≠ []
  room : c.receive.bytes.length + last.pieces.flatten.length < c.receive.limit
  writesOnly : ∀ event ∈ writes, event.readable = false
  ok : (serveEvents registry context dataFrame c.connectionId (last.endUnseen :: writes)
    (some c)).result = .ok ()
  complete : ∀ connectionId bytes, (connectionId, .wrote bytes false) ∉
    (serveEvents registry context dataFrame c.connectionId (last.endUnseen :: writes)
      (some c)).log
  flushed : ∀ c' ∈ (serveEvents registry context dataFrame c.connectionId
    (last.endUnseen :: writes) (some c)).state, c'.pending.isPending = false

section Answered

variable {last : LastRead} {writes : List Readiness} {buffer : ReceiveBuffer}

/-- What the handling of the last bytes leaves to be sent is sent, if the end of the stream is not
seen with them. -/
lemma sent_endUnseen (answered : Answered registry context dataFrame c last writes)
    (stays : c.closeAfterFlush = false) (hroom : buffer.bytes.length < buffer.limit)
    (hread : ∀ ending, c.receive.readFrom (last.pieces.map .data ++ ending) =
      (buffer.readFrom ending).behind (last.pieces.map .data)) :
    let q := processBufferedCommands registry context last.answers.wallClock
      last.answers.readClock { c with receive := buffer }
    let rest := serveEvents registry context dataFrame c.connectionId
      ({ last.endUnseen with readable := false } :: writes) (some q.state)
    ∃ keep, q.result = .ok keep ∧
      sent (serveEvents registry context dataFrame c.connectionId (last.endUnseen :: writes)
        (some c)).log = (if keep then sent rest.log else []) ∧
      (keep = true → (q.state.pending.isPending = true ↔ sent rest.log ≠ [])) := by
  intro q rest
  have hwritten : bytesWritten q.log = [] := written_processBufferedCommands _ _
  have hid : q.state.connectionId = c.connectionId := by
    have hmoving : ConnectionAttempt.Moving context dataFrame { c with receive := buffer } q :=
      moving_processBufferedCommands last.answers.wallClock last.answers.readClock
    exact hmoving.identity.1
  have hconnection : readConnection registry context last.endUnseen.answers c =
      ⟨q.result, q.state, .read (last.pieces.map .data ++ [.failed .wouldBlock]) :: q.log⟩ := by
    rw [readConnection_unseen stays hroom (hread []),
      Attempt.andThen_ok (Attempt.note_result _ _)]
    rfl
  have hserve : q.result ≠ .ok true → serveConnection registry context dataFrame true
      last.endUnseen.writable last.endUnseen.answers c =
        ⟨q.result, q.state, .read (last.pieces.map .data ++ [.failed .wouldBlock]) :: q.log⟩ := by
    intro hnot
    rw [serveConnection, if_pos rfl, hconnection]
    cases hq : q.result with
    | error failure => rw [Attempt.andThen_error rfl]
    | ok keep =>
      cases keep with
      | true => exact absurd hq hnot
      | false =>
        rw [Attempt.andThen_ok rfl]
        simp
  cases hq : q.result with
  | error failure =>
    have hok := answered.ok
    rw [serveEvents_cons] at hok
    obtain ⟨_, hok, -⟩ := Attempt.andThen_result_eq_ok.mp hok
    obtain ⟨keep, hok, -⟩ := Attempt.andThen_result_eq_ok.mp hok
    change (serveConnection registry context dataFrame true last.endUnseen.writable
      last.endUnseen.answers c).result = .ok keep at hok
    rw [hserve (by rw [hq]; nofun), hq] at hok
    cases hok
  | ok keep =>
    refine ⟨keep, rfl, ?_⟩
    cases keep with
    | false =>
      have hnot : q.result ≠ .ok true := by rw [hq]; nofun
      have hclosed := (@serveEvents_closed registry context dataFrame c last.endUnseen writes (by
          change (serveConnection registry context dataFrame true _ _ c).result ≠ _
          rw [hserve hnot]
          exact hnot)).1
      change _ = bytesWritten (serveConnection registry context dataFrame true _ _ c).log at hclosed
      rw [hclosed, hserve hnot]
      exact ⟨hwritten, nofun⟩
    | true =>
      have hrun := @serveEvents_read registry context dataFrame c last.endUnseen writes rfl (by
          rw [hconnection]
          exact hq)
      rw [hconnection] at hrun
      have hok := answered.ok
      have hcomplete := answered.complete
      have hflushed := answered.flushed
      rw [hrun] at hok hcomplete hflushed
      have hwrites : ∀ event ∈ { last.endUnseen with readable := false } :: writes,
          event.readable = false := by
        intro event hmem
        rcases List.mem_cons.mp hmem with rfl | hmem
        · rfl
        · exact answered.writesOnly event hmem
      refine ⟨?_, fun _ => ⟨fun hpending => ?_, fun hsent => ?_⟩⟩
      · rw [hrun, sent_append, sent_own]
        change bytesWritten q.log ++ _ = _
        rw [hwritten]
        rfl
      · have hall := @serveEvents_pending registry context dataFrame q.state _ hwrites hpending
        rw [hid] at hall
        exact hall hok (fun id bytes hmem => hcomplete id bytes (List.mem_append_right _ hmem))
          hflushed
      · by_contra hidle
        have hnone := (@serveEvents_idle registry context dataFrame q.state _ hwrites
          (by simpa using hidle)).2
        rw [hid] at hnone
        exact hsent hnone

/-- A connection is only kept for an error response, if the end of the stream is seen with the last
bytes. -/
lemma sent_endSeen (stays : c.closeAfterFlush = false) (hroom : buffer.bytes.length < buffer.limit)
    (hread : ∀ ending, c.receive.readFrom (last.pieces.map .data ++ ending) =
      (buffer.readFrom ending).behind (last.pieces.map .data)) :
    let q := processBufferedCommands registry context last.answers.wallClock
      last.answers.readClock { c with receive := buffer }
    let rest := serveEvents registry context dataFrame c.connectionId
      ({ last.endUnseen with readable := false } :: writes) (some q.state)
    sent (serveEvents registry context dataFrame c.connectionId (last.endSeen :: writes)
        (some c)).log =
      if buffer.bytes ≠ [] ∧ q.result = .ok true ∧ q.state.closeAfterFlush = true ∧
          q.state.pending.isPending = true then sent rest.log
      else [] := by
  intro q rest
  have hwritten : bytesWritten q.log = [] := written_processBufferedCommands _ _
  have hconnection := @readConnection_seen registry context c last buffer stays hroom
    (hread [.data []])
  rw [Attempt.andThen_ok (Attempt.note_result _ _), Attempt.note_state] at hconnection
  have hserve : (readConnection registry context last.endSeen.answers c).result ≠ .ok true →
      (serveConnection registry context dataFrame true last.endSeen.writable last.endSeen.answers
        c).result ≠ .ok true ∧
      bytesWritten (serveConnection registry context dataFrame true last.endSeen.writable
        last.endSeen.answers c).log =
          bytesWritten (readConnection registry context last.endSeen.answers c).log := by
    intro hnot
    rw [serveConnection, if_pos rfl]
    cases hresult : (readConnection registry context last.endSeen.answers c).result with
    | error failure =>
      rw [Attempt.andThen_error hresult]
      exact ⟨nofun, rfl⟩
    | ok keep =>
      cases keep with
      | true => exact absurd hresult hnot
      | false =>
        rw [Attempt.andThen_ok hresult]
        simp
  have hclosed : (readConnection registry context last.endSeen.answers c).result ≠ .ok true →
      bytesWritten (readConnection registry context last.endSeen.answers c).log = [] →
      sent (serveEvents registry context dataFrame c.connectionId (last.endSeen :: writes)
        (some c)).log = [] := by
    intro hnot hnone
    have hsent := (@serveEvents_closed registry context dataFrame c last.endSeen writes
      (hserve hnot).1).1
    exact hsent.trans ((hserve hnot).2.trans hnone)
  by_cases hempty : buffer.bytes = []
  · rw [if_neg (by simp [hempty])]
    rw [if_pos (by simp [hempty])] at hconnection
    exact hclosed (by rw [hconnection]; nofun) (by rw [hconnection]; rfl)
  rw [if_neg (by simpa using hempty)] at hconnection
  change _ = (⟨(Attempt.andThen q _).result, (Attempt.andThen q _).state,
    .read _ :: (Attempt.andThen q _).log⟩ : ConnectionAttempt Bool) at hconnection
  cases hq : q.result with
  | error failure =>
    rw [if_neg (by simp)]
    rw [Attempt.andThen_error hq] at hconnection
    exact hclosed (by rw [hconnection]; nofun) (by rw [hconnection]; exact hwritten)
  | ok keep =>
    rw [Attempt.andThen_ok hq] at hconnection
    have hlog : bytesWritten (readConnection registry context last.endSeen.answers c).log = [] := by
      rw [hconnection]
      change bytesWritten (q.log ++ []) = []
      rw [List.append_nil, hwritten]
    by_cases hkept : keep = true ∧ q.state.closeAfterFlush = true ∧
        q.state.pending.isPending = true
    · obtain ⟨rfl, hclose, hpending⟩ := hkept
      rw [if_pos ⟨hempty, rfl, hclose, hpending⟩]
      have hresult : (readConnection registry context last.endSeen.answers c).result =
          .ok true := by
        rw [hconnection]
        simp [hclose, hpending]
      rw [serveEvents_read rfl hresult, sent_append, sent_own, hlog, List.nil_append,
        serveEvents_unread]
      rw [hconnection]
      rfl
    · rw [if_neg (by
        rintro ⟨-, hkeep, hrest⟩
        exact hkept ⟨Except.ok.inj hkeep, hrest⟩)]
      refine hclosed ?_ hlog
      rw [hconnection]
      intro hresult
      have hkeeps := Except.ok.inj hresult
      rw [Bool.and_eq_true, Bool.and_eq_true] at hkeeps
      exact hkept ⟨hkeeps.1.1, hkeeps.1.2, hkeeps.2⟩

/-- Behind all answers, seeing the end of the stream sends nothing. -/
lemma sent_endOfStream (hsettled : Settled context c)
    (answered : Answered registry context dataFrame c last writes) {ending : Readiness}
    {more : List ReadAnswer} (hreadable : ending.readable = true)
    (hends : ending.answers.reads = .data [] :: more) :
    sent (serveEvents registry context dataFrame c.connectionId
        (last.endUnseen :: writes ++ [ending]) (some c)).log =
      sent (serveEvents registry context dataFrame c.connectionId (last.endUnseen :: writes)
        (some c)).log := by
  rw [serveEvents_append, Attempt.andThen_ok answered.ok, sent_append]
  cases hstate : (serveEvents registry context dataFrame c.connectionId
      (last.endUnseen :: writes) (some c)).state with
  | none =>
    rw [serveEvents_none]
    exact List.append_nil _
  | some c' =>
    obtain ⟨hsettled', hid⟩ := settled_serveEvents hsettled answered.ok hstate
    rw [← hid, sent_serveEvents_single, written_endOfStream hsettled'
      (answered.flushed c' hstate) hreadable hends, List.append_nil]

end Answered

/-- What a peer is sent from its last bytes on does not depend on whether the end of its stream is
seen with them or behind all answers, if and only if nothing is left to be sent when they are read,
and no command among them is answered with a frame. -/
theorem endOfStream_position (prompt : Prompt context c) (stays : c.closeAfterFlush = false)
    {last : LastRead} {writes : List Readiness}
    (answered : Answered registry context dataFrame c last writes) {ending : Readiness}
    {more : List ReadAnswer} (hreadable : ending.readable = true)
    (hends : ending.answers.reads = .data [] :: more) :
    sent (serveEvents registry context dataFrame c.connectionId (last.endSeen :: writes)
        (some c)).log =
      sent (serveEvents registry context dataFrame c.connectionId
        (last.endUnseen :: writes ++ [ending]) (some c)).log ↔
      c.pending.isPending = false ∧
        ∀ command ∈ Connection.commands context (c.receive.bytes ++ last.pieces.flatten),
          command.plain = true := by
  obtain ⟨read, session⟩ := prompt.session
  obtain ⟨buffer, hlimit, hbytes, hread⟩ := readFrom_pieces answered.pieces answered.room
  have hroom : buffer.bytes.length < buffer.limit := by
    rw [hlimit, hbytes, List.length_append]
    exact answered.room
  have hcommands : buffer.limit = context.limits.commandFrameBytes :=
    hlimit.trans session.inStream.limit
  obtain ⟨keep, hresult, hunseen, hpends⟩ := sent_endUnseen answered stays hroom hread
  have hseen := @sent_endSeen registry context dataFrame c last writes buffer stays hroom hread
  rw [sent_endOfStream prompt.settled answered hreadable hends, hseen, hunseen, ← hbytes]
  have hplain := @processed_plain registry context { c with receive := buffer }
    last.answers.wallClock last.answers.readClock hcommands
  have hanswered := @processed_answered registry context { c with receive := buffer }
    last.answers.wallClock last.answers.readClock hcommands
  cases hpending : c.pending.isPending with
  | true =>
    -- an answer that is pending is lost where the end is seen
    have hbusy : processBufferedCommands registry context last.answers.wallClock
        last.answers.readClock { c with receive := buffer } =
          .done true { c with receive := buffer } := by
      rw [processBufferedCommands, if_pos (by simp [hpending])]
    rw [hbusy] at hresult hpends ⊢
    obtain rfl := Except.ok.inj hresult
    refine iff_of_false ?_ (by rintro ⟨h, -⟩; cases h)
    rw [if_neg (by rintro ⟨-, -, h, -⟩; cases stays.symm.trans h), if_pos rfl]
    exact ((hpends rfl).mp hpending).symm
  | false =>
    simp only [true_and]
    by_cases hall : ∀ command ∈ Connection.commands context buffer.bytes, command.plain = true
    · refine iff_of_true ?_ hall
      cases keep with
      | false =>
        rw [if_neg (by rintro ⟨-, hkept, -⟩; cases hresult.symm.trans hkept)]
        rfl
      | true =>
        rw [if_pos rfl]
        by_cases hleft : (processBufferedCommands registry context last.answers.wallClock
            last.answers.readClock { c with receive := buffer }).state.pending.isPending = true
        · refine if_pos ⟨?_, hresult, hplain hpending hall hresult hleft, hleft⟩
          intro hnil
          have hnone : buffer.nextCommand context.descriptor.wireVersion = .ok none := by
            rw [ReceiveBuffer.nextCommand, nextFrame, hnil]
            rfl
          have hsettled : Settled context { c with receive := buffer } :=
            ⟨prompt.settled.stays, fun _ _ => hnone⟩
          rw [process_settled hsettled hpending] at hleft
          cases hpending.symm.trans hleft
        · rw [if_neg (by rintro ⟨-, -, -, h⟩; exact hleft h)]
          exact (not_not.mp ((hpends rfl).not.mp hleft)).symm
    · refine iff_of_false ?_ hall
      push Not at hall
      obtain ⟨rfl, hleft, hstays⟩ := hanswered hpending stays (by simpa using hall) hresult
      rw [if_neg (by rintro ⟨-, -, h, -⟩; cases hstays.symm.trans h), if_pos rfl]
      exact ((hpends rfl).mp hleft).symm

end Registered

/-! ### The last bytes and the end of the stream -/

/-- The endpoint of a version, with the frames it is bound with. -/
def soleStatic (wireVersion : WireVersion) : EndpointContext where
  descriptor := soleEndpoint wireVersion
  limits := ⟨64⟩
  frames := ((staticFrames (soleEndpoint wireVersion) ⟨0, 0⟩).toOption).getD (.v2 [] [] [])

def soleAccepted (wireVersion : WireVersion) : Connection := .new 1 2 64 wireVersion 0

/-- A peer sends its last bytes at once. -/
def lastBytes (bytes : List UInt8) : LastRead :=
  ⟨[bytes], false, soleAnswers [] (.accepts 65535)⟩

def soleWritable : Readiness := ⟨false, true, soleAnswers [] (.accepts 65535)⟩

def soleEnding : Readiness := ⟨true, false, soleAnswers [.data []] (.accepts 65535)⟩

/-- The events of a peer that sends its last bytes at once, on its connection. -/
def soleServed (wireVersion : WireVersion) (events : List Readiness) : SlotAttempt Unit :=
  serveEvents takingRegistry (soleStatic wireVersion) (.v2 [])
    (soleAccepted wireVersion).connectionId events (some (soleAccepted wireVersion))

def Activity.isShort : Activity → Bool
  | .wrote _ false => true
  | _ => false

lemma answered_lastBytes {wireVersion : WireVersion} {bytes : List UInt8}
    (fits : bytes ≠ [] ∧ bytes.length < 64)
    (served : let p := soleServed wireVersion [(lastBytes bytes).endUnseen, soleWritable]
      p.result = .ok () ∧ p.log.all (fun entry => !entry.2.isShort) = true ∧
        p.state.all (fun c => !c.pending.isPending) = true) :
    Answered takingRegistry (soleStatic wireVersion) (.v2 []) (soleAccepted wireVersion)
      (lastBytes bytes) [soleWritable] where
  pieces piece hmem := by
    obtain rfl := List.mem_singleton.mp hmem
    exact fits.1
  room := by
    have hflatten : (lastBytes bytes).pieces.flatten = bytes := List.append_nil _
    rw [hflatten]
    exact (Nat.zero_add _).trans_lt fits.2
  writesOnly event hmem := by
    obtain rfl := List.mem_singleton.mp hmem
    rfl
  ok := served.1
  complete connectionId bytes hmem := by
    have hshort := List.all_eq_true.mp served.2.1 _ hmem
    cases hshort
  flushed c' hc' := by
    have hidle := served.2.2
    change (serveEvents _ _ _ _ _ _).state.all _ = true at hidle
    rw [Option.mem_def.mp hc'] at hidle
    simpa using hidle

/-- A frame that is refused has its error response also where the end of the stream is read with
it. -/
theorem endOfStream_position_refused :
    sent (soleServed .v3 [(lastBytes oversizedFrame).endSeen, soleWritable]).log =
        sent (soleServed .v3 [(lastBytes oversizedFrame).endUnseen, soleWritable,
          soleEnding]).log ∧
      (sent (soleServed .v3 [(lastBytes oversizedFrame).endSeen, soleWritable]).log).length =
        errorResponseFrameBytes := by
  have hanswered : Answered takingRegistry (soleStatic .v3) (.v2 []) (soleAccepted .v3)
      (lastBytes oversizedFrame) [soleWritable] :=
    answered_lastBytes (by decide +kernel) (by decide +kernel)
  have hposition := endOfStream_position (.accepted 1 2 0) rfl hanswered
    (rfl : soleEnding.readable = true) (rfl : soleEnding.answers.reads = .data [] :: [])
  exact ⟨hposition.mpr ⟨rfl, by decide +kernel⟩, by decide +kernel⟩

/-- A peer that asks for the configuration and ends its stream is not answered where both are read
at once. -/
theorem endOfStream_unanswered :
    ¬ ∀ (registry : Registry) (context : EndpointContext) (dataFrame : DataFrame) (c : Connection)
      (last : LastRead) (writes : List Readiness) (ending : Readiness) (more : List ReadAnswer),
      Prompt context c → c.closeAfterFlush = false →
        Answered registry context dataFrame c last writes → ending.readable = true →
          ending.answers.reads = .data [] :: more →
            sent (serveEvents registry context dataFrame c.connectionId (last.endSeen :: writes)
              (some c)).log =
            sent (serveEvents registry context dataFrame c.connectionId
              (last.endUnseen :: writes ++ [ending]) (some c)).log := by
  intro h
  have hanswered : Answered takingRegistry (soleStatic .v2) (.v2 []) (soleAccepted .v2)
      (lastBytes (soleCommand .configuration2)) [soleWritable] :=
    answered_lastBytes (by decide +kernel) (by decide +kernel)
  have hsame := h takingRegistry (soleStatic .v2) (.v2 []) (soleAccepted .v2)
    (lastBytes (soleCommand .configuration2)) [soleWritable] soleEnding [] (.accepted 1 2 0) rfl
    hanswered rfl rfl
  revert hsame
  decide +kernel

end PmuSimulator

import Mathlib
import PmuSimulator.Server.Turns
import PmuSimulator.Server.Reassembly

/-!
# Refused frames and how the stream is cut

A V3 connection answers the first frame it refuses with an error response. Which frame that is, and
why it is refused, is a matter of the stream alone. The identifier of the response is taken from the
frame if six bytes of it have come in, and is the endpoint's own otherwise; so it depends on the cut
of the stream where a frame is refused for the size it declares.
-/

namespace PmuSimulator

/-! ### What is refused -/

section Stream

variable (wireVersion : WireVersion) (limit : Nat) (own : UInt16)

/-- The front of a buffer as the server takes it: a command for the endpoint's own stream is taken
out, everything else that is complete is refused. -/
def serviceVerdict (bytes : List UInt8) : Verdict ServerCommand :=
  match commandVerdict wireVersion limit bytes with
  | .item (.accepted request) size =>
    if request.idcode = own then .item request.command size else .fail
  | .item (.rejected _ _) _ => .fail
  | .wait => .wait
  | .fail => .fail

/-- What a refused frame is answered with. -/
inductive Refused (bytes : List UInt8) : UInt16 → WireV3.ErrorResponseCode → Prop where
  | malformed (verdict : commandVerdict wireVersion limit bytes = .fail) :
    Refused bytes ((malformedCommand bytes).idcode.getD own) .rejectedCommand
  | rejected {idcode : UInt16} {version : WireVersion} {size : Nat}
      (verdict : commandVerdict wireVersion limit bytes = .item (.rejected idcode version) size) :
    Refused bytes idcode .rejectedCommand
  | foreign {request : BufferedCommandRequest} {size : Nat}
      (verdict : commandVerdict wireVersion limit bytes = .item (.accepted request) size)
      (other : request.idcode ≠ own) : Refused bytes request.idcode .wrongStreamOrPmu

variable {wireVersion limit own}

lemma serviceVerdict_item {bytes : List UInt8} {command : ServerCommand} {n : Nat} :
    serviceVerdict wireVersion limit own bytes = .item command n ↔
      commandVerdict wireVersion limit bytes = .item (.accepted ⟨own, command⟩) n := by
  unfold serviceVerdict
  cases commandVerdict wireVersion limit bytes with
  | wait => simp
  | fail => simp
  | item received size =>
    cases received with
    | rejected idcode version => simp
    | accepted request =>
      obtain ⟨idcode, command'⟩ := request
      by_cases hid : idcode = own
      · simp [hid]
      · simp [hid]

lemma serviceVerdict_of_not_wait {bytes : List UInt8}
    (h : serviceVerdict wireVersion limit own bytes ≠ .wait) (more : List UInt8) :
    serviceVerdict wireVersion limit own (bytes ++ more) =
      serviceVerdict wireVersion limit own bytes := by
  unfold serviceVerdict at h ⊢
  rw [commandVerdict_append]
  intro hwait
  rw [hwait] at h
  exact h rfl

variable (wireVersion limit own) in
/-- The commands of the own stream, up to the first frame that is refused. -/
def serviceFramer : Framer UInt8 ServerCommand where
  next := serviceVerdict wireVersion limit own
  next_nil := rfl
  length_pos h := (commandFramer wireVersion limit).length_pos (serviceVerdict_item.mp h)
  length_le h := (commandFramer wireVersion limit).length_le (serviceVerdict_item.mp h)
  item_append ys h := (serviceVerdict_of_not_wait (h ▸ nofun) ys).trans h
  fail_append ys h := (serviceVerdict_of_not_wait (h ▸ nofun) ys).trans h

variable {bytes : List UInt8} {streamId : UInt16} {code : WireV3.ErrorResponseCode}

lemma Refused.fail (h : Refused wireVersion limit own bytes streamId code) :
    (serviceFramer wireVersion limit own).next bytes = .fail := by
  change serviceVerdict wireVersion limit own bytes = .fail
  unfold serviceVerdict
  cases h with
  | malformed verdict => rw [verdict]
  | rejected verdict => rw [verdict]
  | foreign verdict other => rw [verdict]; exact if_neg other

/-- The code of the response to a refused frame. -/
def refusalCode : Verdict ReceivedCommand → WireV3.ErrorResponseCode
  | .item (.accepted _) _ => .wrongStreamOrPmu
  | _ => .rejectedCommand

lemma Refused.code_eq (h : Refused wireVersion limit own bytes streamId code) :
    code = refusalCode (commandVerdict wireVersion limit bytes) := by
  cases h with
  | malformed verdict => rw [verdict]; rfl
  | rejected verdict => rw [verdict]; rfl
  | foreign verdict other => rw [verdict]; rfl

lemma Refused.verdict (h : Refused wireVersion limit own bytes streamId code) :
    commandVerdict wireVersion limit bytes ≠ .wait := by
  cases h with
  | malformed verdict => rw [verdict]; simp
  | rejected verdict => rw [verdict]; simp
  | foreign verdict other => rw [verdict]; simp

/-- The bytes at a place are those of any longer list. -/
lemma u16At_prefix {front all : List UInt8} (h : front <+: all) {i : Nat}
    (hi : i + 2 ≤ front.length) : u16At front i = u16At all i := by
  obtain ⟨more, rfl⟩ := h
  have hget : ∀ j, j < front.length → (front ++ more).getD j 0 = front.getD j 0 :=
    fun j hj => List.getD_append front more 0 j hj
  rw [u16At, u16At, hget i (by omega), hget (i + 1) (by omega)]

/-- The size a complete frame declares, and the identifier in it. -/
lemma commandVerdict_outcome {received : ReceivedCommand} {n : Nat}
    (h : commandVerdict wireVersion limit bytes = .item received n) :
    16 ≤ bytes.length ∧ received = outcomeOf wireVersion (bytes.take n) ∧
      u16At (bytes.take n) 4 = u16At bytes 4 := by
  rw [commandVerdict_item] at h
  obtain ⟨rfl, h16, hle, -, hr⟩ := nextFrame_some h
  exact ⟨h16.trans hle, ((receive_iff _ _ _).mp hr).2,
    u16At_prefix (List.take_prefix _ _) (by rw [List.length_take]; omega)⟩

/-- The identifier is that of the frame if six bytes of it are there. -/
lemma Refused.streamId_eq (h : Refused wireVersion limit own bytes streamId code) :
    streamId = if 6 ≤ bytes.length then u16At bytes 4 else own := by
  cases h with
  | malformed verdict =>
    unfold malformedCommand
    split_ifs <;> rfl
  | @rejected idcode version size verdict =>
    obtain ⟨h16, houtcome, hid⟩ := commandVerdict_outcome verdict
    rw [if_pos (by omega), ← hid]
    unfold outcomeOf at houtcome
    cases hc : commandIn wireVersion (bytes.take size) with
    | none =>
      rw [hc] at houtcome
      exact (ReceivedCommand.rejected.inj houtcome).1
    | some command =>
      rw [hc] at houtcome
      cases houtcome
  | @foreign request size verdict other =>
    obtain ⟨h16, houtcome, hid⟩ := commandVerdict_outcome verdict
    rw [if_pos (by omega), ← hid]
    exact (outcomeOf_accepted.mp houtcome.symm).2.symm

/-- A refused frame of a size within the limits is complete. -/
lemma Refused.complete (h : Refused wireVersion limit own bytes streamId code)
    (hsize : FrameView.declaredSize bytes ≤ limit) :
    FrameView.declaredSize bytes ≤ bytes.length := by
  have hverdict := h.verdict
  rw [commandVerdict_eq] at hverdict
  by_contra hlt
  split_ifs at hverdict
  · exact hverdict rfl
  · omega
  · exact hverdict rfl
  · omega
  · omega

/-- A refused frame in a stream. -/
def RefusedIn (wireVersion : WireVersion) (limit : Nat) (own : UInt16) (stream : List UInt8)
    (streamId : UInt16) (code : WireV3.ErrorResponseCode) : Prop :=
  ∃ n, (serviceFramer wireVersion limit own).Cut stream n ∧
    Refused wireVersion limit own (stream.drop n) streamId code

lemma RefusedIn.drain {stream : List UInt8}
    (h : RefusedIn wireVersion limit own stream streamId code) :
    ((serviceFramer wireVersion limit own).drain stream).failed = true ∧
      Refused wireVersion limit own
        (stream.drop ((serviceFramer wireVersion limit own).drain stream).consumed) streamId
        code := by
  obtain ⟨n, hcut, hrefused⟩ := h
  obtain ⟨hn, hfailed⟩ := hcut.drain_fail hrefused.fail
  exact ⟨hfailed, hn ▸ hrefused⟩

lemma nextCommand_error {buffer : ReceiveBuffer} {malformed : MalformedCommand}
    (h : buffer.nextCommand wireVersion = .error malformed) :
    commandVerdict wireVersion buffer.limit buffer.bytes = .fail ∧
      malformed = malformedCommand buffer.bytes := by
  refine ⟨Reassembly.verdict_of_error h, ?_⟩
  unfold ReceiveBuffer.nextCommand at h
  cases hn : nextFrame wireVersion buffer.limit buffer.bytes with
  | ok found => rcases found with - | ⟨received, size⟩ <;> simp [hn] at h
  | error e =>
    rw [hn] at h
    obtain rfl := Except.error.inj h
    simp only [nextFrame] at hn
    split_ifs at hn
    · exact (Except.error.inj hn).symm
    · cases hr : receive wireVersion (buffer.bytes.take (FrameView.declaredSize buffer.bytes)) with
      | error failure =>
        rw [hr] at hn
        exact (Except.error.inj hn).symm
      | ok received =>
        rw [hr] at hn
        cases hn

lemma nextCommand_item {buffer rest : ReceiveBuffer} {received : ReceivedCommand}
    (h : buffer.nextCommand wireVersion = .ok (some (received, rest))) :
    ∃ n, commandVerdict wireVersion buffer.limit buffer.bytes = .item received n ∧
      rest = buffer.dropFront n := by
  obtain ⟨n, hn, hrest⟩ := ReceiveBuffer.nextCommand_some h
  exact ⟨n, commandVerdict_item.mpr hn, hrest⟩

end Stream

/-! ### Turns of a connection -/

/-- A connection that has come to a place in the stream it reads. -/
structure InStream (context : EndpointContext) (stream : List UInt8) (c : Connection) : Prop where
  limit : c.receive.limit = context.limits.commandFrameBytes
  cut : c.closeAfterFlush = false → ∃ n, (serviceFramer context.descriptor.wireVersion
    context.limits.commandFrameBytes context.descriptor.streamId).Cut stream n ∧
      c.receive.bytes = stream.drop n

/-- An attempt that announces refused frames of the stream only. -/
structure ConnectionAttempt.Announces (context : EndpointContext) (stream : List UInt8)
    (p : ConnectionAttempt Bool) : Prop where
  refused : ∀ {streamId code timestamp},
    .queued (.errorResponse streamId code timestamp) ∈ p.log →
      RefusedIn context.descriptor.wireVersion context.limits.commandFrameBytes
        context.descriptor.streamId stream streamId code
  keeps : p.result = .ok true → InStream context stream p.state

open ConnectionAttempt

/-- An activity that is not an error response. -/
def Activity.silent : Activity → Bool
  | .queued (.errorResponse _ _ _) => false
  | _ => true

section Registered

variable {registry : Registry} {context : EndpointContext} {stream : List UInt8} {c : Connection}

lemma announces_quiet {p : ConnectionAttempt Bool}
    (hlog : ∀ activity ∈ p.log, activity.silent = true)
    (hkeeps : p.result = .ok true → InStream context stream p.state) :
    Announces context stream p where
  refused hmem := by cases hlog _ hmem
  keeps := hkeeps

lemma announces_done {b : Bool} (h : InStream context stream c) :
    Announces context stream (.done b c) := announces_quiet (by simp) fun _ => h

/-- Going on behind an attempt that announces nothing. -/
lemma ConnectionAttempt.Announces.andThen {α : Type} {p : ConnectionAttempt α}
    {f : α → Connection → ConnectionAttempt Bool}
    (hlog : ∀ activity ∈ p.log, activity.silent = true)
    (h : ∀ a, p.result = .ok a → Announces context stream (f a p.state)) :
    Announces context stream (p.andThen f) := by
  cases hp : p.result with
  | error failure =>
    rw [Attempt.andThen_error hp]
    exact announces_quiet hlog (by simp)
  | ok a =>
    rw [Attempt.andThen_ok hp]
    refine ⟨fun hmem => ?_, (h a hp).keeps⟩
    rcases List.mem_append.mp hmem with hmem | hmem
    · cases hlog _ hmem
    · exact (h a hp).refused hmem

/-- Going on behind an attempt, where the connection is to be kept. -/
lemma ConnectionAttempt.Announces.goOn {p : ConnectionAttempt Bool}
    {f : Bool → Connection → ConnectionAttempt Bool}
    (hp : Announces context stream p) (hquit : ∀ c, f false c = .done false c)
    (hkeep : InStream context stream p.state → Announces context stream (f true p.state)) :
    Announces context stream (p.andThen f) := by
  cases hresult : p.result with
  | error failure =>
    rw [Attempt.andThen_error hresult]
    exact ⟨hp.refused, by simp⟩
  | ok keep =>
    rw [Attempt.andThen_ok hresult]
    cases keep with
    | false =>
      rw [hquit]
      exact ⟨fun hmem => hp.refused (by simpa using hmem), by simp⟩
    | true =>
      have hrest := hkeep (hp.keeps hresult)
      refine ⟨fun hmem => ?_, hrest.keeps⟩
      rcases List.mem_append.mp hmem with hmem | hmem
      · exact hp.refused hmem
      · exact hrest.refused hmem

lemma reregister_silent {writable : Bool} :
    ∀ activity ∈ (reregisterConnection registry writable c).log, activity.silent = true := by
  simp only [reregisterConnection]
  cases registry.reregister c.token (if writable then .readableWritable else .readable) with
  | error kind => simp
  | ok _ => simp [Activity.silent]

lemma ConnectionAttempt.Announces.reregister {writable : Bool}
    {f : Unit → Connection → ConnectionAttempt Bool}
    (h : Announces context stream (f () c)) :
    Announces context stream ((reregisterConnection registry writable c).andThen f) := by
  refine Announces.andThen reregister_silent fun _ _ => ?_
  rw [reregisterConnection_state]
  exact h

/-- A refused frame is answered with its response, and the connection reads no more. -/
lemma announces_refuseCommand {wallClock : SystemTime} {wireVersion : WireVersion}
    {counter : Counter} {streamId : UInt16} {code : WireV3.ErrorResponseCode}
    (hlimit : c.receive.limit = context.limits.commandFrameBytes)
    (hrefused : RefusedIn context.descriptor.wireVersion context.limits.commandFrameBytes
      context.descriptor.streamId stream streamId code) :
    Announces context stream
      (refuseCommand registry context wallClock wireVersion counter streamId code c) := by
  unfold refuseCommand
  refine Announces.andThen (by simp [Activity.silent]) fun _ _ => ?_
  rw [Attempt.note_state]
  by_cases hv3 : wireVersion = .v3
  · rw [if_pos hv3]
    unfold queueErrorResponse
    cases responseTimestamp context.descriptor.timeBase wallClock with
    | error failure => exact announces_quiet (by simp) (by simp)
    | ok timestamp =>
      cases c.errorFrame with
      | none => exact announces_quiet (by simp) (by simp)
      | some frame =>
        simp only [Attempt.andThen_assoc]
        rw [Attempt.andThen_ok (Attempt.note_result _ _)]
        have hclosing : InStream context stream { c with
            errorFrame := some (WireV3.encodeErrorResponse streamId code timestamp)
            pending := .error 0
            streaming := false
            closeAfterFlush := true } := ⟨hlimit, fun h => by cases h⟩
        have hrest : Announces context stream ((reregisterConnection registry true _).andThen
            fun _ c => .done true c) := Announces.reregister (announces_done hclosing)
        refine ⟨fun hmem => ?_, hrest.keeps⟩
        rcases List.mem_cons.mp hmem with heq | hmem
        · obtain ⟨rfl, rfl, rfl⟩ := QueuedFrame.errorResponse.inj (Activity.queued.inj heq)
          exact hrefused
        · exact hrest.refused hmem
  · rw [if_neg hv3]
    exact announces_quiet (by simp) (by simp)

variable (registry context) in
lemma handleCommand_silent (command : ServerCommand) (c : Connection) :
    ∀ activity ∈ (handleCommand registry context command c).log, activity.silent = true := by
  have hsettled : ∀ {c : Connection},
      ∀ activity ∈ (settleCommand registry c).log, activity.silent = true := by
    intro c
    unfold settleCommand
    rw [Attempt.andThen_log fun _ _ => rfl]
    exact reregister_silent
  unfold handleCommand
  by_cases hpending : c.pending.isPending
  · rw [if_pos hpending]
    simp [Activity.silent]
  rw [if_neg hpending]
  have hinformed : ∀ activity ∈ (queueInformation registry context command c).log,
      activity.silent = true := by
    unfold queueInformation
    cases informationPending context.descriptor.wireVersion command with
    | none => simp [Activity.silent]
    | some pending =>
      intro activity hmem
      rcases Attempt.mem_andThen_log hmem with hmem | ⟨_, -, hmem⟩
      · obtain rfl := List.mem_singleton.mp hmem
        rfl
      · exact hsettled activity hmem
  cases command with
  | stop => exact hsettled
  | start => exact hsettled
  | _ => exact hinformed

/-- The place in the stream that a connection handles commands from. -/
lemma InStream.front (hin : InStream context stream c)
    (hfree : ¬ (c.pending.isPending || c.closeAfterFlush) = true) {verdict : Verdict ReceivedCommand}
    (hverdict : commandVerdict context.descriptor.wireVersion c.receive.limit c.receive.bytes =
      verdict) :
    ∃ n, (serviceFramer context.descriptor.wireVersion context.limits.commandFrameBytes
        context.descriptor.streamId).Cut stream n ∧ c.receive.bytes = stream.drop n ∧
      commandVerdict context.descriptor.wireVersion context.limits.commandFrameBytes
        (stream.drop n) = verdict := by
  rw [Bool.or_eq_true, not_or, Bool.not_eq_true, Bool.not_eq_true] at hfree
  obtain ⟨n, hcut, hbytes⟩ := hin.cut hfree.2
  rw [hin.limit, hbytes] at hverdict
  exact ⟨n, hcut, hbytes, hverdict⟩

lemma InStream.malformed (hin : InStream context stream c)
    (hfree : ¬ (c.pending.isPending || c.closeAfterFlush) = true) {malformed : MalformedCommand}
    (hn : c.receive.nextCommand context.descriptor.wireVersion = .error malformed) :
    RefusedIn context.descriptor.wireVersion context.limits.commandFrameBytes
      context.descriptor.streamId stream (malformed.idcode.getD context.descriptor.streamId)
      .rejectedCommand := by
  obtain ⟨hverdict, rfl⟩ := nextCommand_error hn
  obtain ⟨n, hcut, hbytes, hverdict⟩ := hin.front hfree hverdict
  rw [hbytes]
  exact ⟨n, hcut, .malformed hverdict⟩

lemma InStream.rejected (hin : InStream context stream c)
    (hfree : ¬ (c.pending.isPending || c.closeAfterFlush) = true) {idcode : UInt16}
    {version : WireVersion} {receive : ReceiveBuffer}
    (hn : c.receive.nextCommand context.descriptor.wireVersion =
      .ok (some (.rejected idcode version, receive))) :
    receive.limit = context.limits.commandFrameBytes ∧
      RefusedIn context.descriptor.wireVersion context.limits.commandFrameBytes
        context.descriptor.streamId stream idcode .rejectedCommand := by
  obtain ⟨m, hverdict, rfl⟩ := nextCommand_item hn
  obtain ⟨n, hcut, -, hverdict⟩ := hin.front hfree hverdict
  exact ⟨hin.limit, n, hcut, .rejected hverdict⟩

lemma InStream.foreign (hin : InStream context stream c)
    (hfree : ¬ (c.pending.isPending || c.closeAfterFlush) = true)
    {request : BufferedCommandRequest} {receive : ReceiveBuffer}
    (hn : c.receive.nextCommand context.descriptor.wireVersion =
      .ok (some (.accepted request, receive)))
    (hid : request.idcode ≠ context.descriptor.streamId) :
    receive.limit = context.limits.commandFrameBytes ∧
      RefusedIn context.descriptor.wireVersion context.limits.commandFrameBytes
        context.descriptor.streamId stream request.idcode .wrongStreamOrPmu := by
  obtain ⟨m, hverdict, rfl⟩ := nextCommand_item hn
  obtain ⟨n, hcut, -, hverdict⟩ := hin.front hfree hverdict
  exact ⟨hin.limit, n, hcut, .foreign hverdict hid⟩

/-- A command that is handled is behind the connection. -/
lemma InStream.handled (hin : InStream context stream c)
    (hfree : ¬ (c.pending.isPending || c.closeAfterFlush) = true)
    {request : BufferedCommandRequest} {receive : ReceiveBuffer}
    (hn : c.receive.nextCommand context.descriptor.wireVersion =
      .ok (some (.accepted request, receive)))
    (hid : request.idcode = context.descriptor.streamId) (now : Instant) :
    InStream context stream (handleCommand registry context request.command
      (({ c with receive } : Connection).recordValidCommand now)).state := by
  obtain ⟨m, hverdict, rfl⟩ := nextCommand_item hn
  obtain ⟨n, hcut, hbytes, hverdict⟩ := hin.front hfree hverdict
  refine ⟨?_, fun _ => ⟨n + m, ?_, ?_⟩⟩
  · rw [handleCommand_receive]
    exact hin.limit
  · refine hcut.item (r := request.command) (serviceVerdict_item.mpr ?_)
    rw [← hid]
    exact hverdict
  · rw [handleCommand_receive]
    change c.receive.bytes.drop m = stream.drop (n + m)
    rw [hbytes, List.drop_drop]

/-- Handling the buffered commands takes a connection along the stream, to the first refused
frame. -/
lemma announces_processBufferedCommands (wallClock : SystemTime) (clock : Nat → Instant)
    (hin : InStream context stream c) :
    Announces context stream (processBufferedCommands registry context wallClock clock c) := by
  fun_induction processBufferedCommands registry context wallClock clock c with
  | case1 clock c hbusy => exact announces_done hin
  | case2 clock c hfree malformed hn =>
    exact announces_refuseCommand hin.limit (hin.malformed hfree hn)
  | case3 clock c hfree hn => exact announces_done hin
  | case4 clock c hfree idcode wireVersion receive hn =>
    obtain ⟨hlimit, hrefused⟩ := hin.rejected hfree hn
    exact announces_refuseCommand hlimit hrefused
  | case5 clock c hfree request receive hn hid =>
    obtain ⟨hlimit, hrefused⟩ := hin.foreign hfree hn hid
    exact announces_refuseCommand hlimit hrefused
  | case6 clock c hfree request receive hn hid taken handled failure hr =>
    refine announces_quiet (fun activity hmem => ?_) (by simp)
    rcases List.mem_cons.mp hmem with rfl | hmem
    · rfl
    · exact handleCommand_silent registry context _ _ activity hmem
  | case7 clock c hfree request receive hn hid taken handled hr =>
    refine announces_quiet (fun activity hmem => ?_) (by simp)
    rcases List.mem_cons.mp hmem with rfl | hmem
    · rfl
    · exact handleCommand_silent registry context _ _ activity hmem
  | case8 clock c hfree request receive hn hid taken handled hr rest =>
    rename_i ih
    have hannounces := ih (hin.handled hfree hn (not_not.mp hid) (clock 0))
    refine ⟨fun hmem => ?_, hannounces.keeps⟩
    rcases List.mem_cons.mp hmem with hmem | hmem
    · cases hmem
    rcases List.mem_append.mp hmem with hmem | hmem
    · cases handleCommand_silent registry context _ _ _ hmem
    · exact hannounces.refused hmem

variable (registry context) in
/-- What a readable event takes in from the stream. -/
def Connection.taken (c : Connection) (reads : List ReadAnswer) : List UInt8 :=
  if c.closeAfterFlush then []
  else (c.receive.readFrom reads).buffer.bytes.drop c.receive.bytes.length

lemma InStream.taken (hin : InStream context stream c) (hopen : c.closeAfterFlush = false)
    (reads : List ReadAnswer) :
    InStream context (stream ++ c.taken reads)
      { c with receive := (c.receive.readFrom reads).buffer } := by
  obtain ⟨hlimit, more, hmore⟩ := readFrom_grows c.receive reads
  obtain ⟨n, hcut, hbytes⟩ := hin.cut hopen
  have htaken : c.taken reads = more := by
    rw [Connection.taken, if_neg (by simp [hopen]), ← hmore, List.drop_left]
  rw [htaken]
  refine ⟨hlimit.trans hin.limit, fun _ => ⟨n, hcut.append more, ?_⟩⟩
  rw [List.drop_append_of_le_length hcut.le_length, ← hbytes]
  exact hmore.symm

lemma announces_readConnection {answers : Answers} (hin : InStream context stream c) :
    Announces context (stream ++ c.taken answers.reads)
      (readConnection registry context answers c) := by
  unfold readConnection
  by_cases hclose : c.closeAfterFlush = true
  · have hnothing : c.taken answers.reads = [] := by rw [Connection.taken, if_pos hclose]
    rw [if_pos hclose, hnothing, List.append_nil]
    exact announces_done hin
  · rw [if_neg hclose]
    have hread := hin.taken (by simpa using hclose) answers.reads
    generalize stream ++ c.taken answers.reads = stream' at hread ⊢
    generalize c.receive.readFrom answers.reads = read at hread ⊢
    dsimp only
    refine Announces.andThen (by simp [Activity.silent]) fun _ _ => ?_
    rcases read with ⟨kind | result, receive, answered⟩
    · exact announces_quiet (by simp [Activity.silent]) (by simp)
    have hprocess : Announces context stream' (processBufferedCommands registry context
        answers.wallClock answers.readClock { c with receive }) :=
      announces_processBufferedCommands _ _ hread
    cases result with
    | «open» => exact hprocess
    | closed => exact announces_quiet (by simp) (by simp)
    | closedWithBufferedData =>
      refine hprocess.goOn (fun c => by simp) fun hin => ?_
      exact announces_quiet (by simp) fun _ => hin

lemma InStream.withPending (hin : InStream context stream c) (pending : PendingFrame) :
    InStream context stream { c with pending } := ⟨hin.limit, hin.cut⟩

lemma announces_frameWritten {answers : Answers} {bytes : List UInt8}
    (hin : InStream context stream c) :
    Announces context stream (frameWritten registry context answers bytes c) := by
  unfold frameWritten
  refine Announces.andThen (fun activity hmem => ?_) fun _ _ => ?_
  · rcases List.mem_cons.mp hmem with rfl | hmem
    · rfl
    · split at hmem
      · obtain rfl := List.mem_singleton.mp hmem
        rfl
      · cases hmem
  simp only
  by_cases hclose : c.closeAfterFlush = true
  · rw [if_pos hclose]
    exact announces_quiet (by simp) (by simp)
  rw [if_neg hclose]
  have hprocess : Announces context stream (processBufferedCommands registry context
      answers.wallClock answers.writeClock { c with pending := .none }) :=
    announces_processBufferedCommands _ _ (hin.withPending .none)
  refine hprocess.goOn (fun c => rfl) fun hkept => ?_
  simp only [Bool.not_true, Bool.false_eq_true, if_false]
  split_ifs
  · exact announces_done hkept
  · exact Announces.reregister (announces_done hkept)

lemma announces_flushConnection {dataFrame : DataFrame} {answers : Answers}
    (hin : InStream context stream c) :
    Announces context stream (flushConnection registry context dataFrame answers c) := by
  have hshort : ∀ {bytes : List UInt8} {pending : PendingFrame}, Announces context stream
      ((Attempt.note (.wrote bytes false) { c with pending }).andThen fun _ c =>
        (reregisterConnection registry true c).andThen fun _ c => .done true c) :=
    Announces.andThen (by simp [Activity.silent]) fun _ _ =>
      Announces.reregister (announces_done (hin.withPending _))
  unfold flushConnection
  split_ifs
  · exact announces_done hin
  cases pendingFrameBytes context dataFrame c with
  | error failure => exact announces_quiet (by simp) (by simp)
  | ok frame =>
    simp only
    by_cases hlong : frame.length < c.pending.offset
    · rw [if_pos hlong]
      exact announces_quiet (by simp) (by simp)
    rw [if_neg hlong]
    cases answers.write with
    | failed kind =>
      cases kind with
      | wouldBlock => exact hshort
      | _ => exact announces_quiet (by simp [Activity.silent]) (by simp)
    | accepts count =>
      simp only
      split_ifs
      · exact announces_quiet (by simp [Activity.silent]) (by simp)
      · exact announces_frameWritten hin
      · exact hshort

lemma announces_serveConnection {dataFrame : DataFrame} {readable writable : Bool}
    {answers : Answers} (hin : InStream context stream c) :
    Announces context (if readable then stream ++ c.taken answers.reads else stream)
      (serveConnection registry context dataFrame readable writable answers c) := by
  unfold serveConnection
  have hread : Announces context (if readable then stream ++ c.taken answers.reads else stream)
      (if readable then readConnection registry context answers c else .done true c) := by
    cases readable with
    | true => exact announces_readConnection hin
    | false => exact announces_done hin
  refine hread.goOn (fun c => rfl) fun hkept => ?_
  simp only [Bool.not_true, Bool.false_eq_true, if_false]
  cases writable with
  | true =>
    rw [if_pos rfl]
    exact Announces.andThen (by simp [Activity.silent]) fun _ _ => announces_flushConnection hkept
  | false => exact announces_done hkept

lemma announces_sendDataFrame {dataFrame : DataFrame} {tick : Tick} {answers : Answers}
    (hin : InStream context stream c) :
    Announces context stream (sendDataFrame registry context dataFrame tick answers c) := by
  unfold sendDataFrame
  exact Announces.andThen (by simp [Activity.silent]) fun _ _ =>
    Announces.reregister (announces_flushConnection (hin.withPending (.data 0)))

/-! ### Turns of a slot -/

/-- What an influence takes in from the stream. -/
def Influence.taken (c : Connection) : Influence → List UInt8
  | served readable _ answers => if readable then c.taken answers.reads else []
  | _ => []

lemma silent_closeConnection (connectionId : Nat) (connection : Option Connection) :
    ∀ entry ∈ (closeConnection registry connectionId connection).log, entry.2.silent = true := by
  intro entry hmem
  cases connection with
  | none => cases hmem
  | some c =>
    simp only [closeConnection] at hmem
    split_ifs at hmem
    · cases hmem
    · cases hr : registry.deregister c.token with
      | error kind =>
        rw [hr] at hmem
        cases hmem
      | ok _ =>
        rw [hr] at hmem
        obtain rfl := List.mem_singleton.mp hmem
        rfl

lemma silent_closePlanned (plan : Option FramePlan) (connection : Option Connection) :
    ∀ entry ∈ (closePlanned registry plan connection).log, entry.2.silent = true := by
  cases plan with
  | none => exact fun entry hmem => nomatch hmem
  | some plan =>
    have hkeeps : (closePlanned registry (some plan) connection).Keeps
        (fun _ log => ∀ entry ∈ log, entry.2.silent = true) [] := by
      refine .each (by simp) fun connectionId _ connection before hbefore entry hmem => ?_
      rcases List.mem_append.mp hmem with hmem | hmem
      · exact hbefore entry hmem
      · exact silent_closeConnection connectionId connection entry hmem
    simpa [Attempt.Keeps] using hkeeps

lemma silent_dropSlow (connection : Option Connection) :
    ∀ entry ∈ (dropSlow registry connection).log, entry.2.silent = true := by
  intro entry hmem
  cases connection with
  | none => cases hmem
  | some c =>
    simp only [dropSlow] at hmem
    split_ifs at hmem
    · cases hmem
    · rcases Attempt.mem_andThen_log hmem with hmem | ⟨_, -, hmem⟩
      · obtain rfl := List.mem_singleton.mp hmem
        rfl
      · exact silent_closeConnection _ _ entry hmem
    · cases hmem

/-- What is announced on a connection is announced on its slot. -/
lemma ConnectionAttempt.Announces.slot {p : ConnectionAttempt Bool}
    (hp : Announces context stream p)
    {connectionId connectionId' : Nat} {streamId : UInt16} {code : WireV3.ErrorResponseCode}
    {timestamp : Timestamp}
    (hmem : (connectionId, .queued (.errorResponse streamId code timestamp)) ∈
      ((p.lift some (c.connectionId, ·)).andThen (keepOrClose registry connectionId')).log) :
    RefusedIn context.descriptor.wireVersion context.limits.commandFrameBytes
      context.descriptor.streamId stream streamId code := by
  rcases Attempt.mem_andThen_log hmem with hmem | ⟨keep, -, hmem⟩
  · obtain ⟨activity, hmem, heq⟩ := List.mem_map.mp hmem
    obtain rfl := (Prod.mk.inj heq).2
    exact hp.refused hmem
  · cases keep with
    | true => cases hmem
    | false =>
      rw [keepOrClose, if_neg Bool.false_ne_true] at hmem
      cases silent_closeConnection _ _ _ hmem

variable {dataFrame : DataFrame} {seed : UInt64} {influence : Influence}

lemma refused_of_sendTurn {tick : Tick} {omitData : Bool} {answers : Answers}
    {connection : Option Connection} (hin : ∀ c ∈ connection, InStream context stream c)
    {connectionId : Nat} {streamId : UInt16} {code : WireV3.ErrorResponseCode}
    {timestamp : Timestamp}
    (hmem : (connectionId, .queued (.errorResponse streamId code timestamp)) ∈
      (sendTurn registry context dataFrame seed tick omitData answers connection).log) :
    RefusedIn context.descriptor.wireVersion context.limits.commandFrameBytes
      context.descriptor.streamId stream streamId code := by
  unfold sendTurn at hmem
  split_ifs at hmem
  · cases hmem
  cases hencode : encodeDataFrame context seed tick dataFrame with
  | error failure =>
    rw [hencode] at hmem
    cases hmem
  | ok dataFrame' =>
    rw [hencode] at hmem
    cases connection with
    | none => cases hmem
    | some c =>
      simp only [sendTick] at hmem
      split_ifs at hmem
      · cases hmem
      · exact (announces_sendDataFrame (hin c rfl)).slot hmem

variable (readable writable : Bool) (answers : Answers) in
lemma announces_served (hin : InStream context stream c) :
    Announces context (stream ++ Influence.taken c (.served readable writable answers))
      (serveConnection registry context dataFrame readable writable answers c) := by
  have hserve : Announces context (if readable then stream ++ c.taken answers.reads else stream)
      (serveConnection registry context dataFrame readable writable answers c) :=
    announces_serveConnection hin
  cases readable with
  | true => exact hserve
  | false => simpa [Influence.taken] using hserve

/-- What a turn announces is refused in the stream, with what the turn takes in. -/
lemma refused_of_turn (hin : InStream context stream c) {connectionId : Nat} {streamId : UInt16}
    {code : WireV3.ErrorResponseCode} {timestamp : Timestamp}
    (hmem : (connectionId, .queued (.errorResponse streamId code timestamp)) ∈
      (influence.turn registry context dataFrame seed c).log) :
    RefusedIn context.descriptor.wireVersion context.limits.commandFrameBytes
      context.descriptor.streamId (stream ++ influence.taken c) streamId code := by
  cases influence with
  | served readable writable answers =>
    simp only [Influence.turn, dispatchConnection, Option.any_some, decide_true, if_true,
      onConnection] at hmem
    exact (announces_served readable writable answers hin).slot hmem
  | expired now =>
    simp only [Influence.turn, expireConnection] at hmem
    split_ifs at hmem
    · cases silent_closeConnection _ _ _ hmem
    · cases hmem
  | ticked tick plan answers =>
    change RefusedIn _ _ _ (stream ++ []) streamId code
    rw [List.append_nil]
    rcases Attempt.mem_andThen_log hmem with hmem | ⟨_, -, hmem⟩
    · cases silent_closePlanned _ _ _ hmem
    rcases Attempt.mem_andThen_log hmem with hmem | ⟨_, -, hmem⟩
    · cases silent_dropSlow _ _ hmem
    refine refused_of_sendTurn (fun c' hc' => ?_) hmem
    obtain ⟨hsome, -⟩ := closePlanned_survives (dropSlow_subset _ c' hc')
    exact Option.some.inj hsome ▸ hin

/-- A connection that survives its turn has come along the stream. -/
lemma inStream_of_turn (hin : InStream context stream c) {c' : Connection}
    (hok : (influence.turn registry context dataFrame seed c).result = .ok ())
    (h : (influence.turn registry context dataFrame seed c).state = some c') :
    InStream context (stream ++ influence.taken c) c' := by
  have hquiet : (∀ readable writable answers, influence ≠ .served readable writable answers) →
      InStream context stream c' := by
    intro hnot
    rcases turn_survives hok h with ⟨rfl, -⟩ | ⟨p, hkept, rfl, -, hkind⟩
    · exact hin
    · rcases hkind with ⟨readable, writable, answers, hserved, -⟩ |
        ⟨tick, plan, answers, dataFrame', -, -, -, -, rfl⟩
      · exact absurd hserved (hnot readable writable answers)
      · exact (announces_sendDataFrame hin).keeps hkept
  cases influence with
  | served readable writable answers =>
    simp only [Influence.turn, dispatchConnection, Option.any_some, decide_true, if_true,
      onConnection] at hok h
    have hid : (serveConnection registry context dataFrame readable writable answers
        c).state.connectionId = c.connectionId :=
      (moving_serveConnection readable writable answers).identity.1
    obtain ⟨hkept, rfl, -⟩ := keepOrClose_survives hid h hok
    exact (announces_served readable writable answers hin).keeps hkept
  | expired now => simpa [Influence.taken] using hquiet (by simp)
  | ticked tick plan answers =>
    simpa [Influence.taken] using hquiet (by simp)

end Registered

/-! ### Sessions -/

section Sessions

variable (context : EndpointContext)

/-- A connection that is still open, and the bytes that were read on it since it was accepted. -/
inductive Session : List UInt8 → Connection → Prop where
  | accepted (connectionId token : Nat) (acceptedAt : Instant) :
    Session [] (.new connectionId token context.limits.commandFrameBytes
      context.descriptor.wireVersion acceptedAt)
  | turn {read : List UInt8} {c c' : Connection} {registry : Registry} {dataFrame : DataFrame}
      {seed : UInt64} {influence : Influence} (session : Session read c)
      (ok : (influence.turn registry context dataFrame seed c).result = .ok ())
      (survives : (influence.turn registry context dataFrame seed c).state = some c') :
    Session (read ++ influence.taken c) c'

/-- In the turn that reads the last of these bytes, or a later one, an error response is queued. -/
def QueuesErrorResponse (read : List UInt8) (streamId : UInt16)
    (code : WireV3.ErrorResponseCode) : Prop :=
  ∃ before c registry dataFrame seed, ∃ influence : Influence, ∃ timestamp,
    Session context before c ∧ read = before ++ influence.taken c ∧
      (c.connectionId, .queued (.errorResponse streamId code timestamp)) ∈
        (influence.turn registry context dataFrame seed c).log

variable {context} {read stream : List UInt8} {c : Connection} {streamId : UInt16}
  {code : WireV3.ErrorResponseCode}

lemma Session.inStream (session : Session context read c) : InStream context read c := by
  induction session with
  | accepted connectionId token acceptedAt => exact ⟨rfl, fun _ => ⟨0, .start, rfl⟩⟩
  | turn session ok survives ih => exact inStream_of_turn ih ok survives

lemma QueuesErrorResponse.refusedIn (h : QueuesErrorResponse context read streamId code) :
    RefusedIn context.descriptor.wireVersion context.limits.commandFrameBytes
      context.descriptor.streamId read streamId code := by
  obtain ⟨before, c, registry, dataFrame, seed, influence, timestamp, session, rfl, hmem⟩ := h
  exact refused_of_turn session.inStream hmem

/-- Every live connection of a run is in a session. -/
lemma session_of_run {registry : Registry} {codec : ManagementCodec} {l₀ l : EventLoop}
    {h : List (Machine.Taken EventLoop Input (List Report))} {i : Nat} {slot : Slot}
    (started : Started l₀) (run : (eventLoop registry codec).Run l₀ h l) (running : l.ended = none)
    {e : Endpoint} (he : l.server.endpoints[i]? = some e) (hc : e.connections slot = some c) :
    ∃ read, Session e.toEndpointContext read c := by
  refine history_of_turns (I := fun context c _ => ∃ read, Session context read c) started run
    (fun context _ connectionId token acceptedAt => ⟨[], .accepted connectionId token acceptedAt⟩)
    ?_ running he hc
  rintro context - dataFrame c log influence ⟨read, session⟩ hok c' hc'
  exact ⟨identity_of_turn hok hc', _, session.turn hok hc'⟩

/-- An error response that is queued in a run is queued in a session. -/
theorem queues_of_step {registry : Registry} {codec : ManagementCodec} {l₀ l l' : EventLoop}
    {h : List (Machine.Taken EventLoop Input (List Report))} {i : Nat} {slot : Slot} {input : Input}
    {log : List Report} (started : Started l₀) (run : (eventLoop registry codec).Run l₀ h l)
    (step : (eventLoop registry codec).step l input = .ok (log, l')) (running : l'.ended = none)
    {e e' : Endpoint} (he : l.server.endpoints[i]? = some e)
    (he' : l'.server.endpoints[i]? = some e') (hc : e.connections slot = some c)
    {timestamp : Timestamp} (hmem : (c.connectionId,
      .queued (.errorResponse streamId code timestamp)) ∈ Server.placeLog i slot log) :
    ∃ read, QueuesErrorResponse e.toEndpointContext read streamId code := by
  obtain ⟨read, session⟩ := session_of_run started run (EventLoop.step_ok step).1 he hc
  obtain ⟨-, hlog, -⟩ := turn_of_step step running (routed_of_run started run) he he' hc
  rw [hlog] at hmem
  cases hinfluence : l.server.influence input i slot c.connectionId with
  | none =>
    rw [hinfluence] at hmem
    cases hmem
  | some influence =>
    rw [hinfluence] at hmem
    exact ⟨_, read, c, registry, e.dataFrame, l.server.seed, influence, timestamp, session, rfl,
      hmem⟩

variable (context stream) in
/-- The place in a stream behind the commands that are served. -/
def servedBytes : Nat :=
  ((serviceFramer context.descriptor.wireVersion context.limits.commandFrameBytes
    context.descriptor.streamId).drain stream).consumed

/-- What is refused of a part of a stream is refused of the stream. -/
lemma QueuesErrorResponse.refused (h : QueuesErrorResponse context read streamId code)
    (front : read <+: stream) :
    Refused context.descriptor.wireVersion context.limits.commandFrameBytes
      context.descriptor.streamId (read.drop (servedBytes context stream)) streamId code := by
  obtain ⟨hfailed, hrefused⟩ := h.refusedIn.drain
  rw [servedBytes, Framer.drain_of_prefix hfailed front]
  exact hrefused

/-- The answer to the first refused frame of a stream, where a part of the stream was read. -/
lemma QueuesErrorResponse.answer (h : QueuesErrorResponse context read streamId code)
    (front : read <+: stream) :
    let refused := stream.drop (servedBytes context stream)
    code = refusalCode (commandVerdict context.descriptor.wireVersion
        context.limits.commandFrameBytes refused) ∧
      streamId = (if servedBytes context stream + 6 ≤ read.length then u16At refused 4
        else context.descriptor.streamId) ∧
      (6 ≤ FrameView.declaredSize refused →
        FrameView.declaredSize refused ≤ context.limits.commandFrameBytes →
          servedBytes context stream + 6 ≤ read.length) := by
  have hrefused := h.refused front
  obtain ⟨more, rfl⟩ := front
  generalize servedBytes context (read ++ more) = n at hrefused ⊢
  have h4 : 4 ≤ (read.drop n).length := by
    have hverdict := hrefused.verdict
    rw [commandVerdict_eq] at hverdict
    by_contra hlt
    rw [if_pos (by omega)] at hverdict
    exact hverdict rfl
  have hlength : (read.drop n).length = read.length - n := List.length_drop
  have hdrop : (read ++ more).drop n = read.drop n ++ more :=
    List.drop_append_of_le_length (by omega)
  simp only [hdrop]
  refine ⟨?_, ?_, fun h6 hlimit => ?_⟩
  · rw [commandVerdict_append hrefused.verdict]
    exact hrefused.code_eq
  · rw [hrefused.streamId_eq]
    have hiff : 6 ≤ (read.drop n).length ↔ n + 6 ≤ read.length := by omega
    by_cases h6 : 6 ≤ (read.drop n).length
    · rw [if_pos h6, if_pos (hiff.mp h6), u16At_prefix (List.prefix_append _ more) h6]
    · rw [if_neg h6, if_neg (hiff.not.mp h6)]
  · rw [declaredSize_append h4] at h6 hlimit
    have hcomplete := hrefused.complete hlimit
    omega

/-- However a stream is cut, the first frame of it that is refused is answered with the same code.
The identifier of the answer is that in the frame if six bytes of it were read, and else that of the
endpoint; so it is the same too where the frame declares a size of six bytes or more, within the
limit. -/
theorem errorResponse_segmentation {read₁ read₂ : List UInt8} {streamId₁ streamId₂ : UInt16}
    {code₁ code₂ : WireV3.ErrorResponseCode} (front₁ : read₁ <+: stream) (front₂ : read₂ <+: stream)
    (queues₁ : QueuesErrorResponse context read₁ streamId₁ code₁)
    (queues₂ : QueuesErrorResponse context read₂ streamId₂ code₂) :
    let refused := stream.drop (servedBytes context stream)
    code₁ = code₂ ∧
      streamId₁ = (if servedBytes context stream + 6 ≤ read₁.length then u16At refused 4
        else context.descriptor.streamId) ∧
      streamId₂ = (if servedBytes context stream + 6 ≤ read₂.length then u16At refused 4
        else context.descriptor.streamId) ∧
      (6 ≤ FrameView.declaredSize refused →
        FrameView.declaredSize refused ≤ context.limits.commandFrameBytes →
          streamId₁ = streamId₂) := by
  obtain ⟨hcode₁, hid₁, hsix₁⟩ := queues₁.answer front₁
  obtain ⟨hcode₂, hid₂, hsix₂⟩ := queues₂.answer front₂
  refine ⟨hcode₁.trans hcode₂.symm, hid₁, hid₂, fun h6 hlimit => ?_⟩
  rw [hid₁, hid₂, if_pos (hsix₁ h6 hlimit), if_pos (hsix₂ h6 hlimit)]

end Sessions

/-- An endpoint of the third version, with nothing to send. -/
def soleContext : EndpointContext := ⟨soleEndpoint .v3, ⟨64⟩, .v3 [] []⟩

/-- The front of a frame that is larger than any command. -/
def oversizedFront : List UInt8 := [0xaa, 0xc3, 0xff, 0xff]

def oversizedFrame : List UInt8 := oversizedFront ++ [0, 9]

/-- The first bytes of a connection arrive. -/
def firstBytes (bytes : List UInt8) : Influence :=
  .served true false (soleAnswers [.data bytes] (.accepts 0))

/-- An activity that is the error response of an identifier. -/
def Activity.rejects (streamId : UInt16) : Activity → Bool
  | .queued (.errorResponse streamId' .rejectedCommand _) => streamId' = streamId
  | _ => false

lemma Activity.exists_of_rejects {activity : Activity} {streamId : UInt16}
    (h : activity.rejects streamId = true) :
    ∃ timestamp, activity = .queued (.errorResponse streamId .rejectedCommand timestamp) := by
  unfold Activity.rejects at h
  split at h
  · exact ⟨_, by rw [of_decide_eq_true h]⟩
  · cases h

lemma queues_firstBytes {bytes : List UInt8} {streamId : UInt16}
    (htaken : Connection.taken (.new 1 2 64 .v3 0) [.data bytes] = bytes)
    (h : ((firstBytes bytes).turn takingRegistry soleContext (.v3 []) 1
      (.new 1 2 64 .v3 0)).log.any (fun entry => entry.1 = 1 && entry.2.rejects streamId) = true) :
    QueuesErrorResponse soleContext bytes streamId .rejectedCommand := by
  obtain ⟨⟨connectionId, activity⟩, hmem, hrejects⟩ := List.any_eq_true.mp h
  obtain ⟨hid, hrejects⟩ := Bool.and_eq_true_iff.mp hrejects
  obtain rfl : connectionId = 1 := of_decide_eq_true hid
  obtain ⟨timestamp, rfl⟩ := Activity.exists_of_rejects hrejects
  exact ⟨[], _, takingRegistry, .v3 [], 1, firstBytes bytes, timestamp, .accepted 1 2 0,
    htaken.symm, hmem⟩

lemma queues_front : QueuesErrorResponse soleContext oversizedFront 7 .rejectedCommand :=
  queues_firstBytes (by decide +kernel) (by decide +kernel)

lemma queues_frame : QueuesErrorResponse soleContext oversizedFrame 9 .rejectedCommand :=
  queues_firstBytes (by decide +kernel) (by decide +kernel)

theorem errorResponse_segmentation_oversized :
    let refused := oversizedFrame.drop (servedBytes soleContext oversizedFrame)
    (7 : UInt16) = (if servedBytes soleContext oversizedFrame + 6 ≤ oversizedFront.length
        then u16At refused 4 else 7) ∧
      (9 : UInt16) = if servedBytes soleContext oversizedFrame + 6 ≤ oversizedFrame.length
        then u16At refused 4 else 7 := by
  obtain ⟨-, hfront, hframe, -⟩ := errorResponse_segmentation
    (List.prefix_append oversizedFront [0, 9]) (List.prefix_refl _) queues_front queues_frame
  exact ⟨hfront, hframe⟩

/-- The identifier of an error response depends on how the stream is cut. -/
theorem errorResponse_depends_on_cut :
    ¬ ∀ (context : EndpointContext) (stream read₁ read₂ : List UInt8) (streamId₁ streamId₂ : UInt16)
      (code₁ code₂ : WireV3.ErrorResponseCode), 6 ≤ stream.length → read₁ <+: stream →
        read₂ <+: stream → QueuesErrorResponse context read₁ streamId₁ code₁ →
          QueuesErrorResponse context read₂ streamId₂ code₂ →
            streamId₁ = streamId₂ ∧ code₁ = code₂ := by
  intro h
  have hsame := (h soleContext oversizedFrame _ _ _ _ _ _ (by decide) (List.prefix_append _ _)
    (List.prefix_refl _) queues_front queues_frame).1
  cases hsame

end PmuSimulator

import Mathlib
import PmuSimulator.Server.Turns

/-!
# Wake-ups

The poll is edge-triggered: a connection is heard of again when something new arrives, or when it is
registered anew. So a frame that is left to be sent needs a registration for writes behind the last
write that fell short, and input that a read has left in the socket needs a registration behind that
read. Both hold whenever the loop polls: `armed_of_run`. A read leaves input in the socket only if
the last answer it was given is not that it would block: the log keeps the answers, and
`readFrom_stops` says that the buffer is full then.
-/

namespace PmuSimulator

/-! ### Registrations in a log -/

/-- Whether an activity asks for a new registration for writes, or takes one back. -/
def Activity.unsettles : Activity → Bool
  | .queued _ => true
  | .wrote _ completed => !completed
  | .registered _ => true
  | _ => false

/-- The last registration is for writes, and comes after the last frame that was queued and the last
write that fell short. -/
def WatchesWrites (log : List Activity) : Prop :=
  ∃ before after, log = before ++ .registered .readableWritable :: after ∧
    ∀ activity ∈ after, activity.unsettles = false

/-- A reading loop came to where a read would block: everything that had arrived was read. -/
def ReadDry (answered : List ReadAnswer) : Prop := answered.getLast? = some (.failed .wouldBlock)

/-- There is a registration after every reading loop that stopped short of where a read would
block. -/
def WatchesReads (log : List Activity) : Prop :=
  ∀ before answered after, log = before ++ .read answered :: after → ¬ ReadDry answered →
    ∃ interest, .registered interest ∈ after

lemma WatchesWrites.append {log more : List Activity} (h : WatchesWrites log)
    (hmore : ∀ activity ∈ more, activity.unsettles = false) : WatchesWrites (log ++ more) := by
  obtain ⟨before, after, rfl, hafter⟩ := h
  refine ⟨before, after ++ more, by simp, fun activity ha => ?_⟩
  rcases List.mem_append.mp ha with ha | ha
  · exact hafter activity ha
  · exact hmore activity ha

lemma watchesWrites_registered (log : List Activity) :
    WatchesWrites (log ++ [.registered .readableWritable]) :=
  ⟨log, [], rfl, by simp⟩

lemma watchesReads_nil : WatchesReads [] := by
  intro before answered after h
  simp at h

lemma WatchesReads.append {log more : List Activity} (h : WatchesReads log)
    (hmore : ∀ answered, .read answered ∈ more → ReadDry answered) :
    WatchesReads (log ++ more) := by
  intro before answered after heq hshort
  rcases List.append_eq_append_iff.mp heq with ⟨between, rfl, hafter⟩ | ⟨between, hlog, hafter⟩
  · refine absurd (hmore answered ?_) hshort
    rw [hafter]
    simp
  · cases between with
    | nil =>
      refine absurd (hmore answered ?_) hshort
      rw [List.nil_append] at hafter
      rw [← hafter]
      exact List.mem_cons_self
    | cons activity between =>
      obtain ⟨rfl, rfl⟩ := List.cons.inj hafter
      obtain ⟨interest, hmem⟩ := h before answered between hlog hshort
      exact ⟨interest, List.mem_append_left _ hmem⟩

lemma watchesReads_registered (log : List Activity) (interest : Interest) :
    WatchesReads (log ++ [.registered interest]) := by
  intro before answered after heq _
  rcases List.eq_nil_or_concat after with rfl | ⟨after, activity, rfl⟩
  · have hlast := List.append_inj_right' heq rfl
    cases hlast
  · rw [List.concat_eq_append, ← List.cons_append, ← List.append_assoc] at heq
    obtain ⟨-, hlast⟩ := List.append_inj' heq rfl
    obtain rfl := List.singleton_inj.mp hlast
    exact ⟨interest, by simp⟩

/-- The reading loop is given the first answers the socket has, behind which a read would block. It
stops short of that only if the stream ends, a read fails or the buffer is full: where it goes on
with an open connection, the buffer is full. -/
lemma readFrom_stops (buffer : ReceiveBuffer) (reads : List ReadAnswer) :
    let read := buffer.readFrom reads
    read.answered <+: reads ++ [.failed .wouldBlock] ∧
      (read.result = .ok .open → ¬ ReadDry read.answered →
        read.buffer.bytes.length = read.buffer.limit) := by
  fun_induction ReceiveBuffer.readFrom buffer reads with
  | case1 buffer reads hfull => exact ⟨List.nil_prefix, fun _ _ => hfull⟩
  | case2 buffer hroom => exact ⟨List.prefix_refl _, fun _ hshort => absurd rfl hshort⟩
  | case3 buffer hroom reads =>
    refine ⟨(List.prefix_cons_inj _).mpr List.nil_prefix, fun hopen => ?_⟩
    by_cases hempty : buffer.bytes.length = 0
    · simp [hempty] at hopen
    · simp [hempty] at hopen
  | case4 buffer hroom b bytes reads ih =>
    obtain ⟨hfirst, hfull⟩ := ih
    refine ⟨(List.prefix_cons_inj _).mpr hfirst, fun hopen hshort => hfull hopen fun hdry => ?_⟩
    refine hshort ?_
    rw [ReadDry, ReadOutcome.behind, List.getLast?_append, hdry]
    rfl
  | case5 buffer hroom reads =>
    exact ⟨(List.prefix_cons_inj _).mpr List.nil_prefix, fun _ hshort => absurd rfl hshort⟩
  | case6 buffer hroom kind reads =>
    exact ⟨(List.prefix_cons_inj _).mpr List.nil_prefix, fun hopen => by cases hopen⟩

/-! ### Armed connections -/

/-- What the next poll needs of a connection that has a frame left to be sent, with its log. -/
structure Watched (context : EndpointContext) (c : Connection) (log : List Activity) : Prop where
  limit : c.receive.limit = context.limits.commandFrameBytes
  writes : c.pending.isPending = true → WatchesWrites log

/-- What the next poll needs of a connection, with its log. -/
structure Armed (context : EndpointContext) (c : Connection) (log : List Activity) : Prop
    extends Watched context c log where
  reads : c.pending.isPending = false → c.closeAfterFlush = false → WatchesReads log

/-- An attempt after which a connection is armed, where it is kept. -/
def ConnectionAttempt.Arms (context : EndpointContext) (before : List Activity)
    (p : ConnectionAttempt Bool) : Prop :=
  p.result = .ok true → Armed context p.state (before ++ p.log)

open ConnectionAttempt

section Registered

variable {registry : Registry} {context : EndpointContext} {c : Connection}
  {log : List Activity}

/-- A registration arms a connection, if it is for writes where a frame is left. -/
lemma arms_reregister {writable : Bool} (hlimit : c.receive.limit = context.limits.commandFrameBytes)
    (hwrites : c.pending.isPending = true → writable = true) :
    Arms context log ((reregisterConnection registry writable c).andThen fun _ c => .done true c) := by
  intro hok
  obtain ⟨_, hregistered, -⟩ := Attempt.andThen_result_eq_ok.mp hok
  rw [Attempt.andThen_ok hregistered, reregisterConnection_log hregistered,
    reregisterConnection_state]
  refine ⟨⟨hlimit, fun hpending => ?_⟩, fun _ _ => ?_⟩
  · rw [hwrites hpending]
    exact watchesWrites_registered log
  · exact watchesReads_registered log _

lemma Arms.note {activity : Activity} {f : Unit → Connection → ConnectionAttempt Bool}
    {c' : Connection} (h : Arms context (log ++ [activity]) (f () c')) :
    Arms context log ((Attempt.note activity c').andThen f) := by
  intro hok
  rw [Attempt.andThen_ok (Attempt.note_result _ _)] at hok ⊢
  have harmed := h hok
  rw [List.append_assoc] at harmed
  exact harmed

lemma arms_handleCommand {command : ServerCommand}
    (hlimit : c.receive.limit = context.limits.commandFrameBytes)
    (idle : c.pending.isPending = false) :
    Arms context log (handleCommand registry context command c) := by
  have hsettle : ∀ {c' : Connection} {log : List Activity},
      c'.receive.limit = context.limits.commandFrameBytes →
      Arms context log (settleCommand registry c') :=
    fun hlimit => arms_reregister hlimit fun h => h
  have hinform : Arms context log (queueInformation registry context command c) := by
    unfold queueInformation
    cases informationPending context.descriptor.wireVersion command with
    | none => exact fun hok => by cases hok
    | some pending => exact Arms.note (hsettle hlimit)
  unfold handleCommand
  rw [if_neg (by simp [idle])]
  cases command with
  | stop => exact hsettle hlimit
  | start => exact hsettle hlimit
  | _ => exact hinform

lemma arms_refuseCommand {wallClock : SystemTime} {wireVersion : WireVersion} {counter : Counter}
    {streamId : UInt16} {code : WireV3.ErrorResponseCode}
    (hlimit : c.receive.limit = context.limits.commandFrameBytes) :
    Arms context log
      (refuseCommand registry context wallClock wireVersion counter streamId code c) := by
  refine Arms.note ?_
  by_cases hv3 : wireVersion = .v3
  · rw [if_pos hv3]
    unfold queueErrorResponse
    cases responseTimestamp context.descriptor.timeBase wallClock with
    | error failure => exact fun hok => by cases hok
    | ok timestamp =>
      cases c.errorFrame with
      | none => exact fun hok => by cases hok
      | some frame =>
        simp only [Attempt.andThen_assoc]
        exact Arms.note (arms_reregister hlimit fun _ => rfl)
  · rw [if_neg hv3]
    exact fun hok => by cases hok

lemma limit_of_nextCommand {wireVersion : WireVersion} {buffer rest : ReceiveBuffer} {limit : Nat}
    {received : ReceivedCommand}
    (h : buffer.nextCommand wireVersion = .ok (some (received, rest)))
    (hlimit : buffer.limit = limit) : rest.limit = limit := by
  obtain ⟨size, -, rfl⟩ := ReceiveBuffer.nextCommand_some h
  exact hlimit

lemma Armed.always {P : Prop} (h : Armed context c log) :
    Watched context c log ∧ (P → Armed context c log) :=
  ⟨h.toWatched, fun _ => h⟩

/-- Handling the buffered commands arms a connection; the input it finds in the buffer counts as read
if the buffer is full. -/
lemma arms_processBufferedCommands (wallClock : SystemTime) (clock : Nat → Instant)
    (hfits : 4 ≤ context.limits.commandFrameBytes) (hwatched : Watched context c log)
    (hok : (processBufferedCommands registry context wallClock clock c).result = .ok true) :
    let p := processBufferedCommands registry context wallClock clock c
    Watched context p.state (log ++ p.log) ∧
      ((c.pending.isPending = false → c.closeAfterFlush = false →
          WatchesReads log ∨ c.receive.bytes.length = c.receive.limit) →
        Armed context p.state (log ++ p.log)) := by
  fun_induction processBufferedCommands registry context wallClock clock c generalizing log with
  | case1 clock c hbusy =>
    simp only [Attempt.done_state, Attempt.done_log, List.append_nil]
    refine ⟨hwatched, fun _ => ⟨hwatched, fun hidle hstays => ?_⟩⟩
    simp [hidle, hstays] at hbusy
  | case2 clock c hfree malformed hn =>
    exact (arms_refuseCommand hwatched.limit hok).always
  | case3 clock c hfree hn =>
    rw [Bool.or_eq_true, not_or, Bool.not_eq_true, Bool.not_eq_true] at hfree
    simp only [Attempt.done_state, Attempt.done_log, List.append_nil]
    refine ⟨hwatched, fun hread => ⟨hwatched, fun hidle hstays => ?_⟩⟩
    -- a full buffer never asks for more
    refine (hread hidle hstays).resolve_right fun hfull => ?_
    exact nextCommand_full (hwatched.limit ▸ hfits) hfull hn
  | case4 clock c hfree idcode wireVersion receive hn =>
    exact (arms_refuseCommand (limit_of_nextCommand hn hwatched.limit) hok).always
  | case5 clock c hfree request receive hn hid =>
    exact (arms_refuseCommand (limit_of_nextCommand hn hwatched.limit) hok).always
  | case6 => cases hok
  | case7 => cases hok
  | case8 clock c hfree request receive hn hid taken handled hr rest =>
    rename_i ih
    rw [Bool.or_eq_true, not_or, Bool.not_eq_true, Bool.not_eq_true] at hfree
    have hlimit : receive.limit = context.limits.commandFrameBytes :=
      limit_of_nextCommand hn hwatched.limit
    have hhandled : Armed context handled.state
        ((log ++ [.accepted request.command]) ++ handled.log) :=
      arms_handleCommand hlimit hfree.1 hr
    obtain ⟨-, hrest⟩ := ih hhandled.toWatched hok
    have harmed := hrest fun hidle hstays => .inl (hhandled.reads hidle hstays)
    refine Armed.always ?_
    simpa using harmed

lemma arms_readConnection {answers : Answers} (hfits : 4 ≤ context.limits.commandFrameBytes)
    (harmed : Armed context c log) :
    Arms context log (readConnection registry context answers c) := by
  intro hok
  have hlimit := (readFrom_grows c.receive answers.reads).1
  unfold readConnection at hok ⊢
  by_cases hclose : c.closeAfterFlush = true
  · rw [if_pos hclose]
    simpa using harmed
  rw [if_neg hclose] at hok ⊢
  have hlimit := hlimit.trans harmed.limit
  have hfull := (readFrom_stops c.receive answers.reads).2
  generalize c.receive.readFrom answers.reads = read at hlimit hfull hok ⊢
  dsimp only at hok ⊢
  rw [Attempt.andThen_ok (Attempt.note_result _ _)] at hok ⊢
  have hwatched : Watched context { c with receive := read.buffer }
      (log ++ [.read read.answered]) :=
    ⟨hlimit, fun hpending => (harmed.writes hpending).append (by simp [Activity.unsettles])⟩
  rcases read with ⟨kind | result, receive, answered⟩
  · cases hok
  cases result with
  | «open» =>
    obtain ⟨-, hrest⟩ := arms_processBufferedCommands answers.wallClock answers.readClock hfits
      hwatched hok
    have hfed := hrest fun hidle hstays => by
      by_cases hdry : ReadDry answered
      · exact .inl ((harmed.reads hidle hstays).append (by simpa using hdry))
      · exact .inr (hfull rfl hdry)
    simpa using hfed
  | closed => cases hok
  | closedWithBufferedData =>
    obtain ⟨keep, hkept, hdone⟩ := Attempt.andThen_result_eq_ok.mp hok
    simp only [Attempt.done_result, Except.ok.injEq, Bool.and_eq_true] at hdone
    obtain ⟨⟨rfl, hclosing⟩, -⟩ := hdone
    have hwatched' := (arms_processBufferedCommands answers.wallClock answers.readClock hfits
      hwatched hkept).1
    -- it is kept for an error response, and reads no more
    have harmed' : Armed context _ _ :=
      ⟨hwatched', fun _ hstays => by cases hclosing.symm.trans hstays⟩
    simp only
    rw [Attempt.andThen_ok hkept]
    simpa using harmed'

lemma arms_frameWritten {answers : Answers} {bytes : List UInt8}
    (hfits : 4 ≤ context.limits.commandFrameBytes)
    (hlimit : c.receive.limit = context.limits.commandFrameBytes) :
    Arms context log (frameWritten registry context answers bytes c) := by
  intro hok
  unfold frameWritten at hok ⊢
  rw [Attempt.andThen_ok rfl] at hok ⊢
  simp only at hok ⊢
  by_cases hclose : c.closeAfterFlush = true
  · rw [if_pos hclose] at hok
    cases hok
  rw [if_neg hclose] at hok ⊢
  generalize (.wrote bytes true :: if c.pending.isData = true then
    [Activity.counted .sentDataFrames] else []) = written
  obtain ⟨keep, hkept, hsettled⟩ := Attempt.andThen_result_eq_ok.mp hok
  rw [Attempt.andThen_ok hkept]
  cases keep with
  | false => cases hsettled
  | true =>
    have hready : Watched context { c with pending := .none } (log ++ written) :=
      ⟨hlimit, fun hpending => by cases hpending⟩
    obtain ⟨hwatched, -⟩ := arms_processBufferedCommands answers.wallClock answers.writeClock hfits
      hready hkept
    generalize processBufferedCommands registry context answers.wallClock answers.writeClock
      { c with pending := .none } = p at hwatched hsettled ⊢
    simp only [Bool.not_true, Bool.false_eq_true, if_false] at hsettled ⊢
    cases hpending : p.state.pending.isPending with
    | true =>
      simp only [if_true, Attempt.done_log, Attempt.done_state, List.append_nil]
      rw [← List.append_assoc]
      refine ⟨hwatched, fun hidle => ?_⟩
      cases hpending.symm.trans hidle
    | false =>
      simp only [hpending, Bool.false_eq_true, if_false] at hsettled ⊢
      have harms : Arms context (log ++ (written ++ p.log))
          ((reregisterConnection registry false p.state).andThen fun _ c => .done true c) :=
        arms_reregister hwatched.limit fun h => by cases hpending.symm.trans h
      simpa using harms hsettled

/-- A write that falls short is followed by a registration for writes. -/
lemma arms_short {bytes : List UInt8} {pending : PendingFrame}
    (hlimit : c.receive.limit = context.limits.commandFrameBytes) :
    Arms context log ((Attempt.note (.wrote bytes false) { c with pending }).andThen fun _ c =>
      (reregisterConnection registry true c).andThen fun _ c => .done true c) :=
  Arms.note (arms_reregister hlimit fun _ => rfl)

lemma arms_flushConnection {dataFrame : DataFrame} {answers : Answers}
    (hfits : 4 ≤ context.limits.commandFrameBytes) (harmed : Armed context c log) :
    Arms context log (flushConnection registry context dataFrame answers c) := by
  have hrefused : ∀ {p : ConnectionAttempt Bool}, p.result ≠ .ok true → Arms context log p :=
    fun hne hok => absurd hok hne
  unfold flushConnection
  cases hwaits : c.pending.isPending with
  | false => exact fun _ => by simpa using harmed
  | true =>
    simp only [Bool.not_true, Bool.false_eq_true, if_false]
    cases pendingFrameBytes context dataFrame c with
    | error failure => exact hrefused (by simp)
    | ok frame =>
      simp only
      by_cases hlong : frame.length < c.pending.offset
      · rw [if_pos hlong]
        exact hrefused (by simp)
      rw [if_neg hlong]
      cases answers.write with
      | failed kind =>
        cases kind with
        | wouldBlock => exact arms_short harmed.limit
        | _ => exact hrefused (by simp)
      | accepts count =>
        simp only
        split_ifs
        · exact hrefused (by simp)
        · exact arms_frameWritten hfits harmed.limit
        · exact arms_short harmed.limit

lemma arms_serveConnection {dataFrame : DataFrame} {readable writable : Bool} {answers : Answers}
    (hfits : 4 ≤ context.limits.commandFrameBytes) (harmed : Armed context c log) :
    Arms context log
      (serveConnection registry context dataFrame readable writable answers c) := by
  intro hok
  obtain ⟨keep, hkept, hflushed⟩ := Attempt.andThen_result_eq_ok.mp hok
  unfold serveConnection
  rw [Attempt.andThen_ok hkept]
  have hread : Arms context log
      (if readable then readConnection registry context answers c else .done true c) := by
    cases readable with
    | true => exact arms_readConnection hfits harmed
    | false => exact fun _ => by simpa using harmed
  generalize (if readable then readConnection registry context answers c
    else .done true c) = p at hkept hflushed hread ⊢
  cases keep with
  | false => cases hflushed
  | true =>
    have hreads := hread hkept
    cases writable with
    | false => simpa using hreads
    | true =>
      simp only [Bool.not_true, Bool.false_eq_true, if_false, if_true] at hflushed ⊢
      rw [← List.append_assoc]
      have hwritable : Armed context p.state (log ++ p.log ++ [.writable]) := by
        refine ⟨⟨hreads.limit, fun hpending => ?_⟩, fun hidle hstays => ?_⟩
        · exact (hreads.writes hpending).append (by simp [Activity.unsettles])
        · exact (hreads.reads hidle hstays).append (by simp)
      exact Arms.note (arms_flushConnection hfits hwritable) hflushed

lemma arms_sendDataFrame {dataFrame : DataFrame} {tick : Tick} {answers : Answers}
    (hfits : 4 ≤ context.limits.commandFrameBytes) (harmed : Armed context c log) :
    Arms context log (sendDataFrame registry context dataFrame tick answers c) := by
  refine Arms.note ?_
  intro hok
  obtain ⟨_, hregistered, hflushed⟩ := Attempt.andThen_result_eq_ok.mp hok
  rw [Attempt.andThen_ok hregistered, reregisterConnection_log hregistered]
  rw [reregisterConnection_state] at hflushed ⊢
  have hqueued : Armed context { c with pending := .data 0 }
      (log ++ [.queued (.data tick)] ++ [.registered .readableWritable]) := by
    refine ⟨⟨harmed.limit, fun _ => watchesWrites_registered _⟩, fun hidle => ?_⟩
    cases hidle
  have hsent := arms_flushConnection hfits hqueued hflushed
  simpa using hsent

/-- Every turn that a connection survives leaves it armed. -/
lemma armed_turn {dataFrame : DataFrame} {seed : UInt64} {influence : Influence} {c' : Connection}
    (hfits : 4 ≤ context.limits.commandFrameBytes) (harmed : Armed context c log)
    (hok : (influence.turn registry context dataFrame seed c).result = .ok ())
    (hc' : (influence.turn registry context dataFrame seed c).state = some c') :
    Armed context c' (log ++ connectionLog c.connectionId
      (influence.turn registry context dataFrame seed c).log) := by
  rcases turn_survives hok hc' with ⟨rfl, hlog⟩ | ⟨p, hp, rfl, hlog, hkind⟩
  · simpa [hlog] using harmed
  · rw [hlog, connectionLog_own]
    rcases hkind with ⟨readable, writable, answers, -, rfl⟩ |
      ⟨tick, plan, answers, dataFrame', -, -, -, -, rfl⟩
    · exact arms_serveConnection hfits harmed hp
    · exact arms_sendDataFrame hfits harmed hp

end Registered

section Registered

variable {registry : Registry} {codec : ManagementCodec} {l₀ l : EventLoop}
  {h : List (Machine.Taken EventLoop Input (List Report))} {i : Nat} {slot : Slot}

/-- Every live connection is armed whenever the loop goes on. -/
theorem armed_of_run (started : Started l₀)
    (admitted : ∀ context ∈ l₀.server.core.contexts, context.limits.Admitted)
    (run : (eventLoop registry codec).Run l₀ h l) (running : l.ended = none) {e : Endpoint}
    (he : l.server.endpoints[i]? = some e) {c : Connection} (hc : e.connections slot = some c) :
    Armed e.toEndpointContext c (connectionLog c.connectionId (placeHistory i slot h)) := by
  refine history_of_turns (I := Armed) started run ?_ ?_ running he hc
  · intro context hcontext connectionId token acceptedAt
    exact ⟨⟨rfl, fun hpending => by cases hpending⟩, fun _ _ => watchesReads_nil⟩
  · intro context hcontext dataFrame c log influence harmed hok c' hc'
    have hfits : 4 ≤ context.limits.commandFrameBytes :=
      Nat.le_trans (by decide) (admitted context hcontext).1
    exact ⟨identity_of_turn hok hc', armed_turn hfits harmed hok hc'⟩

/-- No wake-up is lost. While the loop goes on, a live connection with a frame left to be sent is
registered for writes since that frame was queued and since the last write that fell short; where
none is left, and the connection is not closing, it is registered again since any reading loop that
stopped short of where a read would block. So behind a loop that filled the buffer, one of the two
registrations is always there. -/
theorem no_lost_wakeup (started : Started l₀)
    (admitted : ∀ context ∈ l₀.server.core.contexts, context.limits.Admitted)
    (run : (eventLoop registry codec).Run l₀ h l) (running : l.ended = none) {e : Endpoint}
    (he : l.server.endpoints[i]? = some e) {c : Connection} (hc : e.connections slot = some c)
    {log : List Activity} (hlog : log = connectionLog c.connectionId (placeHistory i slot h)) :
    (c.pending.isPending = true → WatchesWrites log) ∧
      (c.pending.isPending = false → c.closeAfterFlush = false → WatchesReads log) ∧
      ∀ before answered after, log = before ++ .read answered :: after → ¬ ReadDry answered →
        c.closeAfterFlush = false →
          (∃ interest, .registered interest ∈ after) ∨
            c.pending.isPending = true ∧ WatchesWrites log := by
  have harmed := armed_of_run started admitted run running he hc
  rw [← hlog] at harmed
  refine ⟨harmed.writes, harmed.reads, fun before answered after hread hshort hstays => ?_⟩
  cases hpending : c.pending.isPending with
  | true => exact .inr ⟨rfl, harmed.writes hpending⟩
  | false => exact .inl (harmed.reads hpending hstays before answered after hread hshort)

/-- An activity is a reading loop that stopped short. -/
def Activity.isShortRead : Activity → Bool
  | .read answered => answered.getLast? != some (.failed .wouldBlock)
  | _ => false

lemma read_of_isShortRead (log : List Activity) (h : log.any Activity.isShortRead = true) :
    ∃ before answered after, log = before ++ .read answered :: after ∧ ¬ ReadDry answered := by
  obtain ⟨activity, hmem, hshort⟩ := List.any_eq_true.mp h
  obtain ⟨before, after, rfl⟩ := List.append_of_mem hmem
  cases activity with
  | read answered =>
    refine ⟨before, answered, after, rfl, ?_⟩
    simpa [ReadDry, Activity.isShortRead] using hshort
  | _ => cases hshort

/-- A connection asks for the header and fills its buffer with commands behind it; then it is served
until nothing is left to be sent. -/
theorem no_lost_wakeup_small : ∃ (h h' : List (Machine.Taken EventLoop Input (List Report)))
    (c c' : Connection),
    (let log := connectionLog 1 (placeHistory 0 0 h);
      log.any Activity.isShortRead = true ∧ c.pending.isPending = true ∧ WatchesWrites log) ∧
    (let log := connectionLog 1 (placeHistory 0 0 (h ++ h'));
      c'.pending.isPending = false ∧ ∃ before answered after,
        log = before ++ .read answered :: after ∧ ¬ ReadDry answered ∧
          ∃ interest, .registered interest ∈ after) := by
  have hruns : soleRun .v2 none [acceptOne, bytesArrive 3 ((soleCommand .header ++
      soleCommand .start ++ soleCommand .stop ++ soleCommand .header).take 64)]
      (fun log l => decide ((l.soleConnection 0).any (fun c => c.connectionId = 1 &&
          c.pending.isPending) = true ∧
        (connectionLog 1 (Server.placeLog 0 0 log)).any Activity.isShortRead = true ∧
        (∀ context ∈ l.server.core.contexts, context.limits.Admitted) ∧
        l.ended.isNone = true) &&
        l.passes [.event ⟨3, false, true, [], soleAnswers [] (.accepts 65535)⟩] fun _ l' =>
          decide ((l'.soleConnection 0).any (fun c => c.connectionId = 1 &&
            !c.pending.isPending && !c.closeAfterFlush) = true ∧ l'.ended.isNone = true)) =
      true := by
    decide +kernel
  obtain ⟨server, h, l, hbind, -, run, hcheck⟩ := run_of_soleRun hruns
  obtain ⟨hstate, hpasses⟩ := Bool.and_eq_true_iff.mp hcheck
  obtain ⟨hconnection, hread, hadmitted, hended⟩ := of_decide_eq_true hstate
  obtain ⟨h', l', -, run', hcheck'⟩ := run_of_passes hpasses
  obtain ⟨hconnection', hended'⟩ := of_decide_eq_true hcheck'
  obtain ⟨c, hbound, hc⟩ := Option.any_eq_true _ _ |>.mp hconnection
  obtain ⟨c', hbound', hc'⟩ := Option.any_eq_true _ _ |>.mp hconnection'
  rw [Bool.and_eq_true, decide_eq_true_eq] at hc
  rw [Bool.and_eq_true, Bool.and_eq_true, decide_eq_true_eq, Bool.not_eq_true',
    Bool.not_eq_true'] at hc'
  obtain ⟨e, he, hslot⟩ := Option.bind_eq_some_iff.mp hbound
  obtain ⟨e', he', hslot'⟩ := Option.bind_eq_some_iff.mp hbound'
  have started : Started ⟨server, none⟩ := ⟨rfl, _, hbind⟩
  rw [contexts_of_run run] at hadmitted
  have hlost := no_lost_wakeup started hadmitted run (Option.isNone_iff_eq_none.mp hended) he hslot
    rfl
  have hlost' := no_lost_wakeup started hadmitted (run.trans run')
    (Option.isNone_iff_eq_none.mp hended') he' hslot' rfl
  rw [hc.1] at hlost
  rw [hc'.1.1] at hlost'
  refine ⟨h, h', c, c', ⟨hread, hc.2, hlost.1 hc.2⟩, hc'.1.2, ?_⟩
  have hread' : (connectionLog 1 (placeHistory 0 0 (h ++ h'))).any Activity.isShortRead = true := by
    rw [placeHistory, List.flatMap_append, Server.placeLog_append, connectionLog_append,
      List.any_append, Bool.or_eq_true]
    exact .inl hread
  obtain ⟨before, answered, after, hlog, hshort⟩ := read_of_isShortRead _ hread'
  exact ⟨before, answered, after, hlog, hshort,
    hlost'.2.1 hc'.1.2 hc'.2 before answered after hlog hshort⟩

end Registered

end PmuSimulator

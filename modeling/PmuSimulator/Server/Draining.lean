import Mathlib
import PmuSimulator.Server.Turns

/-!
# Slow connections

A streaming connection that has a frame left to be sent at a reporting boundary is closed as slow. A
data frame that is left was tried at once, in the boundary that queued it. A response waits for an
event: where the boundary comes before the event, the connection is closed although nothing was tried.
`drained_before_slow` says when it was.
-/

namespace PmuSimulator

/-! ### The pending frame in a log -/

def Activity.isQueued : Activity → Bool
  | .queued _ => true
  | _ => false

/-- What has happened since a frame was last queued. -/
def sinceQueued (log : List Activity) : List Activity :=
  log.rtakeWhile fun activity => !activity.isQueued

/-- A write to the socket was tried since the last frame was queued, and did not complete it. -/
def DrainFailed (log : List Activity) : Prop := ∃ bytes, .wrote bytes false ∈ sinceQueued log

/-- A writable event was served since the last frame was queued. -/
def Heard (log : List Activity) : Prop := .writable ∈ sinceQueued log

lemma sinceQueued_append (log : List Activity) {more : List Activity}
    (h : ∀ activity ∈ more, activity.isQueued = false) :
    sinceQueued (log ++ more) = sinceQueued log ++ more := by
  induction more using List.reverseRecOn with
  | nil => simp
  | append_singleton more activity ih =>
    rw [← List.append_assoc, sinceQueued, List.rtakeWhile_concat_pos]
    · rw [← sinceQueued, ih fun a ha => h a (List.mem_append_left _ ha), List.append_assoc]
    · simp [h activity (by simp)]

lemma sinceQueued_queued {log more : List Activity} (frame : QueuedFrame)
    (h : ∀ activity ∈ more, activity.isQueued = false) :
    sinceQueued (log ++ .queued frame :: more) = more := by
  rw [← List.singleton_append, ← List.append_assoc, sinceQueued_append _ h, sinceQueued,
    List.rtakeWhile_concat_neg]
  · rfl
  · simp [Activity.isQueued]

/-! ### Turns -/

/-- A frame that is left to be sent was tried exactly if it is a data frame or a writable event was
served. -/
def Tried (c : Connection) (log : List Activity) : Prop :=
  c.pending.isPending = true →
    (DrainFailed log ↔ c.pending.isData = true ∨ Heard log)

/-- An attempt that keeps to this, where the connection is kept. -/
def ConnectionAttempt.Tries (before : List Activity) (p : ConnectionAttempt Bool) : Prop :=
  p.result = .ok true → Tried p.state (before ++ p.log)

open ConnectionAttempt

section Registered

variable {registry : Registry} {context : EndpointContext} {c : Connection}
  {log : List Activity}

lemma tried_idle (idle : c.pending.isPending = false) : Tried c log :=
  fun h => by cases idle.symm.trans h

/-- What neither queues a frame nor tries one changes nothing. -/
lemma Tried.append {more : List Activity} (h : Tried c log)
    (hmore : ∀ activity ∈ more, activity.isQueued = false ∧ (∀ bytes, activity ≠ .wrote bytes false) ∧
      activity ≠ .writable) : Tried c (log ++ more) := by
  intro hpending
  have hsince := sinceQueued_append log fun activity ha => (hmore activity ha).1
  have hwrote : ∀ bytes, .wrote bytes false ∉ more :=
    fun bytes hmem => (hmore _ hmem).2.1 bytes rfl
  have hwritable : .writable ∉ more := fun hmem => (hmore _ hmem).2.2 rfl
  simpa [DrainFailed, Heard, hsince, hwrote, hwritable] using h hpending

/-- A response that was just queued was not tried. -/
lemma tried_queued {frame : QueuedFrame} {interest : Interest} (hdata : c.pending.isData = false) :
    Tried c (log ++ [.queued frame] ++ [.registered interest]) := by
  intro hpending
  have hsince : sinceQueued (log ++ [.queued frame] ++ [.registered interest]) =
      [.registered interest] := by
    rw [List.append_assoc]
    exact sinceQueued_queued frame (by simp [Activity.isQueued])
  simp only [DrainFailed, Heard, hsince, hdata]
  simp

lemma Tries.note {activity : Activity} {f : Unit → Connection → ConnectionAttempt Bool}
    {c' : Connection} (h : Tries (log ++ [activity]) (f () c')) :
    Tries log ((Attempt.note activity c').andThen f) := by
  intro hok
  rw [Attempt.andThen_ok (Attempt.note_result _ _)] at hok ⊢
  have htried := h hok
  rw [List.append_assoc] at htried
  exact htried

lemma tries_refused {p : ConnectionAttempt Bool} (h : p.result ≠ .ok true) : Tries log p :=
  fun hok => absurd hok h

/-- A registration for a frame that was just queued, or for none. -/
lemma tries_reregister {writable : Bool}
    (h : ∀ interest, Tried c (log ++ [.registered interest])) :
    Tries log ((reregisterConnection registry writable c).andThen fun _ c => .done true c) := by
  intro hok
  obtain ⟨_, hregistered, -⟩ := Attempt.andThen_result_eq_ok.mp hok
  rw [Attempt.andThen_ok hregistered, reregisterConnection_log hregistered,
    reregisterConnection_state]
  exact h _

lemma informationPending_idle {wireVersion : WireVersion} {command : ServerCommand}
    {pending : PendingFrame} (h : informationPending wireVersion command = some pending) :
    pending.isData = false := by
  cases wireVersion <;> cases command <;> simp [informationPending] at h <;> subst h <;> rfl

lemma tries_handleCommand {command : ServerCommand} (idle : c.pending.isPending = false) :
    Tries log (handleCommand registry context command c) := by
  have hswitch : ∀ streaming, Tries log (settleCommand registry { c with streaming }) :=
    fun streaming => tries_reregister fun _ => tried_idle idle
  have hinform : Tries log (queueInformation registry context command c) := by
    unfold queueInformation
    cases hpending : informationPending context.descriptor.wireVersion command with
    | none => exact tries_refused (by simp)
    | some pending =>
      exact Tries.note (tries_reregister fun _ => tried_queued (informationPending_idle hpending))
  unfold handleCommand
  rw [if_neg (by simp [idle])]
  cases command with
  | stop => exact hswitch false
  | start => exact hswitch true
  | _ => exact hinform

lemma tries_refuseCommand {wallClock : SystemTime} {wireVersion : WireVersion} {counter : Counter}
    {streamId : UInt16} {code : WireV3.ErrorResponseCode} :
    Tries log (refuseCommand registry context wallClock wireVersion counter streamId code c) := by
  refine Tries.note ?_
  by_cases hv3 : wireVersion = .v3
  · rw [if_pos hv3]
    unfold queueErrorResponse
    cases responseTimestamp context.descriptor.timeBase wallClock with
    | error failure => exact tries_refused (by simp)
    | ok timestamp =>
      cases c.errorFrame with
      | none => exact tries_refused (by simp)
      | some frame =>
        simp only [Attempt.andThen_assoc]
        exact Tries.note (tries_reregister fun _ => tried_queued rfl)
  · rw [if_neg hv3]
    exact tries_refused (by simp)

lemma tries_processBufferedCommands (wallClock : SystemTime) (clock : Nat → Instant)
    (htried : Tried c log) :
    Tries log (processBufferedCommands registry context wallClock clock c) := by
  intro hok
  fun_induction processBufferedCommands registry context wallClock clock c generalizing log with
  | case1 clock c hbusy => simpa using htried
  | case2 clock c hfree malformed hn => exact tries_refuseCommand hok
  | case3 clock c hfree hn => simpa using htried
  | case4 clock c hfree idcode wireVersion receive hn => exact tries_refuseCommand hok
  | case5 clock c hfree request receive hn hid => exact tries_refuseCommand hok
  | case6 => cases hok
  | case7 => cases hok
  | case8 clock c hfree request receive hn hid taken handled hr rest =>
    rename_i ih
    rw [Bool.or_eq_true, not_or, Bool.not_eq_true, Bool.not_eq_true] at hfree
    have hhandled : Tried handled.state ((log ++ [.accepted request.command]) ++ handled.log) :=
      tries_handleCommand hfree.1 hr
    have hrest := ih hhandled hok
    simpa using hrest

lemma tries_readConnection {answers : Answers} (htried : Tried c log) :
    Tries log (readConnection registry context answers c) := by
  unfold readConnection
  by_cases hclose : c.closeAfterFlush = true
  · rw [if_pos hclose]
    exact fun _ => by simpa using htried
  rw [if_neg hclose]
  generalize c.receive.readFrom answers.reads = read
  dsimp only
  refine Tries.note ?_
  have hread : Tried { c with receive := read.buffer } (log ++ [.read read.answered]) :=
    htried.append (by simp [Activity.isQueued])
  rcases read with ⟨kind | result, receive, answered⟩
  · exact tries_refused (by simp)
  cases result with
  | «open» => exact tries_processBufferedCommands _ _ hread
  | closed => exact tries_refused (by simp)
  | closedWithBufferedData =>
    intro hok
    obtain ⟨keep, hkept, hdone⟩ := Attempt.andThen_result_eq_ok.mp hok
    simp only
    rw [Attempt.andThen_ok hkept]
    obtain rfl : keep = true := by
      simp only [Attempt.done_result, Except.ok.injEq, Bool.and_eq_true] at hdone
      exact hdone.1.1
    have hprocessed := tries_processBufferedCommands answers.wallClock answers.readClock hread hkept
    simpa using hprocessed

lemma tries_frameWritten {answers : Answers} {bytes : List UInt8} :
    Tries log (frameWritten registry context answers bytes c) := by
  intro hok
  unfold frameWritten at hok ⊢
  rw [Attempt.andThen_ok rfl] at hok ⊢
  simp only at hok ⊢
  by_cases hclose : c.closeAfterFlush = true
  · rw [if_pos hclose] at hok
    cases hok
  rw [if_neg hclose] at hok ⊢
  generalize (.wrote bytes true :: if c.pending.isData = true then
    [Activity.counted .sentDataFrames] else []) = written
  obtain ⟨keep, hkept, hsettled⟩ := Attempt.andThen_result_eq_ok.mp hok
  rw [Attempt.andThen_ok hkept]
  cases keep with
  | false => cases hsettled
  | true =>
    have hready : Tried { c with pending := .none } (log ++ written) := tried_idle rfl
    have hprocessed := tries_processBufferedCommands answers.wallClock answers.writeClock hready
      hkept
    generalize processBufferedCommands registry context answers.wallClock answers.writeClock
      { c with pending := .none } = p at hprocessed hsettled ⊢
    simp only [Bool.not_true, Bool.false_eq_true, if_false] at hsettled ⊢
    cases hpending : p.state.pending.isPending with
    | true => simpa using hprocessed
    | false =>
      simp only [hpending, Bool.false_eq_true, if_false] at hsettled ⊢
      have htries : Tries (log ++ (written ++ p.log))
          ((reregisterConnection registry false p.state).andThen fun _ c => .done true c) :=
        tries_reregister fun _ => tried_idle hpending
      simpa using htries hsettled

/-- A write that falls short, where the connection was heard of or sends a data frame. -/
lemma tries_short {bytes : List UInt8} {pending : PendingFrame}
    (hheard : pending.isData = true ∨ Heard log) :
    Tries log ((Attempt.note (.wrote bytes false) { c with pending }).andThen fun _ c =>
      (reregisterConnection registry true c).andThen fun _ c => .done true c) := by
  refine Tries.note (tries_reregister fun interest _ => ?_)
  have hsince : sinceQueued (log ++ [.wrote bytes false] ++ [.registered interest]) =
      sinceQueued log ++ [.wrote bytes false, .registered interest] := by
    rw [List.append_assoc]
    exact sinceQueued_append log (by simp [Activity.isQueued])
  have hfailed : DrainFailed (log ++ [.wrote bytes false] ++ [.registered interest]) :=
    ⟨bytes, by rw [hsince]; simp⟩
  refine iff_of_true hfailed (hheard.imp_right fun hmem => ?_)
  rw [Heard, hsince]
  exact List.mem_append_left _ hmem

lemma tries_flushConnection {dataFrame : DataFrame} {answers : Answers}
    (hheard : c.pending.isPending = true → c.pending.isData = true ∨ Heard log) :
    Tries log (flushConnection registry context dataFrame answers c) := by
  unfold flushConnection
  cases hwaits : c.pending.isPending with
  | false => exact fun _ => tried_idle hwaits
  | true =>
    have hheard := hheard hwaits
    simp only [Bool.not_true, Bool.false_eq_true, if_false]
    cases pendingFrameBytes context dataFrame c with
    | error failure => exact tries_refused (by simp)
    | ok frame =>
      simp only
      by_cases hlong : frame.length < c.pending.offset
      · rw [if_pos hlong]
        exact tries_refused (by simp)
      rw [if_neg hlong]
      cases answers.write with
      | failed kind =>
        cases kind with
        | wouldBlock => exact tries_short hheard
        | _ => exact tries_refused (by simp)
      | accepts count =>
        simp only
        split_ifs
        · exact tries_refused (by simp)
        · exact tries_frameWritten
        · refine tries_short (hheard.imp_left fun hdata => ?_)
          cases hpending : c.pending <;> simp [hpending, PendingFrame.isData] at hdata ⊢
          rfl

lemma tries_serveConnection {dataFrame : DataFrame} {readable writable : Bool} {answers : Answers}
    (htried : Tried c log) :
    Tries log (serveConnection registry context dataFrame readable writable answers c) := by
  intro hok
  obtain ⟨keep, hkept, hflushed⟩ := Attempt.andThen_result_eq_ok.mp hok
  unfold serveConnection
  rw [Attempt.andThen_ok hkept]
  have hread : Tries log
      (if readable then readConnection registry context answers c else .done true c) := by
    cases readable with
    | true => exact tries_readConnection htried
    | false => exact fun _ => by simpa using htried
  generalize (if readable then readConnection registry context answers c
    else .done true c) = p at hkept hflushed hread ⊢
  cases keep with
  | false => cases hflushed
  | true =>
    have hreads := hread hkept
    cases writable with
    | false => simpa using hreads
    | true =>
      simp only [Bool.not_true, Bool.false_eq_true, if_false, if_true] at hflushed ⊢
      rw [← List.append_assoc]
      refine Tries.note (tries_flushConnection fun _ => .inr ?_) hflushed
      rw [Heard, sinceQueued_append _ (by simp [Activity.isQueued])]
      simp

lemma tries_sendDataFrame {dataFrame : DataFrame} {tick : Tick} {answers : Answers} :
    Tries log (sendDataFrame registry context dataFrame tick answers c) := by
  refine Tries.note ?_
  intro hok
  obtain ⟨_, hregistered, hflushed⟩ := Attempt.andThen_result_eq_ok.mp hok
  rw [Attempt.andThen_ok hregistered, reregisterConnection_log hregistered]
  rw [reregisterConnection_state] at hflushed ⊢
  have hsent : Tries (log ++ [.queued (.data tick)] ++ [.registered .readableWritable])
      (flushConnection registry context dataFrame answers { c with pending := .data 0 }) :=
    tries_flushConnection fun _ => .inl rfl
  simpa using hsent hflushed

/-- Every turn that a connection survives keeps to it. -/
lemma tried_turn {dataFrame : DataFrame} {seed : UInt64} {influence : Influence} {c' : Connection}
    (htried : Tried c log)
    (hok : (influence.turn registry context dataFrame seed c).result = .ok ())
    (hc' : (influence.turn registry context dataFrame seed c).state = some c') :
    Tried c' (log ++ connectionLog c.connectionId
      (influence.turn registry context dataFrame seed c).log) := by
  rcases turn_survives hok hc' with ⟨rfl, hlog⟩ | ⟨p, hp, rfl, hlog, hkind⟩
  · simpa [hlog] using htried
  · rw [hlog, connectionLog_own]
    rcases hkind with ⟨readable, writable, answers, -, rfl⟩ |
      ⟨tick, plan, answers, dataFrame', -, -, -, -, rfl⟩
    · exact tries_serveConnection htried hp
    · exact tries_sendDataFrame hp

end Registered

/-! ### Boundaries -/

section Registered

variable {registry : Registry} {codec : ManagementCodec} {s : Server} {i : Nat} {slot : Slot}
  {connectionId : Nat}

lemma Moves.not_slow {context : EndpointContext} {dataFrame : DataFrame} {c c' : Connection}
    {log : List Activity} (moves : Moves context dataFrame c log c') :
    .counted .slowClients ∉ log := by
  induction moves with
  | nil => simp
  | snoc _ move ih =>
    rw [List.mem_append, not_or]
    refine ⟨ih, ?_⟩
    cases move with
    | counted of => rcases of with rfl | rfl | rfl <;> simp
    | _ => simp

lemma closeConnection_log {connectionId : Nat} {connection : Option Connection} :
    ∀ entry ∈ (closeConnection registry connectionId connection).log,
      entry.2 = .counted .closedClients := by
  cases connection with
  | none => simp [closeConnection]
  | some c =>
    simp only [closeConnection]
    split_ifs
    · simp
    · cases registry.deregister c.token <;> simp

lemma disconnectAllPlanned_log (plan : Option FramePlan) (e : Endpoint) :
    ∀ entry ∈ (disconnectAllPlanned registry plan e).log, entry.2.2 = .counted .closedClients := by
  cases plan with
  | none => simp [disconnectAllPlanned]
  | some plan =>
    have hkeeps : (disconnectAllPlanned registry (some plan) e).Keeps
        (fun _ log => ∀ entry ∈ log, entry.2.2 = .counted .closedClients) [] := by
      refine .each (by simp) fun connectionId _ e' before hbefore entry hentry => ?_
      rcases List.mem_append.mp hentry with hentry | hentry
      · exact hbefore entry hentry
      · unfold disconnectPlanned at hentry
        cases hfind : slots.find? fun slot => e'.holds slot connectionId with
        | none => simp [hfind] at hentry
        | some slot' =>
          simp only [hfind, Endpoint.onSlot, Attempt.lift_log] at hentry
          obtain ⟨own, hown, rfl⟩ := List.mem_map.mp hentry
          exact closeConnection_log own hown
    simpa [Attempt.Keeps] using hkeeps

lemma sendTick_not_slow {context : EndpointContext} {dataFrame : DataFrame} {tick : Tick}
    {answers : Answers} {connection : Option Connection} :
    (connectionId, .counted .slowClients) ∉
      (sendTick registry context dataFrame tick answers connection).log := by
  cases connection with
  | none => simp [sendTick]
  | some c =>
    simp only [sendTick]
    split_ifs
    · simp
    · intro hmem
      rcases Attempt.mem_andThen_log hmem with hmem | ⟨keep, -, hmem⟩
      · simp only [onConnection, Attempt.lift_log] at hmem
        obtain ⟨activity, hactivity, heq⟩ := List.mem_map.mp hmem
        obtain ⟨-, rfl⟩ := Prod.mk.inj heq
        obtain ⟨log, hlog, moves⟩ : ∃ log,
            (sendDataFrame registry context dataFrame tick answers c).log =
              .queued (.data tick) :: log ∧
            Moves context dataFrame { c with pending := .data 0 } log
              (sendDataFrame registry context dataFrame tick answers c).state :=
          moves_sendDataFrame
        rw [hlog] at hactivity
        rcases List.mem_cons.mp hactivity with heq | hactivity
        · cases heq
        · exact moves.not_slow hactivity
      · cases keep with
        | true => cases hmem
        | false =>
          rw [keepOrClose, if_neg Bool.false_ne_true] at hmem
          cases closeConnection_log _ hmem

lemma slow_of_dropSlow {connection : Option Connection}
    (h : (connectionId, .counted .slowClients) ∈ (dropSlow registry connection).log) :
    ∃ c, connection = some c ∧ c.connectionId = connectionId ∧ c.streaming = true ∧
      c.pending.isPending = true := by
  cases connection with
  | none => cases h
  | some c =>
    by_cases hslow : c.streaming = true ∧ c.pending.isPending = true
    · rw [dropSlow_of_slow hslow.1 hslow.2] at h
      rcases Attempt.mem_andThen_log h with hmem | ⟨_, -, hmem⟩
      · obtain ⟨hid, -⟩ := Prod.mk.inj (List.mem_singleton.mp hmem)
        exact ⟨c, rfl, hid.symm, hslow⟩
      · cases closeConnection_log _ hmem
    · rw [dropSlow_of_idle fun hstreams => by simpa using fun hwaits => hslow ⟨hstreams, hwaits⟩]
        at h
      cases h

/-- Where the second pass of a boundary counts a slow client, it finds the connection streaming, with
a frame left to be sent. -/
lemma slow_of_emitEndpoint {seed : UInt64} {boundary : Boundary} {plan : Option FramePlan}
    {answers : Slot → Answers} {e : Endpoint}
    (h : (connectionId, .counted .slowClients) ∈
      Endpoint.slotLog slot (emitEndpoint registry seed boundary plan answers e).log) :
    ∃ c, e.connections slot = some c ∧ c.connectionId = connectionId ∧ c.streaming = true ∧
      c.pending.isPending = true := by
  obtain ⟨entry, hmem, hentry⟩ := List.mem_filterMap.mp h
  have hslot : entry = (slot, connectionId, .counted .slowClients) := by
    simp only [Endpoint.slotComponents] at hentry
    split_ifs at hentry with hslot
    rw [← Option.some.inj hentry, ← hslot]
  subst hslot
  rcases Attempt.mem_andThen_log hmem with hdropped | ⟨_, -, hemitted⟩
  · refine slow_of_dropSlow (Endpoint.mem_eachSlot (fun _ _ _ => dropSlow registry) ?_)
    exact List.mem_filterMap.mpr ⟨_, hdropped, hentry⟩
  · exfalso
    unfold emitTick at hemitted
    split_ifs at hemitted
    · cases hemitted
    · cases hemitted
    · generalize (Attempt.each (fun slot e => e.onSlot slot (dropSlow registry)) slots e).state = e₁
        at hemitted
      cases hencode : encodeDataFrame e₁.toEndpointContext seed (boundary.tick plan)
          e₁.dataFrame with
      | error failure =>
        simp only [hencode] at hemitted
        cases hemitted
      | ok dataFrame =>
        simp only [hencode] at hemitted
        have hsent := Endpoint.mem_eachSlot (e := { e₁ with dataFrame })
          (fun slot context dataFrame =>
            sendTick registry context dataFrame (boundary.tick plan) (answers slot))
          (List.mem_filterMap.mpr ⟨_, hemitted, hentry⟩)
        exact sendTick_not_slow hsent

lemma not_slow_disconnectAllPlanned (plan : Option FramePlan) (e : Endpoint) :
    (connectionId, .counted .slowClients) ∉
      Endpoint.slotLog slot (disconnectAllPlanned registry plan e).log := by
  intro h
  obtain ⟨entry, hmem, hentry⟩ := List.mem_filterMap.mp h
  have hclosed := disconnectAllPlanned_log plan e entry hmem
  simp only [Endpoint.slotComponents] at hentry
  split_ifs at hentry
  rw [Option.some.inj hentry] at hclosed
  cases hclosed

/-- The first pass of a boundary leaves only connections that it does not close. -/
lemma kept_of_disconnectAll {boundary : Boundary} {e₁ : Endpoint}
    (distinct : ∀ e, s.endpoints[i]? = some e → e.Distinct)
    (hok : (s.eachEndpoint fun j =>
      disconnectAllPlanned registry (boundary.plan j)).result = .ok ())
    (he₁ : (s.eachEndpoint fun j =>
      disconnectAllPlanned registry (boundary.plan j)).state.endpoints[i]? = some e₁)
    {c : Connection} (hc : e₁.connections slot = some c) :
    s.LiveAt i slot c ∧ ∀ plan ∈ boundary.plan i, c.connectionId ∉ plan.disconnectPdcConnectionIds :=
    by
  have hcore : (s.eachEndpoint fun j =>
      disconnectAllPlanned registry (boundary.plan j)).state.core = s.core :=
    Server.eachEndpoint_core (fun j e => disconnectAllPlanned_context (boundary.plan j) e) s
  have hlength := congrArg (fun core => core.contexts.length) hcore
  simp only [Server.core, List.length_map] at hlength
  have hi : i < s.endpoints.length := hlength ▸ (List.getElem?_eq_some_iff.mp he₁).1
  obtain ⟨e, he⟩ : ∃ e, s.endpoints[i]? = some e := ⟨_, List.getElem?_eq_getElem hi⟩
  obtain ⟨hcomes, -⟩ := Server.comesTo_eachEndpoint slot he
    (fun hok => Endpoint.comesTo_disconnectAllPlanned (distinct e he) hok) hok
  obtain ⟨hkept, -, hplanned⟩ := closePlanned_survives ((hcomes.state e₁ he₁).symm.trans hc)
  exact ⟨⟨e, he, hkept⟩, hplanned⟩

/-- Where an input at a boundary counts a slow client, it finds the connection streaming, with a frame
left to be sent. -/
lemma slow_of_takeBoundary {answers : BoundaryAnswers} (routed : s.Routed)
    (h : (connectionId, .counted .slowClients) ∈
      Server.placeLog i slot (s.takeBoundary registry answers).log) :
    ∃ boundary c, s.dueBoundary (.boundary answers) = some boundary ∧ s.LiveAt i slot c ∧
      (∀ plan ∈ boundary.plan i, c.connectionId ∉ plan.disconnectPdcConnectionIds) ∧
      c.connectionId = connectionId ∧ c.streaming = true ∧ c.pending.isPending = true := by
  obtain ⟨s', boundary, hdue, hendpoints, hmem⟩ : ∃ (s' : Server) (boundary : Boundary),
      s.dueBoundary (.boundary answers) = some boundary ∧ s'.endpoints = s.endpoints ∧
      (connectionId, .counted .slowClients) ∈
        Server.placeLog i slot (s'.emitBoundary registry boundary answers.answers).log := by
    cases hdue : s.scheduler.takeDue answers.now with
    | mk due scheduler =>
      cases due with
      | none =>
        rw [Server.takeBoundary_of_none (by rw [hdue])] at h
        cases h
      | some tick =>
        rw [Server.takeBoundary_of_some hdue, Attempt.andThen_ok (Attempt.note_result _ _)] at h
        simp only [Attempt.note_state, Attempt.note_log] at h
        cases hadvance : Server.advanceController tick.1 s.scenarioController with
        | error failure =>
          rw [Server.emitData_of_error (s := { s with scheduler }) hadvance] at h
          cases h
        | ok controller =>
          rw [Server.emitData_of_ok (s := { s with scheduler }) hadvance,
            Attempt.andThen_ok (Attempt.note_result _ _)] at h
          simp only [Server.placeLog_append, Attempt.note_log, Attempt.note_state] at h
          refine ⟨Server.atBoundary { s with scheduler } answers controller,
            (s.atBoundary answers controller).boundaryAt tick.1, ?_, rfl, h⟩
          simp only [Server.dueBoundary, hdue, hadvance]
  have distinct : ∀ e, s'.endpoints[i]? = some e → e.Distinct :=
    fun e he => routed.distinct_at (hendpoints ▸ he)
  unfold Server.emitBoundary at hmem
  cases hplanned : (s'.eachEndpoint fun j =>
      disconnectAllPlanned registry (boundary.plan j)).result with
  | error failure =>
    rw [Attempt.andThen_error hplanned] at hmem
    obtain ⟨e, -, hentry⟩ := Server.mem_eachEndpoint hmem
    exact absurd hentry (not_slow_disconnectAllPlanned _ e)
  | ok _ =>
    rw [Attempt.andThen_ok hplanned, Server.placeLog_append] at hmem
    rcases List.mem_append.mp hmem with hclosed | hemitted
    · obtain ⟨e, -, hentry⟩ := Server.mem_eachEndpoint hclosed
      exact absurd hentry (not_slow_disconnectAllPlanned _ e)
    · obtain ⟨e₁, he₁, hentry⟩ := Server.mem_eachEndpoint hemitted
      obtain ⟨c, hc, hfound⟩ := slow_of_emitEndpoint hentry
      obtain ⟨⟨e, he, hkept⟩, hnot⟩ := kept_of_disconnectAll distinct hplanned he₁ hc
      exact ⟨boundary, c, hdue, ⟨e, hendpoints ▸ he, hkept⟩, hnot, hfound⟩

end Registered

/-! ### Runs -/

/-- At a due boundary, every streaming connection that has a response left to be sent, and is not to
be disconnected, was served a writable event since the response was queued. -/
def HeardInTime (before : List (Machine.Taken EventLoop Input (List Report)))
    (x : Machine.Taken EventLoop Input (List Report)) : Prop :=
  ∀ boundary, x.before.server.dueBoundary x.input = some boundary → ∀ i slot c,
    x.before.server.LiveAt i slot c →
      (∀ plan ∈ boundary.plan i, c.connectionId ∉ plan.disconnectPdcConnectionIds) →
      c.streaming = true → c.pending.isPending = true → c.pending.isData = true ∨
        Heard (connectionLog c.connectionId (placeHistory i slot before))

/-- What a boundary counts as slow was tried, and did not drain. -/
def SlowDrained (before : List (Machine.Taken EventLoop Input (List Report)))
    (x : Machine.Taken EventLoop Input (List Report)) : Prop :=
  ∀ answers i slot connectionId, x.input = .boundary answers →
    (connectionId, .counted .slowClients) ∈ Server.placeLog i slot x.output →
      DrainFailed (connectionLog connectionId (placeHistory i slot before))

section Registered

variable {registry : Registry} {codec : ManagementCodec} {l₀ l : EventLoop}
  {h : List (Machine.Taken EventLoop Input (List Report))} {i : Nat} {slot : Slot}

lemma tried_of_run (started : Started l₀) (run : (eventLoop registry codec).Run l₀ h l)
    (running : l.ended = none) {c : Connection} (live : l.server.LiveAt i slot c) :
    Tried c (connectionLog c.connectionId (placeHistory i slot h)) := by
  obtain ⟨e, he, hc⟩ := live
  refine history_of_turns (I := fun _ c log => Tried c log) started run ?_ ?_ running he hc
  · intro context _ connectionId token acceptedAt
    exact tried_idle rfl
  · intro context _ dataFrame c log influence htried hok c' hc'
    exact ⟨identity_of_turn hok hc', tried_turn htried hok hc'⟩

/-- Where a boundary of a run counts a client as slow, its frame was tried exactly if it is a data
frame or the client was heard of. -/
lemma slow_of_run (started : Started l₀) (run : (eventLoop registry codec).Run l₀ h l)
    {before after : List (Machine.Taken EventLoop Input (List Report))}
    {x : Machine.Taken EventLoop Input (List Report)} (hx : h = before ++ x :: after)
    {answers : BoundaryAnswers} (hinput : x.input = .boundary answers) {connectionId : Nat}
    (hslow : (connectionId, .counted .slowClients) ∈ Server.placeLog i slot x.output) :
    ∃ boundary c, x.before.server.dueBoundary x.input = some boundary ∧
      x.before.server.LiveAt i slot c ∧
      (∀ plan ∈ boundary.plan i, c.connectionId ∉ plan.disconnectPdcConnectionIds) ∧
      c.connectionId = connectionId ∧ c.streaming = true ∧ c.pending.isPending = true ∧
      (DrainFailed (connectionLog connectionId (placeHistory i slot before)) ↔
        c.pending.isData = true ∨
          Heard (connectionLog connectionId (placeHistory i slot before))) := by
  subst hx
  obtain ⟨run, hs, -⟩ := run.step_of_mid
  rw [hinput] at hs ⊢
  obtain ⟨hrunning, houtput, -⟩ := EventLoop.step_ok hs
  rw [houtput] at hslow
  obtain ⟨boundary, c, hdue, live, hnot, rfl, hstreams, hpending⟩ :=
    slow_of_takeBoundary (routed_of_run started run) hslow
  exact ⟨boundary, c, hdue, live, hnot, rfl, hstreams, hpending,
    tried_of_run started run hrunning live hpending⟩

/-- In a run whose boundaries all come after the writable events they need, what is counted as slow
did not drain. -/
theorem drained_before_slow (started : Started l₀) (run : (eventLoop registry codec).Run l₀ h l)
    (hheard : ∀ before x after, h = before ++ x :: after → HeardInTime before x) :
    ∀ before x after, h = before ++ x :: after → SlowDrained before x := by
  intro before x after hx answers i slot connectionId hinput hslow
  obtain ⟨boundary, c, hdue, live, hnot, rfl, hstreams, hpending, htried⟩ :=
    slow_of_run started run hx hinput hslow
  exact htried.mpr (hheard before x after hx boundary hdue i slot c live hnot hstreams hpending)

end Registered

/-! ### Clients that do not drain -/

/-- An entry counts the client of an identifier as slow. -/
def countsSlow (connectionId : Nat) : Nat × Activity → Bool
  | (id, .counted .slowClients) => id = connectionId
  | _ => false

lemma slow_of_any (connectionId : Nat) {log : List (Nat × Activity)}
    (h : log.any (countsSlow connectionId) = true) : (connectionId, .counted .slowClients) ∈ log := by
  obtain ⟨entry, hmem, hentry⟩ := List.any_eq_true.mp h
  unfold countsSlow at hentry
  split at hentry
  · obtain rfl := of_decide_eq_true hentry
    exact hmem
  · cases hentry

def isWrite : Nat × Activity → Bool
  | (_, .wrote _ _) => true
  | _ => false

def Activity.isWritable : Activity → Bool
  | .writable => true
  | _ => false

def Input.isBoundary : Input → Bool
  | .boundary _ => true
  | _ => false

/-- A frame that is left to be sent is a data frame, or a writable event was served since it was
queued. -/
def heardOf (c : Connection) (log : List Activity) : Bool :=
  !c.pending.isPending || c.pending.isData || (sinceQueued log).any Activity.isWritable

/-- At the boundaries of a run, every client is heard of. -/
def heardSteps (steps : Steps) : Bool :=
  (List.range steps.length).all fun k => (steps[k]?).all fun x =>
    !x.input.isBoundary || (List.range x.before.server.endpoints.length).all fun i =>
      (x.before.server.endpoints[i]?).all fun e => slots.all fun slot =>
        (e.connections slot).all fun c =>
          heardOf c (connectionLog c.connectionId (placeHistory i slot (steps.take k)))

lemma heardInTime_of_steps {steps : Steps} (hsteps : heardSteps steps = true) {before after : Steps}
    {x : Machine.Taken EventLoop Input (List Report)} (hx : steps = before ++ x :: after) :
    HeardInTime before x := by
  intro boundary hdue i slot c live _ _ hpending
  subst hx
  have hlength : before.length < (before ++ x :: after).length := by simp
  have hstep := List.all_eq_true.mp hsteps _ (List.mem_range.mpr hlength)
  simp only [List.getElem?_append_right (le_refl before.length), Nat.sub_self,
    List.getElem?_cons_zero, Option.all_some, List.take_left, Bool.or_eq_true] at hstep
  have hboundary : x.input.isBoundary = true := by
    cases hinput : x.input with
    | boundary answers => rfl
    | _ =>
      rw [hinput] at hdue
      cases hdue
  obtain ⟨e, he, hc⟩ := live
  have hlt := (List.getElem?_eq_some_iff.mp he).1
  have hall := List.all_eq_true.mp (hstep.resolve_left (by simp [hboundary])) i
    (List.mem_range.mpr hlt)
  rw [he, Option.all_some] at hall
  have hheard := List.all_eq_true.mp hall slot (Endpoint.mem_slots slot)
  rw [hc, Option.all_some, heardOf, hpending, Bool.not_true, Bool.false_or, Bool.or_eq_true]
    at hheard
  refine hheard.imp_right fun hwritable => ?_
  obtain ⟨activity, hmem, hactivity⟩ := List.any_eq_true.mp hwritable
  cases activity with
  | writable => exact hmem
  | _ => cases hactivity

/-- One client stops reading its data frames, another the answer to a command. -/
theorem drained_before_slow_small : ∃ (steps before after : Steps)
    (x : Machine.Taken EventLoop Input (List Report)), steps = before ++ x :: after ∧
      ((1, .counted .slowClients) ∈ Server.placeLog 0 0 x.output ∧
        DrainFailed (connectionLog 1 (placeHistory 0 0 before))) ∧
      (2, .counted .slowClients) ∈ Server.placeLog 0 1 x.output ∧
        DrainFailed (connectionLog 2 (placeHistory 0 1 before)) := by
  have htrace : soleTrace .v2 none [acceptOne, acceptOne, bytesArrive 3 (soleCommand .start),
      boundaryAnswered 20000000 (.failed .wouldBlock),
      bytesArrive 6 (soleCommand .start ++ soleCommand .header),
      .event ⟨6, false, true, [], soleAnswers [] (.failed .wouldBlock)⟩,
      boundaryAnswered 40000000 (.failed .wouldBlock)] (fun steps _ =>
        heardSteps steps && (steps[6]?).any fun x =>
          (Server.placeLog 0 0 x.output).any (countsSlow 1) &&
            (Server.placeLog 0 1 x.output).any (countsSlow 2)) = true := by
    decide +kernel
  obtain ⟨l₀, steps, l, started, hinputs, run, hcheck⟩ := run_of_soleTrace htrace
  obtain ⟨hheard, hslow⟩ := Bool.and_eq_true_iff.mp hcheck
  obtain ⟨x, hx, hslow⟩ := (Option.any_eq_true _ _).mp hslow
  obtain ⟨hdata, hresponse⟩ := Bool.and_eq_true_iff.mp hslow
  have hsplit : steps = steps.take 6 ++ x :: steps.drop 7 := by
    obtain ⟨hlt, rfl⟩ := List.getElem?_eq_some_iff.mp hx
    rw [List.getElem_cons_drop, List.take_append_drop]
  have hinput : x.input = boundaryAnswered 40000000 (.failed .wouldBlock) := by
    have hmap := congrArg (·[6]?) hinputs
    simp only [List.getElem?_map, hx, Option.map_some] at hmap
    exact Option.some.inj hmap
  have hdrained := drained_before_slow started run
    (fun _ _ _ => heardInTime_of_steps hheard) _ x _ hsplit
  exact ⟨steps, _, _, x, hsplit,
    ⟨slow_of_any 1 hdata, hdrained _ 0 0 1 hinput (slow_of_any 1 hdata)⟩,
    slow_of_any 2 hresponse, hdrained _ 0 1 2 hinput (slow_of_any 2 hresponse)⟩

/-- A command for the header comes in right before a boundary, and no event for it. -/
theorem slow_untried : ¬ ∀ (registry : Registry) (codec : ManagementCodec) (l₀ l : EventLoop)
    (h : Steps), Started l₀ → (eventLoop registry codec).Run l₀ h l →
      ∀ before x after, h = before ++ x :: after → SlowDrained before x := by
  intro hall
  have htrace : soleTrace .v2 none [acceptOne,
      bytesArrive 3 (soleCommand .start ++ soleCommand .header),
      boundaryAnswered 20000000 (.failed .wouldBlock)] (fun steps _ =>
        ((Server.placeLog 0 0 ((steps.take 2).flatMap Machine.Taken.output)).all
          fun entry => !isWrite entry) &&
        (Server.placeLog 0 0 ((steps[2]?).elim [] Machine.Taken.output)).any (countsSlow 1)) =
          true := by
    decide +kernel
  obtain ⟨l₀, steps, l, started, hinputs, run, hcheck⟩ := run_of_soleTrace htrace
  rw [Bool.and_eq_true, List.all_eq_true] at hcheck
  obtain ⟨huntried, hslow⟩ := hcheck
  obtain ⟨x₀, x₁, x₂, rfl⟩ : ∃ x₀ x₁ x₂, steps = [x₀, x₁, x₂] :=
    List.length_eq_three.mp (by simpa using congrArg List.length hinputs)
  have hinput : x₂.input = boundaryAnswered 20000000 (.failed .wouldBlock) := by
    exact Option.some.inj (congrArg (·[2]?) hinputs)
  have hcounted : (1, .counted .slowClients) ∈ Server.placeLog 0 0 x₂.output :=
    slow_of_any 1 hslow
  obtain ⟨bytes, hwrote⟩ :=
    hall _ _ l₀ l _ started run [x₀, x₁] x₂ [] rfl _ 0 0 1 hinput hcounted
  have hmem := (List.rtakeWhile_suffix _ _).subset hwrote
  obtain ⟨entry, hentry, howned⟩ := List.mem_filterMap.mp hmem
  have hnot := huntried entry hentry
  split_ifs at howned
  obtain ⟨connectionId, activity⟩ := entry
  obtain rfl := Option.some.inj howned
  cases hnot

end PmuSimulator

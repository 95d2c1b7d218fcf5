import Mathlib
import PmuSimulator.Scenario.Window
import PmuSimulator.Server.Draining

/-!
# What a boundary does to a connection

`emit_data` closes, checks, encodes and flushes in three passes over the endpoints. On one connection
they come to one of four things. Handing out a data frame calls the code that handles commands, but a
streaming connection with nothing left to send has no command left in its buffer either: `Settled`.
-/

namespace PmuSimulator

/-! ### Settled connections -/

/-- A streaming connection is not about to be closed, and where nothing is left to be sent nothing is
left in the buffer that could be handled. -/
structure Settled (context : EndpointContext) (c : Connection) : Prop where
  stays : c.streaming = true → c.closeAfterFlush = false
  handled : c.pending.isPending = false → c.closeAfterFlush = false →
    c.receive.nextCommand context.descriptor.wireVersion = .ok none

/-- An attempt after which a connection is settled, where it is kept. -/
def ConnectionAttempt.Settles (context : EndpointContext) (p : ConnectionAttempt Bool) : Prop :=
  p.result = .ok true → Settled context p.state

open ConnectionAttempt

section Registered

variable {registry : Registry} {context : EndpointContext} {c : Connection}

lemma settles_refused {p : ConnectionAttempt Bool} (h : p.result ≠ .ok true) :
    Settles context p := fun hok => absurd hok h

lemma settles_done {b : Bool} (h : Settled context c) : Settles context (.done b c) := fun _ => h

lemma Settles.note {activity : Activity} {f : Unit → Connection → ConnectionAttempt Bool}
    (h : Settles context (f () c)) : Settles context ((Attempt.note activity c).andThen f) := by
  intro hok
  rw [Attempt.andThen_ok (Attempt.note_result _ _)] at hok ⊢
  exact h hok

lemma Settles.reregister {writable : Bool} {f : Unit → Connection → ConnectionAttempt Bool}
    (h : Settles context (f () c)) :
    Settles context ((reregisterConnection registry writable c).andThen f) := by
  intro hok
  obtain ⟨_, hregistered, hrest⟩ := Attempt.andThen_result_eq_ok.mp hok
  rw [Attempt.andThen_ok hregistered]
  rw [reregisterConnection_state] at hrest ⊢
  exact h hrest

lemma settled_closing (hstreams : c.streaming = false) (hclose : c.closeAfterFlush = true) :
    Settled context c where
  stays h := by cases hstreams.symm.trans h
  handled _ h := by cases hclose.symm.trans h

lemma settles_refuseCommand {wallClock : SystemTime} {wireVersion : WireVersion} {counter : Counter}
    {streamId : UInt16} {code : WireV3.ErrorResponseCode} :
    Settles context
      (refuseCommand registry context wallClock wireVersion counter streamId code c) := by
  refine Settles.note ?_
  by_cases hv3 : wireVersion = .v3
  · rw [if_pos hv3]
    unfold queueErrorResponse
    cases responseTimestamp context.descriptor.timeBase wallClock with
    | error failure => exact settles_refused (by simp)
    | ok timestamp =>
      cases c.errorFrame with
      | none => exact settles_refused (by simp)
      | some frame =>
        simp only [Attempt.andThen_assoc]
        exact Settles.note (Settles.reregister (settles_done (settled_closing rfl rfl)))
  · rw [if_neg hv3]
    exact settles_refused (by simp)

variable (registry context) in
lemma handleCommand_closeAfterFlush (command : ServerCommand) (c : Connection) :
    (handleCommand registry context command c).state.closeAfterFlush = c.closeAfterFlush := by
  unfold handleCommand
  by_cases hpending : c.pending.isPending
  · rw [if_pos hpending]
  rw [if_neg hpending]
  cases command <;> simp only [settleCommand_state]
  all_goals
    unfold queueInformation
    split
    · rw [Attempt.andThen_state fun _ => settleCommand_state registry]
      rfl
    · rfl

/-- Handling the buffered commands goes on until nothing is left that could be handled. -/
lemma settles_processBufferedCommands (wallClock : SystemTime) (clock : Nat → Instant)
    (hstays : c.streaming = true → c.closeAfterFlush = false) :
    Settles context (processBufferedCommands registry context wallClock clock c) := by
  fun_induction processBufferedCommands registry context wallClock clock c with
  | case1 clock c hbusy =>
    refine settles_done ⟨hstays, fun hidle hkeeps => ?_⟩
    simp [hidle, hkeeps] at hbusy
  | case2 clock c hfree malformed hn => exact settles_refuseCommand
  | case3 clock c hfree hn => exact settles_done ⟨hstays, fun _ _ => hn⟩
  | case4 clock c hfree idcode wireVersion receive hn => exact settles_refuseCommand
  | case5 clock c hfree request receive hn hid => exact settles_refuseCommand
  | case6 => exact settles_refused (by simp)
  | case7 => exact settles_refused (by simp)
  | case8 clock c hfree request receive hn hid taken handled hr rest =>
    rename_i ih
    rw [Bool.or_eq_true, not_or, Bool.not_eq_true, Bool.not_eq_true] at hfree
    refine ih fun _ => ?_
    exact (handleCommand_closeAfterFlush registry context request.command taken).trans hfree.2

lemma settles_readConnection {answers : Answers} (hsettled : Settled context c) :
    Settles context (readConnection registry context answers c) := by
  unfold readConnection
  by_cases hclose : c.closeAfterFlush = true
  · rw [if_pos hclose]
    exact settles_done hsettled
  rw [if_neg hclose]
  generalize c.receive.readFrom answers.reads = read
  dsimp only
  refine Settles.note ?_
  rcases read with ⟨kind | result, receive, answered⟩
  · exact settles_refused (by simp)
  have hprocess : Settles context (processBufferedCommands registry context answers.wallClock
      answers.readClock { c with receive }) := settles_processBufferedCommands _ _ hsettled.stays
  cases result with
  | «open» => exact hprocess
  | closed => exact settles_refused (by simp)
  | closedWithBufferedData =>
    intro hok
    obtain ⟨keep, hkept, hdone⟩ := Attempt.andThen_result_eq_ok.mp hok
    obtain rfl : keep = true := by
      simp only [Attempt.done_result, Except.ok.injEq, Bool.and_eq_true] at hdone
      exact hdone.1.1
    simp only
    rw [Attempt.andThen_ok hkept]
    exact hprocess hkept

lemma settles_frameWritten {answers : Answers} {bytes : List UInt8}
    (hstays : c.streaming = true → c.closeAfterFlush = false) :
    Settles context (frameWritten registry context answers bytes c) := by
  unfold frameWritten
  rw [Attempt.andThen_ok rfl]
  intro hok
  simp only at hok ⊢
  by_cases hclose : c.closeAfterFlush = true
  · rw [if_pos hclose] at hok
    cases hok
  rw [if_neg hclose] at hok ⊢
  obtain ⟨keep, hkept, hrest⟩ := Attempt.andThen_result_eq_ok.mp hok
  rw [Attempt.andThen_ok hkept]
  cases keep with
  | false => cases hrest
  | true =>
    have hprocess : Settles context (processBufferedCommands registry context answers.wallClock
        answers.writeClock { c with pending := .none }) :=
      settles_processBufferedCommands _ _ hstays
    have hprocessed := hprocess hkept
    generalize processBufferedCommands registry context answers.wallClock answers.writeClock
      { c with pending := .none } = p at hprocessed hrest ⊢
    simp only [Bool.not_true, Bool.false_eq_true, if_false] at hrest ⊢
    cases hpending : p.state.pending.isPending with
    | true => exact hprocessed
    | false =>
      simp only [hpending, Bool.false_eq_true, if_false] at hrest ⊢
      exact Settles.reregister (settles_done hprocessed) hrest

lemma isPending_withOffset (pending : PendingFrame) (offset : Nat) :
    (pending.withOffset offset).isPending = pending.isPending := by
  cases pending <;> rfl

lemma settles_flushConnection {dataFrame : DataFrame} {answers : Answers}
    (hsettled : Settled context c) :
    Settles context (flushConnection registry context dataFrame answers c) := by
  unfold flushConnection
  cases hpending : c.pending.isPending with
  | false => exact settles_done hsettled
  | true =>
    simp only [Bool.not_true, Bool.false_eq_true, if_false]
    cases pendingFrameBytes context dataFrame c with
    | error failure => exact settles_refused (by simp)
    | ok frame =>
      simp only
      by_cases hlong : frame.length < c.pending.offset
      · rw [if_pos hlong]
        exact settles_refused (by simp)
      rw [if_neg hlong]
      cases answers.write with
      | failed kind =>
        cases kind with
        | wouldBlock => exact Settles.note (Settles.reregister (settles_done hsettled))
        | _ => exact settles_refused (by simp)
      | accepts count =>
        simp only
        split_ifs
        · exact settles_refused (by simp)
        · exact settles_frameWritten hsettled.stays
        · refine Settles.note (Settles.reregister (settles_done ⟨hsettled.stays, fun hidle => ?_⟩))
          cases ((isPending_withOffset _ _).trans hpending).symm.trans hidle

lemma settles_serveConnection {dataFrame : DataFrame} {readable writable : Bool} {answers : Answers}
    (hsettled : Settled context c) :
    Settles context (serveConnection registry context dataFrame readable writable answers c) := by
  intro hok
  obtain ⟨keep, hkept, hflushed⟩ := Attempt.andThen_result_eq_ok.mp hok
  unfold serveConnection
  rw [Attempt.andThen_ok hkept]
  have hread : Settles context
      (if readable then readConnection registry context answers c else .done true c) := by
    cases readable with
    | true => exact settles_readConnection hsettled
    | false => exact settles_done hsettled
  generalize (if readable then readConnection registry context answers c
    else .done true c) = p at hkept hflushed hread ⊢
  cases keep with
  | false => cases hflushed
  | true =>
    cases writable with
    | false => exact hread hkept
    | true =>
      simp only [Bool.not_true, Bool.false_eq_true, if_false, if_true] at hflushed ⊢
      exact Settles.note (settles_flushConnection (hread hkept)) hflushed

lemma settles_sendDataFrame {dataFrame : DataFrame} {tick : Tick} {answers : Answers}
    (hsettled : Settled context c) :
    Settles context (sendDataFrame registry context dataFrame tick answers c) := by
  refine Settles.note (Settles.reregister (settles_flushConnection ⟨hsettled.stays, ?_⟩))
  intro hidle
  cases hidle

/-- Every turn that a connection survives leaves it settled. -/
lemma settled_turn {dataFrame : DataFrame} {seed : UInt64} {influence : Influence} {c' : Connection}
    (hsettled : Settled context c)
    (hok : (influence.turn registry context dataFrame seed c).result = .ok ())
    (hc' : (influence.turn registry context dataFrame seed c).state = some c') :
    Settled context c' := by
  rcases turn_survives hok hc' with ⟨rfl, -⟩ | ⟨p, hp, rfl, -, hkind⟩
  · exact hsettled
  · rcases hkind with ⟨readable, writable, answers, -, rfl⟩ |
      ⟨tick, plan, answers, dataFrame', -, -, -, -, rfl⟩
    · exact settles_serveConnection hsettled hp
    · exact settles_sendDataFrame hsettled hp

end Registered

section Registered

variable {registry : Registry} {codec : ManagementCodec} {l₀ l : EventLoop}
  {h : List (Machine.Taken EventLoop Input (List Report))} {i : Nat} {slot : Slot}

/-- Every live connection is settled whenever the loop goes on. -/
theorem settled_of_run (started : Started l₀) (run : (eventLoop registry codec).Run l₀ h l)
    (running : l.ended = none) {e : Endpoint} (he : l.server.endpoints[i]? = some e)
    {c : Connection} (hc : e.connections slot = some c) : Settled e.toEndpointContext c := by
  refine history_of_turns (I := fun context c _ => Settled context c) started run ?_ ?_ running he
    hc
  · intro context _ connectionId token acceptedAt
    refine ⟨fun hstreams => (by cases hstreams), fun _ _ => ?_⟩
    rfl
  · intro context _ dataFrame c log influence hsettled hok c' hc'
    exact ⟨identity_of_turn hok hc', settled_turn hsettled hok hc'⟩

end Registered

/-! ### Handing out a data frame -/

/-- What a connection is left with when it is handed a data frame, and what is logged: all of the
frame is written at once, or it is begun and the rest stays pending, or the connection is lost. -/
inductive Handed (tick : Tick) (bytes : List UInt8) (c : Connection) :
    Option Connection → List Activity → Prop where
  | sent : Handed tick bytes c (some c) [.queued (.data tick), .registered .readableWritable,
      .wrote bytes true, .counted .sentDataFrames, .registered .readable]
  | begun (n : Nat) (more : n < bytes.length) :
      Handed tick bytes c (some { c with pending := .data n }) [.queued (.data tick),
        .registered .readableWritable, .wrote (bytes.take n) false, .registered .readableWritable]
  | lost : Handed tick bytes c none [.queued (.data tick), .registered .readableWritable,
      .wrote [] false, .counted .closedClients]

section Registered

variable {registry : Registry} {context : EndpointContext} {c : Connection}

/-- Nothing is handled where nothing is buffered. -/
lemma processBufferedCommands_settled (wallClock : SystemTime) (clock : Nat → Instant)
    (hnothing : c.receive.nextCommand context.descriptor.wireVersion = .ok none) :
    processBufferedCommands registry context wallClock clock c = .done true c := by
  rw [processBufferedCommands]
  split_ifs
  · rfl
  · split
    · rename_i hn
      cases hnothing.symm.trans hn
    · rfl
    · rename_i hn
      cases hnothing.symm.trans hn
    · rename_i hn
      cases hnothing.symm.trans hn

end Registered

/-! ### The turn of a boundary -/

/-- What a boundary comes to on a live connection. -/
structure Emitted (tick : Tick) (planned omitted : Prop) (bytes : List UInt8) (c : Connection)
    (after : Option Connection) (log : List Activity) : Prop where
  disconnected : planned → after = none ∧ log = [.counted .closedClients]
  slow : ¬ planned → c.streaming = true → c.pending.isPending = true →
    after = none ∧ log = [.counted .slowClients, .counted .closedClients]
  handed : ¬ planned → c.streaming = true → c.pending.isPending = false → ¬ omitted →
    Handed tick bytes c after log
  left : ¬ planned → c.streaming = false ∨ c.pending.isPending = false ∧ omitted →
    after = some c ∧ log = []

section Registered

variable {registry : Registry} {context : EndpointContext} {c : Connection} {seed : UInt64}
  {tick : Tick} {plan : Option FramePlan}

end Registered

/-! ### Boundaries of a run -/

namespace Server

end Server

section Registered

variable {registry : Registry} {codec : ManagementCodec} {l₀ l l' : EventLoop}
  {h : List (Machine.Taken EventLoop Input (List Report))} {i : Nat} {slot : Slot}
  {answers : BoundaryAnswers} {boundary : Boundary} {log : List Report}

lemma Emitted.streaming {tick : Tick} {planned omitted : Prop} {bytes : List UInt8}
    {c c' : Connection} {log : List Activity}
    (h : Emitted tick planned omitted bytes c (some c') log) :
    c'.connectionId = c.connectionId ∧ c'.streaming = c.streaming := by
  have hplanned : ¬ planned := fun hplanned => by cases (h.disconnected hplanned).1
  by_cases hleft : c.streaming = false ∨ c.pending.isPending = false ∧ omitted
  · obtain rfl := Option.some.inj (h.left hplanned hleft).1
    exact ⟨rfl, rfl⟩
  · rw [not_or, Bool.not_eq_false, not_and] at hleft
    obtain ⟨hstreams, homitted⟩ := hleft
    cases hpending : c.pending.isPending with
    | true => cases (h.slow hplanned hstreams hpending).1
    | false => cases h.handed hplanned hstreams hpending (homitted hpending) <;> exact ⟨rfl, rfl⟩

end Registered

end PmuSimulator

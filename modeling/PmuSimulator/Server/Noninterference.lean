import Mathlib
import PmuSimulator.Foundation.Observer
import PmuSimulator.Server.Failures
import PmuSimulator.Server.HalfClose

/-!
# Noninterference

What becomes of a connection is decided by what the inputs are to it. Two runs that go on from one
state, in which a connection is served alike and handed the same ticks, send it the same bytes and
leave it in the same state, whatever they do to the others.
-/

namespace PmuSimulator

open Attempt

/-! ### Turns on buffers that differ -/

section Turns

variable {registry : Registry} {context : EndpointContext} {dataFrame dataFrame' : DataFrame}
  {seed : UInt64} {c c' : Connection} {log : List Activity}

lemma pendingFrameBytes_data (hdata : c.pending.isData = true) :
    pendingFrameBytes context dataFrame c = .ok dataFrame.bytes := by
  unfold pendingFrameBytes
  cases hpending : c.pending with
  | data offset => rfl
  | _ => simp [hpending, PendingFrame.isData] at hdata

/-- What was sent to a connection decides what is left of its pending frame. -/
lemma Delivering.frame_eq (h : Delivering seed context dataFrame c log)
    (h' : Delivering seed context dataFrame' c log) :
    pendingFrameBytes context dataFrame c = pendingFrameBytes context dataFrame' c := by
  obtain ⟨frames, hsent⟩ := h.sent
  obtain ⟨frames', hsent'⟩ := h'.sent
  cases hpending : c.pending.isPending with
  | false =>
    apply pendingFrameBytes_dataFrame
    cases hp : c.pending <;> simp_all [PendingFrame.isPending, PendingFrame.isData]
  | true =>
    obtain ⟨earlier, frame, rfl, hframe, -⟩ := hsent.waits hpending
    obtain ⟨earlier', frame', rfl, hframe', -⟩ := hsent'.waits hpending
    have hframes : earlier ++ [frame] = earlier' ++ [frame'] :=
      (List.map_injective_iff.mpr (Option.some_injective _))
        (hsent.contents.symm.trans hsent'.contents)
    obtain ⟨-, hlast⟩ := List.append_inj' hframes rfl
    rw [hframe, hframe', List.singleton_inj.mp hlast]

/-- A buffer that agrees on the pending frame goes on to agree. -/
lemma Moves.frame_eq (moves : Moves context dataFrame c log c')
    (same : pendingFrameBytes context dataFrame c = pendingFrameBytes context dataFrame' c) :
    pendingFrameBytes context dataFrame c' = pendingFrameBytes context dataFrame' c' := by
  cases hdata' : c'.pending.isData with
  | false => exact pendingFrameBytes_dataFrame hdata' _ _
  | true =>
    have hdata := (moves.data hdata').1
    rw [pendingFrameBytes_data hdata, pendingFrameBytes_data hdata] at same
    rw [pendingFrameBytes_data hdata', pendingFrameBytes_data hdata', same]

lemma flushConnection_congr (answers : Answers)
    (same : pendingFrameBytes context dataFrame c = pendingFrameBytes context dataFrame' c) :
    flushConnection registry context dataFrame answers c =
      flushConnection registry context dataFrame' answers c := by
  unfold flushConnection
  rw [same]

lemma serveConnection_congr (readable writable : Bool) (answers : Answers)
    (same : pendingFrameBytes context dataFrame c = pendingFrameBytes context dataFrame' c) :
    serveConnection registry context dataFrame readable writable answers c =
      serveConnection registry context dataFrame' readable writable answers c := by
  have hmoves : Moves context dataFrame c
      (if readable then readConnection registry context answers c else .done true c).log
      (if readable then readConnection registry context answers c else .done true c).state := by
    cases readable with
    | true => exact moving_readConnection answers
    | false => exact .nil
  unfold serveConnection
  generalize (if readable then readConnection registry context answers c else .done true c) = p
    at hmoves
  cases hp : p.result with
  | error failure => rw [andThen_error hp, andThen_error hp]
  | ok keep =>
    have hflush : flushConnection registry context dataFrame answers p.state =
        flushConnection registry context dataFrame' answers p.state :=
      flushConnection_congr answers (hmoves.frame_eq same)
    rw [andThen_ok hp, andThen_ok hp]
    simp only [andThen_ok (note_result _ _), note_state, hflush]

/-- A data frame is encoded alike into all buffers that it can be encoded into. -/
lemma Endpoint.Encodes.same (encodes : Endpoint.Encodes context dataFrame)
    (encodes' : Endpoint.Encodes context dataFrame') (tick : Tick) :
    encodeDataFrame context seed tick dataFrame = encodeDataFrame context seed tick dataFrame' := by
  obtain ⟨frame, hframe⟩ := encodes seed tick
  obtain ⟨frame', hframe'⟩ := encodes' seed tick
  rw [hframe, hframe', ← encodeDataFrame_empty hframe, ← encodeDataFrame_empty hframe']

end Turns

/-! ### Inputs -/

/-- The wall clock that an event is served at can be written in an error response. -/
def Input.ClockInRange : Input → Prop
  | .event served => PmuSimulator.ClockInRange served.answers.wallClock
  | _ => True

instance : (input : Input) → Decidable input.ClockInRange
  | .event event => inferInstanceAs (Decidable (PmuSimulator.ClockInRange event.answers.wallClock))
  | .expire _ => .isTrue trivial
  | .boundary _ => .isTrue trivial

/-- What a connection may hear of an input. -/
inductive Stimulus where
  | served (readable writable : Bool) (answers : Answers)
  | timedOut
  | ticked (tick : Tick) (plan : Option FramePlan) (answers : Answers)

/-- What a connection does about what it hears. -/
def Stimulus.turn (registry : Registry) (context : EndpointContext) (dataFrame : DataFrame)
    (seed : UInt64) (c : Connection) : Stimulus → SlotAttempt Unit
  | served readable writable answers =>
    dispatchConnection registry context dataFrame c.connectionId readable writable answers (some c)
  | timedOut => closeConnection registry c.connectionId (some c)
  | ticked tick plan answers => tickTurn registry context dataFrame seed tick plan answers (some c)

/-- What is done is the same on buffers that agree on the pending frame. -/
lemma Stimulus.turn_congr {registry : Registry} {context : EndpointContext}
    {dataFrame dataFrame' : DataFrame} {seed : UInt64} {c : Connection}
    (encodes : Endpoint.Encodes context dataFrame)
    (encodes' : Endpoint.Encodes context dataFrame')
    (same : pendingFrameBytes context dataFrame c = pendingFrameBytes context dataFrame' c)
    (stimulus : Stimulus) : stimulus.turn registry context dataFrame seed c =
      stimulus.turn registry context dataFrame' seed c := by
  cases stimulus with
  | served readable writable answers =>
    simp only [turn, dispatchConnection, onConnection]
    rw [serveConnection_congr readable writable answers same]
  | timedOut => rfl
  | ticked tick plan answers =>
    simp only [turn, tickTurn, emitTurn, sendTurn]
    rw [encodes.same encodes' tick]

namespace Server

variable {registry : Registry} {codec : ManagementCodec} {s : Server} {i : Nat} {slot : Slot}
  {e : Endpoint} {c : Connection}

open ServerAttempt

/-- A boundary that is taken and not emitted was refused by the controller: no connection takes part
in it. -/
lemma comesTo_refused (takes : registry.Takes) (ready : s.Ready) {answers : BoundaryAnswers}
    (he : s.endpoints[i]? = some e) (hc : e.connections slot = some c)
    (hfailed : ¬ (s.takeBoundary registry answers).result = .ok ()) :
    s.dueBoundary (.boundary answers) = none ∧
      ComesTo i slot (s.takeBoundary registry answers) (.done () (some c)) := by
  have hrefused : ¬ ∀ sampleIndex skipped scheduler,
      s.scheduler.takeDue answers.now = (some (sampleIndex, skipped), scheduler) →
      ∃ controller, advanceController sampleIndex s.scenarioController = .ok controller :=
    fun crosses => hfailed (succeeds_takeBoundary takes ready crosses).result
  push Not at hrefused
  obtain ⟨sampleIndex, skipped, scheduler, hdue, hrefused⟩ := hrefused
  cases hadvance : advanceController sampleIndex s.scenarioController with
  | ok controller => exact absurd hadvance (hrefused controller)
  | error failure =>
    refine ⟨by simp only [dueBoundary, hdue, hadvance], ?_⟩
    rw [takeBoundary_of_some hdue, andThen_ok (note_result _ _), note_state,
      emitData_of_error (s := { s with scheduler }) hadvance]
    refine ⟨fun e' he' => ?_, rfl, rfl⟩
    obtain rfl := Option.some.inj (he.symm.trans he')
    exact hc

/-- As long as the wall clock is in range, every input comes to the turn of a live connection, even
an input that fails. -/
lemma comesTo_of_handle (sound : s.Sound) (takes : registry.Takes) (routed : s.Routed)
    {input : Input} (clock : input.ClockInRange) (he : s.endpoints[i]? = some e)
    (hc : e.connections slot = some c) :
    ComesTo i slot (s.handle registry codec input)
      (turnOf registry e.toEndpointContext e.dataFrame s.seed c
        (s.influence input i slot c.connectionId)) := by
  by_cases hok : (s.handle registry codec input).result = .ok ()
  · exact turn_of_handle routed input he hc hok
  have hnothing : ∀ {p : ServerAttempt Unit}, Quiet s p → ComesTo i slot p (.done () (some c)) := by
    intro p hp
    rw [← hc]
    exact comesTo_quiet slot hp he
  cases input with
  | expire now => exact absurd (succeeds_expireConnections takes now).result hok
  | boundary answers =>
    obtain ⟨hnone, hcomes⟩ := comesTo_refused takes sound.ready he hc hok
    rw [influence, hnone]
    exact hcomes
  | event event =>
    cases htarget : eventTarget event.token s.endpoints.length with
    | none =>
      simp only [handle, dispatchEvent, influence, htarget]
      exact hnothing (quiet_done ())
    | some target =>
      cases target with
      | listener j =>
        simp only [handle, dispatchEvent, influence, htarget]
        split
        · exact comesTo_acceptAt he hc
        · exact hnothing (quiet_done ())
      | managementListener =>
        simp only [handle, dispatchEvent, influence, htarget]
        split
        · exact hnothing (quiet_acceptManagement event.accepts)
        · exact hnothing (quiet_done ())
      | managementConnection slotIndex connectionId =>
        simp only [handle, dispatchEvent, influence, htarget]
        exact hnothing (quiet_dispatchManagementConnection _ _ _ _ _)
      | connection j slotIndex connectionId =>
        have withstands : s.Withstands (.event event) := by
          intro target hmem
          obtain rfl := Option.some.inj (htarget.symm.trans hmem)
          exact fun e he c hc hid hopen hv3 => .inl clock
        exact absurd (sound.succeeds_dispatchEvent takes withstands).result hok

/-- The connection of an identifier, if it is at the place. -/
def connectionAt (s : Server) (i : Nat) (slot : Slot) (connectionId : Nat) : Option Connection :=
  s.endpoints[i]?.bind fun e => (e.connections slot).filter fun c => c.connectionId = connectionId

lemma connectionAt_eq_some {connectionId : Nat} :
    s.connectionAt i slot connectionId = some c ↔
      s.LiveAt i slot c ∧ c.connectionId = connectionId := by
  simp [connectionAt, LiveAt, Option.bind_eq_some_iff, Option.filter_eq_some_iff,
    ← exists_and_right, and_assoc]

/-- What a connection hears of an input: what the input is to it, where a look at its deadlines is
nothing to a connection that is within them. -/
def stimulus (s : Server) (input : Input) (i : Nat) (slot : Slot) (connectionId : Nat) :
    Option Stimulus :=
  match s.influence input i slot connectionId with
  | none => none
  | some (.served readable writable answers) => some (.served readable writable answers)
  | some (.expired now) =>
    if (s.connectionAt i slot connectionId).any fun c => c.deadlineExpired now then some .timedOut
    else none
  | some (.ticked tick plan answers) => some (.ticked tick plan answers)

/-- What a live connection hears is its turn; what it does not hear leaves it alone. -/
lemma turn_stimulus {input : Input} (hc : s.LiveAt i slot c) (context : EndpointContext)
    (dataFrame : DataFrame) (seed : UInt64) :
    turnOf registry context dataFrame seed c (s.influence input i slot c.connectionId) =
      match s.stimulus input i slot c.connectionId with
      | none => .done () (some c)
      | some stimulus => stimulus.turn registry context dataFrame seed c := by
  have hconnection := connectionAt_eq_some.mpr ⟨hc, rfl⟩
  unfold stimulus
  cases s.influence input i slot c.connectionId with
  | none => rfl
  | some influence =>
    cases influence with
    | served readable writable answers => rfl
    | ticked tick plan answers => rfl
    | expired now =>
      simp only [hconnection, Option.any_some, turnOf, Influence.turn, expireConnection]
      split <;> rfl

end Server

/-! ### One connection in a run -/

section Registered

variable {registry : Registry} {codec : ManagementCodec} {l₀ l₁ l l' : EventLoop}
  {h₀ h h' : List (Machine.Taken EventLoop Input (List Report))} {i : Nat} {slot : Slot}

/-- The identifier of a connection is kept in its turn. -/
lemma identity_of_turnOf {context : EndpointContext} {dataFrame : DataFrame} {seed : UInt64}
    {c : Connection} {influence : Option Influence}
    (hok : (turnOf registry context dataFrame seed c influence).result = .ok ()) :
    ∀ c' ∈ (turnOf registry context dataFrame seed c influence).state,
      c'.connectionId = c.connectionId := by
  cases influence with
  | none =>
    rintro _ ⟨⟩
    rfl
  | some influence => exact fun c' hc' => identity_of_turn hok hc'

/-- A step takes a live connection through its turn. -/
lemma live_of_step (started : Started l₀) (run : (eventLoop registry codec).Run l₀ h l)
    (takes : registry.Takes) {input : Input} {log : List Report}
    (hs : (eventLoop registry codec).step l input = .ok (log, l')) (clock : input.ClockInRange)
    {e : Endpoint} (he : l.server.endpoints[i]? = some e) {c : Connection}
    (hc : e.connections slot = some c) :
    let turn := turnOf registry e.toEndpointContext e.dataFrame l.server.seed c
      (l.server.influence input i slot c.connectionId)
    l'.server.connectionAt i slot c.connectionId = turn.state ∧
      Server.placeLog i slot log = turn.log := by
  have running := (EventLoop.step_ok hs).1
  have hcomes : ServerAttempt.ComesTo i slot (l.server.handle registry codec input)
      (turnOf registry e.toEndpointContext e.dataFrame l.server.seed c
        (l.server.influence input i slot c.connectionId)) :=
    Server.comesTo_of_handle (sound_of_run started run running) takes (routed_of_run started run)
      clock he hc
  obtain ⟨-, rfl, rfl⟩ := EventLoop.step_ok hs
  refine ⟨?_, hcomes.log⟩
  have hi : i < (l.server.handle registry codec input).state.endpoints.length := by
    rw [Server.handle_length input l.server]
    exact (List.getElem?_eq_some_iff.mp he).1
  obtain ⟨e', he'⟩ : ∃ e', (l.server.handle registry codec input).state.endpoints[i]? = some e' :=
    ⟨_, List.getElem?_eq_getElem hi⟩
  simp only [Server.connectionAt, he', Option.bind_some, hcomes.state e' he']
  have hid := identity_of_turnOf hcomes.ok
  generalize (turnOf registry e.toEndpointContext e.dataFrame l.server.seed c
    (l.server.influence input i slot c.connectionId)).state = connection at hid
  cases connection with
  | none => rfl
  | some c' => exact Option.filter_some_pos (decide_eq_true (hid c' rfl))

/-- A connection that is gone stays gone, and nothing more is logged of it. -/
lemma gone_of_step (started : Started l₀) (run : (eventLoop registry codec).Run l₀ h l)
    {input : Input} {log : List Report}
    (hs : (eventLoop registry codec).step l input = .ok (log, l')) {e : Endpoint}
    (he : l.server.endpoints[i]? = some e) {connectionId : Nat}
    (given : connectionId < l.server.nextConnectionId)
    (gone : l.server.connectionAt i slot connectionId = none) :
    l'.server.connectionAt i slot connectionId = none ∧
      connectionLog connectionId (Server.placeLog i slot log) = [] := by
  have hgone : ∀ c, l.server.LiveAt i slot c → c.connectionId ≠ connectionId := by
    intro c hc hid
    cases gone.symm.trans (Server.connectionAt_eq_some.mpr ⟨hc, hid⟩)
  obtain ⟨e', he'⟩ : ∃ e', l'.server.endpoints[i]? = some e' := by
    have hlength : l'.server.endpoints.length = l.server.endpoints.length := by
      obtain ⟨-, -, rfl⟩ := EventLoop.step_ok hs
      exact Server.handle_length input l.server
    exact ⟨_, List.getElem?_eq_getElem (hlength ▸ (List.getElem?_eq_some_iff.mp he).1)⟩
  -- the identifier is taken for logged, so that none that is opened is as low
  have hbefore : ∀ entry ∈ [(connectionId, Activity.writable)],
      entry.1 < l.server.nextConnectionId := by
    rintro _ (_ | ⟨_, ⟨⟩⟩)
    exact given
  obtain ⟨firstId, due', path, hfresh, -⟩ :=
    path_of_step slot hs (routed_of_run started run) hbefore he he'
  have hlow : connectionId < firstId := hfresh _ List.mem_cons_self
  constructor
  · refine Option.eq_none_iff_forall_not_mem.mpr fun c' hc' => ?_
    obtain ⟨⟨e'', he'', hc'⟩, rfl⟩ := Server.connectionAt_eq_some.mp hc'
    obtain rfl := Option.some.inj (he'.symm.trans he'')
    rcases path.identity c' hc' with ⟨c, hc, hid, -⟩ | hfresh'
    · exact hgone c ⟨e, he, hc⟩ hid.symm
    · exact absurd hlow (Nat.not_lt.mpr hfresh')
  · refine List.filterMap_eq_nil_iff.mpr fun entry hentry => if_neg fun hid => ?_
    rcases path.entries entry hentry with ⟨c, hc, hid'⟩ | hfresh'
    · exact hgone c ⟨e, he, hc⟩ (hid'.symm.trans hid)
    · exact absurd (hid ▸ hlow) (Nat.not_lt.mpr hfresh')

lemma place_of_run (run : (eventLoop registry codec).Run l₁ h l) {e₁ : Endpoint}
    (he₁ : l₁.server.endpoints[i]? = some e₁) :
    ∃ e, l.server.endpoints[i]? = some e ∧ e.toEndpointContext = e₁.toEndpointContext := by
  have hcontexts := congrArg (·[i]?) (contexts_of_run run)
  simp only [Server.core, List.getElem?_map, he₁, Option.map_some] at hcontexts
  exact Option.map_eq_some_iff.mp hcontexts

lemma given_of_run (run : (eventLoop registry codec).Run l₁ h l) :
    l₁.server.nextConnectionId ≤ l.server.nextConnectionId := by
  refine run.invariant (P := fun l => l₁.server.nextConnectionId ≤ l.server.nextConnectionId)
    (le_refl _) fun hle hs => ?_
  obtain ⟨-, -, rfl⟩ := EventLoop.step_ok hs
  exact hle.trans (Server.handle_frame _ _).2.1

/-- Two runs that go on from one state, and agree on what was logged of a connection, agree on what
is left of its pending frame. -/
lemma frame_of_runs (started : Started l₀) (run₀ : (eventLoop registry codec).Run l₀ h₀ l₁)
    (run : (eventLoop registry codec).Run l₁ h l) (run' : (eventLoop registry codec).Run l₁ h' l')
    {e e' : Endpoint} (he : l.server.endpoints[i]? = some e)
    (he' : l'.server.endpoints[i]? = some e')
    (hcontext : e'.toEndpointContext = e.toEndpointContext) {c : Connection}
    (hc : e.connections slot = some c) (hc' : e'.connections slot = some c)
    (hlogs : connectionLog c.connectionId (placeHistory i slot h) =
      connectionLog c.connectionId (placeHistory i slot h')) :
    pendingFrameBytes e.toEndpointContext e.dataFrame c =
      pendingFrameBytes e.toEndpointContext e'.dataFrame c := by
  have hsplit : ∀ h : List (Machine.Taken EventLoop Input (List Report)),
      connectionLog c.connectionId (placeHistory i slot (h₀ ++ h)) =
        connectionLog c.connectionId (placeHistory i slot h₀) ++
          connectionLog c.connectionId (placeHistory i slot h) := by
    intro h
    simp only [placeHistory, List.flatMap_append, Server.placeLog_append, connectionLog_append]
  have hdelivering := (delivering_of_run started (run₀.trans run) he slot).2 c hc
  have hdelivering' := (delivering_of_run started (run₀.trans run') he' slot).2 c hc'
  simp only [Endpoint.seen, hsplit, hcontext, ← hlogs] at hdelivering hdelivering'
  exact hdelivering.frame_eq hdelivering'

/-- A connection as an observer: it hears its stimuli, and sees itself and what was logged of it. -/
def connectionObserver (i : Nat) (slot : Slot) (connectionId : Nat) :
    Machine.Observer EventLoop Input (List Report) Stimulus
      (Option Connection × List Activity) where
  hears x := x.before.server.stimulus x.input i slot connectionId
  view h l := (l.server.connectionAt i slot connectionId,
    connectionLog connectionId (placeHistory i slot h))

/-- What a connection hears decides what it sees. -/
theorem connection_unwinds (started : Started l₀) (run₀ : (eventLoop registry codec).Run l₀ h₀ l₁)
    (takes : registry.Takes) {c₁ : Connection} (live : l₁.server.LiveAt i slot c₁) :
    (connectionObserver i slot c₁.connectionId).Unwinds (eventLoop registry codec) l₁
      fun x => x.input.ClockInRange := by
  have hgiven := ((routed_of_run started run₀).below live).2
  obtain ⟨e₁, he₁, hc₁⟩ := live
  constructor
  · rintro h ⟨r, input, log, r'⟩ ⟨run, hs⟩ clock hunheard
    obtain ⟨e, he, -⟩ := place_of_run run he₁
    simp only [connectionObserver, placeHistory_snoc, connectionLog_append] at hunheard ⊢
    cases hconnection : r.server.connectionAt i slot c₁.connectionId with
    | none =>
      obtain ⟨hgone, hlog⟩ := gone_of_step started (run₀.trans run) hs he
        (Nat.lt_of_lt_of_le hgiven (given_of_run run)) hconnection
      rw [hgone, hlog, List.append_nil]
    | some c =>
      obtain ⟨hlive, hid⟩ := Server.connectionAt_eq_some.mp hconnection
      obtain ⟨e', he', hc⟩ := hlive
      rw [← hid] at hunheard ⊢
      obtain ⟨hstate, hlog⟩ := live_of_step started (run₀.trans run) takes hs clock he' hc
      rw [Server.turn_stimulus ⟨e', he', hc⟩, hunheard] at hstate hlog
      rw [hstate, hlog]
      exact Prod.ext rfl (List.append_nil _)
  · rintro h ⟨r, input, log, r'⟩ h' ⟨t, input', log', t'⟩ ⟨run, hs⟩ ⟨run', hs'⟩ clock clock' hviews
      stimulus hheard hheard'
    simp only [connectionObserver, placeHistory_snoc, connectionLog_append] at *
    obtain ⟨hconnections, hlogs⟩ := Prod.mk.inj hviews
    obtain ⟨e, he, hcontext⟩ := place_of_run run he₁
    obtain ⟨e', he', hcontext'⟩ := place_of_run run' he₁
    have hfull := run₀.trans run
    have hfull' := run₀.trans run'
    cases hconnection : r.server.connectionAt i slot c₁.connectionId with
    | none =>
      obtain ⟨hgone, hlog⟩ := gone_of_step started hfull hs he
        (Nat.lt_of_lt_of_le hgiven (given_of_run run)) hconnection
      obtain ⟨hgone', hlog'⟩ := gone_of_step started hfull' hs' he'
        (Nat.lt_of_lt_of_le hgiven (given_of_run run')) (hconnections.symm.trans hconnection)
      rw [hgone, hgone', hlog, hlog', hlogs]
    | some c =>
      obtain ⟨⟨d, hd, hc⟩, hid⟩ := Server.connectionAt_eq_some.mp hconnection
      obtain ⟨⟨d', hd', hc'⟩, -⟩ :=
        Server.connectionAt_eq_some.mp (hconnections.symm.trans hconnection)
      obtain rfl := Option.some.inj (he.symm.trans hd)
      obtain rfl := Option.some.inj (he'.symm.trans hd')
      rw [← hid] at hheard hheard' hlogs ⊢
      obtain ⟨hstate, hlog⟩ := live_of_step started hfull takes hs clock he hc
      obtain ⟨hstate', hlog'⟩ := live_of_step started hfull' takes hs' clock' he' hc'
      rw [Server.turn_stimulus ⟨e, he, hc⟩, hheard, hcontext, seed_of_run hfull] at hstate hlog
      rw [Server.turn_stimulus ⟨e', he', hc'⟩, hheard', hcontext', seed_of_run hfull']
        at hstate' hlog'
      have hframe := frame_of_runs started run₀ run run' he he' (hcontext'.trans hcontext.symm)
        hc hc' hlogs
      have hencodes := encodes_of_run started hfull he
      have hencodes' := encodes_of_run started hfull' he'
      rw [hcontext] at hframe hencodes
      rw [hcontext'] at hencodes'
      have hturns : stimulus.turn registry e₁.toEndpointContext e.dataFrame l₀.server.seed c =
          stimulus.turn registry e₁.toEndpointContext e'.dataFrame l₀.server.seed c :=
        stimulus.turn_congr hencodes hencodes' hframe
      simp only [hstate, hstate', hlog, hlog', hlogs, hturns]

/-- What is left to be sent to the connection of an identifier. -/
def Server.frameAt (s : Server) (i : Nat) (slot : Slot) (connectionId : Nat) :
    Option (Except Failure (List UInt8)) :=
  s.endpoints[i]?.bind fun e =>
    (s.connectionAt i slot connectionId).map (pendingFrameBytes e.toEndpointContext e.dataFrame)

/-- Two runs go on from one state in which a connection is live. If it hears the same in both, it is
sent the same bytes, and it is left in the same state with the same frame to send, whatever the
inputs are to all others. -/
theorem fanout_noninterference (started : Started l₀)
    (run₀ : (eventLoop registry codec).Run l₀ h₀ l₁) (takes : registry.Takes) {c : Connection}
    (live : l₁.server.LiveAt i slot c) (run : (eventLoop registry codec).Run l₁ h l)
    (run' : (eventLoop registry codec).Run l₁ h' l') (clock : ∀ x ∈ h, x.input.ClockInRange)
    (clock' : ∀ x ∈ h', x.input.ClockInRange)
    (same : (connectionObserver i slot c.connectionId).heard h =
      (connectionObserver i slot c.connectionId).heard h') :
    bytesWritten (connectionLog c.connectionId (placeHistory i slot h)) =
        bytesWritten (connectionLog c.connectionId (placeHistory i slot h')) ∧
      l.server.connectionAt i slot c.connectionId = l'.server.connectionAt i slot c.connectionId ∧
      l.server.frameAt i slot c.connectionId = l'.server.frameAt i slot c.connectionId ∧
      connectionLog c.connectionId (placeHistory i slot h) =
        connectionLog c.connectionId (placeHistory i slot h') := by
  have unwinds := connection_unwinds started run₀ takes live
  obtain ⟨hconnections, hlogs⟩ := Prod.mk.inj (unwinds.view_eq run run' clock clock' same)
  refine ⟨congrArg bytesWritten hlogs, hconnections, ?_, hlogs⟩
  obtain ⟨e₁, he₁, -⟩ := live
  obtain ⟨e, he, hcontext⟩ := place_of_run run he₁
  obtain ⟨e', he', hcontext'⟩ := place_of_run run' he₁
  simp only [Server.frameAt, he, he', Option.bind_some, ← hconnections]
  cases hconnection : l.server.connectionAt i slot c.connectionId with
  | none => rfl
  | some d =>
    obtain ⟨⟨e₂, he₂, hd⟩, hid⟩ := Server.connectionAt_eq_some.mp hconnection
    obtain ⟨⟨e₂', he₂', hd'⟩, -⟩ :=
      Server.connectionAt_eq_some.mp (hconnections.symm.trans hconnection)
    obtain rfl := Option.some.inj (he.symm.trans he₂)
    obtain rfl := Option.some.inj (he'.symm.trans he₂')
    have hframe := frame_of_runs started run₀ run run' he he' (hcontext'.trans hcontext.symm)
      hd hd' (hid ▸ hlogs)
    rw [Option.map_some, Option.map_some, hframe, hcontext, hcontext']

end Registered

/-- A boundary that no scenario has a part in. -/
def Boundary.isPlain (boundary : Boundary) (sampleIndex : Nat) (timestamp : Timestamp) (i : Nat) :
    Bool :=
  decide (boundary.sampleIndex = sampleIndex ∧ boundary.timestamp = timestamp ∧
    boundary.forceDegradedTime = false ∧ (boundary.plan i).isNone = true)

lemma stimulus_plain {s : Server} {answers : BoundaryAnswers} {sampleIndex : Nat}
    {timestamp : Timestamp} {i : Nat} {slot : Slot} {connectionId : Nat}
    (h : (s.dueBoundary (.boundary answers)).any (·.isPlain sampleIndex timestamp i) = true) :
    s.stimulus (.boundary answers) i slot connectionId =
      some (.ticked ⟨sampleIndex, timestamp, false, none⟩ none (answers.answers i slot)) := by
  obtain ⟨boundary, hdue, hplain⟩ := (Option.any_eq_true _ _).mp h
  obtain ⟨rfl, rfl, htime, hplan⟩ := of_decide_eq_true hplain
  rw [Option.isNone_iff_eq_none] at hplan
  simp [Server.stimulus, Server.influence, hdue, hplan, Boundary.tick, htime]

/-- The data frames of the first tick, where the two clients take them as they do. -/
def firstTick (write write' : WriteAnswer) : Input :=
  .boundary ⟨20000000, 0, none, fun _ slot => soleAnswers [] (if slot = 0 then write else write')⟩

/-- Two ways to go on from a state, and a check of where they lead. -/
def EventLoop.forks (inputs inputs' : List Input)
    (check : Steps → EventLoop → Steps → EventLoop → Bool) (l : EventLoop) : Bool :=
  match l.trace inputs with
  | .error _ => false
  | .ok (h, r) =>
    match l.trace inputs' with
    | .error _ => false
    | .ok (h', r') => check h r h' r'

lemma runs_of_forks {inputs inputs' : List Input}
    {check : Steps → EventLoop → Steps → EventLoop → Bool} {l : EventLoop}
    (hforks : l.forks inputs inputs' check = true) :
    ∃ h r h' r', h.map Machine.Taken.input = inputs ∧ h'.map Machine.Taken.input = inputs' ∧
      (eventLoop takingRegistry silentCodec).Run l h r ∧
      (eventLoop takingRegistry silentCodec).Run l h' r' ∧ check h r h' r' = true := by
  unfold EventLoop.forks at hforks
  cases hplayed : l.trace inputs with
  | error failure => simp [hplayed] at hforks
  | ok traced =>
    obtain ⟨h, r⟩ := traced
    simp only [hplayed] at hforks
    cases hplayed' : l.trace inputs' with
    | error failure => simp [hplayed'] at hforks
    | ok traced' =>
      obtain ⟨h', r'⟩ := traced'
      simp only [hplayed'] at hforks
      obtain ⟨hinputs, run⟩ := run_of_trace hplayed
      obtain ⟨hinputs', run'⟩ := run_of_trace hplayed'
      exact ⟨h, r, h', r', hinputs, hinputs', run, run', hforks⟩

/-- Whether a step hands out a first tick that no scenario has a part in. -/
def ticksFirst (x : Machine.Taken EventLoop Input (List Report)) : Bool :=
  (x.before.server.dueBoundary x.input).any (·.isPlain 0 ⟨0, 20000⟩ 0)

/-- The data frame of one client is taken in part. The other one takes its own, or it was closed for
what it sent before. -/
theorem fanout_noninterference_small : ∃ (l₁ l l' : EventLoop) (h h' : Steps) (c : Connection),
    l₁.server.LiveAt 0 1 c ∧ (eventLoop takingRegistry silentCodec).Run l₁ h l ∧
      (eventLoop takingRegistry silentCodec).Run l₁ h' l' ∧
      (l.soleConnection 0).isSome = true ∧ (l'.soleConnection 0).isSome = false ∧
      (bytesWritten (connectionLog c.connectionId (placeHistory 0 1 h))).length = 10 ∧
      bytesWritten (connectionLog c.connectionId (placeHistory 0 1 h)) =
        bytesWritten (connectionLog c.connectionId (placeHistory 0 1 h')) ∧
      l.server.connectionAt 0 1 c.connectionId = l'.server.connectionAt 0 1 c.connectionId := by
  have htrace : soleTrace .v2 none [acceptOne, acceptOne, bytesArrive 3 (soleCommand .start),
      bytesArrive 6 (soleCommand .start)] (fun _ l₁ =>
        (l₁.soleConnection 1).any (fun c => decide (c.connectionId = 2)) &&
        l₁.forks [firstTick (.accepts 65535) (.accepts 10)]
          [bytesArrive 3 oversizedFrame, firstTick (.failed .brokenPipe) (.accepts 10)]
          fun h l h' l' => h[0]?.any ticksFirst && h'[1]?.any ticksFirst &&
            h'[0]?.any (fun y => decide (y.before.server.endpoints.length = 1)) &&
            decide ((l.soleConnection 0).isSome = true ∧ (l'.soleConnection 0).isSome = false ∧
              (bytesWritten (connectionLog 2 (placeHistory 0 1 h))).length = 10)) = true := by
    decide +kernel
  obtain ⟨l₀, h₀, l₁, started, -, run₀, hcheck⟩ := run_of_soleTrace htrace
  obtain ⟨hconnection, hforks⟩ := Bool.and_eq_true_iff.mp hcheck
  obtain ⟨c, hc, hid⟩ := (Option.any_eq_true _ _).mp hconnection
  obtain hid : c.connectionId = 2 := of_decide_eq_true hid
  obtain ⟨e, he, hc⟩ := Option.bind_eq_some_iff.mp hc
  obtain ⟨h, l, h', l', hinputs, hinputs', run, run', hcheck⟩ := runs_of_forks hforks
  obtain ⟨x, rfl⟩ : ∃ x, h = [x] :=
    List.length_eq_one_iff.mp (by simpa using congrArg List.length hinputs)
  obtain ⟨y, y', rfl⟩ : ∃ y y', h' = [y, y'] :=
    List.length_eq_two.mp (by simpa using congrArg List.length hinputs')
  obtain ⟨hx, -⟩ := List.cons_eq_cons.mp hinputs
  obtain ⟨hy, hinputs'⟩ := List.cons_eq_cons.mp hinputs'
  obtain ⟨hy', -⟩ := List.cons_eq_cons.mp hinputs'
  simp only [Bool.and_eq_true, List.getElem?_cons_zero, List.getElem?_cons_succ, Option.any_some,
    ticksFirst, hx, hy'] at hcheck
  obtain ⟨⟨⟨htick, htick'⟩, hlength⟩, hdecided⟩ := hcheck
  obtain ⟨hfirst, hfirst', hwritten⟩ := of_decide_eq_true hdecided
  have hother : eventTarget 3 1 = some (.connection 0 0 1) := by decide
  have hunheard : y.before.server.stimulus y.input 0 1 c.connectionId = none := by
    simp [Server.stimulus, Server.influence, hy, bytesArrive, of_decide_eq_true hlength, hother]
  have same : (connectionObserver 0 1 c.connectionId).heard [x] =
      (connectionObserver 0 1 c.connectionId).heard [y, y'] := by
    simp only [Machine.Observer.heard, connectionObserver, List.filterMap_cons, hunheard, hx, hy',
      firstTick, stimulus_plain htick, stimulus_plain htick']
    rfl
  have hclock : ∀ z ∈ [x], z.input.ClockInRange := by
    intro z hz
    rw [List.mem_singleton.mp hz, hx]
    trivial
  have hclock' : ∀ z ∈ [y, y'], z.input.ClockInRange := by
    intro z hz
    rcases List.mem_pair.mp hz with rfl | rfl
    · rw [hy]
      decide
    · rw [hy']
      trivial
  obtain ⟨hbytes, hstate, -⟩ := fanout_noninterference started run₀ takes_takingRegistry
    ⟨e, he, hc⟩ run run' hclock hclock' same
  refine ⟨l₁, l, l', _, _, c, ⟨e, he, hc⟩, run, run', hfirst, hfirst', ?_, hbytes, hstate⟩
  rw [hid]
  exact hwritten

end PmuSimulator

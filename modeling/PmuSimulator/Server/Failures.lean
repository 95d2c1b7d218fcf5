import Mathlib
import PmuSimulator.Server.Answering
import PmuSimulator.Server.Backlog
import PmuSimulator.Server.Isolation
import PmuSimulator.Server.Reporting
import PmuSimulator.Server.Requests
import PmuSimulator.Server.Routing

/-!
# Failures of listeners and connections

A read or a write that fails ends at most the session it is of. At a boundary nothing can fail at
all, as long as the registry takes every call. An `accept` that fails is another matter: any error
but that it would block is handed up, and ends the event loop.
-/

namespace PmuSimulator

open Attempt

section Registered

variable {registry : Registry} {codec : ManagementCodec} {context : EndpointContext}
  {dataFrame : DataFrame} {c : Connection}

/-! ### Handing out a data frame -/

lemma succeeds_onConnection {attempt : Connection → ConnectionAttempt Bool}
    {connection : Option Connection} (h : ∀ c ∈ connection, (attempt c).Succeeds) :
    (onConnection attempt connection).Succeeds := by
  cases connection with
  | none => exact succeeds_done _ _
  | some c => exact (h c rfl).lift some (c.connectionId, ·)

/-- A settled connection is handed a data frame; no command is handled behind it. -/
lemma succeeds_sendDataFrame (takes : registry.Takes) (settled : Settled context c)
    (streams : c.streaming = true) (idle : c.pending.isPending = false) (tick : Tick)
    (answers : Answers) : (sendDataFrame registry context dataFrame tick answers c).Succeeds := by
  have hnothing := settled.handled idle (settled.stays streams)
  have hwritten (bytes : List UInt8) :
      (frameWritten registry context answers bytes { c with pending := .data 0 }).Succeeds := by
    unfold frameWritten
    refine Succeeds.andThen ⟨(), rfl⟩ fun _ _ => ?_
    simp only
    rw [if_neg (by simp [settled.stays streams]),
      processBufferedCommands_settled (c := { c with pending := .none }) _ _ hnothing, done_andThen]
    exact succeeds_reregister_done takes false
  refine (succeeds_note _ _).andThen fun _ _ => (succeeds_reregister takes true).andThen ?_
  intro _ _
  rw [reregisterConnection_state]
  exact succeeds_flush takes (fun _ => ⟨_, rfl, Nat.zero_le _⟩) hwritten

lemma succeeds_sendTick (takes : registry.Takes) {connection : Option Connection}
    (settled : ∀ c ∈ connection, Settled context c)
    (idle : ∀ c ∈ connection, c.streaming = true → c.pending.isPending = false) (tick : Tick)
    (answers : Answers) :
    (sendTick registry context dataFrame tick answers connection).Succeeds := by
  cases connection with
  | none => exact succeeds_done _ _
  | some c =>
    cases hstreams : c.streaming with
    | false =>
      simp only [sendTick, hstreams, Bool.not_false, if_true]
      exact succeeds_done _ _
    | true =>
      simp only [sendTick, hstreams, Bool.not_true, Bool.false_eq_true, if_false]
      refine Succeeds.andThen (succeeds_onConnection ?_) fun keep _ =>
        succeeds_keepOrClose takes c.connectionId keep _
      rintro _ ⟨⟩
      exact succeeds_sendDataFrame takes (settled c rfl) hstreams (idle c rfl hstreams) tick answers

/-! ### An endpoint -/

namespace Endpoint

/-- The data frame of any tick can be encoded into the buffer of an endpoint. -/
def Encodes (context : EndpointContext) (storage : DataFrame) : Prop :=
  ∀ seed tick, ∃ dataFrame, encodeDataFrame context seed tick storage = .ok dataFrame

lemma encodes_again {storage : DataFrame} {seed : UInt64} {tick : Tick}
    (h : encodeDataFrame context seed tick storage = .ok dataFrame) :
    Encodes context dataFrame := by
  intro seed' tick'
  unfold encodeDataFrame at h ⊢
  cases hversion : context.descriptor.wireVersion with
  | v2 =>
    cases storage with
    | v3 frame => simp [hversion] at h
    | v2 frame =>
      cases hmetadata : context.descriptor.v2 with
      | none => simp [hversion, WireV2.encodePeriodicDataWithScenario, hmetadata] at h
      | some metadata =>
        simp only [hversion, WireV2.encodePeriodicDataWithScenario, hmetadata] at h ⊢
        obtain rfl := Except.ok.inj h
        exact ⟨_, rfl⟩
  | v3 =>
    cases storage with
    | v2 frame => simp [hversion] at h
    | v3 frame =>
      simp only [hversion] at h
      obtain rfl := Except.ok.inj h
      exact ⟨_, rfl⟩

lemma succeeds_eachSlot
    (attempt : Slot → EndpointContext → DataFrame → Option Connection → SlotAttempt Unit)
    {e : Endpoint} (h : ∀ slot, (attempt slot e.toEndpointContext e.dataFrame
      (e.connections slot)).Succeeds) : (eachSlot attempt e).Succeeds := by
  refine ⟨(), (Attempt.each_result_ok (own_turn attempt) nodup_slots).mpr fun slot _ => ?_⟩
  exact (h slot).result

lemma succeeds_disconnectAllPlanned (takes : registry.Takes) (plan : Option FramePlan)
    (e : Endpoint) : (disconnectAllPlanned registry plan e).Succeeds := by
  cases plan with
  | none => exact succeeds_done _ _
  | some plan =>
    refine succeeds_each (fun connectionId _ e => ?_) e
    unfold disconnectPlanned
    cases slots.find? fun slot => e.holds slot connectionId with
    | none => exact succeeds_done _ _
    | some slot => exact (succeeds_closeConnection takes connectionId _).lift _ _

lemma succeeds_dropSlow (takes : registry.Takes) (connection : Option Connection) :
    (dropSlow registry connection).Succeeds := by
  cases connection with
  | none => exact succeeds_done _ _
  | some c =>
    simp only [dropSlow]
    split_ifs
    · exact succeeds_done _ _
    · exact (succeeds_note _ _).andThen fun _ _ => succeeds_closeConnection takes c.connectionId _
    · exact succeeds_done _ _

/-- The second pass of a boundary over an endpoint. -/
lemma succeeds_emitEndpoint (takes : registry.Takes) (seed : UInt64) (boundary : Boundary)
    (plan : Option FramePlan) (answers : Slot → Answers) {e : Endpoint}
    (encodes : Encodes e.toEndpointContext e.dataFrame)
    (settled : ∀ slot, ∀ c ∈ e.connections slot, Settled e.toEndpointContext c) :
    (emitEndpoint registry seed boundary plan answers e).Succeeds := by
  have hdropped : (eachSlot (fun _ _ _ => dropSlow registry) e).Succeeds :=
    succeeds_eachSlot _ fun slot => succeeds_dropSlow takes _
  refine Succeeds.andThen hdropped fun _ _ => ?_
  have hconnection := eachSlot_connection hdropped.result
  obtain ⟨hcontext, hframe⟩ := eachSlot_served (fun _ _ _ => dropSlow registry) e
  unfold eachSlot at hconnection hcontext hframe
  generalize (Attempt.each (fun slot e => e.onSlot slot (dropSlow registry)) slots e).state = e'
    at hconnection hcontext hframe
  unfold emitTick
  split_ifs
  · exact succeeds_done _ _
  · exact succeeds_done _ _
  · obtain ⟨dataFrame, hencoded⟩ := encodes seed (boundary.tick plan)
    rw [← hcontext, ← hframe] at hencoded
    simp only [hencoded]
    have hsent : ∀ slot, (sendTick registry e'.toEndpointContext dataFrame (boundary.tick plan)
        (answers slot) (e'.connections slot)).Succeeds := by
      intro slot
      refine succeeds_sendTick takes (fun c hc => ?_) (fun c hc => ?_) _ _
      · rw [hcontext]
        exact settled slot c (dropSlow_subset _ c (hconnection slot ▸ hc))
      · exact dropSlow_idle c (hconnection slot ▸ hc)
    exact succeeds_eachSlot (fun slot context dataFrame =>
      sendTick registry context dataFrame (boundary.tick plan) (answers slot)) hsent

end Endpoint

/-! ### The server -/

namespace Server

variable {s : Server}

lemma succeeds_eachEndpoint {attempt : Nat → Endpoint → EndpointAttempt Unit}
    (h : ∀ i e, s.endpoints[i]? = some e → (attempt i e).Succeeds) :
    (s.eachEndpoint attempt).Succeeds := by
  refine ⟨(), (Attempt.each_result_ok (fun j s => own_onEndpoint (attempt j) j s)
    List.nodup_range).mpr fun i hi => ?_⟩
  obtain ⟨e, he⟩ : ∃ e, s.endpoints[i]? = some e :=
    ⟨_, List.getElem?_eq_getElem (List.mem_range.mp hi)⟩
  simp only [endpointComponents, he, onOption]
  exact (h i _ he).result

/-- A loop over the endpoints that succeeds has had the turn of each. -/
lemma eachEndpoint_endpoint {attempt : Nat → Endpoint → EndpointAttempt Unit}
    (hok : (s.eachEndpoint attempt).result = .ok ()) {i : Nat} {e' : Endpoint}
    (he' : (s.eachEndpoint attempt).state.endpoints[i]? = some e') :
    ∃ e, s.endpoints[i]? = some e ∧ e' = (attempt i e).state := by
  by_cases hi : i ∈ List.range s.endpoints.length
  · obtain ⟨e, he⟩ : ∃ e, s.endpoints[i]? = some e :=
      ⟨_, List.getElem?_eq_getElem (List.mem_range.mp hi)⟩
    have htouched := (Attempt.each_touched (fun j s => own_onEndpoint (attempt j) j s)
      List.nodup_range hi hok).1
    simp only [endpointComponents, he, onOption, lift_state] at htouched
    exact ⟨_, he, Option.some.inj (he'.symm.trans htouched)⟩
  · have huntouched := (Attempt.each_untouched (fun j s => own_onEndpoint (attempt j) j s) hi
      (s := s)).1
    simp only [endpointComponents] at huntouched
    rw [List.mem_range, Nat.not_lt] at hi
    cases (List.getElem?_eq_none hi).symm.trans (huntouched.symm.trans he')

lemma succeeds_expireConnections (takes : registry.Takes) (now : Instant) :
    (s.expireConnections registry now).Succeeds := by
  refine succeeds_eachEndpoint fun i e _ => succeeds_each (fun slot _ e => ?_) e
  refine Succeeds.lift ?_ _ _
  cases e.connections slot with
  | none => exact succeeds_done _ _
  | some c =>
    simp only [expireConnection]
    split
    · exact succeeds_closeConnection takes c.connectionId _
    · exact succeeds_done _ _

/-- Every endpoint can be handed a data frame, and its connections are settled. -/
def Ready (s : Server) : Prop := ∀ (i : Nat) (e : Endpoint), s.endpoints[i]? = some e →
  Endpoint.Encodes e.toEndpointContext e.dataFrame ∧
    ∀ slot, ∀ c ∈ e.connections slot, PmuSimulator.Settled e.toEndpointContext c

lemma succeeds_emitBoundary (takes : registry.Takes) (ready : s.Ready) (boundary : Boundary)
    (answers : Nat → Slot → Answers) : (s.emitBoundary registry boundary answers).Succeeds := by
  have hplanned : (s.eachEndpoint fun i =>
      disconnectAllPlanned registry (boundary.plan i)).Succeeds :=
    succeeds_eachEndpoint fun i e _ => Endpoint.succeeds_disconnectAllPlanned takes _ e
  refine hplanned.andThen fun _ _ => succeeds_eachEndpoint fun i e' he' => ?_
  obtain ⟨e, he, rfl⟩ := eachEndpoint_endpoint hplanned.result he'
  obtain ⟨encodes, settled⟩ := ready i e he
  refine Endpoint.succeeds_emitEndpoint takes _ boundary _ _ ?_ fun slot c hc => ?_
  · rw [disconnectAllPlanned_context, disconnectAllPlanned_dataFrame]
    exact encodes
  · rw [disconnectAllPlanned_context]
    exact settled slot c (Endpoint.disconnectAllPlanned_subset _ e slot c hc)

/-- A look at the scheduler fails only where the controller does not cross the boundary. -/
lemma succeeds_takeBoundary (takes : registry.Takes) (ready : s.Ready) {answers : BoundaryAnswers}
    (crosses : ∀ sampleIndex skipped scheduler,
      s.scheduler.takeDue answers.now = (some (sampleIndex, skipped), scheduler) →
      ∃ controller, advanceController sampleIndex s.scenarioController = .ok controller) :
    (s.takeBoundary registry answers).Succeeds := by
  cases hdue : s.scheduler.takeDue answers.now with
  | mk due scheduler =>
    cases due with
    | none =>
      rw [takeBoundary_of_none (by rw [hdue])]
      exact succeeds_done _ _
    | some tick =>
      obtain ⟨sampleIndex, skipped⟩ := tick
      obtain ⟨controller, hadvanced⟩ := crosses _ _ _ hdue
      rw [takeBoundary_of_some hdue]
      refine (succeeds_note _ _).andThen fun _ _ => ?_
      rw [note_state, emitData_of_ok (s := { s with scheduler }) hadvanced]
      have hready : (atBoundary { s with scheduler } answers controller).Ready := ready
      exact (succeeds_note _ _).andThen fun _ _ => succeeds_emitBoundary takes hready _ _

/-- The controller crosses every boundary that the scheduler takes. -/
lemma RevisionsLeft.crosses (left : s.RevisionsLeft)
    (coherent : ∀ c ∈ s.scenarioController, ScenarioController.Coherent c)
    (behind : s.core.Behind) {now : Instant} {sampleIndex skipped : Nat} {scheduler : Scheduler}
    (hdue : s.scheduler.takeDue now = (some (sampleIndex, skipped), scheduler)) :
    ∃ controller, advanceController sampleIndex s.scenarioController = .ok controller := by
  unfold advanceController
  cases hc : s.scenarioController with
  | none => exact ⟨none, rfl⟩
  | some c =>
    obtain ⟨⟨result, c'⟩, hcrossed⟩ := (left c hc).advanceBoundary (coherent c hc) sampleIndex
    cases result with
    | error error =>
      exact absurd hcrossed (advanceBoundary_not_refused behind hc
        (by rw [show s.core.scheduler = s.scheduler from rfl, hdue]) error)
    | ok _ =>
      simp only [hcrossed]
      exact ⟨_, rfl⟩

/-- What an event may not bring, so that nothing fails: an `accept` that fails, a refused frame that
cannot be answered, a request where the controller has no revision left. -/
def WithstandsAt (s : Server) (event : Event) : EventTarget → Prop
  | .listener _ => event.readable = true → queueEnd event.accepts = .failed .wouldBlock
  | .managementListener => event.readable = true →
      managementConnectionLimit ≤ waitingClients event.accepts ∨
        queueEnd event.accepts = .failed .wouldBlock
  | .connection i slotIndex connectionId => ∀ e ∈ s.endpoints[i]?,
      ∀ c ∈ e.connections (Fin.ofNat 2 slotIndex), c.connectionId = connectionId →
        c.closeAfterFlush = false → Answerable e.toEndpointContext event.answers.wallClock
          (c.found event.readable event.answers.reads)
  | .managementConnection _ _ => s.RevisionsLeft

/-- The server withstands an input. -/
def Withstands (s : Server) : Input → Prop
  | .event event => ∀ target ∈ eventTarget event.token s.endpoints.length,
      s.WithstandsAt event target
  | .expire _ => True
  | .boundary _ => s.RevisionsLeft

instance (context : EndpointContext) (wallClock : SystemTime) (bytes : List UInt8) :
    Decidable (Answerable context wallClock bytes) :=
  inferInstanceAs (Decidable (_ → _ ∨ _ = false))

instance : (answer : AcceptAnswer) → Decidable (answer = .failed .wouldBlock)
  | .connected _ _ => .isFalse nofun
  | .failed kind => decidable_of_iff (kind = .wouldBlock) (by simp)

instance (s : Server) : Decidable s.RevisionsLeft :=
  inferInstanceAs (Decidable (∀ c ∈ s.scenarioController, c.RevisionsLeft))

instance (s : Server) (event : Event) : (target : EventTarget) →
    Decidable (s.WithstandsAt event target)
  | .listener _ => inferInstanceAs (Decidable (_ = true → _ = AcceptAnswer.failed _))
  | .managementListener =>
    inferInstanceAs (Decidable (_ = true → _ ≤ _ ∨ _ = AcceptAnswer.failed _))
  | .connection i slotIndex connectionId => inferInstanceAs (Decidable (∀ e ∈ s.endpoints[i]?,
      ∀ c ∈ e.connections (Fin.ofNat 2 slotIndex), c.connectionId = connectionId →
        c.closeAfterFlush = false → Answerable e.toEndpointContext event.answers.wallClock
          (c.found event.readable event.answers.reads)))
  | .managementConnection _ _ => inferInstanceAs (Decidable s.RevisionsLeft)

instance (s : Server) : (input : Input) → Decidable (s.Withstands input)
  | .event event => inferInstanceAs (Decidable (∀ target ∈ eventTarget event.token
      s.endpoints.length, s.WithstandsAt event target))
  | .expire _ => .isTrue trivial
  | .boundary _ => inferInstanceAs (Decidable s.RevisionsLeft)

lemma eventTarget_listener_lt {token endpointCount i : Nat}
    (h : eventTarget token endpointCount = some (.listener i)) : i < endpointCount := by
  unfold eventTarget at h
  split_ifs at h with hlistener hmanagement hlt
  · cases h
  · cases h
  · obtain rfl := EventTarget.listener.inj (Option.some.inj h)
    exact hlt
  · simp only at h
    split at h <;> cases h

/-- A listener is served without a failure if and only if the calls of `accept` come to one that
would block. -/
lemma acceptAt_succeeds_iff {i : Nat} (hi : i < s.endpoints.length) (accepts : List AcceptAnswer) :
    (s.acceptAt registry i accepts).result = .ok () ↔ queueEnd accepts = .failed .wouldBlock := by
  obtain ⟨e, he⟩ : ∃ e, s.endpoints[i]? = some e := ⟨_, List.getElem?_eq_getElem hi⟩
  unfold acceptAt
  rw [he]
  exact acceptConnections_ok_iff accepts (e, s.nextConnectionId)

lemma succeeds_acceptManagement {accepts : List AcceptAnswer}
    (h : managementConnectionLimit ≤ waitingClients accepts ∨
      queueEnd accepts = .failed .wouldBlock) :
    (s.acceptManagement registry accepts).Succeeds := by
  unfold acceptManagement
  cases s.management with
  | none => exact succeeds_done _ _
  | some m =>
    exact ⟨(), (acceptManagementConnections_ok_iff _ accepts
      (m, s.nextManagementConnectionId)).mpr h⟩

/-- What serving an event rests on. -/
structure Sound (s : Server) : Prop where
  ready : s.Ready
  inBounds : s.ResponsesInBounds
  contexts : ∀ (i : Nat) (e : Endpoint), s.endpoints[i]? = some e → e.toEndpointContext.Sound
  limits : ∀ (i : Nat) (e : Endpoint), s.endpoints[i]? = some e →
    ∀ slot, ∀ c ∈ e.connections slot, c.receive.limit = e.limits.commandFrameBytes
  sendable : ∀ (i : Nat) (e : Endpoint), s.endpoints[i]? = some e →
    ∀ slot, ∀ c ∈ e.connections slot, Sendable e.toEndpointContext e.dataFrame c

/-- An event that the server withstands is handled without a failure. -/
lemma Sound.succeeds_dispatchEvent (sound : s.Sound) (takes : registry.Takes) {event : Event}
    (withstands : s.Withstands (.event event)) :
    (s.dispatchEvent registry codec event).Succeeds := by
  unfold dispatchEvent
  cases htarget : eventTarget event.token s.endpoints.length with
  | none => exact succeeds_done _ _
  | some target =>
    have withstands : s.WithstandsAt event target := withstands target htarget
    cases target with
    | listener i =>
      simp only
      split
      · rename_i hreadable
        exact ⟨(), (acceptAt_succeeds_iff (eventTarget_listener_lt htarget) event.accepts).mpr
          (withstands hreadable)⟩
      · exact succeeds_done _ _
    | managementListener =>
      simp only
      split
      · rename_i hreadable
        exact succeeds_acceptManagement (withstands hreadable)
      · exact succeeds_done _ _
    | managementConnection slotIndex connectionId =>
      exact succeeds_dispatchManagementConnection takes withstands sound.inBounds _ _ _ _ _
    | connection i slotIndex connectionId =>
      obtain ⟨e, he⟩ : ∃ e, s.endpoints[i]? = some e :=
        ⟨_, List.getElem?_eq_getElem (eventTarget_connection_lt htarget)⟩
      simp only [onEndpoint, he]
      refine Succeeds.lift (Succeeds.lift ?_ _ _) _ _
      cases hc : e.connections (Fin.ofNat 2 slotIndex) with
      | none => exact succeeds_done _ _
      | some c =>
        by_cases hid : c.connectionId = connectionId
        · exact succeeds_dispatchConnection takes event.writable (withstands e he c hc hid)
            (sound.limits i e he _ c hc) (sound.contexts i e he) (sound.sendable i e he _ c hc) _
        · simp only [dispatchConnection, Option.any_some, hid, decide_false,
            Bool.false_eq_true, if_false]
          exact succeeds_done _ _

/-- An input that the server withstands is handled without a failure. -/
theorem Sound.succeeds (sound : s.Sound) (takes : registry.Takes)
    (coherent : ∀ c ∈ s.scenarioController, ScenarioController.Coherent c)
    (behind : s.core.Behind) {input : Input} (withstands : s.Withstands input) :
    (s.handle registry codec input).Succeeds := by
  cases input with
  | event event => exact sound.succeeds_dispatchEvent takes withstands
  | expire now => exact succeeds_expireConnections takes now
  | boundary answers =>
    have left : s.RevisionsLeft := withstands
    exact succeeds_takeBoundary takes sound.ready fun _ _ _ hdue =>
      left.crosses coherent behind hdue

end Server

/-! ### Runs -/

lemma bindEndpoint_encodes {limits : Limits} {timestamp : Timestamp}
    {descriptor : EndpointDescriptor} {e : Endpoint}
    (h : bindEndpoint limits timestamp descriptor = .ok e) :
    Endpoint.Encodes e.toEndpointContext e.dataFrame := by
  obtain ⟨frames, hframes, h⟩ := bind_eq_ok.mp h
  obtain rfl := Except.ok.inj h
  intro seed tick
  unfold staticFrames at hframes
  cases hversion : descriptor.wireVersion with
  | v2 =>
    simp only [hversion] at hframes
    obtain ⟨header, hheader, -⟩ := bind_eq_ok.mp hframes
    cases hmetadata : descriptor.v2 with
    | none => simp [WireV2.encodeHeader, hmetadata] at hheader
    | some metadata =>
      simp only [encodeDataFrame, hversion, emptyDataFrame,
        WireV2.encodePeriodicDataWithScenario, hmetadata]
      exact ⟨_, rfl⟩
  | v3 =>
    simp only [encodeDataFrame, hversion, emptyDataFrame]
    exact ⟨_, rfl⟩

lemma PlaceMove.encodes {seed : UInt64} {firstId : Nat} {v v' : SlotView} {due due' : Option Tick}
    {log : List (Nat × Activity)} (hv : Endpoint.Encodes v.context v.dataFrame)
    (move : PlaceMove seed firstId v due log v' due') :
    Endpoint.Encodes v'.context v'.dataFrame := by
  cases move with
  | encoded idle encoded => exact Endpoint.encodes_again encoded
  | _ => exact hv

variable {l₀ l l' : EventLoop} {h : List (Machine.Taken EventLoop Input (List Report))}

lemma encodes_of_run (started : Started l₀) (run : (eventLoop registry codec).Run l₀ h l) {i : Nat}
    {e : Endpoint} (he : l.server.endpoints[i]? = some e) :
    Endpoint.Encodes e.toEndpointContext e.dataFrame := by
  refine history_of_places (I := fun v _ => Endpoint.Encodes v.context v.dataFrame) started run ?_
    (fun _ hv move => move.encodes hv) he 0
  intro e₀ he₀ slot
  obtain ⟨-, input, hbind⟩ := started
  obtain ⟨first, rest, clock, at₀, endpoints, -, -, -, hendpoints, hserver⟩ := bindInner_ok hbind
  rw [hserver] at he₀
  obtain ⟨j, hj, rfl⟩ := List.mem_iff_getElem.mp he₀
  have hbound := forall₂_of_mapM_ok hendpoints
  exact bindEndpoint_encodes (hbound.get (hbound.length_eq ▸ hj) hj)

lemma inBounds_of_run (started : Started l₀) (run : (eventLoop registry codec).Run l₀ h l) :
    l.server.ResponsesInBounds := by
  refine run.invariant (P := fun l => l.server.ResponsesInBounds) ?_ ?_
  · obtain ⟨-, input, hbind⟩ := started
    obtain ⟨first, rest, clock, at₀, endpoints, -, -, -, -, hserver⟩ := bindInner_ok hbind
    rw [hserver]
    intro m hm
    obtain ⟨-, rfl⟩ : input.managed = true ∧ _ := by simpa using hm
    rintro slot c ⟨⟩
  · intro r input log r' hr hs
    obtain ⟨-, -, rfl⟩ := EventLoop.step_ok hs
    exact Server.inBounds_handle input hr

/-- What serving an event rests on holds in every state that is reached. -/
theorem sound_of_run (started : Started l₀) (run : (eventLoop registry codec).Run l₀ h l)
    (running : l.ended = none) : l.server.Sound where
  ready i e he := ⟨encodes_of_run started run he, fun slot c hc =>
    settled_of_run started run running he hc⟩
  inBounds := inBounds_of_run started run
  contexts i e he := (delivering_of_run started run he 0).1
  limits i e he slot c hc := by
    obtain ⟨read, session⟩ := session_of_run started run running he hc
    exact session.inStream.limit
  sendable i e he slot c hc := sendable_of_run started run he hc

/-- What an input is to a connection decides what becomes of it. Whatever it is to others has no
part in it, and where it is nothing to the connection, the connection is left as it is. -/
structure Server.Isolates (registry : Registry) (s : Server) (input : Input) (s' : Server) :
    Prop where
  served : ∀ {i e slot c}, s.endpoints[i]? = some e → e.connections slot = some c →
    ∃ e', s'.endpoints[i]? = some e' ∧
      e'.connections slot = (turnOf registry e.toEndpointContext e.dataFrame s.seed c
        (s.influence input i slot c.connectionId)).state
  others : ∀ {i slot c}, s.LiveAt i slot c → s.influence input i slot c.connectionId = none →
    s'.LiveAt i slot c
  vacant : ¬ s.Accepts input → ∀ {i slot c'}, s'.LiveAt i slot c' → ∃ c, s.LiveAt i slot c
  clients : ∀ {slot connectionId c}, s.clientAt slot connectionId = some c →
    (∀ event, input = .event event → ¬ s.isOf slot connectionId event) →
    s'.clientAt slot connectionId = some c

/-- A step that does not end the loop leaves every connection to what the input is to it. -/
lemma isolates_of_step (started : Started l₀) (run : (eventLoop registry codec).Run l₀ h l)
    {input : Input} {log : List Report}
    (hs : (eventLoop registry codec).step l input = .ok (log, l')) (running : l'.ended = none) :
    l.server.Isolates registry input l'.server := by
  have routed := routed_of_run started run
  have hserved : ∀ {i e slot c}, l.server.endpoints[i]? = some e → e.connections slot = some c →
      ∃ e', l'.server.endpoints[i]? = some e' ∧
        e'.connections slot = (turnOf registry e.toEndpointContext e.dataFrame l.server.seed c
          (l.server.influence input i slot c.connectionId)).state := by
    intro i e slot c he hc
    have hlength : l'.server.endpoints.length = l.server.endpoints.length := by
      obtain ⟨-, -, rfl⟩ := EventLoop.step_ok hs
      exact Server.handle_length input l.server
    have hi : i < l'.server.endpoints.length := hlength ▸ (List.getElem?_eq_some_iff.mp he).1
    obtain ⟨e', he'⟩ : ∃ e', l'.server.endpoints[i]? = some e' := ⟨_, List.getElem?_eq_getElem hi⟩
    exact ⟨e', he', (turn_of_step hs running routed he he' hc).1⟩
  refine ⟨hserved, ?_, ?_, ?_⟩
  · rintro i slot c ⟨e, he, hc⟩ hnone
    obtain ⟨e', he', hstate⟩ := hserved he hc
    rw [hnone] at hstate
    exact ⟨e', he', hstate⟩
  · intro hrefuses i slot c' hlive
    obtain ⟨-, -, rfl⟩ := EventLoop.step_ok hs
    -- no identifier is given out, so that none of the connection is new, however large it is
    have hkept : (∃ c, l.server.LiveAt i slot c ∧ c'.connectionId = c.connectionId ∧
        c'.token = c.token) ∨ c'.connectionId + 1 ≤ c'.connectionId :=
      Server.liveAt_handle (fun haccepts => absurd haccepts hrefuses) hlive
    obtain ⟨c, hc, -⟩ := hkept.resolve_right (Nat.not_succ_le_self _)
    exact ⟨c, hc⟩
  · intro slot connectionId c hclient hother
    obtain ⟨m, hm, hc, rfl⟩ := Server.clientAt_eq_some.mp hclient
    have hlt := below_of_run started run m hm slot c hc
    obtain ⟨-, -, rfl⟩ := EventLoop.step_ok hs
    exact ((Server.receptionStep_handle registry codec l.server input).clientAt hlt hother).trans
      hclient

lemma failureOf_eq_none {result : Except Failure Unit} :
    failureOf result = none ↔ result = .ok () := by
  cases result with
  | error failure => exact iff_of_false (Option.some_ne_none _) (by simp)
  | ok _ => exact iff_of_true rfl rfl

lemma started_of_compiled (started : StartedCompiled l₀) : Started l₀ := by
  obtain ⟨hrunning, input, hbind, -⟩ := started
  exact ⟨hrunning, input, hbind⟩

/-- An input that the server withstands does not end the loop. -/
lemma running_of_step (started : StartedCompiled l₀) (run : (eventLoop registry codec).Run l₀ h l)
    (takes : registry.Takes) (reached : ∀ x ∈ h, x.before.server.core.Reaches x.input)
    {input : Input} {log : List Report}
    (hs : (eventLoop registry codec).step l input = .ok (log, l'))
    (withstands : l.server.Withstands input) : l'.ended = none := by
  obtain ⟨running, -, rfl⟩ := EventLoop.step_ok hs
  have sound := sound_of_run (started_of_compiled started) run running
  have hhandled : (l.server.handle registry codec input).Succeeds :=
    sound.succeeds takes (fun c hc => (coherent_of_loop started run c hc).1)
      (behind_of_run started run reached) withstands
  exact failureOf_eq_none.mpr hhandled.result

/-- In a run whose inputs are all withstood, nothing ends the event loop, and no connection is part
of what happens to another one. In every state that is reached, the one thing that an `accept` may
answer instead of a stream is that it would block. -/
theorem failures_isolated (started : StartedCompiled l₀)
    (run : (eventLoop registry codec).Run l₀ h l) (takes : registry.Takes)
    (reached : ∀ x ∈ h, x.before.server.core.Reaches x.input)
    (withstands : ∀ x ∈ h, x.before.server.Withstands x.input) :
    l.ended = none ∧ (∀ x ∈ h, x.before.server.Isolates registry x.input x.after.server) ∧
    ∀ {event log l'}, (eventLoop registry codec).step l (.event event) = .ok (log, l') →
      event.readable = true →
      (∀ i, eventTarget event.token l.server.endpoints.length = some (.listener i) →
        (l'.ended = none ↔ queueEnd event.accepts = .failed .wouldBlock)) ∧
      (eventTarget event.token l.server.endpoints.length = some .managementListener →
        l.server.management.isSome = true →
        (l'.ended = none ↔ managementConnectionLimit ≤ waitingClients event.accepts ∨
          queueEnd event.accepts = .failed .wouldBlock)) := by
  refine ⟨?_, ?_, ?_⟩
  · induction run with
    | nil => exact started.1
    | snoc run hs ih =>
      exact running_of_step started run takes (fun x hx => reached x (List.mem_append_left _ hx))
        hs (withstands _ List.mem_concat_self)
  · induction run with
    | nil => simp
    | @snoc h t t' input log run hs ih =>
      have hbefore : ∀ x ∈ h, x.before.server.core.Reaches x.input :=
        fun x hx => reached x (List.mem_append_left _ hx)
      have hnext := running_of_step started run takes hbefore hs (withstands _ List.mem_concat_self)
      intro x hx
      rcases List.mem_append.mp hx with hx | hx
      · exact ih hbefore (fun x hx => withstands x (List.mem_append_left _ hx)) x hx
      · obtain rfl := List.mem_singleton.mp hx
        exact isolates_of_step (started_of_compiled started) run hs hnext
  · intro event log l' hs hreadable
    obtain ⟨-, -, rfl⟩ := EventLoop.step_ok hs
    simp only [failureOf_eq_none]
    refine ⟨fun i htarget => ?_, fun htarget hmanaged => ?_⟩
    · simp only [Server.handle, Server.dispatchEvent, htarget, hreadable, if_true]
      exact Server.acceptAt_succeeds_iff (Server.eventTarget_listener_lt htarget) event.accepts
    · obtain ⟨m, hm⟩ := Option.isSome_iff_exists.mp hmanaged
      simp only [Server.handle, Server.dispatchEvent, htarget, hreadable, if_true,
        Server.acceptManagement, hm]
      exact acceptManagementConnections_ok_iff _ event.accepts
        (m, l.server.nextManagementConnectionId)

/-- The listener of the one endpoint is told that the peer is gone again. -/
def acceptAborted : Event :=
  ⟨0, true, false, [.failed .connectionAborted], soleAnswers [] (.failed .wouldBlock)⟩

/-- The data frame of one client meets a broken pipe, and that of the other one is taken. -/
theorem failures_isolated_write : ∃ (l₀ l : EventLoop) (h : Steps), StartedCompiled l₀ ∧
    (eventLoop takingRegistry silentCodec).Run l₀ h l ∧ l.ended = none ∧
      (l.soleConnection 0).isNone = true ∧ (l.soleConnection 1).any Connection.streaming = true ∧
      (∀ x ∈ h, x.before.server.Isolates takingRegistry x.input x.after.server) ∧
      ∃ log l', (eventLoop takingRegistry silentCodec).step l (.event acceptAborted) =
        .ok (log, l') ∧ l'.ended ≠ none := by
  have htrace : soleTrace .v2 none [acceptOne, acceptOne, bytesArrive 3 (soleCommand .start),
      bytesArrive 6 (soleCommand .start),
      .boundary ⟨20000000, 0, none, fun _ slot => soleAnswers []
        (if slot = 0 then .failed .brokenPipe else .accepts 65535)⟩] (fun steps l =>
          (steps.all fun x => decide (x.before.server.core.Reaches x.input) &&
            decide (x.before.server.Withstands x.input)) &&
          decide ((l.soleConnection 0).isNone = true ∧
            (l.soleConnection 1).any Connection.streaming = true ∧
            eventTarget 0 l.server.endpoints.length = some (.listener 0))) = true := by
    decide +kernel
  obtain ⟨server, steps, l, hbind, -, run, hcheck⟩ := bound_of_soleTrace htrace
  obtain ⟨hsteps, hslots⟩ := Bool.and_eq_true_iff.mp hcheck
  obtain ⟨hfirst, hsecond, htarget⟩ := of_decide_eq_true hslots
  have hstep := fun x hx => Bool.and_eq_true_iff.mp (List.all_eq_true.mp hsteps x hx)
  have started : StartedCompiled ⟨server, none⟩ := ⟨rfl, _, hbind, by simp [soleInput]⟩
  obtain ⟨running, hisolates, haccepts⟩ := failures_isolated started run takes_takingRegistry
    (fun x hx => of_decide_eq_true (hstep x hx).1) (fun x hx => of_decide_eq_true (hstep x hx).2)
  obtain ⟨log, l', hnext⟩ : ∃ log l', (eventLoop takingRegistry silentCodec).step l
      (.event acceptAborted) = .ok (log, l') := step_of_running running _
  refine ⟨_, l, steps, started, run, running, hfirst, hsecond, hisolates, log, l', hnext, ?_⟩
  intro hended
  cases ((haccepts hnext rfl).1 0 htarget).mp hended

/-- A stream that is reset before it is accepted ends the event loop, and with it every session. -/
theorem aborted_ends_loop : ¬ ∀ (registry : Registry) (codec : ManagementCodec)
    (l₀ l : EventLoop) (h : Steps), registry.Takes → StartedCompiled l₀ →
    (eventLoop registry codec).Run l₀ h l → l.ended = none := by
  intro hall
  have htrace : soleTrace .v2 none [.event acceptAborted] (fun _ l => l.ended.isSome) = true := by
    decide +kernel
  obtain ⟨server, steps, l, hbind, -, run, hended⟩ := bound_of_soleTrace htrace
  have running := hall _ _ _ l steps takes_takingRegistry ⟨rfl, _, hbind, by simp [soleInput]⟩ run
  rw [running] at hended
  cases hended

end Registered

end PmuSimulator

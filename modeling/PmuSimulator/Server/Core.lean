import Mathlib
import PmuSimulator.Server.EventLoop
import PmuSimulator.Scenario.Invariant

/-!
# What the inputs do to the core of the server

The core is the server without its connections and counters: the clocks, the controller and what was
fixed at the bind. Events and deadlines leave it alone, but for a management request, which is an
operation of the controller. A boundary that is due moves the scheduler, looks at the time and is the
one operation of the controller that advances its boundary.
-/

namespace PmuSimulator

structure ServerCore where
  contexts : List EndpointContext
  scheduler : Scheduler
  wallClock : WallClock
  seed : UInt64
  scenarioController : Option ScenarioController
  timeHealthMonitor : TimeHealthMonitor
  timeSynchronizationSource : TimeSynchronizationSource
  timeHealthState : TimeHealthState
  ready : Bool
  consoleProcessIdentity : String

namespace Server

def core (s : Server) : ServerCore where
  contexts := s.endpoints.map Endpoint.toEndpointContext
  scheduler := s.scheduler
  wallClock := s.wallClock
  seed := s.seed
  scenarioController := s.scenarioController
  timeHealthMonitor := s.timeHealthMonitor
  timeSynchronizationSource := s.timeSynchronizationSource
  timeHealthState := s.timeHealthState
  ready := s.ready
  consoleProcessIdentity := s.consoleProcessIdentity

lemma core_endpoints {s : Server} {endpoints : List Endpoint}
    (h : endpoints.map Endpoint.toEndpointContext = s.endpoints.map Endpoint.toEndpointContext) :
    { s with endpoints }.core = s.core := by
  simp only [core, h]

lemma map_context_set {endpoints : List Endpoint} {i : Nat} {e e' : Endpoint}
    (he : endpoints[i]? = some e) (hcontext : e'.toEndpointContext = e.toEndpointContext) :
    (endpoints.set i e').map Endpoint.toEndpointContext =
      endpoints.map Endpoint.toEndpointContext := by
  rw [List.map_set, hcontext]
  obtain ⟨hi, rfl⟩ := List.getElem?_eq_some_iff.mp he
  refine List.ext_getElem (by simp) fun j hj hj' => ?_
  rw [List.getElem_set]
  split_ifs with hij
  · subst hij
    rw [List.getElem_map]
  · rfl

/-! ### Endpoints -/

lemma onEndpoint_core {i : Nat} {attempt : Endpoint → EndpointAttempt Unit}
    (hcontext : ∀ e, (attempt e).state.toEndpointContext = e.toEndpointContext) (s : Server) :
    (s.onEndpoint i attempt).state.core = s.core := by
  unfold onEndpoint
  cases he : s.endpoints[i]? with
  | none => rfl
  | some e => exact core_endpoints (map_context_set he (hcontext e))

lemma eachEndpoint_core {attempt : Nat → Endpoint → EndpointAttempt Unit}
    (hcontext : ∀ i e, (attempt i e).state.toEndpointContext = e.toEndpointContext) (s : Server) :
    (s.eachEndpoint attempt).state.core = s.core := by
  have hkeeps : (s.eachEndpoint attempt).Keeps (fun s' _ => s'.core = s.core) [] :=
    .each rfl fun i _ s' _ hs' => (onEndpoint_core (hcontext i) s').trans hs'
  exact hkeeps

end Server

namespace Endpoint

lemma onSlot_context {α : Type} (slot : Slot) (attempt : Option Connection → SlotAttempt α)
    (e : Endpoint) : (e.onSlot slot attempt).state.toEndpointContext = e.toEndpointContext := rfl

/-- Attempts on the slots one after the other. -/
lemma each_context {ι : Type} {f : ι → Endpoint → EndpointAttempt Unit}
    (hf : ∀ i e, (f i e).state.toEndpointContext = e.toEndpointContext) (is : List ι)
    (e : Endpoint) : (Attempt.each f is e).state.toEndpointContext = e.toEndpointContext := by
  have hkeeps : (Attempt.each f is e).Keeps
      (fun e' _ => e'.toEndpointContext = e.toEndpointContext) [] :=
    .each rfl fun i _ e' _ he' => (hf i e').trans he'
  exact hkeeps

end Endpoint

section Registered

variable {registry : Registry} {codec : ManagementCodec}

lemma disconnectAllPlanned_context (plan : Option FramePlan) (e : Endpoint) :
    (disconnectAllPlanned registry plan e).state.toEndpointContext = e.toEndpointContext := by
  cases plan with
  | none => rfl
  | some plan =>
    refine Endpoint.each_context (fun connectionId e => ?_) _ e
    unfold disconnectPlanned
    cases slots.find? fun slot => e.holds slot connectionId with
    | none => rfl
    | some slot => rfl

lemma emitTick_context (seed : UInt64) (tick : Tick) (omitData : Bool) (answers : Slot → Answers)
    (e : Endpoint) :
    (emitTick registry seed tick omitData answers e).state.toEndpointContext =
      e.toEndpointContext := by
  unfold emitTick
  by_cases hany : (!e.anyStreaming) = true
  · rw [if_pos hany]
    rfl
  rw [if_neg hany]
  by_cases homit : omitData = true
  · rw [if_pos homit]
    rfl
  rw [if_neg homit]
  cases encodeDataFrame e.toEndpointContext seed tick e.dataFrame with
  | error failure => rfl
  | ok dataFrame => exact Endpoint.each_context (fun slot e => rfl) slots { e with dataFrame }

lemma emitEndpoint_context (seed : UInt64) (boundary : Boundary) (plan : Option FramePlan)
    (answers : Slot → Answers) (e : Endpoint) :
    (emitEndpoint registry seed boundary plan answers e).state.toEndpointContext =
      e.toEndpointContext := by
  have hslow := Endpoint.each_context (fun slot e => Endpoint.onSlot_context slot
    (dropSlow registry) e) slots e
  unfold emitEndpoint
  cases hr : (Attempt.each (fun slot e => e.onSlot slot (dropSlow registry)) slots e).result with
  | error failure =>
    rw [Attempt.andThen_error hr]
    exact hslow
  | ok _ =>
    rw [Attempt.andThen_ok hr]
    exact (emitTick_context _ _ _ _ _).trans hslow

lemma acceptConnections_context {endpointCount endpointIndex : Nat} (accepts : List AcceptAnswer)
    (s : Endpoint × Nat) :
    (acceptConnections registry endpointCount endpointIndex accepts s).state.1.toEndpointContext =
      s.1.toEndpointContext := by
  induction accepts generalizing s with
  | nil => rfl
  | cons answer accepts ih =>
    cases answer with
    | failed kind => cases kind <;> rfl
    | connected configured acceptedAt =>
      have hadmit : (admitConnection registry endpointCount endpointIndex configured acceptedAt
          s).state.1.toEndpointContext = s.1.toEndpointContext := by
        unfold admitConnection
        repeat' split
        all_goals rfl
      rw [acceptConnections, Attempt.andThen_ok (Attempt.note_result _ _), Attempt.note_state]
      cases hr : (admitConnection registry endpointCount endpointIndex configured acceptedAt
          s).result with
      | error failure =>
        rw [Attempt.andThen_error hr]
        exact hadmit
      | ok _ =>
        rw [Attempt.andThen_ok hr]
        exact (ih _).trans hadmit

end Registered

/-! ### The controller of the server -/

/-- One step of a controller, with the states around it. -/
abbrev ControllerTaken := Machine.Taken ScenarioController ControllerInput ControllerOutput

/-- What happened to the controller of a server, if it has one, is a run of the controller. -/
def ControllerRun : Option ScenarioController → List ControllerTaken → Option ScenarioController →
    Prop
  | none, h, none => h = []
  | some c, h, some c' => controllerMachine.Run c h c'
  | _, _, _ => False

namespace ControllerRun

lemma refl (c : Option ScenarioController) : ControllerRun c [] c := by
  cases c with
  | none => rfl
  | some c => exact .nil

lemma single {c c' : ScenarioController} {i : ControllerInput} {o : ControllerOutput}
    (h : controllerMachine.step c i = .ok (o, c')) :
    ControllerRun (some c) [⟨c, i, o, c'⟩] (some c') := Machine.Run.nil.snoc h

lemma trans {c c' c'' : Option ScenarioController} {h h' : List ControllerTaken}
    (hr : ControllerRun c h c') (hr' : ControllerRun c' h' c'') :
    ControllerRun c (h ++ h') c'' := by
  cases c with
  | none =>
    cases c' with
    | none =>
      obtain rfl : h = [] := hr
      exact hr'
    | some c' => cases hr
  | some c =>
    cases c' with
    | none => cases hr
    | some c' =>
      cases c'' with
      | none => cases hr'
      | some c'' => exact Machine.Run.trans hr hr'

/-- A controller that was bound with a compiled catalog stays coherent. -/
lemma coherent {c c' : Option ScenarioController} {h : List ControllerTaken}
    (hr : ControllerRun c h c')
    (hc : ∀ d ∈ c, ScenarioController.Coherent d ∧ d.revision ≤ u64Max) :
    ∀ d ∈ c', ScenarioController.Coherent d ∧ d.revision ≤ u64Max := by
  rintro d' rfl
  cases c with
  | none => cases hr
  | some d =>
    refine Machine.Run.invariant
      (P := fun d => ScenarioController.Coherent d ∧ d.revision ≤ u64Max) hr (hc d rfl) ?_
    intro r e o r' hP hs
    obtain ⟨he, hrev⟩ := hP.1.effect hP.2 hs
    exact ⟨he.coherent hP.1, hrev⟩

end ControllerRun

/-- The operations of the controller that are not its boundaries. -/
def ControllerInput.IsRequest (i : ControllerInput) : Prop := ∀ n, i ≠ .advanceBoundary n

namespace Server

/-- A request to the controller: the server keeps everything else. -/
def AsksController (s s' : Server) : Prop :=
  ∃ h c, ControllerRun s.scenarioController h c ∧ (∀ x ∈ h, x.input.IsRequest) ∧
    s' = { s with scenarioController := c }

lemma AsksController.refl (s : Server) : AsksController s s :=
  ⟨[], s.scenarioController, .refl _, by simp, rfl⟩

lemma AsksController.of_step {s s' : Server} {c c' : ScenarioController} {i : ControllerInput}
    {o : ControllerOutput} (hc : s.scenarioController = some c)
    (hstep : controllerMachine.step c i = .ok (o, c')) (hi : i.IsRequest)
    (hs' : s' = { s with scenarioController := some c' }) : AsksController s s' := by
  refine ⟨[⟨c, i, o, c'⟩], some c', ?_, ?_, hs'⟩
  · rw [hc]
    exact .single hstep
  · intro x hx
    obtain rfl := List.mem_singleton.mp hx
    exact hi

lemma answerWith_ok {α : Type} {s s' : Server} {respond : α → ManagementResponse}
    {outcome : Except Failure (Outcome α)} {response : ManagementResponse}
    (h : s.answerWith respond outcome = .ok (response, s')) :
    ∃ r c', outcome = .ok (r, c') ∧ s' = { s with scenarioController := some c' } := by
  cases outcome with
  | error failure => cases h
  | ok answer =>
    obtain ⟨r, c'⟩ := answer
    cases r with
    | error e => exact ⟨_, _, rfl, (ok_pair_eq.mp h).2⟩
    | ok a => exact ⟨_, _, rfl, (ok_pair_eq.mp h).2⟩

lemma answerToken_ok {α : Type} {s s' : Server} {token : Nat} {actorLabel : Option String}
    {respond : α → ManagementResponse} {response : ManagementResponse}
    {operate : ScenarioController → ActivationToken → Except Failure (Outcome α)}
    (h : s.answerToken token actorLabel respond operate = .ok (response, s')) :
    s' = s ∨ ∃ c r c', s.scenarioController = some c ∧ operate c ⟨token⟩ = .ok (r, c') ∧
      s' = { s with scenarioController := some c' } := by
  unfold answerToken at h
  by_cases hzero : token = 0
  · simp only [ActivationToken.fromValue, hzero, ne_eq, not_true_eq_false, if_false] at h
    exact .inl (ok_pair_eq.mp h).2
  simp only [ActivationToken.fromValue, ne_eq, hzero, not_false_eq_true, if_true] at h
  cases hc : s.scenarioController with
  | none =>
    simp only [hc] at h
    exact .inl (ok_pair_eq.mp h).2
  | some c =>
    simp only [hc] at h
    cases hl : validateActorLabel actorLabel with
    | error e =>
      simp only [hl] at h
      exact .inl (ok_pair_eq.mp h).2
    | ok _ =>
      simp only [hl] at h
      obtain ⟨r, c', ho, hs'⟩ := answerWith_ok h
      exact .inr ⟨c, r, c', rfl, ho, hs'⟩

lemma answerTarget_ok {s s' : Server} {target : ScenarioTarget} {allows : Bool}
    {response : ManagementResponse}
    {operate : ScenarioController → Except Failure (Outcome PreparedScenarioSnapshot)}
    (h : s.answerTarget target allows operate = .ok (response, s')) :
    s' = s ∨ ∃ c r c', s.scenarioController = some c ∧ operate c = .ok (r, c') ∧
      s' = { s with scenarioController := some c' } := by
  unfold answerTarget at h
  cases hc : s.scenarioController with
  | none =>
    simp only [hc] at h
    exact .inl (ok_pair_eq.mp h).2
  | some c =>
    simp only [hc] at h
    split_ifs at h with hadmitted
    · obtain ⟨r, c', ho, hs'⟩ := answerWith_ok h
      exact .inr ⟨c, r, c', rfl, ho, hs'⟩
    · exact .inl (ok_pair_eq.mp h).2

lemma asksController_of_operate {s s' : Server} {α : Type} {i : ControllerInput}
    {operate : ScenarioController → Except Failure (Outcome α)}
    (output : Except ScenarioControllerError α → ControllerOutput) (hi : i.IsRequest)
    (hstep : ∀ c, controllerMachine.step c i =
      (operate c >>= fun answer => .ok (output answer.1, answer.2)))
    (h : s' = s ∨ ∃ c r c', s.scenarioController = some c ∧ operate c = .ok (r, c') ∧
      s' = { s with scenarioController := some c' }) : AsksController s s' := by
  rcases h with rfl | ⟨c, r, c', hc, ho, hs'⟩
  · exact .refl _
  · refine .of_step (o := output r) hc ?_ hi hs'
    rw [hstep, ho]
    rfl

lemma asksController_of_snapshot {s s' : Server} {c c' : ScenarioController} {now : Instant}
    {snapshot : ScenarioControllerSnapshot} (hc : s.scenarioController = some c)
    (hsnapshot : c.snapshot now = .ok (snapshot, c'))
    (hs' : s' = { s with scenarioController := some c' }) : AsksController s s' := by
  refine .of_step (i := .snapshot now) (o := .snapshot snapshot) hc ?_ (fun n => by simp) hs'
  simp only [controllerMachine, ScenarioController.apply, hsnapshot]
  rfl

/-- A management request that is answered is at most one operation of the controller. -/
theorem asksController_of_request {s s' : Server} {now : Instant} {request : ManagementRequest}
    {response : ManagementResponse}
    (h : s.managementRequestResponse now request = .ok (response, s')) :
    AsksController s s' := by
  cases request with
  | healthz => exact (ok_pair_eq.mp h).2 ▸ .refl s
  | readyz => exact (ok_pair_eq.mp h).2 ▸ .refl s
  | metrics => exact (ok_pair_eq.mp h).2 ▸ .refl s
  | catalog =>
    simp only [managementRequestResponse] at h
    cases hc : s.scenarioController with
    | none =>
      simp only [hc] at h
      exact (ok_pair_eq.mp h).2 ▸ .refl s
    | some c =>
      simp only [hc] at h
      exact (ok_pair_eq.mp h).2 ▸ .refl s
  | state =>
    simp only [managementRequestResponse, managementStateResponse] at h
    cases hc : s.scenarioController with
    | none =>
      simp only [hc] at h
      exact (ok_pair_eq.mp h).2 ▸ .refl s
    | some c =>
      simp only [hc] at h
      obtain ⟨⟨snapshot, c'⟩, hsnapshot, h⟩ := bind_eq_ok.mp h
      exact asksController_of_snapshot hc hsnapshot (ok_pair_eq.mp h).2
  | consoleState cursor =>
    simp only [managementRequestResponse, managementConsoleStateResponse] at h
    cases hc : s.scenarioController with
    | none =>
      simp only [hc] at h
      exact (ok_pair_eq.mp h).2 ▸ .refl s
    | some c =>
      simp only [hc] at h
      obtain ⟨⟨snapshot, c'⟩, hsnapshot, h⟩ := bind_eq_ok.mp h
      exact asksController_of_snapshot hc hsnapshot (ok_pair_eq.mp h).2
  | prepare target scenarioName actorLabel =>
    exact asksController_of_operate (i := .prepareActivation _ scenarioName actorLabel now) .prepared
      (fun n => by simp) (fun c => rfl) (answerTarget_ok h)
  | confirm token actorLabel =>
    exact asksController_of_operate (i := .confirm ⟨token⟩ now) .confirmed
      (fun n => by simp) (fun c => rfl) (answerToken_ok h)
  | clear target actorLabel =>
    exact asksController_of_operate (i := .prepareClear _ actorLabel now) .prepared
      (fun n => by simp) (fun c => rfl) (answerTarget_ok h)
  | cancel token actorLabel =>
    exact asksController_of_operate (i := .cancel ⟨token⟩ now) .cancelled
      (fun n => by simp) (fun c => rfl) (answerToken_ok h)

/-! ### Events and deadlines -/

/-- An event: the core changes by requests to the controller at most. -/
def CoreAsks (s s' : Server) : Prop :=
  ∃ h c, ControllerRun s.scenarioController h c ∧ (∀ x ∈ h, x.input.IsRequest) ∧
    s'.core = { s.core with scenarioController := c }

namespace CoreAsks

lemma of_core {s s' : Server} (h : s'.core = s.core) : CoreAsks s s' :=
  ⟨[], s.scenarioController, .refl _, by simp, h⟩

lemma of_asks {s s' : Server} (h : AsksController s s') : CoreAsks s s' := by
  obtain ⟨h, c, hr, hi, rfl⟩ := h
  exact ⟨h, c, hr, hi, rfl⟩

lemma trans {s s' s'' : Server} (h : CoreAsks s s') (h' : CoreAsks s' s'') : CoreAsks s s'' := by
  obtain ⟨h₁, c₁, hr₁, hi₁, hs₁⟩ := h
  obtain ⟨h₂, c₂, hr₂, hi₂, hs₂⟩ := h'
  have hc : s'.scenarioController = c₁ := congrArg ServerCore.scenarioController hs₁
  refine ⟨h₁ ++ h₂, c₂, hr₁.trans (hc ▸ hr₂), ?_, ?_⟩
  · intro x hx
    rcases List.mem_append.mp hx with hx | hx
    · exact hi₁ x hx
    · exact hi₂ x hx
  · rw [hs₂, hs₁]

end CoreAsks

section Registered

variable {registry : Registry} {codec : ManagementCodec}

lemma acceptAt_core (endpointIndex : Nat) (accepts : List AcceptAnswer) (s : Server) :
    (s.acceptAt registry endpointIndex accepts).state.core = s.core := by
  unfold acceptAt
  cases he : s.endpoints[endpointIndex]? with
  | none => rfl
  | some e =>
    refine core_endpoints (map_context_set he ?_)
    exact acceptConnections_context accepts (e, s.nextConnectionId)

lemma acceptManagement_core (accepts : List AcceptAnswer) (s : Server) :
    (s.acceptManagement registry accepts).state.core = s.core := by
  unfold acceptManagement
  cases s.management with
  | none => rfl
  | some m => rfl

lemma onManagement_core
    (attempt : ManagementListener → Attempt Failure ManagementListener Report Unit) (s : Server) :
    (s.onManagement attempt).state.core = s.core := by
  unfold onManagement
  cases s.management with
  | none => rfl
  | some m => rfl

lemma onManagementConnection_core {α : Type} (slot : ManagementSlot)
    (attempt : ManagementConnection → ManagementAttempt α) (s : Server) :
    (s.onManagementConnection slot attempt).state.core = s.core := by
  unfold onManagementConnection
  cases s.management with
  | none => rfl
  | some m =>
    cases hc : m.connections slot with
    | none => simp only [hc, Attempt.failed_state]
    | some c =>
      simp only [hc]
      rfl

/-- Going on with an attempt that keeps the relation. -/
lemma asks_andThen {α β : Type} {s : Server} {p : ServerAttempt α}
    {f : α → Server → ServerAttempt β} (hp : CoreAsks s p.state)
    (hf : ∀ a, p.result = .ok a → CoreAsks p.state (f a p.state).state) :
    CoreAsks s (p.andThen f).state := by
  cases hr : p.result with
  | error failure =>
    rw [Attempt.andThen_error hr]
    exact hp
  | ok a =>
    rw [Attempt.andThen_ok hr]
    exact hp.trans (hf a hr)

/-- Going on with an attempt whose only effect is outside the core. -/
lemma core_andThen {α : Type} {s s' : Server} {p : ServerAttempt α} {b : Bool}
    (hp : p.state.core = s.core) (hs : CoreAsks s' s) :
    CoreAsks s' (p.andThen fun _ s => (.done b s : ServerAttempt Bool)).state := by
  refine hs.trans (asks_andThen (.of_core hp) fun _ _ => ?_)
  exact .of_core rfl

lemma answerRead_core (slot : ManagementSlot) (connectionId : Nat) (now : Instant)
    (result : Option (Except ErrorKind ManagementReadResult)) (s : Server) :
    CoreAsks s (s.answerRead registry codec slot connectionId now result).state := by
  rcases result with - | (- | (- | request | response | -))
  · exact .of_core rfl
  · exact core_andThen (onManagement_core _ s) (.of_core rfl)
  · exact .of_core rfl
  · simp only [answerRead]
    cases hr : s.managementRequestResponse now request with
    | error failure => exact .of_core rfl
    | ok answer =>
      exact core_andThen (onManagement_core _ _) (.of_asks (asksController_of_request hr))
  · exact core_andThen (onManagement_core _ s) (.of_core rfl)
  · exact core_andThen (onManagement_core _ s) (.of_core rfl)

lemma dispatchManagementConnection_core (slot : ManagementSlot) (connectionId : Nat)
    (readable writable : Bool) (answers : Answers) (s : Server) :
    CoreAsks s (s.dispatchManagementConnection registry codec slot connectionId readable writable
      answers).state := by
  unfold dispatchManagementConnection
  split
  · refine asks_andThen ?_ fun served _ => ?_
    · cases readable with
      | false => exact .of_core rfl
      | true =>
        refine asks_andThen (.of_core (onManagementConnection_core slot _ s)) fun result _ => ?_
        exact answerRead_core slot connectionId _ result _
    · by_cases hflush : (served && writable) = true
      · rw [if_pos hflush]
        refine asks_andThen (.of_core (onManagementConnection_core slot _ _)) fun kept _ => ?_
        rcases kept with - | (- | -)
        · exact .of_core (onManagement_core _ _)
        · exact .of_core (onManagement_core _ _)
        · exact .of_core rfl
      · rw [if_neg hflush]
        exact .of_core rfl
  · exact .of_core rfl

/-- What an event does to the core. -/
theorem dispatchEvent_core (event : Event) (s : Server) :
    CoreAsks s (s.dispatchEvent registry codec event).state := by
  unfold dispatchEvent
  cases eventTarget event.token s.endpoints.length with
  | none => exact .of_core rfl
  | some target =>
    cases target with
    | listener endpointIndex =>
      simp only
      split
      · exact .of_core (acceptAt_core _ _ s)
      · exact .of_core rfl
    | connection endpointIndex slotIndex connectionId =>
      exact .of_core (onEndpoint_core (fun e => rfl) s)
    | managementListener =>
      simp only
      split
      · exact .of_core (acceptManagement_core _ s)
      · exact .of_core rfl
    | managementConnection slotIndex connectionId =>
      exact dispatchManagementConnection_core _ _ _ _ _ s

/-- Deadlines leave the core alone. -/
lemma expireConnections_core (now : Instant) (s : Server) :
    (s.expireConnections registry now).state.core = s.core :=
  eachEndpoint_core (fun _ => Endpoint.each_context (fun _ _ => rfl) slots) s

/-! ### Boundaries -/

lemma emitBoundary_core (boundary : Boundary) (answers : Nat → Slot → Answers) (s : Server) :
    (s.emitBoundary registry boundary answers).state.core = s.core := by
  have hplanned : (s.eachEndpoint fun i =>
      disconnectAllPlanned registry (boundary.plan i)).state.core = s.core :=
    eachEndpoint_core (fun i e => disconnectAllPlanned_context (boundary.plan i) e) s
  unfold emitBoundary
  cases hr : (s.eachEndpoint fun i => disconnectAllPlanned registry (boundary.plan i)).result with
  | error failure =>
    rw [Attempt.andThen_error hr]
    exact hplanned
  | ok _ =>
    rw [Attempt.andThen_ok hr]
    refine Eq.trans ?_ hplanned
    exact eachEndpoint_core (fun i e => emitEndpoint_context _ _ _ _ e) _

lemma emitData_of_error {sampleIndex : Nat} {answers : BoundaryAnswers} {s : Server}
    {failure : Failure} (h : advanceController sampleIndex s.scenarioController = .error failure) :
    s.emitData registry sampleIndex answers = .failed failure (s.observeTime answers) := by
  have hobserved : (s.observeTime answers).scenarioController = s.scenarioController := rfl
  simp only [emitData, hobserved, h]

/-- The server at the boundary `emit_data` emits. -/
def atBoundary (s : Server) (answers : BoundaryAnswers)
    (scenarioController : Option ScenarioController) : Server :=
  { s.observeTime answers with scenarioController }

lemma emitData_of_ok {sampleIndex : Nat} {answers : BoundaryAnswers} {s : Server}
    {c : Option ScenarioController}
    (h : advanceController sampleIndex s.scenarioController = .ok c) :
    s.emitData registry sampleIndex answers =
      (Attempt.note (.boundary ((s.atBoundary answers c).boundaryAt sampleIndex))
        (s.atBoundary answers c)).andThen fun _ s =>
          s.emitBoundary registry (s.boundaryAt sampleIndex) answers.answers := by
  have hobserved : (s.observeTime answers).scenarioController = s.scenarioController := rfl
  simp only [emitData, hobserved, h]
  rfl

/-- What `emit_data` leaves of the core: the time is observed, and the controller advanced if it
takes the boundary. -/
lemma emitData_core (sampleIndex : Nat) (answers : BoundaryAnswers) (s : Server) :
    (s.emitData registry sampleIndex answers).state.core =
      match advanceController sampleIndex s.scenarioController with
      | .error _ => (s.observeTime answers).core
      | .ok scenarioController => { (s.observeTime answers).core with scenarioController } := by
  cases h : advanceController sampleIndex s.scenarioController with
  | error failure => rw [emitData_of_error h, Attempt.failed_state]
  | ok c =>
    rw [emitData_of_ok h, Attempt.andThen_ok (Attempt.note_result _ _)]
    exact emitBoundary_core _ _ _

lemma takeBoundary_of_none {answers : BoundaryAnswers} {s : Server}
    (h : (s.scheduler.takeDue answers.now).1 = none) :
    s.takeBoundary registry answers = .done () s := by
  unfold takeBoundary
  generalize hd : s.scheduler.takeDue answers.now = due at h
  obtain ⟨due, scheduler⟩ := due
  obtain rfl : due = none := h
  rfl

lemma takeBoundary_of_some {answers : BoundaryAnswers} {s : Server} {sampleIndex skipped : Nat}
    {scheduler : Scheduler}
    (h : s.scheduler.takeDue answers.now = (some (sampleIndex, skipped), scheduler)) :
    s.takeBoundary registry answers =
      (Attempt.note (.counter .skippedTicks skipped) { s with scheduler }).andThen fun _ s =>
        s.emitData registry sampleIndex answers := by
  unfold takeBoundary
  rw [h]

/-- The controller at a boundary that is not refused. -/
lemma advanceController_ok {sampleIndex : Nat} {c c' : Option ScenarioController}
    (h : advanceController sampleIndex c = .ok c') :
    c = none ∧ c' = none ∨ ∃ d d', c = some d ∧ c' = some d' ∧
      controllerMachine.step d (.advanceBoundary sampleIndex) = .ok (.boundary (.ok ()), d') := by
  cases c with
  | none => exact .inl ⟨rfl, (Except.ok.inj h).symm⟩
  | some d =>
    simp only [advanceController] at h
    cases hb : d.advanceBoundary sampleIndex with
    | error failure => simp [hb] at h
    | ok answer =>
      obtain ⟨r, d'⟩ := answer
      cases r with
      | error e => simp [hb] at h
      | ok _ =>
        simp only [hb] at h
        refine .inr ⟨d, d', rfl, (Except.ok.inj h).symm, ?_⟩
        simp only [controllerMachine, ScenarioController.apply, hb]
        rfl

end Registered

end Server

/-! ### The core in a run -/

/-- The core after a look at the time. -/
def ServerCore.observed (core : ServerCore) (answers : BoundaryAnswers) : ServerCore :=
  { core with
    timeHealthState := (core.timeHealthMonitor.observeBoundary answers.wallClock
      (core.timeSynchronizationSource.isVerified answers.status)).1
    timeHealthMonitor := (core.timeHealthMonitor.observeBoundary answers.wallClock
      (core.timeSynchronizationSource.isVerified answers.status)).2 }

/-- What an input does to the core. -/
inductive CoreStep (core : ServerCore) : Input → ServerCore → Prop where
  | asks {event : Event} {h : List ControllerTaken} {c : Option ScenarioController}
      (run : ControllerRun core.scenarioController h c) (requests : ∀ x ∈ h, x.input.IsRequest) :
    CoreStep core (.event event) { core with scenarioController := c }
  | expire {now : Instant} : CoreStep core (.expire now) core
  | waits {answers : BoundaryAnswers} (waits : (core.scheduler.takeDue answers.now).1 = none) :
    CoreStep core (.boundary answers) core
  /-- The controller refuses the boundary, which ends the loop. -/
  | refused {answers : BoundaryAnswers} {sampleIndex skipped : Nat} {scheduler : Scheduler}
      {failure : Failure}
      (due : core.scheduler.takeDue answers.now = (some (sampleIndex, skipped), scheduler))
      (refused : Server.advanceController sampleIndex core.scenarioController = .error failure) :
    CoreStep core (.boundary answers) ({ core with scheduler }.observed answers)
  | crosses {answers : BoundaryAnswers} {sampleIndex skipped : Nat} {scheduler : Scheduler}
      {scenarioController : Option ScenarioController}
      (due : core.scheduler.takeDue answers.now = (some (sampleIndex, skipped), scheduler))
      (advanced : Server.advanceController sampleIndex core.scenarioController = .ok scenarioController) :
    CoreStep core (.boundary answers)
      { { core with scheduler }.observed answers with scenarioController }

section Registered

variable {registry : Registry} {codec : ManagementCodec}

/-- Every input does to the core what is listed. -/
theorem Server.handle_core (s : Server) (input : Input) :
    CoreStep s.core input (s.handle registry codec input).state.core := by
  cases input with
  | event event =>
    change CoreStep s.core (.event event) (s.dispatchEvent registry codec event).state.core
    obtain ⟨h, c, run, requests, hcore⟩ : s.CoreAsks (s.dispatchEvent registry codec event).state :=
      dispatchEvent_core event s
    rw [hcore]
    exact .asks run requests
  | expire now =>
    change CoreStep s.core (.expire now) (s.expireConnections registry now).state.core
    rw [expireConnections_core]
    exact .expire
  | boundary answers =>
    change CoreStep s.core (.boundary answers) (s.takeBoundary registry answers).state.core
    cases hdue : s.scheduler.takeDue answers.now with
    | mk due scheduler =>
      cases due with
      | none =>
        have hnone : (s.scheduler.takeDue answers.now).1 = none := by rw [hdue]
        rw [takeBoundary_of_none hnone]
        exact .waits hnone
      | some tick =>
        obtain ⟨sampleIndex, skipped⟩ := tick
        rw [takeBoundary_of_some hdue, Attempt.andThen_ok (Attempt.note_result _ _)]
        simp only [Attempt.note_state, emitData_core]
        cases hadvance : Server.advanceController sampleIndex s.scenarioController with
        | error failure => exact .refused hdue hadvance
        | ok scenarioController => exact .crosses hdue hadvance

lemma EventLoop.step_ok {l l' : EventLoop} {input : Input} {log : List Report}
    (h : (eventLoop registry codec).step l input = .ok (log, l')) :
    l.ended = none ∧ log = (l.server.handle registry codec input).log ∧
      l' = { server := { (l.server.handle registry codec input).state with
               stats := log.foldl ServerStats.count
                 (l.server.handle registry codec input).state.stats }
             ended := failureOf (l.server.handle registry codec input).result } := by
  simp only [eventLoop, EventLoop.step] at h
  cases hended : l.ended with
  | some failure => simp [hended] at h
  | none =>
    simp only [hended] at h
    obtain ⟨rfl, rfl⟩ := ok_pair_eq.mp h
    exact ⟨rfl, rfl, rfl⟩

/-- One step of the loop, on the core. -/
theorem EventLoop.step_core {l l' : EventLoop} {input : Input} {log : List Report}
    (h : (eventLoop registry codec).step l input = .ok (log, l')) :
    CoreStep l.server.core input l'.server.core := by
  obtain ⟨-, -, rfl⟩ := step_ok h
  exact Server.handle_core l.server input

lemma CoreStep.contexts {core core' : ServerCore} {input : Input} (h : CoreStep core input core') :
    core'.contexts = core.contexts := by
  cases h <;> rfl

lemma CoreStep.seed {core core' : ServerCore} {input : Input} (h : CoreStep core input core') :
    core'.seed = core.seed := by
  cases h <;> rfl

/-- What an input does to the controller is a run of the controller. -/
lemma CoreStep.controller {core core' : ServerCore} {input : Input}
    (h : CoreStep core input core') :
    ∃ steps, ControllerRun core.scenarioController steps core'.scenarioController := by
  cases h with
  | asks run requests => exact ⟨_, run⟩
  | expire => exact ⟨[], .refl _⟩
  | waits => exact ⟨[], .refl _⟩
  | refused => exact ⟨[], .refl _⟩
  | crosses due advanced =>
    rcases Server.advanceController_ok advanced with ⟨hnone, rfl⟩ | ⟨d, d', hsome, rfl, hstep⟩
    · rw [hnone]
      exact ⟨[], .refl _⟩
    · rw [hsome]
      exact ⟨_, .single hstep⟩

/-- A server that was bound with a catalog that was compiled, if with any. -/
def StartedCompiled (l : EventLoop) : Prop :=
  l.ended = none ∧ ∃ input, bindInner input = .ok l.server ∧
    ∀ catalog ∈ input.catalog, ∃ raw, compileCatalog raw = .ok catalog

/-- What a server that was bound is made of. -/
lemma bindInner_ok {input : BindInput} {s : Server} (h : bindInner input = .ok s) :
    ∃ first rest clock started endpoints, input.profile.endpoints = first :: rest ∧
      (∀ e ∈ first :: rest, e.dataRateHz = first.dataRateHz ∧ e.timeBase = first.timeBase) ∧
      WallClock.alignedStart first.dataRateHz first.timeBase input.wallClock input.now =
        .ok (clock, started) ∧
      (first :: rest).mapM (bindEndpoint input.profile.limits (clock.timestampForSample 0)) =
        .ok endpoints ∧
      s = {
        endpoints
        nextConnectionId := 1
        scheduler := .new first.dataRateHz started
        wallClock := clock
        seed := input.profile.seed
        stats := {}
        scenarioController := input.catalog.map ScenarioController.new
        timeHealthMonitor := .new (nanosPerSecond / first.dataRateHz.toNat)
        timeSynchronizationSource := input.timeSynchronizationSource
        timeHealthState := .unobserved
        management := if input.managed then some ⟨fun _ => none, 0⟩ else none
        nextManagementConnectionId := 1
        ready := endpoints.all selectedWireFrameIsValid
        consoleProcessIdentity := input.consoleProcessIdentity } := by
  unfold bindInner at h
  cases hp : input.profile.endpoints with
  | nil => simp [hp] at h
  | cons first rest =>
    simp only [hp] at h
    by_cases hmixed : ((first :: rest).any fun endpoint =>
        endpoint.dataRateHz ≠ first.dataRateHz || endpoint.timeBase ≠ first.timeBase) = true
    · rw [if_pos hmixed] at h
      cases h
    rw [if_neg hmixed] at h
    by_cases hrate : first.dataRateHz = 0
    · rw [if_pos hrate] at h
      cases h
    rw [if_neg hrate] at h
    obtain ⟨⟨clock, started⟩, hclock, h⟩ := bind_eq_ok.mp h
    obtain ⟨endpoints, hendpoints, h⟩ := bind_eq_ok.mp h
    refine ⟨first, rest, clock, started, endpoints, rfl, ?_, hclock, hendpoints,
      (Except.ok.inj h).symm⟩
    intro e he
    by_contra hne
    refine hmixed (List.any_eq_true.mpr ⟨e, he, ?_⟩)
    simpa [Classical.or_iff_not_imp_left] using hne

lemma bindInner_controller {input : BindInput} {s : Server} (h : bindInner input = .ok s) :
    s.scenarioController = input.catalog.map ScenarioController.new := by
  obtain ⟨first, rest, clock, started, endpoints, -, -, -, -, rfl⟩ := bindInner_ok h
  rfl

variable {l₀ l : EventLoop} {h : List (Machine.Taken EventLoop Input (List Report))}

/-- In every run the controller of the server comes from its catalog by a run of its own. -/
theorem controllerRun_of_run (run : (eventLoop registry codec).Run l₀ h l) :
    ∃ steps, ControllerRun l₀.server.scenarioController steps l.server.scenarioController := by
  refine run.invariant
    (P := fun l => ∃ steps, ControllerRun l₀.server.scenarioController steps
      l.server.scenarioController) ⟨[], .refl _⟩ ?_
  rintro r input log r' ⟨steps, hsteps⟩ hs
  obtain ⟨steps', hsteps'⟩ := (EventLoop.step_core hs).controller
  exact ⟨steps ++ steps', hsteps.trans hsteps'⟩

/-- The controller is coherent in every state of the loop. -/
theorem coherent_of_loop (started : StartedCompiled l₀)
    (run : (eventLoop registry codec).Run l₀ h l) :
    ∀ c ∈ l.server.scenarioController, ScenarioController.Coherent c ∧ c.revision ≤ u64Max := by
  obtain ⟨-, input, hbind, hcompiled⟩ := started
  obtain ⟨steps, hsteps⟩ := controllerRun_of_run run
  refine hsteps.coherent fun c hc => ?_
  rw [bindInner_controller hbind] at hc
  obtain ⟨catalog, hcatalog, rfl⟩ := Option.mem_map.mp hc
  obtain ⟨raw, hraw⟩ := hcompiled catalog hcatalog
  exact ⟨.new (compileCatalog_wellFormed hraw), Nat.zero_le _⟩

end Registered

end PmuSimulator

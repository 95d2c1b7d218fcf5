import Mathlib
import PmuSimulator.Server.Places

/-!
# Paths of the places of a server

What every input does to every place is a path of that place: `path_of_handle`. In a boundary each
place may be handed the tick of its endpoint once; accepts open connections under fresh identifiers;
management leaves the places alone.
-/

namespace PmuSimulator

/-! ### Management leaves the places alone -/

/-- What is logged of the management. -/
def Report.ofManagement : Report → Bool
  | .accept none _ => true
  | .answered _ _ => true
  | _ => false

/-- An attempt that accepts management connections and answers their requests at most. -/
structure ServerAttempt.Quiet {α : Type} (s : Server) (p : ServerAttempt α) : Prop where
  endpoints : p.state.endpoints = s.endpoints
  nextConnectionId : p.state.nextConnectionId = s.nextConnectionId
  stats : p.state.stats = s.stats
  log : ∀ report ∈ p.log, report.ofManagement = true

namespace Server

open ServerAttempt

section Registered

variable {registry : Registry} {codec : ManagementCodec} {s : Server} {α β : Type}

lemma Quiet.andThen {p : ServerAttempt α} {f : α → Server → ServerAttempt β} (hp : Quiet s p)
    (hf : ∀ a, p.result = .ok a → Quiet p.state (f a p.state)) : Quiet s (p.andThen f) := by
  cases h : p.result with
  | error e =>
    rw [Attempt.andThen_error h]
    exact ⟨hp.endpoints, hp.nextConnectionId, hp.stats, hp.log⟩
  | ok a =>
    rw [Attempt.andThen_ok h]
    obtain ⟨hendpoints, hnext, hstats, hlog⟩ := hf a h
    refine ⟨hendpoints.trans hp.endpoints, hnext.trans hp.nextConnectionId,
      hstats.trans hp.stats, fun report hr => ?_⟩
    rcases List.mem_append.mp hr with hr | hr
    · exact hp.log report hr
    · exact hlog report hr

lemma quiet_done (a : α) : Quiet s (.done a s) := ⟨rfl, rfl, rfl, by simp⟩

lemma quiet_failed (e : Failure) : Quiet s (.failed e s : ServerAttempt α) :=
  ⟨rfl, rfl, rfl, by simp⟩

lemma quiet_onManagement
    {attempt : ManagementListener → Attempt Failure ManagementListener Report Unit}
    (hlog : ∀ m, ∀ report ∈ (attempt m).log, report.ofManagement = true) :
    Quiet s (s.onManagement attempt) := by
  unfold onManagement
  cases s.management with
  | none => exact quiet_done ()
  | some m => exact ⟨rfl, rfl, rfl, by simpa using hlog m⟩

lemma quiet_onManagementConnection {slot : ManagementSlot}
    {attempt : ManagementConnection → ManagementAttempt α}
    (hlog : ∀ c, ∀ report ∈ (attempt c).log, report.ofManagement = true) :
    Quiet s (s.onManagementConnection slot attempt) := by
  unfold onManagementConnection
  cases s.management with
  | none => exact quiet_failed _
  | some m =>
    cases hc : m.connections slot with
    | none =>
      simp only [hc]
      exact quiet_failed _
    | some c =>
      simp only [hc]
      exact ⟨rfl, rfl, rfl, by simpa using hlog c⟩

lemma quiet_closeManagement (slot : ManagementSlot) (connectionId : Nat) :
    Quiet s (s.closeManagement registry slot connectionId) := by
  refine quiet_onManagement fun m => ?_
  have hnone : (closeManagementConnection registry slot connectionId m).log = [] := by
    unfold closeManagementConnection
    repeat' split
    all_goals rfl
  simp [hnone]

lemma quiet_queueResponse (slot : ManagementSlot) (connectionId : Nat)
    (response : ManagementResponse) :
    Quiet s (s.queueResponse registry codec slot connectionId response) := by
  refine quiet_onManagement fun m => ?_
  cases m.connections slot with
  | none => simp
  | some c =>
    simp only
    split
    · simp
    · have hqueued : (queueManagementResponse registry codec response c).log =
          [.answered c.connectionId response] := by
        refine Attempt.andThen_log fun _ c => ?_
        cases registry.reregister c.token .writable <;> rfl
      simp [hqueued, Report.ofManagement]

lemma quiet_answerRead (slot : ManagementSlot) (connectionId : Nat) (now : Instant)
    (result : Option (Except ErrorKind ManagementReadResult)) :
    Quiet s (s.answerRead registry codec slot connectionId now result) := by
  rcases result with - | (- | (- | request | response | -))
  · exact quiet_done true
  · exact Quiet.andThen (quiet_closeManagement slot connectionId) fun _ _ => quiet_done false
  · exact quiet_done true
  · simp only [answerRead]
    cases hr : s.managementRequestResponse now request with
    | error failure => exact quiet_failed failure
    | ok answer =>
      obtain ⟨response, s'⟩ := answer
      obtain ⟨-, c, -, -, rfl⟩ := asksController_of_request hr
      have hqueue : Quiet { s with scenarioController := c }
          ((queueResponse registry codec slot connectionId response
            { s with scenarioController := c }).andThen fun _ s => .done true s) :=
        Quiet.andThen (quiet_queueResponse slot connectionId response) fun _ _ => quiet_done true
      exact ⟨hqueue.endpoints, hqueue.nextConnectionId, hqueue.stats, hqueue.log⟩
  · exact Quiet.andThen (quiet_queueResponse slot connectionId response) fun _ _ => quiet_done true
  · exact Quiet.andThen (quiet_closeManagement slot connectionId) fun _ _ => quiet_done false

/-- The loop of the management counts nothing in the statistics of the server. -/
lemma acceptManagementConnections_log {turns : Nat} {answers : List AcceptAnswer}
    {r : ManagementListener × Nat} :
    ∀ activity ∈ (acceptManagementConnections registry turns answers r).log,
      (activity.report none).ofManagement = true := by
  fun_induction acceptManagementConnections registry turns answers r with
  | case1 answers r => simp
  | case5 turns configured acceptedAt answers r ih =>
    rw [Attempt.andThen_ok (Attempt.note_result _ _)]
    intro activity hactivity
    rcases List.mem_cons.mp hactivity with rfl | hactivity
    · rfl
    · exact ih _ activity hactivity
  | _ => simp [AcceptActivity.report, Report.ofManagement]

lemma quiet_acceptManagement (accepts : List AcceptAnswer) :
    Quiet s (s.acceptManagement registry accepts) := by
  unfold acceptManagement
  cases s.management with
  | none => exact quiet_done ()
  | some m =>
    refine ⟨rfl, rfl, rfl, fun report hr => ?_⟩
    obtain ⟨activity, hactivity, rfl⟩ := List.mem_map.mp hr
    exact acceptManagementConnections_log activity hactivity

lemma flushManagementConnection_log (write : WriteAnswer) (c : ManagementConnection) :
    (flushManagementConnection registry write c).log = [] := by
  unfold flushManagementConnection
  simp only
  repeat' split
  all_goals rfl

lemma quiet_dispatchManagementConnection (slot : ManagementSlot) (connectionId : Nat)
    (readable writable : Bool) (answers : Answers) :
    Quiet s (s.dispatchManagementConnection registry codec slot connectionId readable writable
      answers) := by
  unfold dispatchManagementConnection
  split
  · refine Quiet.andThen ?_ fun served _ => ?_
    · cases readable with
      | false => exact quiet_done true
      | true =>
        refine Quiet.andThen (quiet_onManagementConnection fun c => ?_) fun result _ =>
          quiet_answerRead slot connectionId _ result
        split <;> simp
    · by_cases hflush : (served && writable) = true
      · rw [if_pos hflush]
        refine Quiet.andThen (quiet_onManagementConnection fun c => ?_) fun kept _ => ?_
        · simp [flushManagementConnection_log]
        · rcases kept with - | (- | -)
          · exact quiet_closeManagement slot connectionId
          · exact quiet_closeManagement slot connectionId
          · exact quiet_done ()
      · rw [if_neg hflush]
        exact quiet_done ()
  · exact quiet_done ()

end Registered

end Server

/-! ### Paths of the server -/

namespace Server

/-- The log of a place in the log of the server. -/
def placeLog (i : Nat) (slot : Slot) (log : List Report) : List (Nat × Activity) :=
  Endpoint.slotLog slot (log.filterMap (endpointComponents.entry i))

lemma placeLog_append (i : Nat) (slot : Slot) (log log' : List Report) :
    placeLog i slot (log ++ log') = placeLog i slot log ++ placeLog i slot log' := by
  rw [placeLog, List.filterMap_append, Endpoint.slotLog_append]
  rfl

lemma placeLog_quiet {i : Nat} {slot : Slot} {log : List Report}
    (h : ∀ report ∈ log, endpointComponents.entry i report = none) : placeLog i slot log = [] := by
  rw [placeLog, List.filterMap_eq_nil_iff.mpr h]
  rfl

end Server

/-- An attempt on the server takes a place along a path. -/
def ServerAttempt.Follows {α : Type} (firstId : Nat) (i : Nat) (slot : Slot) (due : Option Tick)
    (s : Server) (p : ServerAttempt α) (due' : Option Tick) : Prop :=
  ∀ e, s.endpoints[i]? = some e → ∃ e', p.state.endpoints[i]? = some e' ∧
    PlacePath s.seed firstId (e.seen slot) due (Server.placeLog i slot p.log) (e'.seen slot) due'

namespace Server

open ServerAttempt

section Registered

variable {registry : Registry} {codec : ManagementCodec} {s : Server} {α β : Type} {firstId i : Nat}
  {slot : Slot} {due due' due'' : Option Tick}

lemma endpointComponents_ofManagement {report : Report} (h : report.ofManagement = true) (j : Nat) :
    endpointComponents.entry j report = none := by
  cases report with
  | connection i slot connectionId activity => cases h
  | _ => rfl

lemma follows_quiet {p : ServerAttempt α} (h : Quiet s p) : Follows firstId i slot due s p due := by
  intro e he
  refine ⟨e, h.endpoints ▸ he, ?_⟩
  rw [placeLog_quiet]
  · exact .nil
  · intro report hr
    exact endpointComponents_ofManagement (h.log report hr) i

/-- Going on along a path, where the seed stays. -/
lemma Follows.andThen {p : ServerAttempt α} {f : α → Server → ServerAttempt β}
    (hp : Follows firstId i slot due s p due) (hseed : p.state.seed = s.seed)
    (hf : ∀ a, p.result = .ok a → ∃ due', Follows firstId i slot due p.state (f a p.state) due') :
    ∃ due', Follows firstId i slot due s (p.andThen f) due' := by
  cases h : p.result with
  | error failure =>
    rw [Attempt.andThen_error h]
    exact ⟨due, hp⟩
  | ok a =>
    rw [Attempt.andThen_ok h]
    obtain ⟨due', hrest⟩ := hf a h
    refine ⟨due', fun e he => ?_⟩
    obtain ⟨e', he', hpath⟩ := hp e he
    obtain ⟨e'', he'', hpath'⟩ := hrest e' he'
    refine ⟨e'', he'', ?_⟩
    rw [placeLog_append]
    exact hpath.trans (hseed ▸ hpath')

/-- An attempt on one endpoint takes every place along a path. -/
lemma follows_onEndpoint {j : Nat} {attempt : Endpoint → EndpointAttempt Unit}
    (hfollows : ∀ e, EndpointAttempt.Follows s.seed firstId slot due e (attempt e) due) :
    Follows firstId i slot due s (s.onEndpoint j attempt) due := by
  intro e he
  have hown := own_onEndpoint attempt j s
  by_cases h : i = j
  · subst h
    have hview := hown.here
    have hlog := hown.log
    simp only [endpointComponents, he, onOption, Attempt.lift_state] at hview
    simp only [he, onOption, Attempt.lift_log, List.map_id] at hlog
    refine ⟨_, hview, ?_⟩
    rw [placeLog, hlog]
    exact hfollows e
  · have hview := hown.elsewhere i h
    simp only [endpointComponents] at hview
    refine ⟨e, hview.trans he, ?_⟩
    rw [placeLog, hown.silent i h]
    exact .nil

/-- A loop over the endpoints takes every place along the path of its turn, if it comes to it. -/
lemma follows_eachEndpoint {attempt : Nat → Endpoint → EndpointAttempt Unit}
    {R : Option Tick → Prop} (hdue : R due)
    (hfollows : ∀ e, ∃ due', R due' ∧
      EndpointAttempt.Follows s.seed firstId slot due e (attempt i e) due') :
    ∃ due', R due' ∧ Follows firstId i slot due s (s.eachEndpoint attempt) due' := by
  by_cases hi : i < s.endpoints.length
  · obtain ⟨e, he⟩ : ∃ e, s.endpoints[i]? = some e := ⟨_, List.getElem?_eq_getElem hi⟩
    obtain ⟨due', hdue', hpath⟩ := hfollows e
    rcases Attempt.each_at (fun j s => own_onEndpoint (attempt j) j s) List.nodup_range
      (List.mem_range.mpr hi) (s := s) with ⟨hview, hlog⟩ | ⟨⟨hview, hlog⟩, -⟩
    · refine ⟨due', hdue', fun e₀ he₀ => ?_⟩
      obtain rfl := Option.some.inj (he.symm.trans he₀)
      simp only [endpointComponents, he, onOption, Attempt.lift_state] at hview
      simp only [endpointComponents, he, onOption, Attempt.lift_log, List.map_id] at hlog
      refine ⟨_, hview, ?_⟩
      rw [placeLog, endpointComponents, eachEndpoint, hlog]
      exact hpath
    · refine ⟨due, hdue, fun e₀ he₀ => ?_⟩
      simp only [endpointComponents] at hview hlog
      refine ⟨e₀, hview.trans he₀, ?_⟩
      rw [placeLog, endpointComponents, eachEndpoint, hlog]
      exact .nil
  · refine ⟨due, hdue, fun e he => ?_⟩
    exact absurd (List.getElem?_eq_some_iff.mp he).1 hi

/-- What a loop over the endpoints logs of a place is of the turn of its endpoint. -/
lemma mem_eachEndpoint {attempt : Nat → Endpoint → EndpointAttempt Unit} {entry : Nat × Activity}
    (h : entry ∈ placeLog i slot (s.eachEndpoint attempt).log) :
    ∃ e, s.endpoints[i]? = some e ∧ entry ∈ Endpoint.slotLog slot (attempt i e).log := by
  by_cases hi : i < s.endpoints.length
  · obtain ⟨e, he⟩ : ∃ e, s.endpoints[i]? = some e := ⟨_, List.getElem?_eq_getElem hi⟩
    refine ⟨e, he, ?_⟩
    rcases Attempt.each_at (fun j s => own_onEndpoint (attempt j) j s) List.nodup_range
      (List.mem_range.mpr hi) (s := s) with ⟨-, hlog⟩ | ⟨⟨-, hlog⟩, -⟩
    · simp only [endpointComponents, he, onOption, Attempt.lift_log, List.map_id] at hlog
      rw [placeLog, endpointComponents, eachEndpoint, hlog] at h
      exact h
    · rw [placeLog, eachEndpoint, hlog] at h
      cases h
  · have hnone : i ∉ List.range s.endpoints.length := fun hmem => hi (List.mem_range.mp hmem)
    obtain ⟨-, hlog⟩ := Attempt.each_untouched
      (fun j s => own_onEndpoint (attempt j) j s) hnone (s := s)
    rw [placeLog, eachEndpoint, hlog] at h
    cases h

/-! ### Accepts -/

lemma freeSlot_some {e : Endpoint} {slot : Slot} (h : e.freeSlot = some slot) :
    e.connections slot = none := by
  simpa using List.find?_some h

/-- A stream that is admitted goes into a free slot, under the next identifier. -/
lemma admitConnection_cases (registry : Registry) (endpointCount endpointIndex : Nat)
    (configured : Except ErrorKind Unit) (acceptedAt : Instant) (r : Endpoint × Nat) :
    admitConnection registry endpointCount endpointIndex configured acceptedAt r =
        .note (.counted .rejectedClients) r ∨
      ∃ slot token, r.1.connections slot = none ∧ r.2 + 1 ≤ u64Max ∧
        connectionToken endpointCount endpointIndex slot r.2 = .ok token ∧
        admitConnection registry endpointCount endpointIndex configured acceptedAt r =
          .note (.counted .acceptedClients)
            (r.1.setSlot slot (some (.new r.2 token r.1.limits.commandFrameBytes
              r.1.descriptor.wireVersion acceptedAt)), r.2 + 1) := by
  unfold admitConnection
  cases hslot : r.1.freeSlot with
  | none => exact .inl rfl
  | some slot =>
    cases hnext : checkedAdd r.2 1 with
    | none => exact .inl rfl
    | some nextId =>
      obtain ⟨hle, rfl⟩ := checkedAdd_eq_some.mp hnext
      cases htoken : connectionToken endpointCount endpointIndex slot r.2 with
      | error e => exact .inl (by simp only [htoken])
      | ok token =>
        cases hconfigured : configureStream registry configured token with
        | error e => exact .inl (by simp only [htoken, hconfigured])
        | ok _ =>
          exact .inr ⟨slot, token, freeSlot_some hslot, hle, htoken,
            by simp only [htoken, hconfigured]⟩

lemma path_acceptConnections {seed : UInt64} {endpointCount endpointIndex : Nat}
    (accepts : List AcceptAnswer) (r : Endpoint × Nat) (hfirst : firstId ≤ r.2) :
    PlacePath seed firstId (r.1.seen slot) due []
      ((acceptConnections registry endpointCount endpointIndex accepts r).state.1.seen slot)
      due := by
  induction accepts generalizing r with
  | nil => exact .nil
  | cons answer accepts ih =>
    cases answer with
    | failed kind => cases kind <;> exact .nil
    | connected configured acceptedAt =>
      rw [acceptConnections, Attempt.andThen_ok (Attempt.note_result _ _), Attempt.note_state]
      rcases admitConnection_cases registry endpointCount endpointIndex configured acceptedAt r with
        hrejected | ⟨slot', token, hempty, -, -, hadmitted⟩
      · rw [hrejected, Attempt.andThen_ok (Attempt.note_result _ _)]
        exact ih r hfirst
      · rw [hadmitted, Attempt.andThen_ok (Attempt.note_result _ _)]
        have hrest := ih (r.1.setSlot slot' (some (.new r.2 token r.1.limits.commandFrameBytes
          r.1.descriptor.wireVersion acceptedAt)), r.2 + 1) (Nat.le_succ_of_le hfirst)
        by_cases h : slot = slot'
        · subst h
          have hopened : PlaceMove seed firstId (r.1.seen slot) due []
              { r.1.seen slot with
                connection := some (.new r.2 token r.1.limits.commandFrameBytes
                  r.1.descriptor.wireVersion acceptedAt) } due := .opened hempty hfirst
          refine (PlacePath.single hopened).trans ?_
          simpa [Endpoint.seen] using hrest
        · simpa [Endpoint.seen, Endpoint.setSlot_other r.1 _ h] using hrest

lemma acceptConnections_log {endpointCount endpointIndex : Nat} (accepts : List AcceptAnswer)
    (r : Endpoint × Nat) (j : Nat) :
    ∀ report ∈ (acceptConnections registry endpointCount endpointIndex accepts r).log.map
      (AcceptActivity.report (some endpointIndex)), endpointComponents.entry j report = none := by
  intro report hr
  obtain ⟨activity, -, rfl⟩ := List.mem_map.mp hr
  cases activity <;> rfl

lemma follows_acceptAt (endpointIndex : Nat) (accepts : List AcceptAnswer)
    (hfirst : firstId ≤ s.nextConnectionId) :
    Follows firstId i slot due s (s.acceptAt registry endpointIndex accepts) due := by
  intro e he
  unfold acceptAt
  cases hindex : s.endpoints[endpointIndex]? with
  | none => exact ⟨e, he, .nil⟩
  | some e' =>
    simp only [Attempt.lift_state, Attempt.lift_log]
    rw [placeLog_quiet (acceptConnections_log accepts (e', s.nextConnectionId) i)]
    obtain ⟨hlt, -⟩ := List.getElem?_eq_some_iff.mp hindex
    by_cases h : i = endpointIndex
    · subst h
      obtain rfl := Option.some.inj (he.symm.trans hindex)
      exact ⟨_, List.getElem?_set_self hlt,
        path_acceptConnections accepts (e, s.nextConnectionId) hfirst⟩
    · exact ⟨e, (List.getElem?_set_ne (Ne.symm h)).trans he, .nil⟩

/-! ### Inputs -/

/-- Whether an input lets a listener accept. -/
def Accepts (s : Server) : Input → Prop
  | .event event => ∃ j, eventTarget event.token s.endpoints.length = some (.listener j)
  | _ => False

lemma follows_dispatchEvent (event : Event)
    (hfirst : s.Accepts (.event event) → firstId ≤ s.nextConnectionId) :
    Follows firstId i slot due s (s.dispatchEvent registry codec event) due := by
  unfold dispatchEvent
  cases htarget : eventTarget event.token s.endpoints.length with
  | none => exact follows_quiet (quiet_done ())
  | some target =>
    cases target with
    | listener endpointIndex =>
      simp only
      split
      · exact follows_acceptAt endpointIndex event.accepts (hfirst ⟨endpointIndex, htarget⟩)
      · exact follows_quiet (quiet_done ())
    | connection endpointIndex slotIndex connectionId =>
      refine follows_onEndpoint fun e => ?_
      exact Endpoint.follows_onSlot
        (fun context dataFrame => dispatchConnection registry context dataFrame connectionId
          event.readable event.writable event.answers)
        (follows_dispatchConnection connectionId _ _ _) slot
    | managementListener =>
      simp only
      split
      · exact follows_quiet (quiet_acceptManagement event.accepts)
      · exact follows_quiet (quiet_done ())
    | managementConnection slotIndex connectionId =>
      exact follows_quiet (quiet_dispatchManagementConnection _ _ _ _ _)

lemma follows_expireConnections (now : Instant) :
    Follows firstId i slot due s (s.expireConnections registry now) due := by
  obtain ⟨due', rfl, hpath⟩ : ∃ due', due' = due ∧
      Follows firstId i slot due s (s.expireConnections registry now) due' := by
    refine follows_eachEndpoint rfl fun e => ?_
    have hturn : SlotAttempt.Follows s.seed firstId e.toEndpointContext e.dataFrame due
        (e.connections slot) (expireConnection registry now (e.connections slot)) due :=
      follows_expireConnection now
    obtain ⟨due', hdue, hpath⟩ :=
      Endpoint.follows_eachSlot (fun _ _ _ => expireConnection registry now) hturn
    exact ⟨due', or_self_iff.mp hdue, hpath⟩
  exact hpath

/-- The boundary an input emits, if it emits one. -/
def dueBoundary (s : Server) : Input → Option Boundary
  | .boundary answers =>
    match s.scheduler.takeDue answers.now with
    | (none, _) => none
    | (some (sampleIndex, _), _) =>
      match advanceController sampleIndex s.scenarioController with
      | .error _ => none
      | .ok scenarioController =>
        some ((s.atBoundary answers scenarioController).boundaryAt sampleIndex)
  | _ => none

/-- The tick an input hands out at an endpoint, if it hands out one. -/
def dueTick (s : Server) (input : Input) (i : Nat) : Option Tick :=
  (s.dueBoundary input).map fun boundary => boundary.tick (boundary.plan i)

lemma follows_emitEndpoints (boundary : Boundary) (answers : Nat → Slot → Answers) (s : Server) :
    ∃ due', Follows firstId i slot (some (boundary.tick (boundary.plan i))) s
      (s.eachEndpoint fun j =>
        emitEndpoint registry s.seed boundary (boundary.plan j) (answers j)) due' := by
  obtain ⟨due', -, hpath⟩ : ∃ due', True ∧
      Follows firstId i slot (some (boundary.tick (boundary.plan i))) s
        (s.eachEndpoint fun j =>
          emitEndpoint registry s.seed boundary (boundary.plan j) (answers j)) due' := by
    refine follows_eachEndpoint (R := fun _ => True) trivial fun e => ?_
    obtain ⟨due', hpath⟩ := Endpoint.follows_emitEndpoint boundary (boundary.plan i) (answers i)
      e slot
    exact ⟨due', trivial, hpath⟩
  exact ⟨due', hpath⟩

/-- Both passes over the endpoints, in one boundary. -/
lemma follows_emitBoundary (boundary : Boundary) (answers : Nat → Slot → Answers) :
    ∃ due', Follows firstId i slot (some (boundary.tick (boundary.plan i))) s
      (s.emitBoundary registry boundary answers) due' := by
  obtain ⟨_, rfl, hplanned⟩ : ∃ due', due' = some (boundary.tick (boundary.plan i)) ∧
      Follows firstId i slot (some (boundary.tick (boundary.plan i))) s
        (s.eachEndpoint fun j => disconnectAllPlanned registry (boundary.plan j)) due' :=
    follows_eachEndpoint rfl fun e =>
      ⟨_, rfl, Endpoint.follows_disconnectAllPlanned (boundary.plan i) e slot⟩
  have hseed : (s.eachEndpoint fun j =>
      disconnectAllPlanned registry (boundary.plan j)).state.seed = s.seed :=
    congrArg ServerCore.seed
      (eachEndpoint_core (fun j e => disconnectAllPlanned_context (boundary.plan j) e) s)
  exact Follows.andThen hplanned hseed fun _ _ => follows_emitEndpoints boundary answers _

/-- What an input does to a place is a path of the place. -/
theorem path_of_handle (input : Input) (hfirst : s.Accepts input → firstId ≤ s.nextConnectionId) :
    ∃ due', Follows firstId i slot (s.dueTick input i) s (s.handle registry codec input) due' := by
  cases input with
  | event event => exact ⟨_, follows_dispatchEvent event hfirst⟩
  | expire now => exact ⟨_, follows_expireConnections now⟩
  | boundary answers =>
    simp only [handle]
    cases hdue : s.scheduler.takeDue answers.now with
    | mk due scheduler =>
      cases due with
      | none =>
        rw [takeBoundary_of_none (by rw [hdue])]
        exact ⟨_, follows_quiet (quiet_done ())⟩
      | some tick =>
        obtain ⟨sampleIndex, skipped⟩ := tick
        rw [takeBoundary_of_some hdue, Attempt.andThen_ok (Attempt.note_result _ _)]
        cases hadvance : advanceController sampleIndex s.scenarioController with
        | error failure =>
          rw [Attempt.note_state, emitData_of_error (s := { s with scheduler }) hadvance]
          exact ⟨_, fun e he => ⟨e, he, .nil⟩⟩
        | ok c =>
          rw [Attempt.note_state, emitData_of_ok (s := { s with scheduler }) hadvance,
            Attempt.andThen_ok (Attempt.note_result _ _)]
          simp only [dueTick, dueBoundary, hdue, hadvance, Option.map_some]
          obtain ⟨due', hpath⟩ : ∃ due', Follows firstId i slot _ (atBoundary s answers c)
              (emitBoundary registry (boundaryAt sampleIndex (atBoundary s answers c))
                answers.answers (atBoundary { s with scheduler } answers c)) due' :=
            follows_emitBoundary (s := atBoundary { s with scheduler } answers c) _ answers.answers
          exact ⟨due', fun e he => hpath e he⟩

end Registered

end Server

end PmuSimulator

import Mathlib
import PmuSimulator.Foundation.Ledger
import PmuSimulator.Server.Paths

/-!
# Identities of connections

Every connection is opened under the next identifier, and the identifier and the token it is opened
with stay its own until it is closed. So events and frame plans that name a connection that is gone
find nothing to act on.
-/

namespace PmuSimulator

/-! ### One place -/

/-- The connection of a place is the one that was there, or was opened since. -/
lemma PlacePath.identity {seed : UInt64} {firstId : Nat} {v v' : SlotView} {due due' : Option Tick}
    {log : List (Nat × Activity)} (h : PlacePath seed firstId v due log v' due') :
    ∀ c' ∈ v'.connection, (∃ c ∈ v.connection, c'.connectionId = c.connectionId ∧
      c'.token = c.token) ∨ firstId ≤ c'.connectionId := by
  induction h with
  | nil => exact fun c' hc' => .inl ⟨c', hc', rfl, rfl⟩
  | snoc path move ih =>
    cases move with
    | moved holds move =>
      rintro c' ⟨⟩
      obtain ⟨hid, htoken⟩ := move.identity
      rw [hid, htoken]
      exact ih _ holds
    | tick holds idle streams encoded =>
      rintro c' ⟨⟩
      have hc := ih _ holds
      exact hc
    | slow holds streams waits => exact ih
    | closed holds =>
      rintro c' ⟨⟩
    | lost holds =>
      rintro c' ⟨⟩
    | encoded idle encoded => exact ih
    | opened empty fresh =>
      rintro c' ⟨⟩
      exact .inr fresh

namespace Server

/-! ### All places -/

/-- The connection in a slot of an endpoint. -/
def LiveAt (s : Server) (i : Nat) (slot : Slot) (c : Connection) : Prop :=
  ∃ e, s.endpoints[i]? = some e ∧ e.connections slot = some c

/-- Whether some connection has the identifier. -/
def Live (s : Server) (connectionId : Nat) : Prop :=
  ∃ i slot c, s.LiveAt i slot c ∧ c.connectionId = connectionId

lemma live_iff {s : Server} {connectionId : Nat} :
    s.Live connectionId ↔
      (s.endpoints.any fun e => slots.any fun slot => e.holds slot connectionId) = true := by
  simp only [List.any_eq_true, Endpoint.holds, Option.any_eq_true, decide_eq_true_eq]
  constructor
  · rintro ⟨i, slot, c, ⟨e, he, hc⟩, hid⟩
    exact ⟨e, List.mem_of_getElem? he, slot, Endpoint.mem_slots slot, c, hc, hid⟩
  · rintro ⟨e, he, slot, -, c, hc, hid⟩
    obtain ⟨i, hi⟩ := List.getElem?_of_mem he
    exact ⟨i, slot, c, ⟨e, hi, hc⟩, hid⟩

instance (s : Server) (connectionId : Nat) : Decidable (s.Live connectionId) :=
  decidable_of_iff _ live_iff.symm

/-- The identities of a server are in order. -/
structure Routed (s : Server) : Prop where
  positive : 0 < s.nextConnectionId
  below : ∀ {i slot c}, s.LiveAt i slot c →
    0 < c.connectionId ∧ c.connectionId < s.nextConnectionId
  token : ∀ {i slot c}, s.LiveAt i slot c →
    connectionToken s.endpoints.length i slot c.connectionId = .ok c.token
  distinct : ∀ {i slot c i' slot' c'}, s.LiveAt i slot c → s.LiveAt i' slot' c' →
    c.connectionId = c'.connectionId → i = i' ∧ slot = slot'

/-- Every connection of `s'` is in its place in `s`, under the same identity. -/
def Retains (s s' : Server) : Prop :=
  ∀ {i slot c'}, s'.LiveAt i slot c' →
    ∃ c, s.LiveAt i slot c ∧ c'.connectionId = c.connectionId ∧ c'.token = c.token

lemma LiveAt.lt {s : Server} {i : Nat} {slot : Slot} {c : Connection} (h : s.LiveAt i slot c) :
    i < s.endpoints.length := by
  obtain ⟨e, he, -⟩ := h
  exact (List.getElem?_eq_some_iff.mp he).1

/-- The token of a connection leads to it. -/
lemma Routed.decodes {s : Server} (routed : s.Routed) {i : Nat} {slot : Slot} {c : Connection}
    (h : s.LiveAt i slot c) :
    eventTarget c.token s.endpoints.length = some (.connection i slot c.connectionId) :=
  eventTarget_connectionToken h.lt slot.isLt (routed.below h).1 (routed.token h)

lemma Routed.retained {s s' : Server} (routed : s.Routed) (retains : Retains s s')
    (hlength : s'.endpoints.length = s.endpoints.length)
    (hnext : s'.nextConnectionId = s.nextConnectionId) : s'.Routed where
  positive := hnext ▸ routed.positive
  below := by
    intro i slot c' h
    obtain ⟨c, hlive, hid, -⟩ := retains h
    rw [hid, hnext]
    exact routed.below hlive
  token := by
    intro i slot c' h
    obtain ⟨c, hlive, hid, htoken⟩ := retains h
    rw [hid, htoken, hlength]
    exact routed.token hlive
  distinct := by
    intro i slot c' i' slot' d' h h' heq
    obtain ⟨c, hlive, hid, -⟩ := retains h
    obtain ⟨d, hlive', hid', -⟩ := retains h'
    exact routed.distinct hlive hlive' (by rw [← hid, ← hid', heq])

/-! ### Accepts -/

section Opening

variable {s : Server} {i : Nat} {e e' : Endpoint} {slot : Slot} {token next : Nat}

lemma liveAt_set (hi : i < s.endpoints.length) {j : Nat} {slot : Slot} {c : Connection} :
    { s with endpoints := s.endpoints.set i e', nextConnectionId := next }.LiveAt j slot c ↔
      j = i ∧ e'.connections slot = some c ∨ j ≠ i ∧ s.LiveAt j slot c := by
  unfold LiveAt
  by_cases h : j = i
  · subst h
    simp [List.getElem?_set_self hi]
  · simp [List.getElem?_set_ne (Ne.symm h), h]

/-- A connection opened in a free slot under the next identifier. -/
lemma Routed.opened (routed : s.Routed) (he : s.endpoints[i]? = some e)
    (htoken : connectionToken s.endpoints.length i slot s.nextConnectionId = .ok token)
    {c : Connection} (hid : c.connectionId = s.nextConnectionId) (hctoken : c.token = token) :
    { s with
      endpoints := s.endpoints.set i (e.setSlot slot (some c))
      nextConnectionId := s.nextConnectionId + 1 }.Routed := by
  obtain ⟨hi, -⟩ := List.getElem?_eq_some_iff.mp he
  -- a live connection is the new one, or one that was there
  have hcases : ∀ {j slot' c'},
      { s with
        endpoints := s.endpoints.set i (e.setSlot slot (some c))
        nextConnectionId := s.nextConnectionId + 1 }.LiveAt j slot' c' →
      (j = i ∧ slot' = slot ∧ c' = c) ∨ s.LiveAt j slot' c' := by
    intro j slot' c' h
    rcases (liveAt_set hi).mp h with ⟨rfl, hc'⟩ | ⟨-, hlive⟩
    · by_cases hslot : slot' = slot
      · subst hslot
        rw [Endpoint.setSlot_same] at hc'
        exact .inl ⟨rfl, rfl, (Option.some.inj hc').symm⟩
      · rw [Endpoint.setSlot_other e _ hslot] at hc'
        exact .inr ⟨e, he, hc'⟩
    · exact .inr hlive
  refine ⟨Nat.succ_pos _, fun h => ?_, fun h => ?_, fun h h' heq => ?_⟩
  · rcases hcases h with ⟨-, -, rfl⟩ | hlive
    · rw [hid]
      exact ⟨routed.positive, Nat.lt_succ_self _⟩
    · exact ⟨(routed.below hlive).1, Nat.lt_succ_of_lt (routed.below hlive).2⟩
  · rw [List.length_set]
    rcases hcases h with ⟨rfl, rfl, rfl⟩ | hlive
    · rw [hid, hctoken]
      exact htoken
    · exact routed.token hlive
  · rcases hcases h with ⟨rfl, rfl, rfl⟩ | hlive <;> rcases hcases h' with ⟨rfl, rfl, rfl⟩ | hlive'
    · exact ⟨rfl, rfl⟩
    · exact absurd (routed.below hlive').2 (by omega)
    · exact absurd (routed.below hlive).2 (by omega)
    · exact routed.distinct hlive hlive' heq

end Opening

/-! ### Inputs -/

section Registered

variable {registry : Registry} {codec : ManagementCodec} {s : Server}

lemma routed_acceptConnections {s : Server} {i : Nat} (accepts : List AcceptAnswer)
    (r : Endpoint × Nat) (hi : i < s.endpoints.length)
    (routed : { s with endpoints := s.endpoints.set i r.1, nextConnectionId := r.2 }.Routed) :
    { s with
      endpoints := s.endpoints.set i
        (acceptConnections registry s.endpoints.length i accepts r).state.1
      nextConnectionId :=
        (acceptConnections registry s.endpoints.length i accepts r).state.2 }.Routed := by
  induction accepts generalizing r with
  | nil => exact routed
  | cons answer accepts ih =>
    cases answer with
    | failed kind => cases kind <;> exact routed
    | connected configured acceptedAt =>
      rw [acceptConnections, Attempt.andThen_ok (Attempt.note_result _ _), Attempt.note_state]
      rcases admitConnection_cases registry s.endpoints.length i configured acceptedAt r with
        hrejected | ⟨slot, token, -, -, htoken, hadmitted⟩
      · rw [hrejected, Attempt.andThen_ok (Attempt.note_result _ _)]
        exact ih r routed
      · rw [hadmitted, Attempt.andThen_ok (Attempt.note_result _ _)]
        refine ih _ ?_
        have htoken' : connectionToken (s.endpoints.set i r.1).length i slot r.2 = .ok token := by
          rw [List.length_set]
          exact htoken
        have hopened := routed.opened (List.getElem?_set_self hi) htoken'
          (c := .new r.2 token r.1.limits.commandFrameBytes r.1.descriptor.wireVersion acceptedAt)
          rfl rfl
        simpa only [Attempt.note_state, List.set_set] using hopened

lemma routed_acceptAt (routed : s.Routed) (endpointIndex : Nat) (accepts : List AcceptAnswer) :
    (s.acceptAt registry endpointIndex accepts).state.Routed := by
  unfold acceptAt
  cases hindex : s.endpoints[endpointIndex]? with
  | none => exact routed
  | some e =>
    obtain ⟨hi, he⟩ := List.getElem?_eq_some_iff.mp hindex
    refine routed_acceptConnections accepts (e, s.nextConnectionId) hi ?_
    simpa only [← he, List.set_getElem_self] using routed

lemma nextConnectionId_le_acceptConnections {endpointCount endpointIndex : Nat}
    (accepts : List AcceptAnswer) (r : Endpoint × Nat) :
    r.2 ≤ (acceptConnections registry endpointCount endpointIndex accepts r).state.2 := by
  induction accepts generalizing r with
  | nil => exact le_refl r.2
  | cons answer accepts ih =>
    cases answer with
    | failed kind => cases kind <;> exact le_refl r.2
    | connected configured acceptedAt =>
      rw [acceptConnections, Attempt.andThen_ok (Attempt.note_result _ _), Attempt.note_state]
      rcases admitConnection_cases registry endpointCount endpointIndex configured acceptedAt r with
        hrejected | ⟨slot, token, -, -, -, hadmitted⟩
      · rw [hrejected, Attempt.andThen_ok (Attempt.note_result _ _)]
        exact ih r
      · rw [hadmitted, Attempt.andThen_ok (Attempt.note_result _ _)]
        refine (Nat.le_succ r.2).trans ?_
        exact ih (r.1.setSlot slot _, r.2 + 1)

lemma onEndpoint_frame (i : Nat) (attempt : Endpoint → EndpointAttempt Unit) (s : Server) :
    (s.onEndpoint i attempt).state.stats = s.stats ∧
      (s.onEndpoint i attempt).state.nextConnectionId = s.nextConnectionId := by
  unfold onEndpoint
  cases s.endpoints[i]? with
  | none => exact ⟨rfl, rfl⟩
  | some e => exact ⟨rfl, rfl⟩

lemma eachEndpoint_frame (attempt : Nat → Endpoint → EndpointAttempt Unit) (s : Server) :
    (s.eachEndpoint attempt).state.stats = s.stats ∧
      (s.eachEndpoint attempt).state.nextConnectionId = s.nextConnectionId := by
  have hkeeps : (s.eachEndpoint attempt).Keeps (fun s' _ =>
      s'.stats = s.stats ∧ s'.nextConnectionId = s.nextConnectionId) [] := by
    refine .each ⟨rfl, rfl⟩ fun i _ s' before ⟨hstats, hnext⟩ => ?_
    obtain ⟨hstats', hnext'⟩ := onEndpoint_frame i (attempt i) s'
    exact ⟨hstats'.trans hstats, hnext'.trans hnext⟩
  exact hkeeps

lemma emitBoundary_frame (boundary : Boundary) (answers : Nat → Slot → Answers) (s : Server) :
    (s.emitBoundary registry boundary answers).state.stats = s.stats ∧
      (s.emitBoundary registry boundary answers).state.nextConnectionId = s.nextConnectionId := by
  unfold emitBoundary
  obtain ⟨hstats, hnext⟩ :=
    eachEndpoint_frame (fun j => disconnectAllPlanned registry (boundary.plan j)) s
  cases hr : (s.eachEndpoint fun j =>
      disconnectAllPlanned registry (boundary.plan j)).result with
  | error failure =>
    rw [Attempt.andThen_error hr]
    exact ⟨hstats, hnext⟩
  | ok _ =>
    rw [Attempt.andThen_ok hr]
    obtain ⟨hstats', hnext'⟩ := eachEndpoint_frame (fun j => emitEndpoint registry
      (s.eachEndpoint fun j => disconnectAllPlanned registry (boundary.plan j)).state.seed boundary
      (boundary.plan j) (answers j))
      (s.eachEndpoint fun j => disconnectAllPlanned registry (boundary.plan j)).state
    exact ⟨hstats'.trans hstats, hnext'.trans hnext⟩

lemma takeBoundary_frame (answers : BoundaryAnswers) (s : Server) :
    (s.takeBoundary registry answers).state.stats = s.stats ∧
      (s.takeBoundary registry answers).state.nextConnectionId = s.nextConnectionId := by
  cases hdue : s.scheduler.takeDue answers.now with
  | mk due scheduler =>
    cases due with
    | none =>
      rw [takeBoundary_of_none (by rw [hdue])]
      exact ⟨rfl, rfl⟩
    | some tick =>
      obtain ⟨sampleIndex, skipped⟩ := tick
      rw [takeBoundary_of_some hdue, Attempt.andThen_ok (Attempt.note_result _ _)]
      cases hadvance : advanceController sampleIndex s.scenarioController with
      | error failure =>
        rw [Attempt.note_state, emitData_of_error (s := { s with scheduler }) hadvance]
        exact ⟨rfl, rfl⟩
      | ok c =>
        rw [Attempt.note_state, emitData_of_ok (s := { s with scheduler }) hadvance,
          Attempt.andThen_ok (Attempt.note_result _ _)]
        exact emitBoundary_frame _ answers.answers (atBoundary { s with scheduler } answers c)

/-- No input touches the counters, which are counted from the log; only an accept gives out
identifiers. -/
lemma handle_frame (input : Input) (s : Server) :
    (s.handle registry codec input).state.stats = s.stats ∧
      s.nextConnectionId ≤ (s.handle registry codec input).state.nextConnectionId ∧
      (¬ s.Accepts input →
        (s.handle registry codec input).state.nextConnectionId = s.nextConnectionId) := by
  have hsame : ∀ {s' : Server}, s'.stats = s.stats ∧ s'.nextConnectionId = s.nextConnectionId →
      s'.stats = s.stats ∧ s.nextConnectionId ≤ s'.nextConnectionId ∧
        (¬ s.Accepts input → s'.nextConnectionId = s.nextConnectionId) :=
    fun h => ⟨h.1, h.2.ge, fun _ => h.2⟩
  have hquiet : ∀ {p : ServerAttempt Unit}, p.Quiet s →
      p.state.stats = s.stats ∧ p.state.nextConnectionId = s.nextConnectionId :=
    fun h => ⟨h.stats, h.nextConnectionId⟩
  cases input with
  | event event =>
    simp only [handle, dispatchEvent]
    cases htarget : eventTarget event.token s.endpoints.length with
    | none => exact hsame ⟨rfl, rfl⟩
    | some target =>
      cases target with
      | listener i =>
        simp only
        by_cases hreadable : event.readable = true
        · rw [if_pos hreadable, acceptAt]
          cases s.endpoints[i]? with
          | none => exact hsame ⟨rfl, rfl⟩
          | some e =>
            exact ⟨rfl, nextConnectionId_le_acceptConnections _ (e, s.nextConnectionId),
              fun hnot => absurd ⟨i, htarget⟩ hnot⟩
        · rw [if_neg hreadable]
          exact hsame ⟨rfl, rfl⟩
      | connection i slotIndex connectionId => exact hsame (onEndpoint_frame i _ s)
      | managementListener =>
        simp only
        split
        · exact hsame (hquiet (quiet_acceptManagement event.accepts))
        · exact hsame ⟨rfl, rfl⟩
      | managementConnection slotIndex connectionId =>
        exact hsame (hquiet (quiet_dispatchManagementConnection _ _ _ _ _))
  | expire now => exact hsame (eachEndpoint_frame _ s)
  | boundary answers => exact hsame (takeBoundary_frame answers s)

lemma handle_length (input : Input) (s : Server) :
    (s.handle registry codec input).state.endpoints.length = s.endpoints.length := by
  have hcontexts : (s.handle registry codec input).state.core.contexts = s.core.contexts :=
    (handle_core s input).contexts
  simpa [core] using congrArg List.length hcontexts

/-- Along its path in an input, a place keeps its connection, or has one that was opened. -/
lemma liveAt_handle {firstId : Nat} {input : Input}
    (hfirst : s.Accepts input → firstId ≤ s.nextConnectionId) {i : Nat} {slot : Slot}
    {c' : Connection} (h : (s.handle registry codec input).state.LiveAt i slot c') :
    (∃ c, s.LiveAt i slot c ∧ c'.connectionId = c.connectionId ∧ c'.token = c.token) ∨
      firstId ≤ c'.connectionId := by
  have hi : i < s.endpoints.length := by
    rw [← handle_length input s]
    exact h.lt
  obtain ⟨e', he', hc'⟩ := h
  obtain ⟨e, he⟩ : ∃ e, s.endpoints[i]? = some e := ⟨_, List.getElem?_eq_getElem hi⟩
  obtain ⟨due', hfollows⟩ : ∃ due', ServerAttempt.Follows firstId i slot (s.dueTick input i) s
      (s.handle registry codec input) due' := path_of_handle input hfirst
  obtain ⟨e'', he'', hpath⟩ := hfollows e he
  obtain rfl := Option.some.inj (he'.symm.trans he'')
  rcases hpath.identity c' hc' with ⟨c, hc, hid, htoken⟩ | hfresh
  · exact .inl ⟨c, ⟨e, he, hc⟩, hid, htoken⟩
  · exact .inr hfresh

/-- An input keeps the identities in order. -/
lemma routed_handle (routed : s.Routed) (input : Input) :
    (s.handle registry codec input).state.Routed := by
  by_cases haccepts : s.Accepts input
  · cases input with
    | event event =>
      obtain ⟨i, htarget⟩ := haccepts
      simp only [handle, dispatchEvent, htarget]
      split
      · exact routed_acceptAt routed i event.accepts
      · exact routed
    | expire now => exact haccepts.elim
    | boundary answers => exact haccepts.elim
  · refine routed.retained ?_ (handle_length input s) ((handle_frame input s).2.2 haccepts)
    intro i slot c' h
    -- no identifier is given out, so not even the one after its own was
    have hcases : (∃ c, s.LiveAt i slot c ∧ c'.connectionId = c.connectionId ∧
        c'.token = c.token) ∨ c'.connectionId + 1 ≤ c'.connectionId :=
      liveAt_handle (fun h => absurd h haccepts) h
    exact hcases.resolve_right (Nat.not_succ_le_self _)

/-- An identifier that was given out and is not live any more is not live again. -/
lemma live_handle {input : Input} {connectionId : Nat} (hgiven : connectionId < s.nextConnectionId)
    (h : (s.handle registry codec input).state.Live connectionId) : s.Live connectionId := by
  obtain ⟨i, slot, c', hlive, rfl⟩ := h
  rcases liveAt_handle (fun _ => le_refl s.nextConnectionId) hlive with ⟨c, hc, hid, -⟩ | hfresh
  · exact ⟨i, slot, c, hc, hid.symm⟩
  · exact absurd hgiven (Nat.not_lt.mpr hfresh)

end Registered

end Server

/-! ### Runs -/

section Registered

variable {registry : Registry} {codec : ManagementCodec} {l₀ l : EventLoop}
  {h : List (Machine.Taken EventLoop Input (List Report))}

lemma bindEndpoint_connections {limits : Limits} {timestamp : Timestamp}
    {descriptor : EndpointDescriptor} {e : Endpoint}
    (h : bindEndpoint limits timestamp descriptor = .ok e) (slot : Slot) :
    e.connections slot = none := by
  obtain ⟨frames, -, h⟩ := bind_eq_ok.mp h
  obtain rfl := Except.ok.inj h
  rfl

/-- No endpoint has a connection before anything happened. -/
lemma connections_of_started (started : Started l₀) {e : Endpoint} (he : e ∈ l₀.server.endpoints)
    (slot : Slot) : e.connections slot = none := by
  obtain ⟨-, input, hbind⟩ := started
  obtain ⟨first, rest, clock, at₀, endpoints, -, -, -, hendpoints, hserver⟩ := bindInner_ok hbind
  rw [hserver] at he
  obtain ⟨i, hi, rfl⟩ := List.mem_iff_getElem.mp he
  have hbound := forall₂_of_mapM_ok hendpoints
  exact bindEndpoint_connections (hbound.get (hbound.length_eq ▸ hi) hi) slot

lemma started_fresh (started : Started l₀) :
    l₀.server.nextConnectionId = 1 ∧ l₀.server.stats = {} := by
  obtain ⟨-, input, hbind⟩ := started
  obtain ⟨first, rest, clock, at₀, endpoints, -, -, -, -, hserver⟩ := bindInner_ok hbind
  rw [hserver]
  exact ⟨rfl, rfl⟩

lemma routed_of_started (started : Started l₀) : l₀.server.Routed := by
  have hempty : ∀ {i slot c}, ¬ l₀.server.LiveAt i slot c := by
    rintro i slot c ⟨e, he, hc⟩
    rw [connections_of_started started (List.mem_of_getElem? he)] at hc
    cases hc
  refine ⟨?_, fun h => absurd h hempty, fun h => absurd h hempty, fun h => absurd h hempty⟩
  rw [(started_fresh started).1]
  exact Nat.one_pos

/-- The identities are in order in every state of the loop. -/
theorem routed_of_run (started : Started l₀) (run : (eventLoop registry codec).Run l₀ h l) :
    l.server.Routed := by
  refine run.invariant (P := fun l => l.server.Routed) (routed_of_started started) ?_
  intro r input log r' hr hs
  obtain ⟨-, -, rfl⟩ := EventLoop.step_ok hs
  obtain ⟨hpositive, hbelow, htoken, hdistinct⟩ :
      (r.server.handle registry codec input).state.Routed := Server.routed_handle hr input
  exact ⟨hpositive, hbelow, htoken, hdistinct⟩

end Registered

end PmuSimulator

import Mathlib
import PmuSimulator.Server.Histories

/-!
# The turn of a connection

Where an input is handled without a failure, what it comes to on a live connection is an attempt on
that connection alone: `turn_of_handle`. The attempt is made of what the input is to the connection,
and of what its endpoint serves it from; nothing that happens elsewhere has a part in it.

From turns follows a second rule for invariants of runs, `history_of_turns`. Unlike the rule of
moves, it knows of a turn that it came to its end.
-/

namespace PmuSimulator

/-- What an input is to a live connection. -/
inductive Influence where
  | served (readable writable : Bool) (answers : Answers)
  | expired (now : Instant)
  | ticked (tick : Tick) (plan : Option FramePlan) (answers : Answers)

/-- What an input is to the connection of an identifier, if it is anything to it. -/
def Server.influence (s : Server) (input : Input) (i : Nat) (slot : Slot) (connectionId : Nat) :
    Option Influence :=
  match input with
  | .event event =>
    match eventTarget event.token s.endpoints.length with
    | some (.connection j slotIndex connectionId') =>
      if j = i ∧ Fin.ofNat 2 slotIndex = slot ∧ connectionId' = connectionId then
        some (.served event.readable event.writable event.answers)
      else none
    | _ => none
  | .expire now => some (.expired now)
  | .boundary answers =>
    (s.dueBoundary (.boundary answers)).map fun boundary =>
      .ticked (boundary.tick (boundary.plan i)) (boundary.plan i) (answers.answers i slot)

section Registered

variable (registry : Registry)

/-- The first pass of a boundary over one slot. -/
def closePlanned (plan : Option FramePlan) (connection : Option Connection) : SlotAttempt Unit :=
  match plan with
  | none => .done () connection
  | some plan =>
    Attempt.each (closeConnection registry) plan.disconnectPdcConnectionIds connection

/-- The data frame of a tick, encoded and sent to one slot. -/
def sendTurn (context : EndpointContext) (dataFrame : DataFrame) (seed : UInt64) (tick : Tick)
    (omitData : Bool) (answers : Answers) (connection : Option Connection) : SlotAttempt Unit :=
  if omitData then .done () connection
  else
    match encodeDataFrame context seed tick dataFrame with
    | .error _ => .done () connection
    | .ok dataFrame => sendTick registry context dataFrame tick answers connection

/-- The second pass of a boundary over one slot. -/
def emitTurn (context : EndpointContext) (dataFrame : DataFrame) (seed : UInt64) (tick : Tick)
    (plan : Option FramePlan) (answers : Answers) (connection : Option Connection) :
    SlotAttempt Unit :=
  (dropSlow registry connection).andThen fun _ connection =>
    sendTurn registry context dataFrame seed tick (plan.any FramePlan.omitData) answers connection

/-- A boundary on one slot. -/
def tickTurn (context : EndpointContext) (dataFrame : DataFrame) (seed : UInt64) (tick : Tick)
    (plan : Option FramePlan) (answers : Answers) (connection : Option Connection) :
    SlotAttempt Unit :=
  (closePlanned registry plan connection).andThen fun _ connection =>
    emitTurn registry context dataFrame seed tick plan answers connection

/-- What an influence comes to on a connection. -/
def Influence.turn (context : EndpointContext) (dataFrame : DataFrame) (seed : UInt64)
    (c : Connection) : Influence → SlotAttempt Unit
  | served readable writable answers =>
    dispatchConnection registry context dataFrame c.connectionId readable writable answers (some c)
  | expired now => expireConnection registry now (some c)
  | ticked tick plan answers =>
    tickTurn registry context dataFrame seed tick plan answers (some c)

/-- The turn of a connection, where the input may be nothing to it. -/
def turnOf (context : EndpointContext) (dataFrame : DataFrame) (seed : UInt64) (c : Connection) :
    Option Influence → SlotAttempt Unit
  | none => .done () (some c)
  | some influence => influence.turn registry context dataFrame seed c

end Registered

/-! ### Connections that survive a turn -/

section Registered

variable {registry : Registry} {context : EndpointContext} {dataFrame : DataFrame} {seed : UInt64}
  {c c' : Connection}

lemma reregisterConnection_log {writable : Bool}
    (hok : (reregisterConnection registry writable c).result = .ok ()) :
    (reregisterConnection registry writable c).log =
      [.registered (if writable then .readableWritable else .readable)] := by
  simp only [reregisterConnection] at hok ⊢
  cases hr : registry.reregister c.token (if writable then .readableWritable else .readable) with
  | error kind =>
    rw [hr] at hok
    cases hok
  | ok _ => rfl

lemma closeConnection_other {connectionId : Nat} {connection : Option Connection}
    (h : ∀ c ∈ connection, c.connectionId ≠ connectionId) :
    closeConnection registry connectionId connection = .done () connection := by
  cases connection with
  | none => rfl
  | some c => simp only [closeConnection, if_pos (h c rfl)]

lemma closeConnection_own : (closeConnection registry c.connectionId (some c)).state = none := by
  simp only [closeConnection, ne_eq, not_true_eq_false, if_false]
  cases registry.deregister c.token <;> rfl

/-- A connection that a frame plan leaves open has no part in it. -/
lemma closePlanned_survives {plan : Option FramePlan} {connection : Option Connection}
    (h : (closePlanned registry plan connection).state = some c') :
    connection = some c' ∧ (closePlanned registry plan connection).log = [] ∧
      ∀ p ∈ plan, c'.connectionId ∉ p.disconnectPdcConnectionIds := by
  cases plan with
  | none => exact ⟨h, rfl, by simp⟩
  | some plan =>
    simp only [closePlanned, Option.mem_def, Option.some.injEq, forall_eq'] at h ⊢
    generalize plan.disconnectPdcConnectionIds = connectionIds at h ⊢
    induction connectionIds generalizing connection with
    | nil => exact ⟨h, rfl, List.not_mem_nil⟩
    | cons connectionId connectionIds ih =>
      rw [Attempt.each] at h ⊢
      cases hr : (closeConnection registry connectionId connection).result with
      | error failure =>
        rw [Attempt.andThen_error hr] at h
        cases connection with
        | none => cases hr
        | some c =>
          obtain rfl := Option.some.inj (closeConnection_subset connectionId (some c) c' h)
          by_cases hid : c.connectionId = connectionId
          · subst hid
            rw [closeConnection_own] at h
            cases h
          · rw [closeConnection_other fun c₀ hc₀ => Option.some.inj hc₀ ▸ hid] at hr
            cases hr
      | ok _ =>
        rw [Attempt.andThen_ok hr] at h ⊢
        obtain ⟨hstate, hlog, hrest⟩ := ih h
        have hsome := closeConnection_subset connectionId connection c' hstate
        subst hsome
        have hid : c'.connectionId ≠ connectionId := by
          rintro rfl
          rw [closeConnection_own] at hstate
          cases hstate
        refine ⟨rfl, ?_, List.not_mem_cons_of_ne_of_not_mem hid hrest⟩
        rw [hlog, closeConnection_other fun c₀ hc₀ => Option.some.inj hc₀ ▸ hid]
        rfl

lemma dropSlow_survives {connection : Option Connection}
    (h : (dropSlow registry connection).state = some c') :
    connection = some c' ∧ (dropSlow registry connection).log = [] ∧
      (c'.streaming = true → c'.pending.isPending = false) := by
  have hidle := dropSlow_idle c' h
  obtain rfl := dropSlow_subset connection c' h
  rw [dropSlow_of_idle hidle]
  exact ⟨rfl, rfl, hidle⟩

/-- A connection that survives serving is the one that was served, and it is to be kept. -/
lemma keepOrClose_survives {p : ConnectionAttempt Bool}
    (hid : p.state.connectionId = c.connectionId)
    (h : ((p.lift some (c.connectionId, ·)).andThen (keepOrClose registry c.connectionId)).state =
      some c') (hok : ((p.lift some (c.connectionId, ·)).andThen
        (keepOrClose registry c.connectionId)).result = .ok ()) :
    p.result = .ok true ∧ c' = p.state ∧
      ((p.lift some (c.connectionId, ·)).andThen (keepOrClose registry c.connectionId)).log =
        p.log.map (c.connectionId, ·) := by
  obtain ⟨keep, hkeep, -⟩ := Attempt.andThen_result_eq_ok.mp hok
  rw [Attempt.andThen_ok hkeep] at h ⊢
  cases keep with
  | true => exact ⟨hkeep, (Option.some.inj h).symm, List.append_nil _⟩
  | false =>
    simp only [keepOrClose, Attempt.lift_state, ← hid] at h
    rw [if_neg Bool.false_ne_true, closeConnection_own] at h
    cases h

lemma sendTurn_survives {tick : Tick} {omitData : Bool} {answers : Answers}
    {connection : Option Connection}
    (hok : (sendTurn registry context dataFrame seed tick omitData answers connection).result =
      .ok ())
    (h : (sendTurn registry context dataFrame seed tick omitData answers connection).state =
      some c') :
    connection = some c' ∧
        (sendTurn registry context dataFrame seed tick omitData answers connection).log = [] ∨
      ∃ c dataFrame', connection = some c ∧ c.streaming = true ∧
        encodeDataFrame context seed tick dataFrame = .ok dataFrame' ∧
        (sendDataFrame registry context dataFrame' tick answers c).result = .ok true ∧
        c' = (sendDataFrame registry context dataFrame' tick answers c).state ∧
        (sendTurn registry context dataFrame seed tick omitData answers connection).log =
          (sendDataFrame registry context dataFrame' tick answers c).log.map
            (c.connectionId, ·) := by
  unfold sendTurn at hok h ⊢
  cases omitData with
  | true => exact .inl ⟨h, rfl⟩
  | false =>
    simp only [Bool.false_eq_true, if_false] at hok h ⊢
    cases hencode : encodeDataFrame context seed tick dataFrame with
    | error failure =>
      simp only [hencode] at h
      exact .inl ⟨h, rfl⟩
    | ok dataFrame' =>
      simp only [hencode] at hok h ⊢
      cases connection with
      | none => cases h
      | some c =>
        cases hstreams : c.streaming with
        | false =>
          simp only [sendTick, hstreams, Bool.not_false, if_true] at h ⊢
          exact .inl ⟨h, rfl⟩
        | true =>
          right
          simp only [sendTick, hstreams, Bool.not_true, Bool.false_eq_true, if_false,
            onConnection] at hok h ⊢
          have hid : (sendDataFrame registry context dataFrame' tick answers
              c).state.connectionId = c.connectionId := identity_sendDataFrame.1
          obtain ⟨hkept, hstate, hlog⟩ := keepOrClose_survives hid h hok
          exact ⟨c, dataFrame', rfl, hstreams, rfl, hkept, hstate, hlog⟩

/-- A connection that survives its turn was left alone, or served an event or a tick. -/
theorem turn_survives {influence : Influence}
    (hok : (influence.turn registry context dataFrame seed c).result = .ok ())
    (h : (influence.turn registry context dataFrame seed c).state = some c') :
    c' = c ∧ (influence.turn registry context dataFrame seed c).log = [] ∨
    ∃ p : ConnectionAttempt Bool, p.result = .ok true ∧ c' = p.state ∧
      (influence.turn registry context dataFrame seed c).log = p.log.map (c.connectionId, ·) ∧
      ((∃ readable writable answers, influence = .served readable writable answers ∧
          p = serveConnection registry context dataFrame readable writable answers c) ∨
        ∃ tick plan answers dataFrame', influence = .ticked tick plan answers ∧
          c.streaming = true ∧ c.pending.isPending = false ∧
          encodeDataFrame context seed tick dataFrame = .ok dataFrame' ∧
          p = sendDataFrame registry context dataFrame' tick answers c) := by
  cases influence with
  | served readable writable answers =>
    right
    simp only [Influence.turn, dispatchConnection, Option.any_some, decide_true, if_true,
      onConnection] at hok h ⊢
    have hid : (serveConnection registry context dataFrame readable writable answers
        c).state.connectionId = c.connectionId :=
      (moving_serveConnection readable writable answers).identity.1
    obtain ⟨hkept, hstate, hlog⟩ := keepOrClose_survives hid h hok
    exact ⟨_, hkept, hstate, hlog, .inl ⟨_, _, _, rfl, rfl⟩⟩
  | expired now =>
    left
    simp only [Influence.turn, expireConnection] at h ⊢
    split at h
    · rw [closeConnection_own] at h
      cases h
    · rename_i hlive
      rw [if_neg hlive]
      exact ⟨(Option.some.inj h).symm, rfl⟩
  | ticked tick plan answers =>
    simp only [Influence.turn, tickTurn, emitTurn] at hok h ⊢
    obtain ⟨_, hclosed, hok⟩ := Attempt.andThen_result_eq_ok.mp hok
    obtain ⟨_, hdropped, hok⟩ := Attempt.andThen_result_eq_ok.mp hok
    rw [Attempt.andThen_ok hclosed] at h ⊢
    rw [Attempt.andThen_ok hdropped] at h ⊢
    simp only at h hok ⊢
    -- each pass is survived by what survived the one before it
    rcases sendTurn_survives hok h with ⟨hstate, hlog⟩ |
      ⟨c₁, dataFrame', hstate, hstreams, hencoded, hkept, hc', hlog⟩
    · left
      obtain ⟨hstate, hdropped, -⟩ := dropSlow_survives hstate
      obtain ⟨hstate, hclosed, -⟩ := closePlanned_survives hstate
      rw [hlog, hdropped, hclosed]
      exact ⟨(Option.some.inj hstate).symm, rfl⟩
    · right
      obtain ⟨hstate, hdropped, hidle⟩ := dropSlow_survives hstate
      obtain ⟨hstate, hclosed, -⟩ := closePlanned_survives hstate
      obtain rfl := Option.some.inj hstate
      rw [hlog, hdropped, hclosed]
      exact ⟨_, hkept, hc', rfl,
        .inr ⟨tick, plan, answers, dataFrame', rfl, hstreams, hidle hstreams, hencoded, rfl⟩⟩

/-- A connection keeps its identifier in a turn. -/
lemma identity_of_turn {influence : Influence}
    (hok : (influence.turn registry context dataFrame seed c).result = .ok ())
    (h : (influence.turn registry context dataFrame seed c).state = some c') :
    c'.connectionId = c.connectionId := by
  rcases turn_survives hok h with ⟨rfl, -⟩ | ⟨p, -, rfl, -, hkind⟩
  · rfl
  · rcases hkind with ⟨readable, writable, answers, -, rfl⟩ |
      ⟨tick, plan, answers, dataFrame', -, -, -, -, rfl⟩
    · exact (moving_serveConnection readable writable answers).identity.1
    · exact identity_sendDataFrame.1

end Registered

/-! ### Slots of an endpoint -/

/-- At a slot, an attempt on an endpoint comes to the attempt `q`, which succeeds. -/
structure EndpointAttempt.ComesTo (slot : Slot) (p : EndpointAttempt Unit) (q : SlotAttempt Unit) :
    Prop where
  state : p.state.connections slot = q.state
  log : Endpoint.slotLog slot p.log = q.log
  ok : q.result = .ok ()

namespace Endpoint

section Registered

variable {registry : Registry} {e : Endpoint} {slot : Slot}

open EndpointAttempt

lemma ComesTo.andThen {p : EndpointAttempt Unit} {f : Unit → Endpoint → EndpointAttempt Unit}
    {q : SlotAttempt Unit} {g : Unit → Option Connection → SlotAttempt Unit}
    (hp : ComesTo slot p q) (hok : p.result = .ok ())
    (hf : ComesTo slot (f () p.state) (g () q.state)) :
    ComesTo slot (p.andThen f) (q.andThen g) := by
  rw [Attempt.andThen_ok hok, Attempt.andThen_ok hp.ok]
  refine ⟨hf.state, ?_, hf.ok⟩
  rw [slotLog_append, hp.log, hf.log]

/-- No two connections of the endpoint have the same identifier. -/
def Distinct (e : Endpoint) : Prop :=
  ∀ slot slot' c c', e.connections slot = some c → e.connections slot' = some c' →
    c.connectionId = c'.connectionId → slot = slot'

variable (slot) in
lemma comesTo_disconnectPlanned {connectionId : Nat} (distinct : e.Distinct)
    (hok : (disconnectPlanned registry connectionId e).result = .ok ()) :
    ComesTo slot (disconnectPlanned registry connectionId e)
      (closeConnection registry connectionId (e.connections slot)) := by
  unfold disconnectPlanned at hok ⊢
  cases hfind : slots.find? fun slot => e.holds slot connectionId with
  | none =>
    have hnone := List.find?_eq_none.mp hfind slot (mem_slots slot)
    rw [closeConnection_other]
    · exact ⟨rfl, rfl, rfl⟩
    · intro c hc hid
      rw [Option.mem_def] at hc
      simp [holds, hc, hid] at hnone
  | some slot' =>
    simp only [hfind] at hok
    have hown := own_onSlot (fun _ _ => closeConnection registry connectionId) slot' e
    by_cases hslot : slot = slot'
    · subst hslot
      exact ⟨congrArg SlotView.connection hown.here, hown.log.trans (List.map_id _), hok⟩
    · have hholds : e.holds slot' connectionId = true := by simpa using List.find?_some hfind
      obtain ⟨c', hc', hid'⟩ : ∃ c', e.connections slot' = some c' ∧
          c'.connectionId = connectionId := by simpa [holds, Option.any_eq_true] using hholds
      rw [closeConnection_other]
      · exact ⟨congrArg SlotView.connection (hown.elsewhere slot hslot),
          hown.silent slot hslot, rfl⟩
      · intro c hc hid
        exact hslot (distinct slot slot' c c' hc hc' (hid.trans hid'.symm))

lemma comesTo_disconnectAllPlanned {plan : Option FramePlan} (distinct : e.Distinct)
    (hok : (disconnectAllPlanned registry plan e).result = .ok ()) :
    ComesTo slot (disconnectAllPlanned registry plan e)
      (closePlanned registry plan (e.connections slot)) := by
  cases plan with
  | none => exact ⟨rfl, rfl, rfl⟩
  | some plan =>
    simp only [disconnectAllPlanned, closePlanned] at hok ⊢
    generalize plan.disconnectPdcConnectionIds = connectionIds at hok ⊢
    induction connectionIds generalizing e with
    | nil => exact ⟨rfl, rfl, rfl⟩
    | cons connectionId connectionIds ih =>
      rw [Attempt.each, Attempt.andThen_result_eq_ok] at hok
      obtain ⟨_, hfirst, hrest⟩ := hok
      have hclosed := comesTo_disconnectPlanned slot distinct hfirst
      refine ComesTo.andThen hclosed hfirst ?_
      rw [← hclosed.state]
      refine ih (fun slot slot' c c' hc hc' hid => ?_) hrest
      exact distinct slot slot' c c' (disconnectPlanned_subset connectionId e slot c hc)
        (disconnectPlanned_subset connectionId e slot' c' hc') hid

variable (slot) in
lemma comesTo_eachSlot
    (attempt : Slot → EndpointContext → DataFrame → Option Connection → SlotAttempt Unit)
    (hok : (eachSlot attempt e).result = .ok ()) :
    ComesTo slot (eachSlot attempt e)
      (attempt slot e.toEndpointContext e.dataFrame (e.connections slot)) := by
  obtain ⟨hview, hlog⟩ := Attempt.each_touched (own_turn attempt) nodup_slots (mem_slots slot) hok
  have hturns := (Attempt.each_result_ok (own_turn attempt) nodup_slots).mp hok slot
    (mem_slots slot)
  exact ⟨congrArg SlotView.connection hview, hlog.trans (List.map_id _), hturns⟩

variable (slot) in
lemma comesTo_onSlot {slot' : Slot}
    (attempt : EndpointContext → DataFrame → Option Connection → SlotAttempt Unit)
    {q : SlotAttempt Unit}
    (hq : if slot' = slot then q = attempt e.toEndpointContext e.dataFrame (e.connections slot)
      else q = .done () (e.connections slot))
    (hok : (e.onSlot slot' (attempt e.toEndpointContext e.dataFrame)).result = .ok ()) :
    ComesTo slot (e.onSlot slot' (attempt e.toEndpointContext e.dataFrame)) q := by
  have hown := own_onSlot attempt slot' e
  by_cases h : slot' = slot
  · subst h
    rw [if_pos rfl] at hq
    subst hq
    exact ⟨congrArg SlotView.connection hown.here, hown.log.trans (List.map_id _), hok⟩
  · rw [if_neg h] at hq
    subst hq
    exact ⟨congrArg SlotView.connection (hown.elsewhere slot (Ne.symm h)),
      hown.silent slot (Ne.symm h), rfl⟩

/-- A loop over the slots leaves what both are served from alone. -/
lemma eachSlot_served
    (attempt : Slot → EndpointContext → DataFrame → Option Connection → SlotAttempt Unit)
    (e : Endpoint) : (eachSlot attempt e).state.toEndpointContext = e.toEndpointContext ∧
      (eachSlot attempt e).state.dataFrame = e.dataFrame := by
  have hkeeps : (eachSlot attempt e).Keeps (fun e' _ =>
      e'.toEndpointContext = e.toEndpointContext ∧ e'.dataFrame = e.dataFrame) [] :=
    .each ⟨rfl, rfl⟩ fun slot _ e' _ he' => he'
  exact hkeeps

lemma sendTick_idle {context : EndpointContext} {dataFrame : DataFrame} {tick : Tick}
    {answers : Answers} {connection : Option Connection}
    (h : ∀ c ∈ connection, c.streaming = false) :
    sendTick registry context dataFrame tick answers connection = .done () connection := by
  cases connection with
  | none => rfl
  | some c => simp [sendTick, h c rfl]

lemma streaming_of_anyStreaming (h : e.anyStreaming = false) {c : Connection}
    (hc : e.connections slot = some c) : c.streaming = false := by
  have hslot := List.any_eq_false.mp h slot (mem_slots slot)
  simpa [hc] using hslot

variable (slot) in
lemma comesTo_emitTick {seed : UInt64} {tick : Tick} {omitData : Bool} {answers : Slot → Answers}
    (hok : (emitTick registry seed tick omitData answers e).result = .ok ()) :
    ComesTo slot (emitTick registry seed tick omitData answers e)
      (sendTurn registry e.toEndpointContext e.dataFrame seed tick omitData (answers slot)
        (e.connections slot)) := by
  unfold emitTick at hok ⊢
  unfold sendTurn
  cases hany : e.anyStreaming with
  | false =>
    simp only [Bool.not_false, if_true]
    have hidle : ∀ c ∈ e.connections slot, c.streaming = false :=
      fun c hc => streaming_of_anyStreaming hany hc
    split_ifs
    · exact ⟨rfl, rfl, rfl⟩
    · cases encodeDataFrame e.toEndpointContext seed tick e.dataFrame with
      | error failure => exact ⟨rfl, rfl, rfl⟩
      | ok dataFrame =>
        simp only [sendTick_idle hidle]
        exact ⟨rfl, rfl, rfl⟩
  | true =>
    simp only [hany, Bool.not_true, Bool.false_eq_true, if_false] at hok ⊢
    cases omitData with
    | true => exact ⟨rfl, rfl, rfl⟩
    | false =>
      simp only [Bool.false_eq_true, if_false] at hok ⊢
      cases hencode : encodeDataFrame e.toEndpointContext seed tick e.dataFrame with
      | error failure =>
        rw [hencode] at hok
        cases hok
      | ok dataFrame =>
        simp only [hencode] at hok
        exact comesTo_eachSlot (e := { e with dataFrame }) slot (fun slot context dataFrame =>
          sendTick registry context dataFrame tick (answers slot)) hok

/-- The second pass of a boundary. -/
lemma comesTo_emitEndpoint {seed : UInt64} {boundary : Boundary} {plan : Option FramePlan}
    {answers : Slot → Answers}
    (hok : (emitEndpoint registry seed boundary plan answers e).result = .ok ()) :
    ComesTo slot (emitEndpoint registry seed boundary plan answers e)
      (emitTurn registry e.toEndpointContext e.dataFrame seed (boundary.tick plan) plan
        (answers slot) (e.connections slot)) := by
  unfold emitEndpoint at hok ⊢
  obtain ⟨_, hdropped, hemitted⟩ := Attempt.andThen_result_eq_ok.mp hok
  have hslow : ComesTo slot (Attempt.each (fun slot e => e.onSlot slot (dropSlow registry)) slots e)
      (dropSlow registry (e.connections slot)) :=
    comesTo_eachSlot slot (fun _ _ _ => dropSlow registry) hdropped
  refine ComesTo.andThen hslow hdropped ?_
  obtain ⟨hcontext, hdataFrame⟩ := eachSlot_served (fun _ _ _ => dropSlow registry) e
  have htick := comesTo_emitTick slot hemitted
  rw [hslow.state] at htick
  unfold eachSlot at hcontext hdataFrame
  rw [hcontext, hdataFrame] at htick
  exact htick

end Registered

end Endpoint

/-! ### Places of the server -/

/-- At a place, an attempt on the server comes to the attempt `q`, which succeeds. -/
structure ServerAttempt.ComesTo (i : Nat) (slot : Slot) (p : ServerAttempt Unit)
    (q : SlotAttempt Unit) : Prop where
  state : ∀ e', p.state.endpoints[i]? = some e' → e'.connections slot = q.state
  log : Server.placeLog i slot p.log = q.log
  ok : q.result = .ok ()

namespace Server

section Registered

variable {registry : Registry} {codec : ManagementCodec} {s : Server} {i : Nat} {e : Endpoint}
  {slot : Slot}

open ServerAttempt

variable (slot) in
lemma comesTo_quiet {p : ServerAttempt Unit} (h : Quiet s p) (he : s.endpoints[i]? = some e) :
    ComesTo i slot p (.done () (e.connections slot)) := by
  refine ⟨fun e' he' => ?_, ?_, rfl⟩
  · rw [h.endpoints] at he'
    obtain rfl := Option.some.inj (he.symm.trans he')
    rfl
  · exact placeLog_quiet fun report hr => endpointComponents_ofManagement (h.log report hr) i

/-- An attempt on one endpoint. -/
lemma comesTo_onEndpoint {attempt : Endpoint → EndpointAttempt Unit} {j : Nat}
    {q : SlotAttempt Unit} (he : s.endpoints[i]? = some e)
    (hq : if j = i then (attempt e).result = .ok () → EndpointAttempt.ComesTo slot (attempt e) q
      else q = .done () (e.connections slot))
    (hok : (s.onEndpoint j attempt).result = .ok ()) :
    ComesTo i slot (s.onEndpoint j attempt) q := by
  have hown := own_onEndpoint attempt j s
  by_cases h : i = j
  · subst h
    rw [if_pos rfl] at hq
    have hview := hown.here
    have hlog := hown.log
    have hresult := hown.result
    simp only [endpointComponents, he, onOption, Attempt.lift_state] at hview
    simp only [he, onOption, Attempt.lift_log, List.map_id] at hlog
    simp only [he, onOption, Attempt.lift_result] at hresult
    have hcomes := hq (hresult.symm.trans hok)
    refine ⟨fun e' he' => ?_, ?_, hcomes.ok⟩
    · obtain rfl := Option.some.inj (hview.symm.trans he')
      exact hcomes.state
    · rw [placeLog, hlog]
      exact hcomes.log
  · rw [if_neg (Ne.symm h)] at hq
    subst hq
    have hview := hown.elsewhere i h
    simp only [endpointComponents] at hview
    refine ⟨fun e' he' => ?_, ?_, rfl⟩
    · rw [hview] at he'
      obtain rfl := Option.some.inj (he.symm.trans he')
      rfl
    · rw [placeLog, hown.silent i h]
      rfl

variable (slot) in
/-- A loop over the endpoints. -/
lemma comesTo_eachEndpoint {attempt : Nat → Endpoint → EndpointAttempt Unit}
    {q : SlotAttempt Unit} (he : s.endpoints[i]? = some e)
    (hq : (attempt i e).result = .ok () → EndpointAttempt.ComesTo slot (attempt i e) q)
    (hok : (s.eachEndpoint attempt).result = .ok ()) :
    ComesTo i slot (s.eachEndpoint attempt) q ∧
      (s.eachEndpoint attempt).state.endpoints[i]? = some (attempt i e).state := by
  obtain ⟨hi, -⟩ := List.getElem?_eq_some_iff.mp he
  obtain ⟨hview, hlog⟩ := Attempt.each_touched (fun j s => own_onEndpoint (attempt j) j s)
    List.nodup_range (List.mem_range.mpr hi) hok
  have hresult := (Attempt.each_result_ok (fun j s => own_onEndpoint (attempt j) j s)
    List.nodup_range).mp hok i (List.mem_range.mpr hi)
  simp only [endpointComponents, he, onOption, Attempt.lift_state, Attempt.lift_log,
    Attempt.lift_result, List.map_id] at hview hlog hresult
  have hcomes := hq hresult
  refine ⟨⟨fun e' he' => ?_, ?_, hcomes.ok⟩, hview⟩
  · obtain rfl := Option.some.inj (hview.symm.trans he')
    exact hcomes.state
  · rw [placeLog, endpointComponents, eachEndpoint, hlog]
    exact hcomes.log

lemma ComesTo.andThen {p : ServerAttempt Unit} {f : Unit → Server → ServerAttempt Unit}
    {q : SlotAttempt Unit} {g : Unit → Option Connection → SlotAttempt Unit}
    (hp : ComesTo i slot p q) (hok : p.result = .ok ())
    (hf : ComesTo i slot (f () p.state) (g () q.state)) :
    ComesTo i slot (p.andThen f) (q.andThen g) := by
  rw [Attempt.andThen_ok hok, Attempt.andThen_ok hp.ok]
  refine ⟨hf.state, ?_, hf.ok⟩
  rw [placeLog_append, hp.log, hf.log]

lemma disconnectAllPlanned_dataFrame (plan : Option FramePlan) (e : Endpoint) :
    (disconnectAllPlanned registry plan e).state.dataFrame = e.dataFrame := by
  cases plan with
  | none => rfl
  | some plan =>
    have hkeeps : (disconnectAllPlanned registry (some plan) e).Keeps
        (fun e' _ => e'.dataFrame = e.dataFrame) [] := by
      refine .each rfl fun connectionId _ e' _ he' => ?_
      refine Eq.trans ?_ he'
      unfold disconnectPlanned
      cases slots.find? fun slot => e'.holds slot connectionId with
      | none => rfl
      | some slot => rfl
    exact hkeeps

variable (slot) in
/-- A boundary at a place, with the data frame it leaves. -/
lemma comesTo_emitBoundary {boundary : Boundary} {answers : Nat → Slot → Answers}
    (he : s.endpoints[i]? = some e) (distinct : e.Distinct)
    (hok : (s.emitBoundary registry boundary answers).result = .ok ()) :
    ComesTo i slot (s.emitBoundary registry boundary answers)
        (tickTurn registry e.toEndpointContext e.dataFrame s.seed (boundary.tick (boundary.plan i))
          (boundary.plan i) (answers i slot) (e.connections slot)) ∧
      (s.emitBoundary registry boundary answers).state.endpoints[i]? =
        some (emitEndpoint registry s.seed boundary (boundary.plan i) (answers i)
          (disconnectAllPlanned registry (boundary.plan i) e).state).state := by
  unfold emitBoundary at hok ⊢
  obtain ⟨_, hplanned, hemitted⟩ := Attempt.andThen_result_eq_ok.mp hok
  obtain ⟨hclosed, he₁⟩ := comesTo_eachEndpoint slot he
    (fun hok => Endpoint.comesTo_disconnectAllPlanned distinct hok) hplanned
  have hseed : (s.eachEndpoint fun j =>
      disconnectAllPlanned registry (boundary.plan j)).state.seed = s.seed :=
    congrArg ServerCore.seed
      (eachEndpoint_core (fun j e => disconnectAllPlanned_context (boundary.plan j) e) s)
  have hconnection := hclosed.state _ he₁
  generalize (s.eachEndpoint fun j =>
    disconnectAllPlanned registry (boundary.plan j)) = first at *
  obtain ⟨hemit, he₂⟩ := comesTo_eachEndpoint slot he₁
    (fun hok => Endpoint.comesTo_emitEndpoint hok) hemitted
  rw [disconnectAllPlanned_context, disconnectAllPlanned_dataFrame, hconnection, hseed]
    at hemit
  constructor
  · refine ComesTo.andThen hclosed hplanned ?_
    rw [hseed]
    exact hemit
  · rw [Attempt.andThen_ok hplanned]
    rw [hseed] at he₂ ⊢
    exact he₂

/-- Accepts leave a slot alone, or open a connection in it where it is empty. -/
lemma opened_acceptConnections {endpointCount endpointIndex : Nat} (accepts : List AcceptAnswer)
    (r : Endpoint × Nat) (slot : Slot) :
    (acceptConnections registry endpointCount endpointIndex accepts r).state.1.connections slot =
        r.1.connections slot ∨
      r.1.connections slot = none ∧ ∃ connectionId token acceptedAt, r.2 ≤ connectionId ∧
        (acceptConnections registry endpointCount endpointIndex accepts r).state.1.connections slot =
          some (.new connectionId token r.1.limits.commandFrameBytes r.1.descriptor.wireVersion
            acceptedAt) := by
  induction accepts generalizing r with
  | nil => exact .inl rfl
  | cons answer accepts ih =>
    cases answer with
    | failed kind => cases kind <;> exact .inl rfl
    | connected configured acceptedAt =>
      rw [acceptConnections, Attempt.andThen_ok (Attempt.note_result _ _), Attempt.note_state]
      rcases admitConnection_cases registry endpointCount endpointIndex configured acceptedAt r with
        hrejected | ⟨slot', token, hempty, -, -, hadmitted⟩
      · rw [hrejected, Attempt.andThen_ok (Attempt.note_result _ _)]
        exact ih r
      · rw [hadmitted, Attempt.andThen_ok (Attempt.note_result _ _)]
        have hrest := ih (r.1.setSlot slot' (some (.new r.2 token r.1.limits.commandFrameBytes
          r.1.descriptor.wireVersion acceptedAt)), r.2 + 1)
        by_cases hslot : slot = slot'
        · subst hslot
          rw [Endpoint.setSlot_same] at hrest
          rcases hrest with hkept | ⟨hnone, -⟩
          · exact .inr ⟨hempty, r.2, token, acceptedAt, le_refl _, hkept⟩
          · cases hnone
        · rw [Endpoint.setSlot_other r.1 _ hslot] at hrest
          rcases hrest with hkept | ⟨hnone, connectionId, token', at', hle, hopened⟩
          · exact .inl hkept
          · exact .inr ⟨hnone, connectionId, token', at', Nat.le_of_succ_le hle, hopened⟩

variable (slot) in
lemma opened_acceptAt {endpointIndex : Nat} {accepts : List AcceptAnswer} {e' : Endpoint}
    (he : s.endpoints[i]? = some e)
    (he' : (s.acceptAt registry endpointIndex accepts).state.endpoints[i]? = some e') :
    e'.connections slot = e.connections slot ∨
      e.connections slot = none ∧ ∃ connectionId token acceptedAt,
        s.nextConnectionId ≤ connectionId ∧
        e'.connections slot = some (.new connectionId token e.limits.commandFrameBytes
          e.descriptor.wireVersion acceptedAt) := by
  unfold acceptAt at he'
  cases hindex : s.endpoints[endpointIndex]? with
  | none =>
    simp only [hindex, Attempt.failed_state] at he'
    obtain rfl := Option.some.inj (he.symm.trans he')
    exact .inl rfl
  | some e₀ =>
    simp only [hindex, Attempt.lift_state] at he'
    obtain ⟨hlt, -⟩ := List.getElem?_eq_some_iff.mp hindex
    by_cases h : i = endpointIndex
    · subst h
      obtain rfl := Option.some.inj (he.symm.trans hindex)
      rw [List.getElem?_set_self hlt] at he'
      obtain rfl := Option.some.inj he'
      exact opened_acceptConnections accepts (e, s.nextConnectionId) slot
    · rw [List.getElem?_set_ne (Ne.symm h)] at he'
      obtain rfl := Option.some.inj (he.symm.trans he')
      exact .inl rfl

lemma comesTo_acceptAt {endpointIndex : Nat} {accepts : List AcceptAnswer} {c : Connection}
    (he : s.endpoints[i]? = some e) (hc : e.connections slot = some c) :
    ComesTo i slot (s.acceptAt registry endpointIndex accepts) (.done () (some c)) := by
  refine ⟨fun e' he' => ?_, ?_, rfl⟩
  · rcases opened_acceptAt slot he he' with hkept | ⟨hnone, -⟩
    · exact hkept.trans hc
    · cases hnone.symm.trans hc
  · unfold acceptAt
    cases s.endpoints[endpointIndex]? with
    | none => rfl
    | some e => exact placeLog_quiet (acceptConnections_log accepts (e, s.nextConnectionId) i)

lemma Routed.distinct_at (routed : s.Routed) (he : s.endpoints[i]? = some e) : e.Distinct :=
  fun _ _ _ _ hc hc' hid => (routed.distinct ⟨e, he, hc⟩ ⟨e, he, hc'⟩ hid).2

/-- A look at the scheduler that does not fail: no boundary is due, or one is emitted. -/
lemma takeBoundary_ok {answers : BoundaryAnswers}
    (hok : (s.takeBoundary registry answers).result = .ok ()) :
    s.dueBoundary (.boundary answers) = none ∧ s.takeBoundary registry answers = .done () s ∨
    ∃ (boundary : Boundary) (skipped : Nat) (s' : Server), s.dueBoundary (.boundary answers) = some boundary ∧
      s'.endpoints = s.endpoints ∧ s'.seed = s.seed ∧
      s.takeBoundary registry answers =
        ⟨.ok (), (s'.emitBoundary registry boundary answers.answers).state,
          .counter .skippedTicks skipped :: .boundary boundary ::
            (s'.emitBoundary registry boundary answers.answers).log⟩ ∧
      (s'.emitBoundary registry boundary answers.answers).result = .ok () := by
  simp only [dueBoundary]
  cases hdue : s.scheduler.takeDue answers.now with
  | mk due scheduler =>
    cases due with
    | none => exact .inl ⟨rfl, takeBoundary_of_none (by rw [hdue])⟩
    | some tick =>
      obtain ⟨sampleIndex, skipped⟩ := tick
      right
      rw [takeBoundary_of_some hdue, Attempt.andThen_ok (Attempt.note_result _ _)] at hok ⊢
      simp only [Attempt.note_state, Attempt.note_log] at hok ⊢
      cases hadvance : advanceController sampleIndex s.scenarioController with
      | error failure =>
        rw [emitData_of_error (s := { s with scheduler }) hadvance] at hok
        cases hok
      | ok controller =>
        rw [emitData_of_ok (s := { s with scheduler }) hadvance,
          Attempt.andThen_ok (Attempt.note_result _ _)] at hok ⊢
        simp only [Attempt.note_state, Attempt.note_log] at hok ⊢
        refine ⟨_, skipped, atBoundary { s with scheduler } answers controller, rfl, rfl, rfl, ?_,
          hok⟩
        rw [hok]
        rfl

lemma comesTo_takeBoundary {answers : BoundaryAnswers} {c : Connection}
    (he : s.endpoints[i]? = some e) (hc : e.connections slot = some c) (distinct : e.Distinct)
    (hok : (s.takeBoundary registry answers).result = .ok ()) :
    ComesTo i slot (s.takeBoundary registry answers)
      (turnOf registry e.toEndpointContext e.dataFrame s.seed c
        (s.influence (.boundary answers) i slot c.connectionId)) := by
  rcases takeBoundary_ok hok with ⟨hdue, hsame⟩ |
    ⟨boundary, skipped, s', hdue, hendpoints, hseed, hemits, hemitted⟩
  · rw [hsame, influence, hdue]
    have hquiet := comesTo_quiet slot (quiet_done (s := s) ()) he
    rw [hc] at hquiet
    exact hquiet
  · obtain ⟨hcomes, -⟩ := comesTo_emitBoundary slot (hendpoints ▸ he) distinct hemitted
    rw [hc, hseed] at hcomes
    rw [hemits, influence, hdue]
    exact ⟨hcomes.state, hcomes.log, hcomes.ok⟩

/-- Where an input is handled without a failure, what it comes to on a live connection is the turn
of that connection. -/
theorem turn_of_handle {c : Connection} (routed : s.Routed) (input : Input)
    (he : s.endpoints[i]? = some e) (hc : e.connections slot = some c)
    (hok : (s.handle registry codec input).result = .ok ()) :
    ComesTo i slot (s.handle registry codec input)
      (turnOf registry e.toEndpointContext e.dataFrame s.seed c
        (s.influence input i slot c.connectionId)) := by
  have hnothing : ∀ {p : ServerAttempt Unit}, Quiet s p → ComesTo i slot p (.done () (some c)) := by
    intro p hp
    rw [← hc]
    exact comesTo_quiet slot hp he
  cases input with
  | event event =>
    simp only [handle, dispatchEvent, influence] at hok ⊢
    cases htarget : eventTarget event.token s.endpoints.length with
    | none => exact hnothing (quiet_done ())
    | some target =>
      simp only [htarget] at hok ⊢
      cases target with
      | listener j =>
        simp only at hok ⊢
        split
        · exact comesTo_acceptAt he hc
        · exact hnothing (quiet_done ())
      | connection j slotIndex connectionId =>
        refine comesTo_onEndpoint he ?_ hok
        by_cases hj : j = i
        · subst hj
          rw [if_pos rfl]
          refine fun hok => Endpoint.comesTo_onSlot slot (fun context dataFrame =>
            dispatchConnection registry context dataFrame connectionId event.readable
              event.writable event.answers) ?_ hok
          by_cases hslot : Fin.ofNat 2 slotIndex = slot
          · rw [if_pos hslot, hc]
            by_cases hid : connectionId = c.connectionId
            · simp only [hslot, hid, and_self, if_true]
              rfl
            · simp only [hid, and_false, if_false]
              simp [turnOf, dispatchConnection, Ne.symm hid]
          · rw [if_neg hslot, hc]
            simp only [hslot, false_and, and_false, if_false]
            rfl
        · rw [if_neg hj, hc]
          simp only [hj, false_and, if_false]
          rfl
      | managementListener =>
        simp only at hok ⊢
        split
        · exact hnothing (quiet_acceptManagement event.accepts)
        · exact hnothing (quiet_done ())
      | managementConnection slotIndex connectionId =>
        exact hnothing (quiet_dispatchManagementConnection _ _ _ _ _)
  | expire now =>
    obtain ⟨hcomes, -⟩ := comesTo_eachEndpoint slot he
      (fun hok => Endpoint.comesTo_eachSlot slot (fun _ _ _ => expireConnection registry now)
        hok) hok
    rw [hc] at hcomes
    exact hcomes
  | boundary answers => exact comesTo_takeBoundary he hc (routed.distinct_at he) hok

end Registered

end Server

/-! ### Runs -/

section Registered

variable {registry : Registry} {codec : ManagementCodec} {l₀ l : EventLoop}
  {h : List (Machine.Taken EventLoop Input (List Report))} {i : Nat} {slot : Slot}

/-- A step that does not end the loop comes to the turn of every live connection. -/
lemma turn_of_step {r r' : EventLoop} {input : Input} {log : List Report}
    (hs : (eventLoop registry codec).step r input = .ok (log, r')) (hrunning : r'.ended = none)
    (routed : r.server.Routed) {e e' : Endpoint} (he : r.server.endpoints[i]? = some e)
    (he' : r'.server.endpoints[i]? = some e') {c : Connection} (hc : e.connections slot = some c) :
    let turn := turnOf registry e.toEndpointContext e.dataFrame r.server.seed c
      (r.server.influence input i slot c.connectionId)
    e'.connections slot = turn.state ∧ Server.placeLog i slot log = turn.log ∧
      turn.result = .ok () := by
  obtain ⟨-, rfl, rfl⟩ := EventLoop.step_ok hs
  cases hok : (r.server.handle registry codec input).result with
  | error failure =>
    simp only [hok, failureOf] at hrunning
    cases hrunning
  | ok _ =>
    have hcomes := Server.turn_of_handle routed input he hc hok
    exact ⟨hcomes.state e' he', hcomes.log, hcomes.ok⟩

lemma contexts_of_run (run : (eventLoop registry codec).Run l₀ h l) :
    l.server.core.contexts = l₀.server.core.contexts := by
  refine run.invariant (P := fun l => l.server.core.contexts = l₀.server.core.contexts) rfl ?_
  intro r input log r' hr hs
  exact (EventLoop.step_core hs).contexts.trans hr

/-- Where a step finds a slot empty and leaves a connection in it, the connection was opened, and
nothing was logged. -/
lemma opened_of_step {r r' : EventLoop} {input : Input} {log : List Report}
    (hs : (eventLoop registry codec).step r input = .ok (log, r')) {e e' : Endpoint}
    (he : r.server.endpoints[i]? = some e) (he' : r'.server.endpoints[i]? = some e')
    (hempty : e.connections slot = none) {c' : Connection} (hc' : e'.connections slot = some c') :
    Server.placeLog i slot log = [] ∧ ∃ connectionId token acceptedAt,
      r.server.nextConnectionId ≤ connectionId ∧
      c' = .new connectionId token e.limits.commandFrameBytes e.descriptor.wireVersion
        acceptedAt := by
  obtain ⟨-, rfl, rfl⟩ := EventLoop.step_ok hs
  change (r.server.handle registry codec input).state.endpoints[i]? = some e' at he'
  by_cases haccepts : r.server.Accepts input
  · refine ⟨placeLog_of_accepts haccepts, ?_⟩
    cases input with
    | event event =>
      obtain ⟨j, htarget⟩ := haccepts
      simp only [Server.handle, Server.dispatchEvent, htarget] at he'
      by_cases hreadable : event.readable = true
      · rw [if_pos hreadable] at he'
        rcases Server.opened_acceptAt slot he he' with hkept | ⟨-, hopened⟩
        · cases hempty.symm.trans (hkept.symm.trans hc')
        · obtain ⟨connectionId, token, acceptedAt, hle, hnew⟩ := hopened
          exact ⟨connectionId, token, acceptedAt, hle, Option.some.inj (hc'.symm.trans hnew)⟩
      · rw [if_neg hreadable] at he'
        obtain rfl := Option.some.inj (he.symm.trans he')
        cases hempty.symm.trans hc'
    | expire now => exact haccepts.elim
    | boundary answers => exact haccepts.elim
  · have hlive : (r.server.handle registry codec input).state.LiveAt i slot c' := ⟨e', he', hc'⟩
    have hcases : (∃ c, r.server.LiveAt i slot c ∧ c'.connectionId = c.connectionId ∧
        c'.token = c.token) ∨ c'.connectionId + 1 ≤ c'.connectionId :=
      Server.liveAt_handle (fun h => absurd h haccepts) hlive
    obtain ⟨c, ⟨e₀, he₀, hc⟩, -⟩ := hcases.resolve_right (Nat.not_succ_le_self _)
    obtain rfl := Option.some.inj (he.symm.trans he₀)
    cases hempty.symm.trans hc

/-- An invariant of turns is an invariant of the history of every live connection. -/
theorem history_of_turns {I : EndpointContext → Connection → List Activity → Prop}
    (started : Started l₀) (run : (eventLoop registry codec).Run l₀ h l)
    (hopen : ∀ context ∈ l₀.server.core.contexts, ∀ connectionId token acceptedAt,
      I context (.new connectionId token context.limits.commandFrameBytes
        context.descriptor.wireVersion acceptedAt) [])
    (hturn : ∀ context ∈ l₀.server.core.contexts, ∀ {dataFrame c log} {influence : Influence},
      I context c log →
      (influence.turn registry context dataFrame l₀.server.seed c).result = .ok () →
      ∀ c' ∈ (influence.turn registry context dataFrame l₀.server.seed c).state,
        c'.connectionId = c.connectionId ∧ I context c' (log ++ connectionLog c.connectionId
          (influence.turn registry context dataFrame l₀.server.seed c).log))
    (running : l.ended = none) {e : Endpoint} (he : l.server.endpoints[i]? = some e)
    {c : Connection} (hc : e.connections slot = some c) :
    I e.toEndpointContext c (connectionLog c.connectionId (placeHistory i slot h)) := by
  refine run.history (P := fun h l => l.ended = none → ∀ e, l.server.endpoints[i]? = some e →
    ∀ c, e.connections slot = some c →
      I e.toEndpointContext c (connectionLog c.connectionId (placeHistory i slot h))) ?_ ?_
    running e he c hc
  · intro _ e he c hc
    cases (connections_of_started started (List.mem_of_getElem? he) slot).symm.trans hc
  · intro h r input log r' run hr hs hrunning e' he' c' hc'
    obtain ⟨e, he⟩ := endpoint_of_step hs he'
    have hcontext : e'.toEndpointContext = e.toEndpointContext := by
      have hcontexts := (EventLoop.step_core hs).contexts
      have hat := congrArg (·[i]?) hcontexts
      simpa [Server.core, he, he'] using hat
    have hmem : e.toEndpointContext ∈ l₀.server.core.contexts := by
      rw [← contexts_of_run run]
      exact List.mem_map_of_mem (List.mem_of_getElem? he)
    rw [placeHistory_snoc, connectionLog_append, hcontext]
    cases hempty : e.connections slot with
    | none =>
      obtain ⟨hlog, connectionId, token, acceptedAt, hle, rfl⟩ :=
        opened_of_step hs he he' hempty hc'
      rw [hlog, connectionLog_nil, List.append_nil, connectionLog_fresh]
      · exact hopen e.toEndpointContext hmem connectionId token acceptedAt
      · exact fun entry hentry =>
          Nat.lt_of_lt_of_le (placeHistory_below started run he entry hentry) hle
    | some c =>
      obtain ⟨hstate, hlog, hok⟩ :=
        turn_of_step hs hrunning (routed_of_run started run) he he' hempty
      rw [hlog]
      rw [hc'] at hstate
      have hrunning' := (EventLoop.step_ok hs).1
      have hI := hr hrunning' e he c hempty
      cases hinfluence : r.server.influence input i slot c.connectionId with
      | none =>
        rw [hinfluence] at hstate
        obtain rfl := Option.some.inj hstate
        simpa [turnOf] using hI
      | some influence =>
        rw [hinfluence] at hstate hok
        rw [seed_of_run run] at hstate hok ⊢
        obtain ⟨hid, hI'⟩ := hturn e.toEndpointContext hmem hI hok c' hstate.symm
        rw [hid]
        exact hI'

end Registered

end PmuSimulator

import Mathlib
import PmuSimulator.Foundation.Ledger
import PmuSimulator.Server.Identity

/-!
# Routing of events

Every connection that is opened is counted, and counted again when it is closed. What names a
connection that is gone, an event that comes late or a frame plan, reaches nothing: not the
connection that has its slot now.
-/

namespace PmuSimulator

/-! ### Counters -/

/-- The counter of an index. -/
def ServerStats.at (stats : ServerStats) : Counter → Nat
  | .acceptedClients => stats.acceptedClients
  | .closedClients => stats.closedClients
  | .rejectedClients => stats.rejectedClients
  | .malformedCommands => stats.malformedCommands
  | .unsupportedCommands => stats.unsupportedCommands
  | .slowClients => stats.slowClients
  | .sentDataFrames => stats.sentDataFrames
  | .skippedTicks => stats.skippedTicks

/-- How often an activity counts. -/
def Activity.counts (counter : Counter) : Activity → Nat
  | .counted other => if other = counter then 1 else 0
  | _ => 0

def AcceptActivity.counts (counter : Counter) : AcceptActivity → Nat
  | called _ => 0
  | counted other => if other = counter then 1 else 0

def Report.counts (counter : Counter) : Report → Nat
  | .connection _ _ _ activity => activity.counts counter
  | .counter other amount => if other = counter then amount else 0
  | _ => 0

lemma Report.counts_ofManagement {report : Report} (h : report.ofManagement = true)
    (counter : Counter) : report.counts counter = 0 := by
  cases report with
  | accept endpointIndex answer => rfl
  | answered connectionId response => rfl
  | _ => cases h

lemma ServerStats.at_add (stats : ServerStats) (amount : Nat) (counter other : Counter) :
    (stats.add amount other).at counter =
      stats.at counter + if other = counter then amount else 0 := by
  cases other <;> cases counter <;> rfl

lemma ServerStats.at_count (stats : ServerStats) (report : Report) (counter : Counter) :
    (stats.count report).at counter = stats.at counter + report.counts counter := by
  cases report with
  | connection i slot connectionId activity =>
    cases activity with
    | counted other => exact stats.at_add 1 counter other
    | _ => rfl
  | counter other amount => exact stats.at_add amount counter other
  | _ => rfl

/-- The counters behind a log. -/
lemma ServerStats.at_foldl (stats : ServerStats) (log : List Report) (counter : Counter) :
    (log.foldl ServerStats.count stats).at counter =
      stats.at counter + (log.map (Report.counts counter)).sum := by
  induction log generalizing stats with
  | nil => rfl
  | cons report log ih =>
    rw [List.foldl_cons, ih, at_count, List.map_cons, List.sum_cons, Nat.add_assoc]

/-- Serving a connection counts no clients. -/
lemma Moves.counts {context : EndpointContext} {dataFrame : DataFrame} {c c' : Connection}
    {log : List Activity} (moves : Moves context dataFrame c log c') {counter : Counter}
    (of : counter = .acceptedClients ∨ counter = .closedClients) :
    ∀ activity ∈ log, activity.counts counter = 0 := by
  induction moves with
  | nil => simp
  | snoc moves move ih =>
    intro activity ha
    rcases List.mem_append.mp ha with ha | ha
    · exact ih activity ha
    · cases move with
      | counted served =>
        obtain rfl := List.mem_singleton.mp ha
        rcases of with rfl | rfl <;> rcases served with rfl | rfl | rfl <;> rfl
      | inform now idle stays asked =>
        rcases List.mem_cons.mp ha with rfl | ha
        · rfl
        · obtain rfl := List.mem_singleton.mp ha
          rfl
      | receive => cases ha
      | _ =>
        obtain rfl := List.mem_singleton.mp ha
        rfl

/-! ### The books of clients -/

/-- The live connections of an endpoint. -/
def Endpoint.live (e : Endpoint) : Nat := (slots.filterMap e.connections).length

/-- The live connections of the server. -/
def Server.live (s : Server) : Nat := (s.endpoints.map Endpoint.live).sum

def slotLedger : Attempt.Ledger (Option Connection) (Nat × Activity) where
  worth := fun connection => if connection.isSome then 1 else 0
  gain := fun entry => entry.2.counts .acceptedClients
  loss := fun entry => entry.2.counts .closedClients

def endpointLedger : Attempt.Ledger Endpoint (Slot × Nat × Activity) where
  worth := Endpoint.live
  gain := fun entry => entry.2.2.counts .acceptedClients
  loss := fun entry => entry.2.2.counts .closedClients

def acceptLedger : Attempt.Ledger (Endpoint × Nat) AcceptActivity where
  worth := fun r => r.1.live
  gain := AcceptActivity.counts .acceptedClients
  loss := AcceptActivity.counts .closedClients

def serverLedger : Attempt.Ledger Server Report where
  worth := Server.live
  gain := Report.counts .acceptedClients
  loss := Report.counts .closedClients

/-- The connections of the other slot. -/
lemma Endpoint.live_setSlot (e : Endpoint) (slot : Slot) :
    ∃ rest, e.live = slotLedger.worth (e.connections slot) + rest ∧
      ∀ connection, (e.setSlot slot connection).live = slotLedger.worth connection + rest := by
  have hsum : ∀ e : Endpoint,
      e.live = slotLedger.worth (e.connections 0) + slotLedger.worth (e.connections 1) := by
    intro e
    unfold live slots
    cases h0 : e.connections 0 <;> cases h1 : e.connections 1 <;> simp [h0, h1, slotLedger]
  have hother : (0 : Slot) ≠ 1 := by decide
  match slot with
  | 0 =>
    refine ⟨slotLedger.worth (e.connections 1), hsum e, fun connection => ?_⟩
    rw [hsum, setSlot_same, setSlot_other e connection hother.symm]
  | 1 =>
    refine ⟨slotLedger.worth (e.connections 0), (hsum e).trans (Nat.add_comm _ _),
      fun connection => ?_⟩
    rw [hsum, setSlot_same, setSlot_other e connection hother, Nat.add_comm]

/-- The connections of the other endpoints. -/
lemma live_set {endpoints : List Endpoint} {i : Nat} {e : Endpoint} (he : endpoints[i]? = some e) :
    ∃ rest, (endpoints.map Endpoint.live).sum = e.live + rest ∧
      ∀ e', ((endpoints.set i e').map Endpoint.live).sum = e'.live + rest := by
  induction endpoints generalizing i with
  | nil => simp at he
  | cons e₀ endpoints ih =>
    cases i with
    | zero =>
      obtain rfl : e₀ = e := by simpa using he
      exact ⟨(endpoints.map Endpoint.live).sum, by simp, fun e' => by simp⟩
    | succ i =>
      obtain ⟨rest, hsum, hset⟩ := ih (by simpa using he)
      refine ⟨e₀.live + rest, ?_, fun e' => ?_⟩
      · rw [List.map_cons, List.sum_cons, hsum]
        omega
      · rw [List.set_cons_succ, List.map_cons, List.sum_cons, hset e']
        omega

open Attempt

section Registered

variable {registry : Registry} {codec : ManagementCodec} {s : Server}

/-- Every deregistration is taken. -/
def Registry.Deregisters (registry : Registry) : Prop := ∀ token, registry.deregister token = .ok ()

lemma balanced_onConnection {attempt : Connection → ConnectionAttempt Bool}
    (silent : ∀ c counter, counter = .acceptedClients ∨ counter = .closedClients →
      ∀ activity ∈ (attempt c).log, activity.counts counter = 0) (connection : Option Connection) :
    Balanced slotLedger registry.Deregisters connection (onConnection attempt connection) := by
  cases connection with
  | none => exact balanced_done true
  | some c =>
    have hcounts : ∀ counter, counter = .acceptedClients ∨ counter = .closedClients →
        ∀ entry ∈ ((attempt c).log.map (c.connectionId, ·)), entry.2.counts counter = 0 := by
      intro counter of entry he
      obtain ⟨activity, ha, rfl⟩ := List.mem_map.mp he
      exact silent c counter of activity ha
    exact balanced_of_still rfl (hcounts _ (.inl rfl)) (hcounts _ (.inr rfl))

lemma balanced_closeConnection (connectionId : Nat) (connection : Option Connection) :
    Balanced slotLedger registry.Deregisters connection
      (closeConnection registry connectionId connection) := by
  cases connection with
  | none => exact balanced_done ()
  | some c =>
    simp only [closeConnection]
    by_cases hid : c.connectionId ≠ connectionId
    · rw [if_pos hid]
      exact balanced_done ()
    · rw [if_neg hid]
      cases hderegister : registry.deregister c.token with
      | error kind =>
        rintro (hproviso | ⟨_, ha⟩)
        · cases hderegister.symm.trans (hproviso c.token)
        · cases ha
      | ok _ => exact fun _ => rfl

lemma balanced_keepOrClose (connectionId : Nat) (keep : Bool) (connection : Option Connection) :
    Balanced slotLedger registry.Deregisters connection
      (keepOrClose registry connectionId keep connection) := by
  cases keep with
  | true => exact balanced_done ()
  | false => exact balanced_closeConnection connectionId connection

lemma balanced_dispatchConnection (context : EndpointContext) (dataFrame : DataFrame)
    (connectionId : Nat) (readable writable : Bool) (answers : Answers)
    (connection : Option Connection) :
    Balanced slotLedger registry.Deregisters connection
      (dispatchConnection registry context dataFrame connectionId readable writable answers
        connection) := by
  unfold dispatchConnection
  split
  · refine Balanced.andThen (balanced_onConnection (fun c counter of => ?_) connection)
      fun keep _ => balanced_keepOrClose connectionId keep _
    have hmoves : Moves context dataFrame c
        (serveConnection registry context dataFrame readable writable answers c).log
        (serveConnection registry context dataFrame readable writable answers c).state :=
      moving_serveConnection readable writable answers
    exact hmoves.counts of
  · exact balanced_done ()

lemma balanced_expireConnection (now : Instant) (connection : Option Connection) :
    Balanced slotLedger registry.Deregisters connection
      (expireConnection registry now connection) := by
  cases connection with
  | none => exact balanced_done ()
  | some c =>
    simp only [expireConnection]
    split
    · exact balanced_closeConnection c.connectionId (some c)
    · exact balanced_done ()

lemma balanced_dropSlow (connection : Option Connection) :
    Balanced slotLedger registry.Deregisters connection (dropSlow registry connection) := by
  cases connection with
  | none => exact balanced_done ()
  | some c =>
    simp only [dropSlow]
    split_ifs
    · exact balanced_done ()
    · exact Balanced.andThen (fun _ => rfl) fun _ _ =>
        balanced_closeConnection c.connectionId (some c)
    · exact balanced_done ()

lemma balanced_sendTick (context : EndpointContext) (dataFrame : DataFrame) (tick : Tick)
    (answers : Answers) (connection : Option Connection) :
    Balanced slotLedger registry.Deregisters connection
      (sendTick registry context dataFrame tick answers connection) := by
  cases connection with
  | none => exact balanced_done ()
  | some c =>
    simp only [sendTick]
    split_ifs
    · exact balanced_done ()
    · refine Balanced.andThen (balanced_onConnection (fun c counter of => ?_) (some c))
        fun keep _ => balanced_keepOrClose c.connectionId keep _
      obtain ⟨log, hlog, hmoves⟩ : ∃ log,
          (sendDataFrame registry context dataFrame tick answers c).log =
            .queued (.data tick) :: log ∧
          Moves context dataFrame { c with pending := .data 0 } log
            (sendDataFrame registry context dataFrame tick answers c).state :=
        moves_sendDataFrame
      rw [hlog]
      intro activity ha
      rcases List.mem_cons.mp ha with rfl | ha
      · rfl
      · exact hmoves.counts of activity ha

/-! ### Endpoints -/

lemma balanced_onSlot {attempt : Option Connection → SlotAttempt Unit} {e : Endpoint}
    (slot : Slot)
    (h : Balanced slotLedger registry.Deregisters (e.connections slot)
      (attempt (e.connections slot))) :
    Balanced endpointLedger registry.Deregisters e (e.onSlot slot attempt) := by
  obtain ⟨rest, hlive, hset⟩ := e.live_setSlot slot
  exact h.lift hlive (hset _) (fun _ => rfl) fun _ => rfl

lemma balanced_disconnectPlanned (connectionId : Nat) (e : Endpoint) :
    Balanced endpointLedger registry.Deregisters e (disconnectPlanned registry connectionId e) := by
  unfold disconnectPlanned
  cases slots.find? fun slot => e.holds slot connectionId with
  | none => exact balanced_done ()
  | some slot => exact balanced_onSlot slot (balanced_closeConnection connectionId _)

lemma balanced_disconnectAllPlanned (plan : Option FramePlan) (e : Endpoint) :
    Balanced endpointLedger registry.Deregisters e (disconnectAllPlanned registry plan e) := by
  cases plan with
  | none => exact balanced_done ()
  | some plan => exact .each fun connectionId _ e => balanced_disconnectPlanned connectionId e

lemma balanced_emitTick (seed : UInt64) (tick : Tick) (omitData : Bool) (answers : Slot → Answers)
    (e : Endpoint) :
    Balanced endpointLedger registry.Deregisters e
      (emitTick registry seed tick omitData answers e) := by
  unfold emitTick
  split_ifs
  · exact balanced_done ()
  · exact balanced_done ()
  · cases encodeDataFrame e.toEndpointContext seed tick e.dataFrame with
    | error failure => exact balanced_failed failure
    | ok dataFrame =>
      have hsend : Balanced endpointLedger registry.Deregisters { e with dataFrame }
          (Attempt.each (fun slot e => e.onSlot slot
            (sendTick registry e.toEndpointContext e.dataFrame tick (answers slot)))
            slots { e with dataFrame }) :=
        .each fun slot _ e => balanced_onSlot slot (balanced_sendTick _ _ tick (answers slot) _)
      exact hsend

lemma balanced_emitEndpoint (seed : UInt64) (boundary : Boundary) (plan : Option FramePlan)
    (answers : Slot → Answers) (e : Endpoint) :
    Balanced endpointLedger registry.Deregisters e
      (emitEndpoint registry seed boundary plan answers e) := by
  refine Balanced.andThen (.each fun slot _ e => balanced_onSlot slot (balanced_dropSlow _))
    fun _ _ => ?_
  exact balanced_emitTick seed (boundary.tick plan) _ answers _

/-! ### The server -/

lemma balanced_onEndpoint {attempt : Endpoint → EndpointAttempt Unit}
    (h : ∀ e, Balanced endpointLedger registry.Deregisters e (attempt e)) (i : Nat) (s : Server) :
    Balanced serverLedger registry.Deregisters s (s.onEndpoint i attempt) := by
  unfold Server.onEndpoint
  cases he : s.endpoints[i]? with
  | none => exact balanced_failed _
  | some e =>
    obtain ⟨rest, hlive, hset⟩ := live_set he
    exact (h e).lift hlive (hset _) (fun _ => rfl) fun _ => rfl

lemma balanced_eachEndpoint {attempt : Nat → Endpoint → EndpointAttempt Unit}
    (h : ∀ i e, Balanced endpointLedger registry.Deregisters e (attempt i e)) (s : Server) :
    Balanced serverLedger registry.Deregisters s (s.eachEndpoint attempt) :=
  .each fun i _ s => balanced_onEndpoint (h i) i s

lemma balanced_acceptConnections (endpointCount i : Nat) (accepts : List AcceptAnswer)
    (r : Endpoint × Nat) :
    Balanced acceptLedger registry.Deregisters r
      (acceptConnections registry endpointCount i accepts r) := by
  induction accepts generalizing r with
  | nil => exact fun _ => rfl
  | cons answer accepts ih =>
    cases answer with
    | failed kind => cases kind <;> exact fun _ => rfl
    | connected configured acceptedAt =>
      refine Balanced.andThen (fun _ => rfl) fun _ _ => ?_
      refine Balanced.andThen ?_ fun _ _ => ih _
      rw [note_state]
      rcases Server.admitConnection_cases registry endpointCount i configured acceptedAt r with
        hrejected | ⟨slot, token, hempty, -, -, hadmitted⟩
      · rw [hrejected]
        exact fun _ => rfl
      · rw [hadmitted]
        obtain ⟨rest, hlive, hset⟩ := r.1.live_setSlot slot
        intro _
        simp only [acceptLedger, note_state, note_log, hlive, hset, hempty, slotLedger,
          Ledger.gains, Ledger.losses]
        simp [AcceptActivity.counts, Nat.add_comm]

lemma balanced_acceptAt (i : Nat) (accepts : List AcceptAnswer) (s : Server) :
    Balanced serverLedger registry.Deregisters s (s.acceptAt registry i accepts) := by
  unfold Server.acceptAt
  cases he : s.endpoints[i]? with
  | none => exact balanced_failed _
  | some e =>
    obtain ⟨rest, hlive, hset⟩ := live_set he
    exact (balanced_acceptConnections s.endpoints.length i accepts (e, s.nextConnectionId)).lift
      hlive (hset _) (fun activity => by cases activity <;> rfl)
        fun activity => by cases activity <;> rfl

lemma balanced_quiet {p : ServerAttempt Unit} (h : p.Quiet s) :
    Balanced serverLedger registry.Deregisters s p := by
  have hcounts : ∀ counter, ∀ report ∈ p.log, report.counts counter = 0 := by
    exact fun counter report hr => Report.counts_ofManagement (h.log report hr) counter
  refine balanced_of_still ?_ (hcounts _) (hcounts _)
  simp only [serverLedger, Server.live, h.endpoints]

lemma balanced_dispatchEvent (event : Event) (s : Server) :
    Balanced serverLedger registry.Deregisters s (s.dispatchEvent registry codec event) := by
  unfold Server.dispatchEvent
  cases eventTarget event.token s.endpoints.length with
  | none => exact balanced_done ()
  | some target =>
    cases target with
    | listener i =>
      simp only
      split
      · exact balanced_acceptAt i event.accepts s
      · exact balanced_done ()
    | connection i slotIndex connectionId =>
      refine balanced_onEndpoint (fun e => balanced_onSlot _ ?_) i s
      exact balanced_dispatchConnection _ _ connectionId _ _ _ _
    | managementListener =>
      simp only
      split
      · exact balanced_quiet (Server.quiet_acceptManagement event.accepts)
      · exact balanced_done ()
    | managementConnection slotIndex connectionId =>
      exact balanced_quiet (Server.quiet_dispatchManagementConnection _ _ _ _ _)

lemma balanced_emitBoundary (boundary : Boundary) (answers : Nat → Slot → Answers) (s : Server) :
    Balanced serverLedger registry.Deregisters s (s.emitBoundary registry boundary answers) := by
  refine Balanced.andThen
    (balanced_eachEndpoint (fun i => balanced_disconnectAllPlanned (boundary.plan i)) s)
    fun _ _ => ?_
  exact balanced_eachEndpoint
    (fun i => balanced_emitEndpoint _ boundary (boundary.plan i) (answers i)) _

lemma balanced_takeBoundary (answers : BoundaryAnswers) (s : Server) :
    Balanced serverLedger registry.Deregisters s (s.takeBoundary registry answers) := by
  cases hdue : s.scheduler.takeDue answers.now with
  | mk due scheduler =>
    cases due with
    | none =>
      rw [Server.takeBoundary_of_none (by rw [hdue])]
      exact balanced_done ()
    | some tick =>
      obtain ⟨sampleIndex, skipped⟩ := tick
      rw [Server.takeBoundary_of_some hdue]
      refine Balanced.andThen (fun _ => rfl) fun _ _ => ?_
      cases hadvance : Server.advanceController sampleIndex s.scenarioController with
      | error failure =>
        rw [note_state, Server.emitData_of_error (s := { s with scheduler }) hadvance]
        exact fun _ => rfl
      | ok c =>
        rw [note_state, Server.emitData_of_ok (s := { s with scheduler }) hadvance]
        have hemit : Balanced serverLedger registry.Deregisters
            (Server.atBoundary { s with scheduler } answers c)
            ((Attempt.note (.boundary ((Server.atBoundary { s with scheduler } answers
              c).boundaryAt sampleIndex)) (Server.atBoundary { s with scheduler } answers
              c)).andThen fun _ s =>
                s.emitBoundary registry (s.boundaryAt sampleIndex) answers.answers) :=
          Balanced.andThen (fun _ => rfl) fun _ _ => balanced_emitBoundary _ answers.answers _
        exact hemit

/-- Every input is on the books of clients. -/
theorem balanced_handle (input : Input) (s : Server) :
    Balanced serverLedger registry.Deregisters s (s.handle registry codec input) := by
  cases input with
  | event event => exact balanced_dispatchEvent event s
  | expire now =>
    exact balanced_eachEndpoint (fun _ _ => .each fun slot _ e =>
      balanced_onSlot slot (balanced_expireConnection now _)) s
  | boundary answers => exact balanced_takeBoundary answers s

/-! ### What names a connection that is gone -/

lemma eventTarget_connection_lt {token endpointCount i slotIndex connectionId : Nat}
    (h : eventTarget token endpointCount = some (.connection i slotIndex connectionId)) :
    i < endpointCount := by
  unfold eventTarget at h
  split_ifs at h with hlistener hmanaged hindex hnone
  all_goals simp only [Option.some.injEq, reduceCtorEq, Option.ite_none_right_eq_some,
    EventTarget.connection.injEq] at h
  obtain ⟨-, rfl, -, -⟩ := h
  exact Nat.mod_lt _ (Nat.pos_of_ne_zero hnone)

/-- An event for a connection that is gone does nothing. -/
lemma dispatchEvent_stale {event : Event} {i slotIndex connectionId : Nat}
    (htarget : eventTarget event.token s.endpoints.length =
      some (.connection i slotIndex connectionId)) (gone : ¬ s.Live connectionId) :
    s.dispatchEvent registry codec event = .done () s := by
  obtain ⟨e, he⟩ : ∃ e, s.endpoints[i]? = some e :=
    ⟨_, List.getElem?_eq_getElem (eventTarget_connection_lt htarget)⟩
  obtain ⟨hi, hget⟩ := List.getElem?_eq_some_iff.mp he
  have hother : (e.connections (Fin.ofNat 2 slotIndex)).any
      (fun c => c.connectionId = connectionId) = false := by
    cases hc : e.connections (Fin.ofNat 2 slotIndex) with
    | none => rfl
    | some c => simpa using fun hid => gone ⟨i, _, c, ⟨e, he, hc⟩, hid⟩
  have hsame : s.endpoints.set i e = s.endpoints := by
    rw [← hget, List.set_getElem_self]
  simp only [Server.dispatchEvent, htarget, Server.onEndpoint, he, Endpoint.onSlot,
    dispatchConnection, hother, Bool.false_eq_true, if_false, done, lift, Endpoint.setSlot,
    Function.update_eq_self, List.map_nil]
  rw [hsame]

lemma disconnectPlanned_other {connectionId : Nat} {e : Endpoint} {slot : Slot} {c : Connection}
    (hc : e.connections slot = some c) (hid : c.connectionId ≠ connectionId) :
    (disconnectPlanned registry connectionId e).state.connections slot = some c := by
  unfold disconnectPlanned
  cases hfind : slots.find? fun slot => e.holds slot connectionId with
  | none => exact hc
  | some slot' =>
    have hholds : e.holds slot' connectionId = true := by simpa using List.find?_some hfind
    have hne : slot ≠ slot' := by
      rintro rfl
      simp [Endpoint.holds, hc, hid] at hholds
    exact (e.setSlot_other _ hne).trans hc

/-- A frame plan closes none but the connections it names. -/
lemma disconnectAllPlanned_other {plan : FramePlan} {e : Endpoint} {slot : Slot} {c : Connection}
    (hc : e.connections slot = some c) (hid : c.connectionId ∉ plan.disconnectPdcConnectionIds) :
    (disconnectAllPlanned registry (some plan) e).state.connections slot = some c := by
  have hkeeps : (disconnectAllPlanned registry (some plan) e).Keeps
      (fun e' _ => e'.connections slot = some c) [] := by
    refine .each hc fun connectionId hplanned e' _ hc' => ?_
    exact disconnectPlanned_other hc' fun h => hid (h ▸ hplanned)
  exact hkeeps

/-! ### Runs -/

variable {l₀ l : EventLoop} {h : List (Machine.Taken EventLoop Input (List Report))}

/-- A connection that is gone stays gone. -/
theorem gone_of_run (run : (eventLoop registry codec).Run l₀ h l) {connectionId : Nat}
    (given : connectionId < l₀.server.nextConnectionId) (gone : ¬ l₀.server.Live connectionId) :
    ¬ l.server.Live connectionId := by
  have hboth : connectionId < l.server.nextConnectionId ∧ ¬ l.server.Live connectionId := by
    refine run.invariant (P := fun l => connectionId < l.server.nextConnectionId ∧
      ¬ l.server.Live connectionId) ⟨given, gone⟩ ?_
    rintro r input log r' ⟨hgiven, hgone⟩ hs
    obtain ⟨-, -, rfl⟩ := EventLoop.step_ok hs
    refine ⟨Nat.lt_of_lt_of_le hgiven (Server.handle_frame input r.server).2.1, fun hlive => hgone ?_⟩
    exact Server.live_handle hgiven hlive
  exact hboth.2

lemma live_of_started (started : Started l₀) : l₀.server.live = 0 := by
  refine List.sum_eq_zero fun n hn => ?_
  obtain ⟨e, he, rfl⟩ := List.mem_map.mp hn
  simp [Endpoint.live, connections_of_started started he]

/-- The books of clients are in order while the loop goes on. -/
theorem accounted_of_run (started : Started l₀) (run : (eventLoop registry codec).Run l₀ h l)
    (held : registry.Deregisters ∨ l.ended = none) :
    l.server.stats.acceptedClients = l.server.stats.closedClients + l.server.live := by
  revert held
  refine run.invariant (P := fun l => registry.Deregisters ∨ l.ended = none →
    l.server.stats.acceptedClients = l.server.stats.closedClients + l.server.live) ?_ ?_
  · intro _
    rw [(started_fresh started).2, live_of_started started]
  · intro r input log r' hr hs held
    obtain ⟨hended, rfl, rfl⟩ := EventLoop.step_ok hs
    have hheld : registry.Deregisters ∨
        ∃ a, (r.server.handle registry codec input).result = .ok a := by
      refine held.imp_right fun hnone => ?_
      cases hresult : (r.server.handle registry codec input).result with
      | ok a => exact ⟨a, rfl⟩
      | error failure => simp [hresult, failureOf] at hnone
    have hbooks := balanced_handle input r.server hheld
    have hstats : (r.server.handle registry codec input).state.stats = r.server.stats :=
      (Server.handle_frame input r.server).1
    have haccepted := ServerStats.at_foldl (r.server.handle registry codec input).state.stats
      (r.server.handle registry codec input).log .acceptedClients
    have hclosed := ServerStats.at_foldl (r.server.handle registry codec input).state.stats
      (r.server.handle registry codec input).log .closedClients
    have hbefore := hr (.inr hended)
    simp only [ServerStats.at, hstats] at haccepted hclosed
    simp only [serverLedger, Ledger.gains, Ledger.losses] at hbooks
    simp only [hstats, haccepted, hclosed]
    change _ = _ + (r.server.handle registry codec input).state.live
    omega

/-- Tokens lead back to their sources; and in every state of the loop live connections have
identifiers of their own below the next one, their tokens lead to them, and every connection that
was accepted is live or was closed, unless its deregistration ended the loop. Whatever names a
connection that is gone, an event or a frame plan, leaves every connection alone from then on. -/
theorem events_routed (registry : Registry) (codec : ManagementCodec) :
    (∀ endpointCount, endpointCount < managementTokenBase → ∀ target target' : EventTarget,
      target.Valid endpointCount → ∀ token, target.token endpointCount = .ok token →
        eventTarget token endpointCount = some target ∧
          (target'.Valid endpointCount → target'.token endpointCount = .ok token →
            target' = target)) ∧
      ∀ (l₀ l : EventLoop) (h : List (Machine.Taken EventLoop Input (List Report))), Started l₀ →
        (eventLoop registry codec).Run l₀ h l →
        (∀ i slot c, l.server.LiveAt i slot c →
          c.connectionId < l.server.nextConnectionId ∧
            eventTarget c.token l.server.endpoints.length =
              some (.connection i slot c.connectionId) ∧
            ∀ i' slot' c', l.server.LiveAt i' slot' c' → c.connectionId = c'.connectionId →
              i = i' ∧ slot = slot') ∧
        (registry.Deregisters ∨ l.ended = none →
          l.server.stats.acceptedClients = l.server.stats.closedClients + l.server.live) ∧
        ∀ connectionId, connectionId < l.server.nextConnectionId → ¬ l.server.Live connectionId →
          ∀ (l' : EventLoop) (h' : List (Machine.Taken EventLoop Input (List Report))),
            (eventLoop registry codec).Run l h' l' →
            (∀ event i slotIndex, eventTarget event.token l'.server.endpoints.length =
                some (.connection i slotIndex connectionId) →
              l'.server.dispatchEvent registry codec event = .done () l'.server) ∧
            ∀ i slot c, l'.server.LiveAt i slot c → c.connectionId ≠ connectionId ∧
              ∀ plan e, e.connections slot = some c →
                c.connectionId ∉ plan.disconnectPdcConnectionIds →
                (disconnectAllPlanned registry (some plan) e).state.connections slot = some c := by
  refine ⟨?_, fun l₀ l h started run => ?_⟩
  · intro endpointCount fits target target' valid token htoken
    have htarget := eventTarget_token fits valid htoken
    refine ⟨htarget, fun valid' htoken' => ?_⟩
    exact Option.some.inj ((eventTarget_token fits valid' htoken').symm.trans htarget)
  · have routed := routed_of_run started run
    refine ⟨fun i slot c hlive => ?_, accounted_of_run started run,
      fun connectionId given gone l' h' run' => ?_⟩
    · exact ⟨(routed.below hlive).2, routed.decodes hlive, fun i' slot' c' => routed.distinct hlive⟩
    · have hgone := gone_of_run run' given gone
      refine ⟨fun event i slotIndex htarget => dispatchEvent_stale htarget hgone,
        fun i slot c hlive => ?_⟩
      refine ⟨fun heq => hgone ⟨i, slot, c, hlive, heq⟩, fun plan e hc hother => ?_⟩
      exact disconnectAllPlanned_other hc hother

/-- A registry that takes every registration and gives none back. -/
def keepingRegistry : Registry := { takingRegistry with deregister := fun _ => .error (.other 0) }

/-- In a fleet that reaches into the upper half of the tokens, an endpoint's listener has the token of
the management listener; and a connection of which the deregistration fails is gone, but not counted
as closed. -/
theorem events_misrouted :
    (¬ ∀ endpointCount, 1 ≤ endpointCount → endpointCount ≤ u64Max → ∀ target : EventTarget,
      target.Valid endpointCount → ∀ token, target.token endpointCount = .ok token →
        eventTarget token endpointCount = some target) ∧
      ¬ ∀ (registry : Registry) (codec : ManagementCodec) (l₀ l : EventLoop)
        (h : List (Machine.Taken EventLoop Input (List Report))), Started l₀ →
          (eventLoop registry codec).Run l₀ h l →
            l.server.stats.acceptedClients = l.server.stats.closedClients + l.server.live := by
  refine ⟨fun hall => ?_, fun hall => ?_⟩
  · have hlistener := hall (managementTokenBase + 1) (by decide) (by decide)
      (.listener managementTokenBase) (Nat.lt_succ_self _) managementTokenBase rfl
    rw [eventTarget, if_pos (show managementTokenBase = managementListenerToken from rfl)]
      at hlistener
    cases hlistener
  · have hruns : (bindInner (soleInput .v2 none) >>= fun server =>
        (eventLoop keepingRegistry silentCodec).exec ⟨server, none⟩
          [acceptOne, endOfStream 3]).toOption.any (fun l =>
            decide (l.server.stats.acceptedClients ≠
              l.server.stats.closedClients + l.server.live)) = true := by
      decide +kernel
    obtain ⟨l, hl, hbooks⟩ := (Option.any_eq_true _ _).mp hruns
    obtain ⟨server, hbind, hexec⟩ := bind_eq_ok.mp (eq_ok_of_toOption hl)
    obtain ⟨h, -, run⟩ := Machine.run_of_exec hexec
    exact of_decide_eq_true hbooks (hall _ _ _ l h ⟨rfl, _, hbind⟩ run)

/-- A connection is closed, its slot is taken again, and an event comes late. -/
theorem events_routed_small : ∃ l l' : EventLoop, ¬ l.server.Live 1 ∧ l'.server.Live 2 ∧
    l.server.stats.acceptedClients = l.server.stats.closedClients + l.server.live ∧
    eventTarget 3 l'.server.endpoints.length = some (.connection 0 0 1) ∧
    ∀ readable writable accepts answers,
      l'.server.dispatchEvent takingRegistry silentCodec
        ⟨3, readable, writable, accepts, answers⟩ = .done () l'.server := by
  have hruns : soleRun .v2 none [acceptOne, endOfStream 3] (fun _ l =>
      decide (¬ l.server.Live 1 ∧ 1 < l.server.nextConnectionId ∧ l.ended = none) &&
        l.passes [acceptOne] fun _ l' => decide (l'.server.Live 2 ∧
          eventTarget 3 l'.server.endpoints.length = some (.connection 0 0 1))) = true := by
    decide +kernel
  obtain ⟨server, h, l, hbind, -, run, hcheck⟩ := run_of_soleRun hruns
  obtain ⟨hstate, hpasses⟩ := Bool.and_eq_true_iff.mp hcheck
  obtain ⟨hgone, hgiven, hended⟩ := of_decide_eq_true hstate
  obtain ⟨h', l', -, run', hcheck'⟩ := run_of_passes hpasses
  obtain ⟨hlive, htarget⟩ := of_decide_eq_true hcheck'
  obtain ⟨-, haccounted, hstale⟩ :=
    (events_routed takingRegistry silentCodec).2 _ l h ⟨rfl, _, hbind⟩ run
  refine ⟨l, l', hgone, hlive, haccounted (.inr hended), htarget,
    fun readable writable accepts answers => ?_⟩
  exact (hstale 1 hgiven hgone l' h' run').1 _ 0 0 htarget

end Registered

end PmuSimulator

import Mathlib
import PmuSimulator.Foundation.Success
import PmuSimulator.Scenario.Headroom
import PmuSimulator.Server.Reception
import PmuSimulator.Server.Serving

/-!
# Answering management requests

Serving a management connection does not fail, whatever it is given to read and however its writes
are answered: a response that was queued is written from an offset within it, and a connection that
is answered is in its slot. What can go wrong is that the controller has no revision left.
-/

namespace PmuSimulator

open Attempt

/-- What is left of a response to be written starts within it. -/
def ManagementConnection.InBounds (c : ManagementConnection) : Prop :=
  ∀ response ∈ c.response, c.responseOffset ≤ response.length

namespace Server

/-- What is left of the responses of a listener's connections is in bounds. -/
def InBoundsAt (m : ManagementListener) : Prop := ∀ slot, ∀ c ∈ m.connections slot, c.InBounds

/-- The responses of all connections are in bounds. -/
def ResponsesInBounds (s : Server) : Prop := ∀ m ∈ s.management, InBoundsAt m

/-- The connection in a slot. -/
def Occupies (s : Server) (slot : ManagementSlot) (c : ManagementConnection) : Prop :=
  ∃ m, s.management = some m ∧ m.connections slot = some c

/-- There are revisions left in the controller, if there is one. -/
def RevisionsLeft (s : Server) : Prop := ∀ c ∈ s.scenarioController, c.RevisionsLeft

variable {registry : Registry} {codec : ManagementCodec} {s : Server} {slot : ManagementSlot}
  {connectionId : Nat} {c : ManagementConnection}

/-! ### Attempts on a connection -/

lemma onManagementConnection_occupied {α : Type}
    {attempt : ManagementConnection → ManagementAttempt α} {p : ManagementAttempt α}
    (h : s.Occupies slot c) (hp : attempt c = p) :
    (s.onManagementConnection slot attempt).result = p.result ∧
      (s.onManagementConnection slot attempt).state.Occupies slot p.state := by
  obtain ⟨m, hm, hc⟩ := h
  unfold onManagementConnection
  rw [hm]
  simp only [hc, hp]
  exact ⟨rfl, _, rfl, m.setSlot_self slot _⟩

lemma succeeds_closeManagement (takes : registry.Takes) (slot : ManagementSlot)
    (connectionId : Nat) (s : Server) :
    (s.closeManagement registry slot connectionId).Succeeds := by
  unfold closeManagement onManagement
  cases s.management with
  | none => exact succeeds_done _ _
  | some m =>
    refine Succeeds.lift ?_ _ _
    unfold closeManagementConnection
    cases m.connections slot with
    | none => exact succeeds_done _ _
    | some c =>
      simp only [takes.deregister]
      split
      · exact succeeds_done _ _
      · exact succeeds_done _ _

/-- A response is queued on the connection it is for. -/
lemma queueResponse_occupied (takes : registry.Takes) (response : ManagementResponse)
    (h : s.Occupies slot c) :
    (s.queueResponse registry codec slot c.connectionId response).Succeeds ∧
      (s.queueResponse registry codec slot c.connectionId response).state.Occupies slot
        { c with response := some (codec.encode response), responseOffset := 0 } := by
  obtain ⟨m, hm, hc⟩ := h
  have hqueued : (queueManagementResponse registry codec response c).Succeeds := by
    refine (succeeds_note _ _).andThen fun _ _ => ?_
    simp only [takes.reregister]
    exact succeeds_done _ _
  unfold queueResponse onManagement
  rw [hm]
  simp only [hc, ne_eq, not_true_eq_false, if_false]
  refine ⟨(hqueued.lift _ _).lift _ _, _, rfl, ?_⟩
  simp only [lift_state, queueManagementResponse_state]
  exact m.setSlot_self slot _

/-! ### Requests -/

lemma exists_answerWith {α : Type} (respond : α → ManagementResponse)
    {outcome : Except Failure (Outcome α)} (h : ∃ result, outcome = .ok result) :
    ∃ answer, s.answerWith respond outcome = .ok answer := by
  obtain ⟨⟨result, controller⟩, rfl⟩ := h
  cases result with
  | error e => exact ⟨_, rfl⟩
  | ok a => exact ⟨_, rfl⟩

lemma exists_answerToken {α : Type} {token : Nat} {actorLabel : Option String}
    {respond : α → ManagementResponse}
    {operate : ScenarioController → ActivationToken → Except Failure (Outcome α)}
    (h : ∀ c ∈ s.scenarioController, ∀ token, ∃ result, operate c token = .ok result) :
    ∃ answer, s.answerToken token actorLabel respond operate = .ok answer := by
  unfold answerToken
  cases ActivationToken.fromValue token with
  | none => exact ⟨_, rfl⟩
  | some token =>
    cases hc : s.scenarioController with
    | none => exact ⟨_, rfl⟩
    | some controller =>
      simp only
      cases validateActorLabel actorLabel with
      | error e => exact ⟨_, rfl⟩
      | ok _ => exact exists_answerWith respond (h controller hc token)

lemma exists_answerTarget {target : ScenarioTarget} {allowsDisconnectedActivePdc : Bool}
    {operate : ScenarioController → Except Failure (Outcome PreparedScenarioSnapshot)}
    (h : ∀ c ∈ s.scenarioController, ∃ result, operate c = .ok result) :
    ∃ answer, s.answerTarget target allowsDisconnectedActivePdc operate = .ok answer := by
  unfold answerTarget
  cases hc : s.scenarioController with
  | none => exact ⟨_, rfl⟩
  | some controller =>
    simp only
    split
    · exact exists_answerWith .prepared (h controller hc)
    · exact ⟨_, rfl⟩

/-- Every request is answered, while there are revisions left. -/
theorem RevisionsLeft.answers (h : s.RevisionsLeft) (now : Instant) (request : ManagementRequest) :
    ∃ answer, s.managementRequestResponse now request = .ok answer := by
  cases request with
  | healthz => exact ⟨_, rfl⟩
  | readyz => exact ⟨_, rfl⟩
  | metrics => exact ⟨_, rfl⟩
  | catalog =>
    unfold managementRequestResponse
    cases s.scenarioController with
    | none => exact ⟨_, rfl⟩
    | some controller => exact ⟨_, rfl⟩
  | state =>
    simp only [managementRequestResponse, managementStateResponse]
    cases hc : s.scenarioController with
    | none => exact ⟨_, rfl⟩
    | some controller =>
      obtain ⟨outcome, houtcome⟩ := (h controller hc).snapshot now
      simp only [houtcome]
      exact ⟨_, rfl⟩
  | consoleState cursor =>
    simp only [managementRequestResponse, managementConsoleStateResponse]
    cases hc : s.scenarioController with
    | none => exact ⟨_, rfl⟩
    | some controller =>
      obtain ⟨outcome, houtcome⟩ := (h controller hc).snapshot now
      simp only [houtcome]
      exact ⟨_, rfl⟩
  | prepare target scenarioName actorLabel =>
    exact exists_answerTarget fun c hc => (h c hc).prepareActivation _ _ _ _
  | confirm token actorLabel =>
    exact exists_answerToken fun c hc token => (h c hc).confirm token now
  | clear target actorLabel =>
    exact exists_answerTarget fun c hc => (h c hc).prepareClear _ _ _
  | cancel token actorLabel =>
    exact exists_answerToken fun c hc token => (h c hc).cancel token now

/-! ### Serving a connection -/

/-- What was read is answered; if the connection is kept, it is in its slot and in bounds. -/
lemma answerRead_occupied (takes : registry.Takes) (left : s.RevisionsLeft) (now : Instant)
    (result : Option (Except ErrorKind ManagementReadResult)) (h : s.Occupies slot c)
    (inBounds : c.InBounds) :
    ∃ served, (s.answerRead registry codec slot c.connectionId now result).result = .ok served ∧
      (served = true → ∃ c', (s.answerRead registry codec slot c.connectionId now
        result).state.Occupies slot c' ∧ c'.InBounds) := by
  have hqueued : ∀ {s : Server} (response : ManagementResponse), s.Occupies slot c →
      let p := (s.queueResponse registry codec slot c.connectionId response).andThen
        fun _ s => .done true s
      ∃ served, p.result = .ok served ∧
        (served = true → ∃ c', p.state.Occupies slot c' ∧ c'.InBounds) := by
    intro s response h
    have hqueued := @queueResponse_occupied registry codec s slot c takes response h
    refine ⟨true, (andThen_ok hqueued.1.result _) ▸ rfl, fun _ =>
      ⟨{ c with response := some (codec.encode response), responseOffset := 0 }, ?_, ?_⟩⟩
    · rw [andThen_state fun _ _ => rfl]
      exact hqueued.2
    · exact fun response _ => Nat.zero_le _
  have hclosed : ∃ served, ((s.closeManagement registry slot c.connectionId).andThen
      fun _ s => (.done false s : ServerAttempt Bool)).result = .ok served ∧
        (served = true → ∃ c', ((s.closeManagement registry slot c.connectionId).andThen
          fun _ s => (.done false s : ServerAttempt Bool)).state.Occupies slot c' ∧
            c'.InBounds) := by
    have hsucceeds := succeeds_closeManagement takes slot c.connectionId s
    exact ⟨false, (andThen_ok hsucceeds.result _) ▸ rfl, fun hkept => by cases hkept⟩
  rcases result with - | (- | (- | request | response | -))
  · exact ⟨true, rfl, fun _ => ⟨c, h, inBounds⟩⟩
  · exact hclosed
  · exact ⟨true, rfl, fun _ => ⟨c, h, inBounds⟩⟩
  · obtain ⟨⟨response, s'⟩, hanswer⟩ := left.answers now request
    obtain ⟨-, controller, -, -, rfl⟩ := asksController_of_request hanswer
    simp only [answerRead, hanswer]
    exact hqueued response h
  · exact hqueued response h
  · exact hclosed

/-- A response is written as far as it is taken. -/
lemma flushManagementConnection_inBounds (registry : Registry) (write : WriteAnswer)
    (inBounds : c.InBounds) :
    (flushManagementConnection registry write c).Succeeds ∧
      (flushManagementConnection registry write c).state.InBounds := by
  unfold flushManagementConnection
  cases hresponse : c.response with
  | none => exact ⟨succeeds_done _ _, inBounds⟩
  | some response =>
    have hle := inBounds response hresponse
    simp only [if_neg (Nat.not_lt.mpr hle)]
    cases write with
    | failed kind => cases kind <;> exact ⟨succeeds_done _ _, inBounds⟩
    | accepts count =>
      have hwritten : c.responseOffset +
          min count ((response.drop c.responseOffset).take managementWriteChunkBytes).length ≤
            response.length := by
        simp only [List.length_take, List.length_drop]
        omega
      simp only
      split_ifs
      · exact ⟨succeeds_done _ _, inBounds⟩
      · refine ⟨succeeds_done _ _, ?_⟩
        rintro _ ⟨⟩
        exact hwritten
      · refine ⟨succeeds_done _ _, ?_⟩
        rintro _ ⟨⟩
        exact hwritten

/-- Bytes are only read where no response waits. -/
lemma readManagement_occupied (reads : List ReadAnswer) (h : s.Occupies slot c)
    (inBounds : c.InBounds) :
    ∃ result c', (s.readManagement codec slot reads).result = .ok result ∧
      (s.readManagement codec slot reads).state.Occupies slot c' ∧
      c'.connectionId = c.connectionId ∧ c'.InBounds := by
  cases hresponse : c.response with
  | some response =>
    have hread : (s.readManagement codec slot reads).result = .ok none ∧
        (s.readManagement codec slot reads).state.Occupies slot c := by
      refine onManagementConnection_occupied (p := .done none c) h ?_
      exact if_pos (by rw [hresponse]; rfl)
    exact ⟨_, c, hread.1, hread.2, rfl, inBounds⟩
  | none =>
    obtain ⟨bytes, hbytes⟩ := readFrom_state reads c
    have hread : (s.readManagement codec slot reads).result =
          .ok (some (c.read codec reads).1) ∧
        (s.readManagement codec slot reads).state.Occupies slot { c with receive := bytes } := by
      refine onManagementConnection_occupied
        (p := .done (some (c.read codec reads).1) { c with receive := bytes }) h ?_
      rw [if_neg (by simp [hresponse]), read_state, hbytes]
    refine ⟨_, _, hread.1, hread.2, rfl, fun response hsome => ?_⟩
    cases hresponse.symm.trans hsome

/-- An event on a management connection does not fail. -/
theorem succeeds_dispatchManagementConnection (takes : registry.Takes) (left : s.RevisionsLeft)
    (inBounds : s.ResponsesInBounds) (slot : ManagementSlot) (connectionId : Nat)
    (readable writable : Bool) (answers : Answers) :
    (s.dispatchManagementConnection registry codec slot connectionId readable writable
      answers).Succeeds := by
  rw [dispatchManagementConnection_eq]
  by_cases hheld : (s.management.any fun m => m.holds slot connectionId) = true
  · rw [if_pos hheld]
    obtain ⟨m, hm, hholds⟩ := (Option.any_eq_true _ _).mp hheld
    obtain ⟨c, hc, rfl⟩ := holds_eq_true.mp hholds
    have hoccupies : s.Occupies slot c := ⟨m, hm, hc⟩
    have hreceived : ∃ served, (s.receiveManagement registry codec slot c.connectionId readable
        answers).result = .ok served ∧ (served = true → ∃ c', (s.receiveManagement registry codec
          slot c.connectionId readable answers).state.Occupies slot c' ∧ c'.InBounds) := by
      unfold receiveManagement
      cases readable with
      | false => exact ⟨true, rfl, fun _ => ⟨c, hoccupies, inBounds m hm slot c hc⟩⟩
      | true =>
        obtain ⟨result, c', hresult, hoccupies', hid, hc'⟩ :=
          @readManagement_occupied codec s slot c answers.reads hoccupies (inBounds m hm slot c hc)
        have hleft : (s.readManagement codec slot answers.reads).state.RevisionsLeft := by
          unfold RevisionsLeft
          rw [show (s.readManagement codec slot answers.reads).state.scenarioController =
            s.scenarioController from congrArg ServerCore.scenarioController
              (onManagementConnection_core slot _ s)]
          exact left
        simp only [if_true, andThen_ok hresult, ← hid]
        exact answerRead_occupied takes hleft _ result hoccupies' hc'
    obtain ⟨served, hserved, hkept⟩ := hreceived
    refine Succeeds.andThen ⟨served, hserved⟩ fun served' hserved' => ?_
    obtain rfl := Except.ok.inj (hserved.symm.trans hserved')
    unfold writeManagement
    split
    · rename_i hwrites
      obtain ⟨c', hoccupies', hc'⟩ := hkept (Bool.and_eq_true_iff.mp hwrites).1
      have hflushed := flushManagementConnection_inBounds registry answers.write hc'
      have hattempt := onManagementConnection_occupied
        (p := flushManagementConnection registry answers.write c') hoccupies' rfl
      refine Succeeds.andThen ?_ fun kept _ => ?_
      · obtain ⟨kept, hkept⟩ := hflushed.1
        exact ⟨kept, hattempt.1.trans hkept⟩
      · split
        · exact succeeds_done _ _
        · exact succeeds_closeManagement takes slot c.connectionId _
    · exact succeeds_done _ _
  · rw [if_neg hheld]
    exact succeeds_done _ _

/-! ### Responses stay in bounds -/

lemma InBoundsAt.setSlot {m : ManagementListener} (h : InBoundsAt m)
    {connection : Option ManagementConnection} (hc : ∀ c ∈ connection, c.InBounds) :
    InBoundsAt (m.setSlot slot connection) := by
  intro slot' c hmem
  by_cases hslot : slot' = slot
  · subst hslot
    rw [m.setSlot_self] at hmem
    exact hc c hmem
  · rw [m.setSlot_of_ne hslot] at hmem
    exact h slot' c hmem

lemma inBounds_onManagementConnection {α : Type}
    {attempt : ManagementConnection → ManagementAttempt α} (h : s.ResponsesInBounds)
    (hattempt : ∀ c, c.InBounds → (attempt c).state.InBounds) :
    (s.onManagementConnection slot attempt).state.ResponsesInBounds := by
  unfold onManagementConnection
  cases hm : s.management with
  | none => exact h
  | some m =>
    cases hc : m.connections slot with
    | none =>
      simp only [hc]
      exact h
    | some c =>
      simp only [hc]
      rintro _ ⟨⟩
      refine InBoundsAt.setSlot (h m hm) ?_
      rintro _ ⟨⟩
      exact hattempt c (h m hm slot c hc)

lemma inBounds_closeManagement (h : s.ResponsesInBounds) :
    (s.closeManagement registry slot connectionId).state.ResponsesInBounds := by
  unfold closeManagement onManagement
  cases hm : s.management with
  | none => exact h
  | some m =>
    have hclosed : InBoundsAt (m.setSlot slot none) := InBoundsAt.setSlot (h m hm) (by simp)
    rintro _ ⟨⟩
    unfold closeManagementConnection
    cases m.connections slot with
    | none => exact h m hm
    | some c =>
      simp only
      split
      · exact h m hm
      · cases registry.deregister c.token with
        | error kind => exact hclosed
        | ok _ => exact hclosed

lemma inBounds_queueResponse (response : ManagementResponse) (h : s.ResponsesInBounds) :
    (s.queueResponse registry codec slot connectionId response).state.ResponsesInBounds := by
  unfold queueResponse onManagement
  cases hm : s.management with
  | none => exact h
  | some m =>
    rintro _ ⟨⟩
    simp only
    cases m.connections slot with
    | none => exact h m hm
    | some c =>
      simp only
      split
      · exact h m hm
      · refine InBoundsAt.setSlot (h m hm) ?_
        rintro _ ⟨⟩
        rw [queueManagementResponse_state]
        exact fun response _ => Nat.zero_le _

lemma inBounds_answerRead (now : Instant)
    (result : Option (Except ErrorKind ManagementReadResult)) (h : s.ResponsesInBounds) :
    (s.answerRead registry codec slot connectionId now result).state.ResponsesInBounds := by
  have hdone : ∀ {p : ServerAttempt Unit} {b : Bool}, p.state.ResponsesInBounds →
      (p.andThen fun _ s => (.done b s : ServerAttempt Bool)).state.ResponsesInBounds := by
    intro p b hp
    rw [andThen_state fun _ _ => rfl]
    exact hp
  rcases result with - | (- | (- | request | response | -))
  · exact h
  · exact hdone (inBounds_closeManagement h)
  · exact h
  · simp only [answerRead]
    cases hanswer : s.managementRequestResponse now request with
    | error failure => exact h
    | ok answer =>
      obtain ⟨response, s'⟩ := answer
      obtain ⟨-, controller, -, -, rfl⟩ := asksController_of_request hanswer
      exact hdone (inBounds_queueResponse response h)
  · exact hdone (inBounds_queueResponse response h)
  · exact hdone (inBounds_closeManagement h)

lemma inBounds_dispatchManagementConnection (readable writable : Bool) (answers : Answers)
    (h : s.ResponsesInBounds) :
    (s.dispatchManagementConnection registry codec slot connectionId readable writable
      answers).state.ResponsesInBounds := by
  have hkeeps : Keeps (fun s _ => s.ResponsesInBounds) []
      (s.dispatchManagementConnection registry codec slot connectionId readable writable
        answers) := by
    rw [dispatchManagementConnection_eq]
    split
    · refine Keeps.andThen ?_ fun served _ hserved => ?_
      · unfold receiveManagement
        split
        · refine Keeps.andThen ?_ fun result _ hread => inBounds_answerRead _ result hread
          refine inBounds_onManagementConnection h fun c hc => ?_
          cases hresponse : c.response with
          | some response => exact hc
          | none =>
            obtain ⟨bytes, hbytes⟩ := readFrom_state answers.reads c
            simp only [hresponse, Option.isSome_none, Bool.false_eq_true, if_false, done_state,
              read_state, hbytes]
            rintro response ⟨⟩
        · exact h
      · unfold writeManagement
        split
        · refine Keeps.andThen ?_ fun kept _ hflushed => ?_
          · exact inBounds_onManagementConnection hserved fun c hc =>
              (flushManagementConnection_inBounds registry answers.write hc).2
          · split
            · exact hflushed
            · exact inBounds_closeManagement hflushed
        · exact hserved
    · exact h
  exact hkeeps

lemma inBounds_acceptManagementConnections (turns : Nat) (accepts : List AcceptAnswer)
    {r : ManagementListener × Nat} (h : InBoundsAt r.1) :
    InBoundsAt (acceptManagementConnections registry turns accepts r).state.1 := by
  have hadmitted {r : ManagementListener × Nat} (h : InBoundsAt r.1) :
      InBoundsAt (admitManagementConnection registry r).1 := by
    unfold admitManagementConnection
    repeat' split
    all_goals try exact h
    refine InBoundsAt.setSlot h ?_
    rintro _ ⟨⟩ response ⟨⟩
  induction turns generalizing accepts r with
  | zero => exact h
  | succ turns ih =>
    cases accepts with
    | nil => exact h
    | cons answer accepts =>
      cases answer with
      | failed kind => cases kind <;> exact h
      | connected configured acceptedAt => exact ih accepts (hadmitted h)

lemma inBounds_handle (input : Input) (h : s.ResponsesInBounds) :
    (s.handle registry codec input).state.ResponsesInBounds := by
  have hsame {s' : Server} (hreception : s'.reception = s.reception) : s'.ResponsesInBounds := by
    unfold ResponsesInBounds
    rw [(reception_eq hreception).1]
    exact h
  cases input with
  | event event =>
    simp only [handle, dispatchEvent]
    cases eventTarget event.token s.endpoints.length with
    | none => exact h
    | some target =>
      cases target with
      | listener endpointIndex =>
        simp only
        split
        · exact hsame (reception_acceptAt _ _ s)
        · exact h
      | connection endpointIndex slotIndex connectionId => exact hsame (reception_onEndpoint _ _ s)
      | managementListener =>
        simp only
        split
        · unfold acceptManagement
          cases hm : s.management with
          | none => exact h
          | some m =>
            rintro _ ⟨⟩
            exact inBounds_acceptManagementConnections _ _ (h m hm)
        · exact h
      | managementConnection slotIndex connectionId =>
        exact inBounds_dispatchManagementConnection _ _ _ h
  | expire now => exact hsame (reception_eachEndpoint _ s)
  | boundary answers => exact hsame (reception_takeBoundary answers s)

end Server

end PmuSimulator

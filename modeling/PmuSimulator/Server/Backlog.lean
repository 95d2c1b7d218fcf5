import Mathlib
import PmuSimulator.Server.Paths

/-!
# The backlog of a listener

A listener is told of waiting clients once, and so has to accept until there are none. The PDC
listeners do; the management listener stops after as many calls as it has slots. An accept loop logs
the answer to each of its calls, and `Drained` looks at the last of them.
-/

namespace PmuSimulator

/-! ### The queue of a listener -/

def AcceptAnswer.isConnected : AcceptAnswer → Bool
  | connected _ _ => true
  | failed _ => false

/-- The clients that wait in a queue. -/
def waitingClients (answers : List AcceptAnswer) : Nat :=
  (answers.takeWhile AcceptAnswer.isConnected).length

/-- What `accept` answers behind the last waiting client. An empty queue would block. -/
def queueEnd (answers : List AcceptAnswer) : AcceptAnswer :=
  ((answers.dropWhile AcceptAnswer.isConnected).head?).getD (.failed .wouldBlock)

/-- What a queue answers until its end. -/
def queueAnswers (answers : List AcceptAnswer) : List AcceptAnswer :=
  answers.takeWhile AcceptAnswer.isConnected ++ [queueEnd answers]

section Queue

variable (configured : Except ErrorKind Unit) (acceptedAt : Instant) (answers : List AcceptAnswer)

@[simp] lemma waitingClients_connected :
    waitingClients (.connected configured acceptedAt :: answers) = waitingClients answers + 1 := rfl

@[simp] lemma waitingClients_failed (kind : ErrorKind) :
    waitingClients (.failed kind :: answers) = 0 := rfl

@[simp] lemma queueEnd_connected :
    queueEnd (.connected configured acceptedAt :: answers) = queueEnd answers := rfl

@[simp] lemma queueAnswers_nil : queueAnswers [] = [.failed .wouldBlock] := rfl

@[simp] lemma queueAnswers_failed (kind : ErrorKind) :
    queueAnswers (.failed kind :: answers) = [.failed kind] := rfl

@[simp] lemma queueAnswers_connected :
    queueAnswers (.connected configured acceptedAt :: answers) =
      .connected configured acceptedAt :: queueAnswers answers := rfl

@[simp] lemma queueAnswers_length :
    (queueAnswers answers).length = waitingClients answers + 1 := by
  rw [queueAnswers, List.length_append, List.length_singleton, waitingClients]

end Queue

/-! ### The calls of an accept loop -/

/-- The call an activity is, by its answer. -/
def AcceptActivity.call : AcceptActivity → Option AcceptAnswer
  | called answer => some answer
  | counted _ => none

def AcceptActivity.isCounted : AcceptActivity → Bool
  | called _ => false
  | counted _ => true

/-- What the calls of a loop were answered. -/
def acceptCalls (log : List AcceptActivity) : List AcceptAnswer :=
  log.filterMap AcceptActivity.call

/-- The clients that a loop accepted or rejected. -/
def countedClients (log : List AcceptActivity) : Nat := log.countP AcceptActivity.isCounted

/-- The queue was drained: the last call would block. -/
def Drained (log : List AcceptActivity) : Prop :=
  (acceptCalls log).getLast? = some (.failed .wouldBlock)

/-- A loop that calls to the end of the queue drains it, if nothing fails. -/
lemma drained_of_all {log : List AcceptActivity} {answers : List AcceptAnswer}
    (h : acceptCalls log = queueAnswers answers) :
    Drained log ↔ queueEnd answers = .failed .wouldBlock := by
  rw [Drained, h, queueAnswers, List.getLast?_concat, Option.some.injEq]

/-- A loop that stops before the end of the queue does not come to where a call would block. -/
lemma not_drained_of_take {log : List AcceptActivity} {answers : List AcceptAnswer} {turns : Nat}
    (h : acceptCalls log = (queueAnswers answers).take turns)
    (hmany : turns ≤ waitingClients answers) : ¬ Drained log := by
  rw [queueAnswers, List.take_append_of_le_length hmany] at h
  intro hdrained
  have hmem : AcceptAnswer.failed .wouldBlock ∈ answers.takeWhile AcceptAnswer.isConnected := by
    rw [Drained, h] at hdrained
    exact List.mem_of_mem_take (List.mem_of_getLast? hdrained)
  cases List.mem_takeWhile_imp hmem

section Registered

variable {registry : Registry} {endpointCount endpointIndex : Nat}

/-! ### A PDC listener -/

variable (registry endpointCount endpointIndex) in
/-- A stream is accepted or rejected, and the loop goes on. -/
lemma acceptConnections_connected (configured : Except ErrorKind Unit) (acceptedAt : Instant)
    (answers : List AcceptAnswer) (s : Endpoint × Nat) :
    ∃ counter s',
      let rest := acceptConnections registry endpointCount endpointIndex answers s'
      acceptConnections registry endpointCount endpointIndex
          (.connected configured acceptedAt :: answers) s =
        ⟨rest.result, rest.state,
          .called (.connected configured acceptedAt) :: .counted counter :: rest.log⟩ := by
  have hadmitted : ∃ counter s',
      admitConnection registry endpointCount endpointIndex configured acceptedAt s =
        .note (.counted counter) s' := by
    rcases Server.admitConnection_cases registry endpointCount endpointIndex configured acceptedAt
      s with hrejected | ⟨slot, token, -, -, -, hadmitted⟩
    · exact ⟨_, _, hrejected⟩
    · exact ⟨_, _, hadmitted⟩
  obtain ⟨counter, s', hadmitted⟩ := hadmitted
  refine ⟨counter, s', ?_⟩
  rw [acceptConnections, Attempt.andThen_ok (Attempt.note_result _ _), Attempt.note_state,
    hadmitted, Attempt.andThen_ok (Attempt.note_result _ _)]
  rfl

/-- The loop calls until the first error. -/
lemma acceptConnections_calls (answers : List AcceptAnswer) (s : Endpoint × Nat) :
    acceptCalls (acceptConnections registry endpointCount endpointIndex answers s).log =
      queueAnswers answers := by
  induction answers generalizing s with
  | nil => rfl
  | cons answer answers ih =>
    cases answer with
    | failed kind => cases kind <;> rfl
    | connected configured acceptedAt =>
      obtain ⟨counter, s', htaken⟩ := acceptConnections_connected registry endpointCount
        endpointIndex configured acceptedAt answers s
      rw [htaken, queueAnswers_connected, ← ih s']
      rfl

/-- The loop counts every client that waits. -/
lemma acceptConnections_counts (answers : List AcceptAnswer) (s : Endpoint × Nat) :
    countedClients (acceptConnections registry endpointCount endpointIndex answers s).log =
      waitingClients answers := by
  induction answers generalizing s with
  | nil => rfl
  | cons answer answers ih =>
    cases answer with
    | failed kind => cases kind <;> rfl
    | connected configured acceptedAt =>
      obtain ⟨counter, s', htaken⟩ := acceptConnections_connected registry endpointCount
        endpointIndex configured acceptedAt answers s
      rw [htaken, waitingClients_connected, ← ih s']
      simp [countedClients, List.countP_cons, AcceptActivity.isCounted]

/-- The loop returns without an error where it comes to a call that would block. -/
lemma acceptConnections_ok_iff (answers : List AcceptAnswer) (s : Endpoint × Nat) :
    (acceptConnections registry endpointCount endpointIndex answers s).result = .ok () ↔
      queueEnd answers = .failed .wouldBlock := by
  induction answers generalizing s with
  | nil => exact iff_of_true rfl rfl
  | cons answer answers ih =>
    cases answer with
    | failed kind =>
      cases kind with
      | wouldBlock => exact iff_of_true rfl rfl
      | _ => simp [acceptConnections, queueEnd, AcceptAnswer.isConnected]
    | connected configured acceptedAt =>
      obtain ⟨counter, s', htaken⟩ := acceptConnections_connected registry endpointCount
        endpointIndex configured acceptedAt answers s
      rw [htaken, queueEnd_connected, ← ih s']

/-! ### The management listener -/

lemma admitManagementConnection_counts (s : ManagementListener × Nat) :
    (admitManagementConnection registry s).2 +
        (admitManagementConnection registry s).1.rejectedConnections =
      s.2 + s.1.rejectedConnections + 1 := by
  unfold admitManagementConnection
  cases s.1.freeSlot with
  | none => rfl
  | some slot =>
    cases hnext : checkedAdd s.2 1 with
    | none => rfl
    | some nextId =>
      obtain ⟨-, rfl⟩ := checkedAdd_eq_some.mp hnext
      cases htoken : managementConnectionToken slot s.2 with
      | error e =>
        simp only [htoken]
        rfl
      | ok token =>
        cases hregister : registry.register token .readable with
        | error kind =>
          simp only [htoken, hregister]
          rfl
        | ok _ =>
          simp only [htoken, hregister, ManagementListener.setSlot]
          exact Nat.add_right_comm _ _ _

/-- The loop calls until the first error, or until it has had its turns. -/
lemma acceptManagementConnections_calls (turns : Nat) (answers : List AcceptAnswer)
    (s : ManagementListener × Nat) :
    acceptCalls (acceptManagementConnections registry turns answers s).log =
      (queueAnswers answers).take turns := by
  induction turns generalizing answers s with
  | zero => rfl
  | succ turns ih =>
    cases answers with
    | nil =>
      rw [queueAnswers_nil, List.take_succ_cons, List.take_nil]
      rfl
    | cons answer answers =>
      cases answer with
      | failed kind =>
        rw [queueAnswers_failed, List.take_succ_cons, List.take_nil]
        cases kind <;> rfl
      | connected configured acceptedAt =>
        rw [queueAnswers_connected, List.take_succ_cons,
          ← ih answers (admitManagementConnection registry s)]
        rfl

/-- The loop gives an identifier to every client it takes, or counts it as rejected. -/
lemma acceptManagementConnections_counts (turns : Nat) (answers : List AcceptAnswer)
    (s : ManagementListener × Nat) :
    (acceptManagementConnections registry turns answers s).state.2 +
        (acceptManagementConnections registry turns answers s).state.1.rejectedConnections =
      s.2 + s.1.rejectedConnections + min turns (waitingClients answers) := by
  induction turns generalizing answers s with
  | zero => simp [acceptManagementConnections]
  | succ turns ih =>
    cases answers with
    | nil => rfl
    | cons answer answers =>
      cases answer with
      | failed kind => cases kind <;> rfl
      | connected configured acceptedAt =>
        have hrest := ih answers (admitManagementConnection registry s)
        rw [admitManagementConnection_counts] at hrest
        rw [waitingClients_connected, Nat.add_min_add_right, acceptManagementConnections,
          Attempt.andThen_ok (Attempt.note_result _ _)]
        refine hrest.trans ?_
        omega

/-- The loop returns without an error where it comes to a call that would block, and where it has had
its turns. -/
lemma acceptManagementConnections_ok_iff (turns : Nat) (answers : List AcceptAnswer)
    (s : ManagementListener × Nat) :
    (acceptManagementConnections registry turns answers s).result = .ok () ↔
      turns ≤ waitingClients answers ∨ queueEnd answers = .failed .wouldBlock := by
  induction turns generalizing answers s with
  | zero => exact iff_of_true rfl (.inl (Nat.zero_le _))
  | succ turns ih =>
    cases answers with
    | nil => exact iff_of_true rfl (.inr rfl)
    | cons answer answers =>
      cases answer with
      | failed kind =>
        cases kind with
        | wouldBlock => exact iff_of_true rfl (.inr rfl)
        | _ => simp [acceptManagementConnections, queueEnd, AcceptAnswer.isConnected]
      | connected configured acceptedAt =>
        rw [waitingClients_connected, queueEnd_connected, Nat.succ_le_succ_iff,
          ← ih answers (admitManagementConnection registry s)]
        rfl

/-! ### What is left in the queue -/

/-- A PDC listener takes every client of its queue, the management listener none behind the eighth. -/
lemma clients_taken (endpoint : Endpoint × Nat) (management : ManagementListener × Nat)
    (answers : List AcceptAnswer) :
    countedClients (acceptConnections registry endpointCount endpointIndex answers endpoint).log =
        waitingClients answers ∧
      (acceptManagementConnections registry managementConnectionLimit answers
            management).state.2 +
          (acceptManagementConnections registry managementConnectionLimit answers
            management).state.1.rejectedConnections =
        management.2 + management.1.rejectedConnections +
          min managementConnectionLimit (waitingClients answers) :=
  ⟨acceptConnections_counts answers endpoint, acceptManagementConnections_counts _ answers management⟩

/-- A PDC listener that returns without an error has drained its queue: its last call would block,
and every client that waited is accepted or rejected. The management listener has exactly if fewer
clients wait than it has slots. -/
theorem drained_iff (endpoint : Endpoint × Nat) (management : ManagementListener × Nat)
    (answers : List AcceptAnswer) :
    (let p := acceptConnections registry endpointCount endpointIndex answers endpoint;
      p.result = .ok () → Drained p.log ∧ countedClients p.log = waitingClients answers) ∧
    (let p := acceptManagementConnections registry managementConnectionLimit answers management;
      (p.result = .ok () → Drained p.log ∧
          p.state.2 + p.state.1.rejectedConnections =
            management.2 + management.1.rejectedConnections + waitingClients answers) ↔
        waitingClients answers < managementConnectionLimit) := by
  obtain ⟨hpdc, hmanagement⟩ := @clients_taken registry endpointCount endpointIndex endpoint
    management answers
  have hcalls := @acceptManagementConnections_calls registry managementConnectionLimit answers
    management
  refine ⟨fun hok => ⟨?_, hpdc⟩, fun hdrained => ?_, fun hfew hok => ⟨?_, ?_⟩⟩
  · exact (drained_of_all (acceptConnections_calls answers endpoint)).mpr
      ((acceptConnections_ok_iff answers endpoint).mp hok)
  · by_contra hmany
    have hok := (@acceptManagementConnections_ok_iff registry _ answers management).mpr
      (.inl (Nat.not_lt.mp hmany))
    exact not_drained_of_take hcalls (Nat.not_lt.mp hmany) (hdrained hok).1
  · rw [List.take_of_length_le (by rw [queueAnswers_length]; exact hfew)] at hcalls
    exact (drained_of_all hcalls).mpr
      (((acceptManagementConnections_ok_iff _ answers management).mp hok).resolve_left
        (Nat.not_le.mpr hfew))
  · rw [hmanagement, Nat.min_eq_right (Nat.le_of_lt hfew)]

end Registered

/-- Clients that connect at once. -/
def burst (clients : Nat) : List AcceptAnswer := List.replicate clients (.connected (.ok ()) 0)

/-- A management listener without connections. -/
def emptyManagement : ManagementListener × Nat := (⟨fun _ => none, 0⟩, 1)

/-- Nine PDCs come to an endpoint of two slots at once, seven clients to the management listener. -/
theorem drained_iff_small : ∃ endpoint : Endpoint × Nat,
    (let p := acceptConnections takingRegistry 1 0 (burst 9) endpoint;
      p.result = .ok () ∧ Drained p.log ∧ countedClients p.log = 9) ∧
    (let p := acceptManagementConnections takingRegistry managementConnectionLimit (burst 7)
        emptyManagement;
      p.result = .ok () ∧ Drained p.log ∧ p.state.2 + p.state.1.rejectedConnections = 8) := by
  let context : EndpointContext := ⟨soleEndpoint .v2, ⟨64⟩, .v2 [] [] []⟩
  let endpoint : Endpoint × Nat := (⟨context, .v2 [], fun _ => none⟩, 1)
  obtain ⟨hpdc, hmanagement⟩ := @drained_iff takingRegistry 1 0 endpoint emptyManagement (burst 9)
  have hseven := (@drained_iff takingRegistry 1 0 endpoint emptyManagement (burst 7)).2.mpr
    (by decide)
  have hok : (acceptConnections takingRegistry 1 0 (burst 9) endpoint).result = .ok () :=
    (acceptConnections_ok_iff _ _).mpr rfl
  have hok' : (acceptManagementConnections takingRegistry managementConnectionLimit (burst 7)
      emptyManagement).result = .ok () := (acceptManagementConnections_ok_iff _ _ _).mpr (.inr rfl)
  exact ⟨endpoint, ⟨hok, hpdc hok⟩, hok', hseven hok'⟩

/-- Nine clients connect at once. -/
theorem backlog_left : ¬ ∀ (registry : Registry) (management : ManagementListener × Nat)
    (answers : List AcceptAnswer),
    (acceptManagementConnections registry managementConnectionLimit answers
        management).result = .ok () →
      Drained (acceptManagementConnections registry managementConnectionLimit answers
        management).log := by
  intro hall
  have hdrained := hall takingRegistry emptyManagement (burst 9) (by decide +kernel)
  have hcalls := @acceptManagementConnections_calls takingRegistry managementConnectionLimit
    (burst 9) emptyManagement
  exact not_drained_of_take hcalls (by decide) hdrained

end PmuSimulator

import Mathlib
import PmuSimulator.Management.Parse
import PmuSimulator.Server.Reception

/-!
# Management requests in a run

What arrives on a management connection is collected until it is a request or in error. It is then
answered, and nothing more is read from the connection: a connection has one request executed at
most. Which one does not depend on the pieces its bytes come in, nor on what other connections do
meanwhile.
-/

namespace PmuSimulator

open Attempt

section Registered

variable {registry : Registry} {codec : ManagementCodec}

namespace Server

variable {slot : ManagementSlot} {P : ManagementConnection → Prop} {m : ManagementListener}
  {next connectionId : Nat} {s : Server}

/-- The request an event makes the server execute for a management connection. -/
def executedRequest (codec : ManagementCodec) (slot : ManagementSlot) (connectionId : Nat)
    (s : Server) (event : Event) : Option ManagementRequest :=
  if (s.management.any fun m => m.holds slot connectionId) && event.readable then
    match (s.readManagement codec slot event.answers.reads).result with
    | .ok (some (.ok (.request request))) => some request
    | _ => none
  else none

/-! ### Events of the connection -/

/-- The connection, if it is still there, has its response. -/
def Settled (slot : ManagementSlot) (connectionId : Nat) (s : Server) : Prop :=
  ∀ c, s.clientAt slot connectionId = some c → c.response.isSome = true

variable {event : Event}

lemma any_holds_iff :
    (s.management.any fun m => m.holds slot connectionId) = true ↔
      ∃ c, s.clientAt slot connectionId = some c := by
  simp only [Option.any_eq_true, holds_eq_true, clientAt_eq_some]
  constructor
  · rintro ⟨m, hm, c, hc, hid⟩
    exact ⟨c, m, hm, hc, hid⟩
  · rintro ⟨c, m, hm, hc, hid⟩
    exact ⟨m, hm, c, hc, hid⟩

lemma readManagement_eq {c : ManagementConnection} {m : ManagementListener}
    (hm : s.management = some m) (hc : m.connections slot = some c) (reads : List ReadAnswer) :
    s.readManagement codec slot reads =
      if c.response.isSome then
        .done none { s with management := some (m.setSlot slot (some c)) }
      else .done (some (c.read codec reads).1)
        { s with management := some (m.setSlot slot (some (c.read codec reads).2)) } := by
  unfold readManagement onManagementConnection
  simp only [hm, hc]
  split <;> rfl

lemma executedRequest_of_answered {c : ManagementConnection}
    (hc : s.clientAt slot connectionId = some c) (hanswered : c.response.isSome = true) :
    s.executedRequest codec slot connectionId event = none := by
  obtain ⟨m, hm, hslot, -⟩ := clientAt_eq_some.mp hc
  unfold executedRequest
  split
  · rw [readManagement_eq hm hslot, if_pos hanswered]
    rfl
  · rfl

lemma executedRequest_of_absent (hnone : s.clientAt slot connectionId = none) :
    s.executedRequest codec slot connectionId event = none := by
  unfold executedRequest
  rw [if_neg]
  intro h
  obtain ⟨c, hc⟩ := any_holds_iff.mp (Bool.and_eq_true_iff.mp h).1
  rw [hnone] at hc
  cases hc

lemma executedRequest_of_open {c : ManagementConnection}
    (hc : s.clientAt slot connectionId = some c) (hopen : c.response = none)
    (hreadable : event.readable = true) :
    s.executedRequest codec slot connectionId event =
      match (c.read codec event.answers.reads).1 with
      | .ok (.request request) => some request
      | _ => none := by
  obtain ⟨m, hm, hslot, -⟩ := clientAt_eq_some.mp hc
  unfold executedRequest
  rw [if_pos (Bool.and_eq_true_iff.mpr ⟨any_holds_iff.mpr ⟨c, hc⟩, hreadable⟩),
    readManagement_eq hm hslot, if_neg (by simp [hopen]), done_result]
  rcases (c.read codec event.answers.reads).1 with kind | (- | request | response | -) <;> rfl

/-- A connection that has its response has no further request executed. -/
lemma Settled.executed (h : s.Settled slot connectionId) :
    s.executedRequest codec slot connectionId event = none := by
  cases hc : s.clientAt slot connectionId with
  | none => exact executedRequest_of_absent hc
  | some c => exact executedRequest_of_answered hc (h c hc)

lemma settled_of_serves {s' : Server}
    (h : Serves slot (fun c => c.connectionId = connectionId ∧ c.response.isSome = true) m next
      s') :
    s'.Settled slot connectionId := by
  obtain ⟨-, m', hm', -, hP⟩ := h
  intro c hc
  obtain ⟨m'', hm'', hslot, -⟩ := clientAt_eq_some.mp hc
  obtain rfl := Option.some.inj (hm'.symm.trans hm'')
  exact (hP c hslot).2

lemma Settled.dispatch {readable writable : Bool} {answers : Answers}
    (h : s.Settled slot connectionId) :
    (s.dispatchManagementConnection registry codec slot connectionId readable writable
      answers).state.Settled slot connectionId := by
  cases hc : s.clientAt slot connectionId with
  | none =>
    rw [dispatchManagementConnection_eq, if_neg]
    · exact h
    · intro hheld
      obtain ⟨c, hc'⟩ := any_holds_iff.mp hheld
      rw [hc] at hc'
      cases hc'
  | some c =>
    obtain ⟨m, hm, hslot, hid⟩ := clientAt_eq_some.mp hc
    refine settled_of_serves (serves_dispatch (stable_answered connectionId) hm ?_)
    intro c' hc'
    rw [hslot] at hc'
    obtain rfl := Option.some.inj hc'
    exact ⟨hid, h c hc⟩

lemma executedRequest_eq_some {request : ManagementRequest}
    (h : s.executedRequest codec slot connectionId event = some request) :
    event.readable = true ∧ ∃ c, s.clientAt slot connectionId = some c ∧ c.response = none ∧
      (c.read codec event.answers.reads).1 = .ok (.request request) := by
  have hguard :
      ((s.management.any fun m => m.holds slot connectionId) && event.readable) = true := by
    by_contra hnot
    rw [executedRequest, if_neg hnot] at h
    cases h
  obtain ⟨hheld, hreadable⟩ := Bool.and_eq_true_iff.mp hguard
  obtain ⟨c, hc⟩ := any_holds_iff.mp hheld
  have hopen : c.response = none := by
    by_contra hanswered
    rw [executedRequest_of_answered hc (Option.isSome_iff_ne_none.mpr hanswered)] at h
    cases h
  rw [executedRequest_of_open hc hopen hreadable] at h
  refine ⟨hreadable, c, hc, hopen, ?_⟩
  split at h
  next hread => rw [hread, Option.some.inj h]
  · cases h

/-- A response that is queued on the connection settles it. -/
lemma serves_of_queueResponse {m' : ManagementListener} {c : ManagementConnection}
    (hnext : s.nextManagementConnectionId = next) (hm' : s.management = some m')
    (hc : m'.connections slot = some c) (hid : c.connectionId = connectionId)
    (hothers : ∀ slot', slot' ≠ slot → m'.connections slot' = m.connections slot')
    (response : ManagementResponse) :
    Serves slot (fun c => c.connectionId = connectionId ∧ c.response.isSome = true) m next
      (s.queueResponse registry codec slot connectionId response).state := by
  unfold queueResponse onManagement
  simp only [hm', hc, hid, ne_eq, not_true_eq_false, if_false]
  refine Serves.setSlot m' hnext rfl hothers ?_
  simp only [queueManagementResponse_state]
  exact ⟨hid, rfl⟩

/-- An event that has a request executed settles its connection, unless it ends the loop. -/
theorem settled_of_executed (registry : Registry) {request : ManagementRequest}
    (h : s.executedRequest codec slot connectionId event = some request) :
    let dispatched := s.dispatchManagementConnection registry codec slot connectionId
      event.readable event.writable event.answers
    dispatched.state.Settled slot connectionId ∨ ∃ failure, dispatched.result = .error failure := by
  obtain ⟨hreadable, c, hc, hopen, hread⟩ := executedRequest_eq_some h
  obtain ⟨m, hm, hslot, hid⟩ := clientAt_eq_some.mp hc
  have hheld := any_holds_iff.mpr ⟨c, hc⟩
  have hreceived : (c.read codec event.answers.reads).2.connectionId = connectionId := by
    obtain ⟨bytes, hbytes⟩ := readFrom_state event.answers.reads c
    rw [read_state, hbytes]
    exact hid
  simp only [dispatchManagementConnection_eq, hheld, if_true, receiveManagement, hreadable,
    readManagement_eq hm hslot, hopen, Option.isSome_none, Bool.false_eq_true, if_false,
    done_andThen, hread, answerRead]
  cases hr : managementRequestResponse
      { s with management := some (m.setSlot slot (some (c.read codec event.answers.reads).2)) }
      (event.answers.readClock 0) request with
  | error failure =>
    refine .inr ⟨failure, ?_⟩
    simp only [failed_andThen, failed_result]
  | ok answer =>
    obtain ⟨response, s'⟩ := answer
    obtain ⟨-, controller, -, -, rfl⟩ := asksController_of_request hr
    have hqueued : Serves slot (fun c => c.connectionId = connectionId ∧ c.response.isSome = true) m
        s.nextManagementConnectionId
        (queueResponse registry codec slot connectionId response
          { s with
            management := some (m.setSlot slot (some (c.read codec event.answers.reads).2))
            scenarioController := controller }).state :=
      serves_of_queueResponse rfl rfl (ManagementListener.setSlot_self _ _ _) hreceived
        (fun slot' hne => m.setSlot_of_ne hne _) response
    have hkeeps : Keeps (fun s' _ => Serves slot
        (fun c => c.connectionId = connectionId ∧ c.response.isSome = true) m
        s.nextManagementConnectionId s') []
        (((queueResponse registry codec slot connectionId response
          { s with
            management := some (m.setSlot slot (some (c.read codec event.answers.reads).2))
            scenarioController := controller }).andThen fun _ s => done true s).andThen
          fun served s =>
            s.writeManagement registry slot connectionId event.writable event.answers.write
              served) := by
      refine Keeps.andThen (Keeps.andThen hqueued fun _ _ hserves => hserves) fun _ _ hserves => ?_
      exact serves_writeManagement (stable_answered connectionId) hserves
    exact .inl (settled_of_serves (show Serves _ _ m s.nextManagementConnectionId _ from hkeeps))

end Server

end Registered

/-! ### Pieces -/

/-- The bytes a stream gives before it would block, ends or fails. -/
def streamed : List ReadAnswer → List UInt8
  | .data (b :: bytes) :: reads => b :: bytes ++ streamed reads
  | _ => []

/-- What keeps a stream from giving more bytes. -/
def stopped : List ReadAnswer → Option ReadAnswer
  | .data (_ :: _) :: reads => stopped reads
  | reads => reads.head?

/-- A stream that stays open behind its bytes. -/
def StaysOpen (reads : List ReadAnswer) : Prop :=
  stopped reads = none ∨ stopped reads = some (.failed .wouldBlock)

lemma readFrom_eq {c : ManagementConnection} {reads : List ReadAnswer}
    (hfits : c.receive.length + (streamed reads).length ≤ maxRequestBytes)
    (hstop : StaysOpen reads ∨ stopped reads = some (.data [])) :
    ∃ closed, c.readFrom reads = (.ok closed, { c with receive := c.receive ++ streamed reads }) ∧
      (closed = true → stopped reads = some (.data [])) := by
  induction reads generalizing c with
  | nil => exact ⟨false, by simp [ManagementConnection.readFrom, streamed], by simp⟩
  | cons answer reads ih =>
    unfold ManagementConnection.readFrom
    split
    next hfull =>
      have hnone : streamed (answer :: reads) = [] :=
        List.length_eq_zero_iff.mp (by omega)
      exact ⟨false, by rw [hnone, List.append_nil], by simp⟩
    next hroom =>
      cases answer with
      | data bytes =>
        cases bytes with
        | nil => exact ⟨true, by simp [streamed], fun _ => rfl⟩
        | cons b bytes =>
          simp only [streamed, List.length_append] at hfits
          have htake : (b :: bytes).take (maxRequestBytes - c.receive.length) = b :: bytes :=
            List.take_of_length_le (by omega)
          obtain ⟨closed, hread, hclosed⟩ :=
            ih (c := { c with receive := c.receive ++ (b :: bytes) })
              (by simp only [List.length_append]; omega) hstop
          refine ⟨closed, ?_, hclosed⟩
          simp only [htake, hread, streamed, List.append_assoc]
      | failed kind =>
        cases kind with
        | wouldBlock => exact ⟨false, by simp [streamed], by simp⟩
        | interrupted => simp [StaysOpen, stopped] at hstop
        | connectionAborted => simp [StaysOpen, stopped] at hstop
        | connectionReset => simp [StaysOpen, stopped] at hstop
        | brokenPipe => simp [StaysOpen, stopped] at hstop
        | other code => simp [StaysOpen, stopped] at hstop

section Registered

variable {registry : Registry} {codec : ManagementCodec}

namespace Server

variable {slot : ManagementSlot} {connectionId : Nat} {s : Server} {event : Event}

/-- Bytes that are no request yet are kept. -/
lemma dispatch_incomplete (registry : Registry) {c : ManagementConnection}
    (hc : s.clientAt slot connectionId = some c)
    (hopen : c.response = none) (hreadable : event.readable = true)
    (hwritable : event.writable = false)
    (hfits : c.receive.length + (streamed event.answers.reads).length ≤ maxRequestBytes)
    (hstays : StaysOpen event.answers.reads)
    (hparse : codec.parse (c.receive ++ streamed event.answers.reads) = .incomplete) :
    s.executedRequest codec slot connectionId event = none ∧
      (s.dispatchManagementConnection registry codec slot connectionId event.readable event.writable
        event.answers).state.clientAt slot connectionId =
          some { c with receive := c.receive ++ streamed event.answers.reads } := by
  obtain ⟨m, hm, hslot, hid⟩ := clientAt_eq_some.mp hc
  obtain ⟨closed, hfrom, hclosed⟩ := readFrom_eq hfits (.inl hstays)
  have hopened : closed = false := by
    by_contra hend
    have hend := hclosed (Bool.not_eq_false _ ▸ hend)
    rcases hstays with hstays | hstays
    · rw [hstays] at hend
      cases hend
    · rw [hstays] at hend
      cases hend
  have hread : c.read codec event.answers.reads =
      (.ok .incomplete, { c with receive := c.receive ++ streamed event.answers.reads }) := by
    simp [ManagementConnection.read, hfrom, hopened, hparse]
  constructor
  · rw [executedRequest_of_open hc hopen hreadable, hread]
  · have hheld := any_holds_iff.mpr ⟨c, hc⟩
    simp only [dispatchManagementConnection_eq, hheld, if_true, receiveManagement, hreadable,
      readManagement_eq hm hslot, hopen, Option.isSome_none, Bool.false_eq_true, if_false,
      done_andThen, hread, answerRead, writeManagement, hwritable, Bool.and_false, done_state]
    exact clientAt_eq_some.mpr ⟨_, rfl, ManagementListener.setSlot_self _ _ _, hid⟩

/-- The bytes that make a request complete have it executed. -/
lemma executedRequest_complete {c : ManagementConnection} {request : ManagementRequest}
    (hc : s.clientAt slot connectionId = some c)
    (hopen : c.response = none) (hreadable : event.readable = true)
    (hfits : c.receive.length + (streamed event.answers.reads).length ≤ maxRequestBytes)
    (hstop : StaysOpen event.answers.reads ∨
      stopped event.answers.reads = some (.data []) ∧
        c.receive ++ streamed event.answers.reads ≠ [])
    (hparse : codec.parse (c.receive ++ streamed event.answers.reads) = .complete request) :
    s.executedRequest codec slot connectionId event = some request := by
  obtain ⟨closed, hfrom, hclosed⟩ := readFrom_eq hfits (hstop.imp_right And.left)
  have hgoes : ((c.receive ++ streamed event.answers.reads).isEmpty && closed) = false := by
    by_contra hend
    obtain ⟨hempty, hend⟩ := Bool.and_eq_true_iff.mp (Bool.not_eq_false _ ▸ hend)
    have hend := hclosed hend
    rcases hstop with (hstays | hstays) | ⟨-, hne⟩
    · rw [hstays] at hend
      cases hend
    · rw [hstays] at hend
      cases hend
    · exact hne (List.isEmpty_iff.mp hempty)
  rw [executedRequest_of_open hc hopen hreadable]
  simp only [ManagementConnection.read, hfrom, hgoes, Bool.false_eq_true, if_false, hparse]

lemma writeManagement_core {writable served : Bool} {write : WriteAnswer} (s : Server) :
    (s.writeManagement registry slot connectionId writable write served).state.core = s.core := by
  unfold writeManagement
  split
  · have hkeeps {f : Except ErrorKind Bool → Server → ServerAttempt Unit}
        (hf : ∀ kept s', s'.core = s.core → (f kept s').state.core = s.core) :
        Keeps (fun s' _ => s'.core = s.core) []
          ((s.onManagementConnection slot (flushManagementConnection registry write)).andThen f) :=
      Keeps.andThen (onManagementConnection_core slot _ s) fun kept _ hcore => hf kept _ hcore
    refine hkeeps fun kept s' hcore => ?_
    split
    · exact hcore
    · exact (onManagement_core _ _).trans hcore
  · rfl

/-- What an event of a management connection does to the core is what the request does that it has
executed, if it has any. -/
theorem dispatch_core (s : Server) (event : Event) :
    (s.dispatchManagementConnection registry codec slot connectionId event.readable event.writable
      event.answers).state.core =
      match s.executedRequest codec slot connectionId event with
      | none => s.core
      | some request =>
        match (s.readManagement codec slot event.answers.reads).state.managementRequestResponse
          (event.answers.readClock 0) request with
        | .error _ => s.core
        | .ok (_, s') => s'.core := by
  rw [dispatchManagementConnection_eq]
  cases hheld : s.management.any fun m => m.holds slot connectionId with
  | false =>
    rw [if_neg (by simp), executedRequest, hheld]
    rfl
  | true =>
    have hwrite : ∀ p : ServerAttempt Bool, (p.andThen fun served s =>
        s.writeManagement registry slot connectionId event.writable event.answers.write
          served).state.core = p.state.core := by
      intro p
      have hkeeps : Keeps (fun s' _ => s'.core = p.state.core) []
          (p.andThen fun served s => s.writeManagement registry slot connectionId event.writable
            event.answers.write served) :=
        Keeps.andThen rfl fun _ _ hcore => (writeManagement_core _).trans hcore
      exact hkeeps
    rw [if_pos rfl, hwrite]
    cases hreadable : event.readable with
    | false =>
      rw [executedRequest, hheld, hreadable]
      rfl
    | true =>
      have hreadCore := onManagementConnection_core slot (fun c =>
        if c.response.isSome then
          (.done none c : ManagementAttempt (Option (Except ErrorKind ManagementReadResult)))
        else .done (some (c.read codec event.answers.reads).1)
          (c.read codec event.answers.reads).2) s
      change (s.readManagement codec slot event.answers.reads).state.core = s.core at hreadCore
      rw [executedRequest, hheld, hreadable, receiveManagement, if_pos rfl, if_pos (by rfl)]
      cases hresult : (s.readManagement codec slot event.answers.reads).result with
      | error failure =>
        rw [andThen_error hresult]
        exact hreadCore
      | ok result =>
        rw [andThen_ok hresult]
        have hanswer : ∀ {p : ServerAttempt Unit} {b : Bool},
            (p.andThen fun _ s => (.done b s : ServerAttempt Bool)).state.core = p.state.core := by
          intro p b
          rw [andThen_state fun _ _ => rfl]
        rcases result with - | (- | (- | request | response | -))
        · exact hreadCore
        · exact hanswer.trans ((onManagement_core _ _).trans hreadCore)
        · exact hreadCore
        · simp only [answerRead]
          cases hr : managementRequestResponse
              (s.readManagement codec slot event.answers.reads).state (event.answers.readClock 0)
              request with
          | error failure => exact hreadCore
          | ok answer => exact hanswer.trans (onManagement_core _ _)
        · exact hanswer.trans ((onManagement_core _ _).trans hreadCore)
        · exact hanswer.trans ((onManagement_core _ _).trans hreadCore)

/-! ### Runs -/

lemma dispatchEvent_of_isOf (hof : s.isOf slot connectionId event) :
    s.dispatchEvent registry codec event =
      s.dispatchManagementConnection registry codec slot connectionId event.readable event.writable
        event.answers := by
  unfold dispatchEvent
  rw [hof]
  simp

end Server

/-- The events of a management connection in a history. -/
def eventsOf (slot : ManagementSlot) (connectionId : Nat)
    (h : List (Machine.Taken EventLoop Input (List Report))) : List Event :=
  h.filterMap fun x =>
    match x.input with
    | .event event => if x.before.server.isOf slot connectionId event then some event else none
    | _ => none

/-- The requests that are executed for a management connection in a history. -/
def executedRequests (codec : ManagementCodec) (slot : ManagementSlot) (connectionId : Nat)
    (h : List (Machine.Taken EventLoop Input (List Report))) : List ManagementRequest :=
  h.filterMap fun x =>
    match x.input with
    | .event event =>
      if x.before.server.isOf slot connectionId event then
        x.before.server.executedRequest codec slot connectionId event
      else none
    | _ => none

section Runs

variable {slot : ManagementSlot} {connectionId : Nat} {l₀ l l' : EventLoop} {input : Input}
  {log : List Report} {h : List (Machine.Taken EventLoop Input (List Report))}

/-- A step on the management connections. -/
lemma receptionStep_of_step (step : (eventLoop registry codec).step l input = .ok (log, l')) :
    Server.ReceptionStep l.server input l'.server := by
  obtain ⟨-, -, rfl⟩ := EventLoop.step_ok step
  have hstep := Server.receptionStep_handle registry codec l.server input
  cases hstep with
  | same h => exact .same h
  | admits hm hm' h => exact .admits hm hm' h
  | serves hinput hof hm hholds h => exact .serves hinput hof hm hholds h

lemma below_of_run (started : Started l₀) (run : (eventLoop registry codec).Run l₀ h l) :
    l.server.ManagementIdsBelow := by
  refine run.invariant (P := fun l => l.server.ManagementIdsBelow) ?_ fun hbelow step =>
    (receptionStep_of_step step).below hbelow
  obtain ⟨-, input, hbind⟩ := started
  obtain ⟨first, rest, clock, firstSampleAt, endpoints, -, -, -, -, hserver⟩ := bindInner_ok hbind
  rw [hserver]
  intro m hm slot c hc
  simp only at hm
  split at hm
  · obtain rfl := Option.some.inj hm
    cases hc
  · cases hm

/-- Nothing more is executed for the connection. -/
def Closed (slot : ManagementSlot) (connectionId : Nat) (l : EventLoop) : Prop :=
  l.ended.isSome = true ∨ l.server.Settled slot connectionId

lemma clientAt_of_step (step : (eventLoop registry codec).step l input = .ok (log, l'))
    (hlt : connectionId < l.server.nextManagementConnectionId)
    (hother : ∀ event, input = .event event → ¬ l.server.isOf slot connectionId event) :
    l'.server.clientAt slot connectionId = l.server.clientAt slot connectionId :=
  (receptionStep_of_step step).clientAt hlt hother

lemma clientAt_of_dispatch {event : Event}
    (step : (eventLoop registry codec).step l (.event event) = .ok (log, l'))
    (hof : l.server.isOf slot connectionId event) :
    l'.server.clientAt slot connectionId =
      (l.server.dispatchManagementConnection registry codec slot connectionId event.readable
        event.writable event.answers).state.clientAt slot connectionId := by
  obtain ⟨-, -, rfl⟩ := EventLoop.step_ok step
  rw [← Server.dispatchEvent_of_isOf hof]
  rfl

lemma eventsOf_concat (x : Machine.Taken EventLoop Input (List Report)) :
    eventsOf slot connectionId (h ++ [x]) =
      eventsOf slot connectionId h ++ eventsOf slot connectionId [x] := List.filterMap_append

lemma executedRequests_concat (x : Machine.Taken EventLoop Input (List Report)) :
    executedRequests codec slot connectionId (h ++ [x]) =
      executedRequests codec slot connectionId h ++
        executedRequests codec slot connectionId [x] := List.filterMap_append

/-- A step of another input than an event of the connection has nothing executed for it. -/
lemma own_or_other (slot : ManagementSlot) (connectionId : Nat) (l : EventLoop) (input : Input) :
    (∃ event, input = .event event ∧ l.server.isOf slot connectionId event) ∨
      ∀ event, input = .event event → ¬ l.server.isOf slot connectionId event := by
  by_cases hown : ∃ event, input = .event event ∧ l.server.isOf slot connectionId event
  · exact .inl hown
  · exact .inr fun event hinput hof => hown ⟨event, hinput, hof⟩

lemma taken_own (codec : ManagementCodec) (log : List Report) (l' : EventLoop) {event : Event}
    (hof : l.server.isOf slot connectionId event) :
    eventsOf slot connectionId [⟨l, .event event, log, l'⟩] = [event] ∧
      executedRequests codec slot connectionId [⟨l, .event event, log, l'⟩] =
        (l.server.executedRequest codec slot connectionId event).toList := by
  constructor
  · simp [eventsOf, hof]
  · simp only [executedRequests, List.filterMap_cons, hof, if_true, List.filterMap_nil]
    cases l.server.executedRequest codec slot connectionId event <;> rfl

lemma taken_other (codec : ManagementCodec) (log : List Report) (l' : EventLoop)
    (hother : ∀ event, input = .event event → ¬ l.server.isOf slot connectionId event) :
    eventsOf slot connectionId [⟨l, input, log, l'⟩] = [] ∧
      executedRequests codec slot connectionId [⟨l, input, log, l'⟩] = [] := by
  cases input with
  | event event =>
    have hnot := hother event rfl
    simp [eventsOf, executedRequests, hnot]
  | expire now => exact ⟨rfl, rfl⟩
  | boundary answers => exact ⟨rfl, rfl⟩

/-- A step keeps the connection closed, and has nothing executed for it. -/
lemma Closed.step (hclosed : Closed slot connectionId l)
    (hlt : connectionId < l.server.nextManagementConnectionId)
    (step : (eventLoop registry codec).step l input = .ok (log, l')) :
    Closed slot connectionId l' ∧
      executedRequests codec slot connectionId [⟨l, input, log, l'⟩] = [] := by
  have hsettled : l.server.Settled slot connectionId := by
    refine hclosed.resolve_left ?_
    rw [(EventLoop.step_ok step).1]
    simp
  rcases own_or_other slot connectionId l input with ⟨event, rfl, hof⟩ | hother
  · constructor
    · refine .inr fun c hc => ?_
      rw [clientAt_of_dispatch step hof] at hc
      exact hsettled.dispatch c hc
    · rw [(taken_own codec _ _ hof).2, hsettled.executed]
      rfl
  · refine ⟨.inr fun c hc => ?_, (taken_other codec _ _ hother).2⟩
    rw [clientAt_of_step step hlt hother] at hc
    exact hsettled c hc

/-- A step that has a request executed closes the connection. -/
lemma closed_of_executed {event : Event} {request : ManagementRequest}
    (hof : l.server.isOf slot connectionId event)
    (hexecuted : l.server.executedRequest codec slot connectionId event = some request)
    (step : (eventLoop registry codec).step l (.event event) = .ok (log, l')) :
    Closed slot connectionId l' := by
  have hdispatch := Server.settled_of_executed registry hexecuted
  simp only at hdispatch
  rcases hdispatch with hsettled | ⟨failure, hfailure⟩
  · refine .inr fun c hc => ?_
    rw [clientAt_of_dispatch step hof] at hc
    exact hsettled c hc
  · obtain ⟨-, -, rfl⟩ := EventLoop.step_ok step
    refine .inl ?_
    change (failureOf (l.server.dispatchEvent registry codec event).result).isSome = true
    rw [Server.dispatchEvent_of_isOf hof, hfailure]
    rfl

/-- A run from where the connection is closed has nothing executed for it. -/
lemma Closed.run (hclosed : Closed slot connectionId l)
    (hlt : connectionId < l.server.nextManagementConnectionId)
    (run : (eventLoop registry codec).Run l h l') :
    executedRequests codec slot connectionId h = [] := by
  have hall := run.history
    (P := fun h l => executedRequests codec slot connectionId h = [] ∧
      Closed slot connectionId l ∧ connectionId < l.server.nextManagementConnectionId)
    ⟨rfl, hclosed, hlt⟩ ?_
  · exact hall.1
  · rintro h r input log r' - ⟨hnone, hclosed, hlt⟩ step
    obtain ⟨hclosed', hstep⟩ := hclosed.step hlt step
    refine ⟨?_, hclosed', hlt.trans_le (receptionStep_of_step step).next_le⟩
    rw [executedRequests_concat, hnone, hstep]
    rfl

/-- At most one request is executed for a management connection. -/
theorem executed_atMostOnce (started : Started l₀) (run : (eventLoop registry codec).Run l₀ h l) :
    (executedRequests codec slot connectionId h).length ≤ 1 := by
  have hall := run.history
    (P := fun h l => executedRequests codec slot connectionId h = [] ∨
      (executedRequests codec slot connectionId h).length = 1 ∧
        Closed slot connectionId l ∧ connectionId < l.server.nextManagementConnectionId)
    (.inl rfl) ?_
  · rcases hall with hnone | ⟨hone, -⟩
    · rw [hnone]
      exact Nat.zero_le 1
    · exact hone.le
  · rintro h r input log r' run hP step
    rw [executedRequests_concat]
    have hnext := (receptionStep_of_step step).next_le
    rcases hP with hnone | ⟨hone, hclosed, hlt⟩
    · rw [hnone, List.nil_append]
      rcases own_or_other slot connectionId r input with ⟨event, rfl, hof⟩ | hother
      · rw [(taken_own codec _ _ hof).2]
        cases hexecuted : r.server.executedRequest codec slot connectionId event with
        | none => exact .inl rfl
        | some request =>
          obtain ⟨-, c, hc, -, -⟩ := Server.executedRequest_eq_some hexecuted
          obtain ⟨m, hm, hslot, hid⟩ := Server.clientAt_eq_some.mp hc
          have hlt := below_of_run started run m hm slot c hslot
          rw [hid] at hlt
          exact .inr ⟨rfl, closed_of_executed hof hexecuted step, hlt.trans_le hnext⟩
      · exact .inl (taken_other codec _ _ hother).2
    · obtain ⟨hclosed', hstep⟩ := hclosed.step hlt step
      refine .inr ⟨?_, hclosed', hlt.trans_le hnext⟩
      rw [hstep, List.append_nil]
      exact hone

/-- The bytes of events, one after the other. -/
def delivered (events : List Event) : List UInt8 :=
  events.flatMap fun event => streamed event.answers.reads

/-- An event that brings bytes of a request, before its end: there is nothing to write yet, and the
stream stays open. -/
def Event.Brings (event : Event) : Prop :=
  event.readable = true ∧ event.writable = false ∧ StaysOpen event.answers.reads

variable {lib : RequestLibrary} {bytes : List UInt8} {request : ManagementRequest}

/-- While the bytes of a request come in, they are kept and nothing is executed. -/
lemma received_of_run {c : ManagementConnection} (steady : lib.Steady)
    (hcodec : codec.parse = parse lib) (hcomplete : parse lib bytes = .complete request)
    (hc : l.server.clientAt slot connectionId = some c) (hfresh : c.receive = [])
    (hopen : c.response = none) (hlt : connectionId < l.server.nextManagementConnectionId)
    (run : (eventLoop registry codec).Run l h l')
    (hbrings : ∀ event ∈ eventsOf slot connectionId h, event.Brings)
    (hfront : delivered (eventsOf slot connectionId h) <+: bytes)
    (hproper : eventsOf slot connectionId h ≠ [] →
      delivered (eventsOf slot connectionId h) ≠ bytes) :
    executedRequests codec slot connectionId h = [] ∧
      connectionId < l'.server.nextManagementConnectionId ∧
      l'.server.clientAt slot connectionId =
        some { c with receive := delivered (eventsOf slot connectionId h) } := by
  revert hbrings hfront hproper
  refine run.history
    (P := fun h l' => (∀ event ∈ eventsOf slot connectionId h, event.Brings) →
      delivered (eventsOf slot connectionId h) <+: bytes →
      (eventsOf slot connectionId h ≠ [] → delivered (eventsOf slot connectionId h) ≠ bytes) →
        executedRequests codec slot connectionId h = [] ∧
          connectionId < l'.server.nextManagementConnectionId ∧
          l'.server.clientAt slot connectionId =
            some { c with receive := delivered (eventsOf slot connectionId h) })
    (fun _ _ _ => ⟨rfl, hlt, ?_⟩) ?_
  · have hnone : delivered (eventsOf slot connectionId []) = c.receive := by
      rw [hfresh]
      rfl
    rw [hc, hnone]
  rintro h r input log r' - hP step hbrings hfront hproper
  have hnext := (receptionStep_of_step step).next_le
  rcases own_or_other slot connectionId r input with ⟨event, rfl, hof⟩ | hother
  · obtain ⟨hevents, hrequests⟩ := taken_own codec log r' hof
    rw [eventsOf_concat, hevents] at hbrings hfront hproper ⊢
    rw [executedRequests_concat, hrequests]
    have hbytes : delivered (eventsOf slot connectionId h ++ [event]) =
        delivered (eventsOf slot connectionId h) ++ streamed event.answers.reads := by
      simp [delivered]
    rw [hbytes] at hfront hproper ⊢
    have hproper := hproper (by simp)
    have hbefore : delivered (eventsOf slot connectionId h) <+: bytes :=
      (List.prefix_append _ _).trans hfront
    have hshort := lt_of_le_of_ne hfront.length_le fun heq => hproper (hfront.eq_of_length heq)
    rw [List.length_append] at hshort
    obtain ⟨hnone, hlt', hclient⟩ := hP (fun e he => hbrings e (List.mem_append_left _ he)) hbefore
      fun _ heq => by
        rw [heq] at hshort
        omega
    obtain ⟨hreadable, hwritable, hstays⟩ := hbrings event (by simp)
    have hsize := (parse_eq_complete hcomplete).1
    have hincomplete := parse_of_front steady hcomplete hfront hproper
    rw [← hcodec] at hincomplete
    obtain ⟨hexecuted, hafter⟩ := Server.dispatch_incomplete registry hclient hopen
      hreadable hwritable (by change (delivered _).length + _ ≤ _; omega) hstays hincomplete
    refine ⟨?_, hlt'.trans_le hnext, ?_⟩
    · rw [hnone, hexecuted]
      rfl
    · rw [clientAt_of_dispatch step hof]
      exact hafter
  · obtain ⟨hevents, hrequests⟩ := taken_other codec log r' hother
    rw [eventsOf_concat, hevents, List.append_nil] at hbrings hfront hproper ⊢
    obtain ⟨hnone, hlt', hclient⟩ := hP hbrings hfront hproper
    rw [executedRequests_concat, hrequests, hnone]
    refine ⟨rfl, hlt'.trans_le hnext, ?_⟩
    rw [clientAt_of_step step hlt' hother]
    exact hclient

/-- Events that bring bytes in pieces. The last piece may come with the end of the stream, and
something may be written in its event. -/
structure Brought (bytes : List UInt8) (front : List Event) (last : Event) : Prop where
  brings : ∀ event ∈ front, event.Brings
  proper : front ≠ [] → delivered front ≠ bytes
  readable : last.readable = true
  stop : StaysOpen last.answers.reads ∨ stopped last.answers.reads = some (.data []) ∧ bytes ≠ []
  whole : delivered front ++ streamed last.answers.reads = bytes

/-- However the bytes of a request are cut, it is the one that is executed. -/
theorem executed_exactly {c : ManagementConnection} {front later : List Event} {last : Event}
    (steady : lib.Steady) (hcodec : codec.parse = parse lib)
    (hcomplete : parse lib bytes = .complete request)
    (started : Started l₀) {h₀ : List (Machine.Taken EventLoop Input (List Report))}
    (run₀ : (eventLoop registry codec).Run l₀ h₀ l)
    (hc : l.server.clientAt slot connectionId = some c) (hfresh : c.receive = [])
    (hopen : c.response = none) (run : (eventLoop registry codec).Run l h l')
    (hevents : eventsOf slot connectionId h = front ++ last :: later)
    (hbrought : Brought bytes front last) :
    executedRequests codec slot connectionId h = [request] := by
  obtain ⟨hbrings, hproper, hreadable, hstop, hbytes⟩ := hbrought
  have hlt : connectionId < l.server.nextManagementConnectionId := by
    obtain ⟨m, hm, hslot, hid⟩ := Server.clientAt_eq_some.mp hc
    have hbelow := below_of_run started run₀ m hm slot c hslot
    rwa [hid] at hbelow
  obtain ⟨h₁, h₂, rfl, hfront, hrest⟩ := List.filterMap_eq_append_iff.mp hevents
  obtain ⟨h₃, x, h₄, rfl, hquiet, hlast, hlater⟩ := List.filterMap_eq_cons_iff.mp hrest
  rw [← List.append_assoc] at run ⊢
  obtain ⟨runFront, step, runLater⟩ := run.step_of_mid
  have hfrontEvents : eventsOf slot connectionId (h₁ ++ h₃) = front := by
    have hnone : eventsOf slot connectionId h₃ = [] := List.filterMap_eq_nil_iff.mpr hquiet
    rw [eventsOf, List.filterMap_append]
    change eventsOf slot connectionId h₁ ++ eventsOf slot connectionId h₃ = front
    rw [hnone, List.append_nil]
    exact hfront
  obtain ⟨hnone, hlt', hclient⟩ := received_of_run steady hcodec hcomplete hc hfresh hopen hlt
    runFront (by rwa [hfrontEvents]) (by rw [hfrontEvents, ← hbytes]; exact List.prefix_append _ _)
    (by rwa [hfrontEvents])
  rw [hfrontEvents] at hclient
  obtain ⟨l₁, input, log, l₂⟩ := x
  obtain ⟨rfl, hof⟩ : input = .event last ∧ l₁.server.isOf slot connectionId last := by
    cases input with
    | event event =>
      simp only [Option.ite_none_right_eq_some, Option.some.injEq] at hlast
      exact ⟨by rw [hlast.2], hlast.2 ▸ hlast.1⟩
    | expire now => cases hlast
    | boundary answers => cases hlast
  have hsize := (parse_eq_complete hcomplete).1
  have hexecuted : l₁.server.executedRequest codec slot connectionId last = some request := by
    refine Server.executedRequest_complete hclient hopen hreadable ?_ ?_ ?_
    · change (delivered front).length + _ ≤ _
      rw [← List.length_append, hbytes]
      exact hsize
    · refine hstop.imp_right fun ⟨hend, hne⟩ => ⟨hend, ?_⟩
      change delivered front ++ _ ≠ []
      rwa [hbytes]
    · change codec.parse (delivered front ++ _) = _
      rw [hbytes, hcodec]
      exact hcomplete
  have hclosed := closed_of_executed hof hexecuted step
  have hafter := hclosed.run (hlt'.trans_le (receptionStep_of_step step).next_le) runLater
  have hsplit : executedRequests codec slot connectionId
      (h₁ ++ h₃ ++ ⟨l₁, .event last, log, l₂⟩ :: h₄) =
      executedRequests codec slot connectionId (h₁ ++ h₃) ++
        (executedRequests codec slot connectionId [⟨l₁, .event last, log, l₂⟩] ++
          executedRequests codec slot connectionId h₄) := by
    rw [← List.singleton_append]
    simp only [executedRequests, List.filterMap_append]
  rw [hsplit, hnone, (taken_own codec _ _ hof).2, hexecuted, hafter]
  rfl

/-- Requests are complete or in error for good, and a management connection has the request executed
that its bytes are, once, whatever the pieces they come in. -/
theorem requests_segmented (lib : RequestLibrary) (steady : lib.Steady)
    (encode : ManagementResponse → List UInt8) (registry : Registry) :
    let codec : ManagementCodec := ⟨parse lib, encode⟩
    (∀ (bytes front : List UInt8) (request : ManagementRequest),
      parse lib bytes = .complete request → front <+: bytes → front ≠ bytes →
        parse lib front = .incomplete) ∧
    (∀ (bytes more : List UInt8) (e : ParseError), parse lib bytes = .error e →
      ∃ e', parse lib (bytes ++ more) = .error e') ∧
    (∀ (l₀ l : EventLoop) (h : List (Machine.Taken EventLoop Input (List Report)))
      (slot : ManagementSlot) (connectionId : Nat), Started l₀ →
      (eventLoop registry codec).Run l₀ h l →
        (executedRequests codec slot connectionId h).length ≤ 1) ∧
    (∀ (l₀ l l' : EventLoop) (h₀ h : List (Machine.Taken EventLoop Input (List Report)))
      (slot : ManagementSlot) (connectionId : Nat) (c : ManagementConnection) (bytes : List UInt8)
      (request : ManagementRequest) (front later : List Event) (last : Event),
      parse lib bytes = .complete request → Started l₀ →
      (eventLoop registry codec).Run l₀ h₀ l → l.server.clientAt slot connectionId = some c →
      c.receive = [] → c.response = none → (eventLoop registry codec).Run l h l' →
      eventsOf slot connectionId h = front ++ last :: later → Brought bytes front last →
        executedRequests codec slot connectionId h = [request]) ∧
    ∀ (s : Server) (slot : ManagementSlot) (connectionId : Nat) (event : Event),
      (s.dispatchManagementConnection registry codec slot connectionId event.readable event.writable
        event.answers).state.core =
        match s.executedRequest codec slot connectionId event with
        | none => s.core
        | some request =>
          match (s.readManagement codec slot event.answers.reads).state.managementRequestResponse
            (event.answers.readClock 0) request with
          | .error _ => s.core
          | .ok (_, s') => s'.core :=
  ⟨fun _ _ _ => parse_of_front steady, fun _ more _ h => parse_error_append steady h more,
    fun _ _ _ _ _ => executed_atMostOnce,
    fun _ _ _ _ _ _ _ _ _ _ _ _ _ hcomplete started run₀ hc hfresh hopen run =>
      executed_exactly steady rfl hcomplete started run₀ hc hfresh hopen run,
    fun s _ _ event => s.dispatch_core event⟩

end Runs

end Registered

/-! ### A request in two pieces -/

/-- A library that knows one head. -/
def soleLibrary (block : List UInt8) (head : RequestHead) : RequestLibrary where
  parseHead _ input :=
    if block <+: input then .complete block.length head
    else if input <+: block then .incomplete
    else .failed .other
  prepareBody _ := none
  clearBody _ := none
  tokenBody _ := none

lemma soleLibrary_steady (block : List UInt8) (head : RequestHead) :
    (soleLibrary block head).Steady where
  incomplete {maxHeaders length input front head'} h hfront hproper := by
    simp only [soleLibrary] at h ⊢
    split_ifs at h with hblock
    obtain ⟨rfl, rfl⟩ := HeadStatus.complete.inj h
    rw [← List.prefix_iff_eq_take.mp hblock] at hfront hproper
    rw [if_neg, if_pos hfront]
    exact fun hback => hproper (hfront.eq_of_length_le hback.length_le)
  complete {maxHeaders length input other head'} h hother := by
    simp only [soleLibrary] at h ⊢
    split_ifs at h with hblock
    obtain ⟨rfl, rfl⟩ := HeadStatus.complete.inj h
    rw [← List.prefix_iff_eq_take.mp hblock] at hother
    rw [if_pos hother]
  failed {maxHeaders input e} more h := by
    simp only [soleLibrary] at h ⊢
    split_ifs at h with hblock hinput
    refine ⟨.other, ?_⟩
    rw [if_neg, if_neg]
    · exact fun hmore => hinput ((List.prefix_append _ _).trans hmore)
    · intro hmore
      rcases List.prefix_or_prefix_of_prefix hmore (List.prefix_append input more) with
        hback | hback
      · exact hblock hback
      · exact hinput hback

def healthzBytes : List UInt8 :=
  "GET /healthz HTTP/1.1\r\nHost: a\r\n\r\n".toList.map fun c => UInt8.ofNat c.toNat

def healthzHead : RequestHead where
  method := some "GET"
  path := some "/healthz"
  version := some 1
  headers := [⟨"Host", [97]⟩]

def healthzCodec : ManagementCodec := ⟨parse (soleLibrary healthzBytes healthzHead), fun _ => []⟩

/-- The loop of one endpoint, with management. -/
def managedLoop : EventLoop :=
  ⟨(bindInner { soleInput .v2 none with managed := true }).toOption.get (by decide +kernel), none⟩

/-- The step of an input, where the loop has not ended. -/
def healthzStep (l : EventLoop) (input : Input) : Machine.Taken EventLoop Input (List Report) :=
  let handled := l.server.handle takingRegistry healthzCodec input
  ⟨l, input, handled.log,
    { server := { handled.state with
        stats := handled.log.foldl ServerStats.count handled.state.stats }
      ended := failureOf handled.result }⟩

lemma step_healthzStep {l : EventLoop} (input : Input) (running : l.ended = none) :
    (eventLoop takingRegistry healthzCodec).step l input =
      .ok ((healthzStep l input).output, (healthzStep l input).after) := by
  simp only [eventLoop, EventLoop.step, running]
  rfl

def managementAccept : Input :=
  .event ⟨managementListenerToken, true, false, [.connected (.ok ()) 0],
    soleAnswers [] (.failed .wouldBlock)⟩

/-- The first management connection is given bytes to read. -/
def managementBytes (bytes : List UInt8) : Event :=
  ⟨managementTokenBase + 1, true, false, [], soleAnswers [.data bytes] (.failed .wouldBlock)⟩

def acceptedStep : Machine.Taken EventLoop Input (List Report) :=
  healthzStep managedLoop managementAccept

def firstPiece : Event := managementBytes (healthzBytes.take 9)

def lastPiece : Event := managementBytes (healthzBytes.drop 9)

def firstStep : Machine.Taken EventLoop Input (List Report) :=
  healthzStep acceptedStep.after (.event firstPiece)

def lastStep : Machine.Taken EventLoop Input (List Report) :=
  healthzStep firstStep.after (.event lastPiece)

lemma brought_pieces : Brought healthzBytes [firstPiece] lastPiece where
  brings event hmem := by
    obtain rfl := List.mem_singleton.mp hmem
    exact ⟨rfl, rfl, Or.inl (by decide +kernel)⟩
  proper _ := by decide +kernel
  readable := rfl
  stop := Or.inl (Or.inl (by decide +kernel))
  whole := by decide +kernel

theorem requests_segmented_healthz :
    executedRequests healthzCodec 0 1 [firstStep, lastStep] = [.healthz] := by
  have hok : (bindInner { soleInput .v2 none with managed := true }).toOption.isSome = true := by
    decide +kernel
  have hbind : bindInner { soleInput .v2 none with managed := true } = .ok managedLoop.server := by
    have hsome : (bindInner { soleInput .v2 none with managed := true }).toOption =
        some managedLoop.server := (Option.some_get hok).symm
    cases hbound : bindInner { soleInput .v2 none with managed := true } with
    | error failure =>
      rw [hbound] at hsome
      cases hsome
    | ok server =>
      rw [hbound] at hsome
      rw [Option.some.inj hsome]
  have run₀ : (eventLoop takingRegistry healthzCodec).Run managedLoop [acceptedStep]
      acceptedStep.after := .snoc .nil (step_healthzStep managementAccept rfl)
  have run : (eventLoop takingRegistry healthzCodec).Run acceptedStep.after [firstStep, lastStep]
      lastStep.after :=
    .snoc (.snoc .nil (step_healthzStep (.event firstPiece) (by decide +kernel)))
      (step_healthzStep (.event lastPiece) (by decide +kernel))
  have hfirst : firstStep.before.server.isOf 0 1 firstPiece := by decide +kernel
  have hlast : lastStep.before.server.isOf 0 1 lastPiece := by decide +kernel
  have hevents : eventsOf 0 1 [firstStep, lastStep] = [firstPiece] ++ lastPiece :: [] := by
    have hinput : firstStep.input = .event firstPiece := rfl
    have hinput' : lastStep.input = .event lastPiece := rfl
    simp [eventsOf, hinput, hinput', hfirst, hlast]
  have hclient : acceptedStep.after.server.clientAt 0 1 =
      some ⟨1, managementTokenBase + 1, [], none, 0⟩ := by decide +kernel
  exact (requests_segmented _ (soleLibrary_steady healthzBytes healthzHead) (fun _ => [])
    takingRegistry).2.2.2.1 managedLoop acceptedStep.after lastStep.after [acceptedStep] _ 0 1 _
      healthzBytes .healthz [firstPiece] [] lastPiece (by decide +kernel) ⟨rfl, _, hbind⟩ run₀
      hclient rfl rfl run hevents brought_pieces

end PmuSimulator

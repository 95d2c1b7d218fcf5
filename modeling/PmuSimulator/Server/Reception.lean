import Mathlib
import PmuSimulator.Server.Core

/-!
# The management connections in a step

An input admits management connections, or serves the one it is of, or does nothing to them. Those
that are served keep their slots and identifiers, and new ones get new identifiers.
-/

namespace PmuSimulator

open Attempt

/-! ### The listener and its connections -/

namespace Server

/-- The management connections, and the identifier of the next one. -/
def reception (s : Server) : Option ManagementListener × Nat :=
  (s.management, s.nextManagementConnectionId)

/-- The management connection of an identifier, while it is in its slot. -/
def clientAt (s : Server) (slot : ManagementSlot) (connectionId : Nat) :
    Option ManagementConnection :=
  s.management.bind fun m => (m.connections slot).filter fun c => c.connectionId = connectionId

lemma clientAt_eq_some {s : Server} {slot : ManagementSlot} {connectionId : Nat}
    {c : ManagementConnection} :
    s.clientAt slot connectionId = some c ↔
      ∃ m, s.management = some m ∧ m.connections slot = some c ∧ c.connectionId = connectionId := by
  simp [clientAt, Option.bind_eq_some_iff, Option.filter_eq_some_iff]

lemma clientAt_congr {s s' : Server} (h : s'.management = s.management) (slot : ManagementSlot)
    (connectionId : Nat) : s'.clientAt slot connectionId = s.clientAt slot connectionId := by
  rw [clientAt, clientAt, h]

/-- Whether an event is of a management connection. -/
def isOf (slot : ManagementSlot) (connectionId : Nat) (s : Server) (event : Event) : Prop :=
  eventTarget event.token s.endpoints.length =
    some (.managementConnection slot connectionId)

instance (slot : ManagementSlot) (connectionId : Nat) (s : Server) (event : Event) :
    Decidable (s.isOf slot connectionId event) :=
  inferInstanceAs (Decidable (_ = _))

end Server

/-! ### What is not of a management connection -/

namespace Server

section Registered

variable {registry : Registry} {codec : ManagementCodec} {s : Server}

lemma reception_onEndpoint (i : Nat) (attempt : Endpoint → EndpointAttempt Unit) (s : Server) :
    (s.onEndpoint i attempt).state.reception = s.reception := by
  unfold onEndpoint
  cases s.endpoints[i]? with
  | none => rfl
  | some e => rfl

lemma reception_eachEndpoint (attempt : Nat → Endpoint → EndpointAttempt Unit) (s : Server) :
    (s.eachEndpoint attempt).state.reception = s.reception := by
  have hkeeps : (s.eachEndpoint attempt).Keeps (fun s' _ => s'.reception = s.reception) [] := by
    refine .each rfl fun i _ s' before hsame => ?_
    exact (reception_onEndpoint i (attempt i) s').trans hsame
  exact hkeeps

lemma reception_acceptAt (endpointIndex : Nat) (accepts : List AcceptAnswer) (s : Server) :
    (s.acceptAt registry endpointIndex accepts).state.reception = s.reception := by
  unfold acceptAt
  cases s.endpoints[endpointIndex]? with
  | none => rfl
  | some e => rfl

lemma reception_takeBoundary (answers : BoundaryAnswers) (s : Server) :
    (s.takeBoundary registry answers).state.reception = s.reception := by
  cases hdue : s.scheduler.takeDue answers.now with
  | mk due scheduler =>
    cases due with
    | none => rw [takeBoundary_of_none (by rw [hdue]), done_state]
    | some tick =>
      obtain ⟨sampleIndex, skipped⟩ := tick
      rw [takeBoundary_of_some hdue, andThen_ok (note_result _ _)]
      cases hadvance : advanceController sampleIndex s.scenarioController with
      | error failure =>
        rw [note_state, emitData_of_error (s := { s with scheduler }) hadvance]
        rfl
      | ok c =>
        rw [note_state, emitData_of_ok (s := { s with scheduler }) hadvance,
          andThen_ok (note_result _ _)]
        have hkeeps : (emitBoundary registry
            ((atBoundary { s with scheduler } answers c).boundaryAt sampleIndex) answers.answers
            (atBoundary { s with scheduler } answers c)).Keeps
              (fun s' _ => s'.reception = s.reception) [] := by
          refine Keeps.andThen ?_ fun _ _ hsame => ?_
          · exact (reception_eachEndpoint _ _).trans rfl
          · exact (reception_eachEndpoint _ _).trans hsame
        exact hkeeps

end Registered

end Server

/-! ### Accepts -/

/-- The connection of an identifier in a slot of the listener. -/
def ManagementListener.client (m : ManagementListener) (slot : ManagementSlot)
    (connectionId : Nat) : Option ManagementConnection :=
  (m.connections slot).filter fun c => c.connectionId = connectionId

@[simp] lemma ManagementListener.setSlot_self (m : ManagementListener) (slot : ManagementSlot)
    (connection : Option ManagementConnection) :
    (m.setSlot slot connection).connections slot = connection := by
  simp [ManagementListener.setSlot]

lemma ManagementListener.setSlot_of_ne (m : ManagementListener) {slot slot' : ManagementSlot}
    (hne : slot' ≠ slot) (connection : Option ManagementConnection) :
    (m.setSlot slot connection).connections slot' = m.connections slot' := by
  simp [ManagementListener.setSlot, hne]

/-- The identifiers of a listener's connections have all been given out. -/
def IdsBelow (r : ManagementListener × Nat) : Prop :=
  ∀ slot c, r.1.connections slot = some c → c.connectionId < r.2

/-- The listener before and after accepts, with the identifiers of the next connection: those that
were there stay, and only new identifiers are given out. -/
structure Admits (r r' : ManagementListener × Nat) : Prop where
  next : r.2 ≤ r'.2
  stays : ∀ slot connectionId, connectionId < r.2 →
    r'.1.client slot connectionId = r.1.client slot connectionId
  below : IdsBelow r → IdsBelow r'

lemma Admits.refl (r : ManagementListener × Nat) : Admits r r :=
  ⟨le_rfl, fun _ _ _ => rfl, id⟩

lemma Admits.trans {r r' r'' : ManagementListener × Nat} (h : Admits r r') (h' : Admits r' r'') :
    Admits r r'' where
  next := h.next.trans h'.next
  stays slot connectionId hlt :=
    (h'.stays slot connectionId (hlt.trans_le h.next)).trans (h.stays slot connectionId hlt)
  below hbelow := h'.below (h.below hbelow)

lemma admits_setSlot {m : ManagementListener} {next : Nat} {slot : ManagementSlot}
    {c : ManagementConnection} (hfree : m.connections slot = none) (hc : c.connectionId = next) :
    Admits (m, next) (m.setSlot slot (some c), next + 1) where
  next := Nat.le_succ next
  stays slot' connectionId hlt := by
    by_cases hslot : slot' = slot
    · subst hslot
      have hne : c.connectionId ≠ connectionId := by omega
      simp [ManagementListener.client, hfree, hne]
    · rw [ManagementListener.client, m.setSlot_of_ne hslot]
      rfl
  below hbelow slot' c' hc' := by
    by_cases hslot : slot' = slot
    · subst hslot
      simp only [ManagementListener.setSlot_self, Option.some.injEq] at hc'
      subst hc'
      exact Nat.lt_succ_of_le hc.le
    · simp only [m.setSlot_of_ne hslot] at hc'
      exact Nat.lt_succ_of_lt (hbelow slot' c' hc')

lemma admits_reject (m : ManagementListener) (next : Nat) : Admits (m, next) (m.reject, next) :=
  ⟨le_rfl, fun _ _ _ => rfl, id⟩

section Registered

variable {registry : Registry} {codec : ManagementCodec}

lemma admits_admitManagementConnection (r : ManagementListener × Nat) :
    Admits r (admitManagementConnection registry r) := by
  obtain ⟨m, next⟩ := r
  unfold admitManagementConnection
  cases hslot : m.freeSlot with
  | none => exact admits_reject m next
  | some slot =>
    have hfree : m.connections slot = none := by
      have hnone := List.find?_some hslot
      simpa using hnone
    simp only
    cases hnext : checkedAdd next 1 with
    | none => exact admits_reject m next
    | some nextId =>
      obtain ⟨-, rfl⟩ := checkedAdd_eq_some.mp hnext
      simp only
      cases managementConnectionToken slot next with
      | error e => exact admits_reject m next
      | ok token =>
        simp only
        cases registry.register token .readable with
        | error e => exact admits_reject m next
        | ok _ => exact admits_setSlot hfree rfl

lemma admits_acceptManagementConnections (turns : Nat) (answers : List AcceptAnswer)
    (r : ManagementListener × Nat) :
    Admits r (acceptManagementConnections registry turns answers r).state := by
  induction turns generalizing answers r with
  | zero => exact .refl r
  | succ turns ih =>
    cases answers with
    | nil => exact .refl r
    | cons answer answers =>
      cases answer with
      | failed kind => cases kind <;> exact .refl r
      | connected configured acceptedAt =>
        exact (admits_admitManagementConnection r).trans (ih answers _)

/-! ### One management connection -/

namespace Server

/-- The listener is `m`, but in one slot nothing is left but a connection with a property. -/
def Serves (slot : ManagementSlot) (P : ManagementConnection → Prop) (m : ManagementListener)
    (next : Nat) (s : Server) : Prop :=
  s.nextManagementConnectionId = next ∧ ∃ m', s.management = some m' ∧
    (∀ slot', slot' ≠ slot → m'.connections slot' = m.connections slot') ∧
      ∀ c, m'.connections slot = some c → P c

variable {slot : ManagementSlot} {P : ManagementConnection → Prop} {m : ManagementListener}
  {next connectionId : Nat} {s : Server}

/-- An attempt that keeps the property of the connection it is given. -/
def Preserves {α : Type} (P : ManagementConnection → Prop)
    (attempt : ManagementConnection → ManagementAttempt α) : Prop :=
  ∀ c, P c → P (attempt c).state

lemma Serves.setSlot (m' : ManagementListener) {c : ManagementConnection}
    (hnext : s.nextManagementConnectionId = next)
    (hm' : s.management = some (m'.setSlot slot (some c)))
    (hothers : ∀ slot', slot' ≠ slot → m'.connections slot' = m.connections slot') (hc : P c) :
    Serves slot P m next s := by
  refine ⟨hnext, _, hm', fun slot' hne => ?_, fun c' hc' => ?_⟩
  · rw [m'.setSlot_of_ne hne]
    exact hothers slot' hne
  · rw [m'.setSlot_self, Option.some.injEq] at hc'
    exact hc' ▸ hc

lemma serves_onManagementConnection {α : Type}
    {attempt : ManagementConnection → ManagementAttempt α} (hattempt : Preserves P attempt)
    (h : Serves slot P m next s) :
    Serves slot P m next (s.onManagementConnection slot attempt).state := by
  obtain ⟨hnext, m', hm', hothers, hP⟩ := h
  unfold onManagementConnection
  rw [hm']
  cases hc : m'.connections slot with
  | none =>
    simp only [hc, failed_state]
    exact ⟨hnext, m', hm', hothers, hP⟩
  | some c =>
    simp only [hc]
    exact Serves.setSlot m' hnext rfl hothers (hattempt c (hP c hc))

lemma serves_closeManagement (h : Serves slot P m next s) :
    Serves slot P m next (s.closeManagement registry slot connectionId).state := by
  obtain ⟨hnext, m', hm', hothers, hP⟩ := h
  have hclosed : Serves slot P m next { s with management := some (m'.setSlot slot none) } := by
    refine ⟨hnext, _, rfl, fun slot' hne => ?_, fun c hc => ?_⟩
    · rw [m'.setSlot_of_ne hne]
      exact hothers slot' hne
    · rw [m'.setSlot_self] at hc
      cases hc
  have hsame : Serves slot P m next { s with management := some m' } :=
    ⟨hnext, m', rfl, hothers, hP⟩
  unfold closeManagement onManagement
  rw [hm']
  simp only [closeManagementConnection]
  cases m'.connections slot with
  | none => exact hsame
  | some c =>
    simp only
    split
    · exact hsame
    · cases registry.deregister c.token with
      | error kind => exact hclosed
      | ok _ => exact hclosed

lemma queueManagementResponse_state (registry : Registry) (response : ManagementResponse)
    (c : ManagementConnection) :
    (queueManagementResponse registry codec response c).state =
      { c with response := some (codec.encode response), responseOffset := 0 } := by
  unfold queueManagementResponse
  rw [andThen_ok (note_result _ _)]
  simp only [note_state]
  cases registry.reregister c.token .writable <;> rfl

/-- A property that nothing done to a connection takes from it: a response is queued, a part of it
is written, bytes are received before there is one. -/
structure Stable (P : ManagementConnection → Prop) : Prop where
  queue : ∀ c response, P c → P { c with response := some response, responseOffset := 0 }
  write : ∀ c n, P c → P { c with responseOffset := n }
  receive : ∀ c bytes, P c → c.response = none → P { c with receive := bytes }

lemma stable_id (connectionId : Nat) :
    Stable fun c => c.connectionId = connectionId :=
  ⟨fun _ _ h => h, fun _ _ h => h, fun _ _ h _ => h⟩

lemma stable_answered (connectionId : Nat) :
    Stable fun c => c.connectionId = connectionId ∧ c.response.isSome = true := by
  refine ⟨fun c _ h => ⟨h.1, rfl⟩, fun c _ h => h, fun c _ h hnone => ?_⟩
  rw [hnone] at h
  cases h.2

lemma serves_queueResponse (hstable : Stable P) (response : ManagementResponse)
    (h : Serves slot P m next s) :
    Serves slot P m next (s.queueResponse registry codec slot connectionId response).state := by
  obtain ⟨hnext, m', hm', hothers, hP⟩ := h
  have hsame : Serves slot P m next { s with management := some m' } :=
    ⟨hnext, m', rfl, hothers, hP⟩
  unfold queueResponse onManagement
  rw [hm']
  simp only
  cases hc : m'.connections slot with
  | none => exact hsame
  | some c =>
    simp only
    split
    · exact hsame
    · have hqueued := hstable.queue c (codec.encode response) (hP c hc)
      rw [← queueManagementResponse_state registry] at hqueued
      exact Serves.setSlot m' hnext rfl hothers hqueued

lemma flushManagementConnection_state (registry : Registry) (write : WriteAnswer)
    (c : ManagementConnection) :
    ∃ n, (flushManagementConnection registry write c).state = { c with responseOffset := n } := by
  unfold flushManagementConnection
  simp only
  repeat' split
  all_goals first | exact ⟨c.responseOffset, rfl⟩ | exact ⟨_, rfl⟩

/-- Answering what was read keeps the property. -/
lemma serves_answerRead {now : Instant} (hstable : Stable P)
    (result : Option (Except ErrorKind ManagementReadResult)) (h : Serves slot P m next s) :
    Serves slot P m next
      (s.answerRead registry codec slot connectionId now result).state := by
  have hanswer : ∀ {s : Server} {p : ServerAttempt Unit} {b : Bool},
      Serves slot P m next p.state →
        Serves slot P m next (p.andThen fun _ s => (.done b s : ServerAttempt Bool)).state := by
    intro s p b hp
    rw [andThen_state fun _ _ => rfl]
    exact hp
  rcases result with - | (- | (- | request | response | -))
  · exact h
  · exact hanswer (s := s) (serves_closeManagement h)
  · exact h
  · simp only [answerRead]
    cases hr : s.managementRequestResponse now request with
    | error failure => exact h
    | ok answer =>
      obtain ⟨response, s'⟩ := answer
      obtain ⟨-, c, -, -, rfl⟩ := asksController_of_request hr
      exact hanswer (s := s) (serves_queueResponse hstable response h)
  · exact hanswer (s := s) (serves_queueResponse hstable response h)
  · exact hanswer (s := s) (serves_closeManagement h)

/-- The end of `dispatch_management_connection`: a response is written if it may be. -/
def writeManagement (registry : Registry) (slot : ManagementSlot) (connectionId : Nat)
    (writable : Bool) (write : WriteAnswer) (served : Bool) (s : Server) : ServerAttempt Unit :=
  if served && writable then
    (s.onManagementConnection slot (flushManagementConnection registry write)).andThen fun kept s =>
      match kept with
      | .ok true => .done () s
      | _ => s.closeManagement registry slot connectionId
  else .done () s

lemma serves_writeManagement {writable served : Bool} {write : WriteAnswer}
    (hstable : Stable P) (h : Serves slot P m next s) :
    Serves slot P m next
      (s.writeManagement registry slot connectionId writable write served).state := by
  have hpreserves : Preserves P (flushManagementConnection registry write) := by
    intro c hc
    obtain ⟨n, hn⟩ := flushManagementConnection_state registry write c
    rw [hn]
    exact hstable.write c n hc
  unfold writeManagement
  split
  · have hkeeps : Keeps (fun s' _ => Serves slot P m next s') []
        ((s.onManagementConnection slot (flushManagementConnection registry write)).andThen
          fun kept s =>
            match kept with
            | .ok true => .done () s
            | _ => s.closeManagement registry slot connectionId) := by
      refine Keeps.andThen (serves_onManagementConnection hpreserves h) fun kept _ hserves => ?_
      split
      · exact hserves
      · exact serves_closeManagement hserves
    exact hkeeps
  · exact h

/-- The read of `dispatch_management_connection`, and its answer. -/
def receiveManagement (registry : Registry) (codec : ManagementCodec) (slot : ManagementSlot)
    (connectionId : Nat) (readable : Bool) (answers : Answers) (s : Server) : ServerAttempt Bool :=
  if readable then
    (s.readManagement codec slot answers.reads).andThen fun result s =>
      s.answerRead registry codec slot connectionId (answers.readClock 0) result
  else .done true s

lemma dispatchManagementConnection_eq (readable writable : Bool) (answers : Answers) (s : Server) :
    s.dispatchManagementConnection registry codec slot connectionId readable writable answers =
      if s.management.any fun m => m.holds slot connectionId then
        (s.receiveManagement registry codec slot connectionId readable answers).andThen
          fun served s => s.writeManagement registry slot connectionId writable answers.write served
      else .done () s := rfl

lemma readFrom_state (reads : List ReadAnswer) (c : ManagementConnection) :
    ∃ bytes, (c.readFrom reads).2 = { c with receive := bytes } := by
  induction reads generalizing c with
  | nil => exact ⟨c.receive, rfl⟩
  | cons answer reads ih =>
    unfold ManagementConnection.readFrom
    split
    · exact ⟨c.receive, rfl⟩
    · match answer with
      | .data [] => exact ⟨c.receive, rfl⟩
      | .data (b :: bytes) =>
        obtain ⟨received, hreceived⟩ := ih { c with
          receive := c.receive ++ (b :: bytes).take (maxRequestBytes - c.receive.length) }
        exact ⟨received, hreceived⟩
      | .failed .wouldBlock => exact ⟨c.receive, rfl⟩
      | .failed .interrupted => exact ⟨c.receive, rfl⟩
      | .failed .connectionAborted => exact ⟨c.receive, rfl⟩
      | .failed .connectionReset => exact ⟨c.receive, rfl⟩
      | .failed .brokenPipe => exact ⟨c.receive, rfl⟩
      | .failed (.other code) => exact ⟨c.receive, rfl⟩

lemma read_state (codec : ManagementCodec) (reads : List ReadAnswer) (c : ManagementConnection) :
    (c.read codec reads).2 = (c.readFrom reads).2 := by
  unfold ManagementConnection.read
  generalize c.readFrom reads = read
  obtain ⟨- | closed, c'⟩ := read
  · rfl
  · simp only
    split
    · rfl
    · cases codec.parse c'.receive <;> rfl

/-- An event keeps a stable property of its connection. -/
lemma serves_dispatch {readable writable : Bool} {answers : Answers} (hstable : Stable P)
    (hm : s.management = some m) (hP : ∀ c, m.connections slot = some c → P c) :
    Serves slot P m s.nextManagementConnectionId
      (s.dispatchManagementConnection registry codec slot connectionId readable writable
        answers).state := by
  have hstart : Serves slot P m s.nextManagementConnectionId s :=
    ⟨rfl, m, hm, fun _ _ => rfl, hP⟩
  have hread : Preserves P fun c => if c.response.isSome then
      (.done none c : ManagementAttempt (Option (Except ErrorKind ManagementReadResult)))
      else .done (some (c.read codec answers.reads).1) (c.read codec answers.reads).2 := by
    intro c hc
    by_cases hanswered : c.response.isSome = true
    · simp only [hanswered, if_true, done_state]
      exact hc
    · simp only [hanswered, if_false, done_state, Bool.false_eq_true, read_state]
      obtain ⟨bytes, hbytes⟩ := readFrom_state answers.reads c
      rw [hbytes]
      exact hstable.receive c bytes hc (Option.not_isSome_iff_eq_none.mp hanswered)
  rw [dispatchManagementConnection_eq]
  split
  · have hkeeps : Keeps (fun s' _ => Serves slot P m s.nextManagementConnectionId s') []
        ((s.receiveManagement registry codec slot connectionId readable answers).andThen
          fun served s =>
            s.writeManagement registry slot connectionId writable answers.write served) := by
      refine Keeps.andThen ?_ fun served _ hserves => serves_writeManagement hstable hserves
      unfold receiveManagement
      split
      · refine Keeps.andThen (serves_onManagementConnection hread hstart) fun result _ hserves => ?_
        exact serves_answerRead hstable result hserves
      · exact hstart
    exact hkeeps
  · exact hstart

/-! ### What an input does to the connections -/

/-- What an input does to the listener: nothing, or it admits connections, or it serves the one
connection that it is of. -/
inductive ReceptionStep (s : Server) (input : Input) (s' : Server) : Prop where
  | same (h : s'.reception = s.reception)
  | admits {m m' : ManagementListener} (hm : s.management = some m)
      (hm' : s'.management = some m')
      (h : Admits (m, s.nextManagementConnectionId) (m', s'.nextManagementConnectionId))
  | serves {event : Event} {slot : ManagementSlot} {connectionId : Nat} {m : ManagementListener}
      (hinput : input = .event event) (hof : s.isOf slot connectionId event)
      (hm : s.management = some m) (hholds : m.holds slot connectionId = true)
      (h : Serves slot (fun c => c.connectionId = connectionId) m s.nextManagementConnectionId s')

lemma holds_eq_true {m : ManagementListener} {slot : ManagementSlot} {connectionId : Nat} :
    m.holds slot connectionId = true ↔
      ∃ c, m.connections slot = some c ∧ c.connectionId = connectionId := by
  simp [ManagementListener.holds, Option.any_eq_true]

lemma eventTarget_slot_lt {token endpointCount slotIndex connectionId : Nat}
    (h : eventTarget token endpointCount = some (.managementConnection slotIndex connectionId)) :
    slotIndex < 8 := by
  unfold eventTarget at h
  split_ifs at h
  · cases h
  · obtain ⟨rfl, -⟩ := EventTarget.managementConnection.inj (Option.some.inj h)
    exact Nat.mod_lt _ (by decide)
  · cases h
  · simp only at h
    split at h <;> cases h

lemma receptionStep_dispatch (event : Event) (s : Server) :
    ReceptionStep s (.event event) (s.dispatchEvent registry codec event).state := by
  unfold dispatchEvent
  cases htarget : eventTarget event.token s.endpoints.length with
  | none => exact .same rfl
  | some target =>
    cases target with
    | listener endpointIndex =>
      simp only
      split
      · exact .same (reception_acceptAt _ _ s)
      · exact .same rfl
    | connection endpointIndex slotIndex connectionId => exact .same (reception_onEndpoint _ _ s)
    | managementListener =>
      simp only
      split
      · unfold acceptManagement
        cases hm : s.management with
        | none => exact .same rfl
        | some m => exact .admits hm rfl (admits_acceptManagementConnections _ _ _)
      · exact .same rfl
    | managementConnection slotIndex connectionId =>
      simp only
      have hlt := eventTarget_slot_lt htarget
      have hof : s.isOf (Fin.ofNat 8 slotIndex) connectionId event := by
        rw [isOf, htarget, Fin.val_ofNat, Nat.mod_eq_of_lt hlt]
      by_cases hheld :
          (s.management.any fun m => m.holds (Fin.ofNat 8 slotIndex) connectionId) = true
      · obtain ⟨m, hm, hholds⟩ := (Option.any_eq_true _ _).mp hheld
        obtain ⟨c, hc, hid⟩ := holds_eq_true.mp hholds
        refine .serves rfl hof hm hholds (serves_dispatch (stable_id connectionId) hm ?_)
        intro c' hc'
        rw [hc] at hc'
        exact Option.some.inj hc' ▸ hid
      · rw [dispatchManagementConnection_eq, if_neg hheld]
        exact .same rfl

theorem receptionStep_handle (registry : Registry) (codec : ManagementCodec) (s : Server)
    (input : Input) :
    ReceptionStep s input (s.handle registry codec input).state := by
  cases input with
  | event event => exact receptionStep_dispatch event s
  | expire now => exact .same (reception_eachEndpoint _ s)
  | boundary answers => exact .same (reception_takeBoundary answers s)

/-- The identifiers of the management connections have been given out. -/
def ManagementIdsBelow (s : Server) : Prop :=
  ∀ m ∈ s.management, IdsBelow (m, s.nextManagementConnectionId)

lemma reception_eq {s s' : Server} (h : s'.reception = s.reception) :
    s'.management = s.management ∧
      s'.nextManagementConnectionId = s.nextManagementConnectionId := Prod.mk.inj h

lemma ReceptionStep.next_le {s s' : Server} {input : Input} (h : ReceptionStep s input s') :
    s.nextManagementConnectionId ≤ s'.nextManagementConnectionId := by
  cases h with
  | same h => exact (reception_eq h).2.ge
  | admits _ _ h => exact h.next
  | serves _ _ _ _ h => exact h.1.ge

lemma ReceptionStep.below {s s' : Server} {input : Input} (h : ReceptionStep s input s')
    (hbelow : s.ManagementIdsBelow) : s'.ManagementIdsBelow := by
  cases h with
  | same h =>
    obtain ⟨hm, hnext⟩ := reception_eq h
    intro m hm'
    rw [hm] at hm'
    rw [hnext]
    exact hbelow m hm'
  | admits hm hm' h =>
    intro m' hmem
    obtain rfl := Option.some.inj (hm'.symm.trans hmem)
    exact h.below (hbelow _ hm)
  | @serves event slot connectionId m _ _ hm hholds h =>
    obtain ⟨hnext, m', hm', hothers, hid⟩ := h
    obtain ⟨c, hc, hcid⟩ := holds_eq_true.mp hholds
    intro m'' hmem slot' c' hc'
    obtain rfl := Option.some.inj (hm'.symm.trans hmem)
    simp only [hnext] at hc' ⊢
    by_cases hslot : slot' = slot
    · subst hslot
      rw [hid c' hc', ← hcid]
      exact hbelow m hm slot' c hc
    · rw [hothers slot' hslot] at hc'
      exact hbelow m hm slot' c' hc'

/-- What is not of a connection leaves it alone. -/
theorem ReceptionStep.clientAt {s s' : Server} {input : Input} {slot : ManagementSlot}
    {connectionId : Nat} (h : ReceptionStep s input s')
    (hlt : connectionId < s.nextManagementConnectionId)
    (hother : ∀ event, input = .event event → ¬ s.isOf slot connectionId event) :
    s'.clientAt slot connectionId = s.clientAt slot connectionId := by
  cases h with
  | same h => exact clientAt_congr (reception_eq h).1 slot connectionId
  | admits hm hm' h =>
    have hstays := h.stays slot connectionId hlt
    rw [Server.clientAt, Server.clientAt, hm, hm']
    exact hstays
  | @serves event slot' connectionId' m hinput hof hm hholds h =>
    obtain ⟨-, m', hm', hothers, hid⟩ := h
    obtain ⟨c, hc, hcid⟩ := holds_eq_true.mp hholds
    rw [Server.clientAt, Server.clientAt, hm, hm', Option.bind_some, Option.bind_some]
    by_cases hslot : slot = slot'
    · subst hslot
      have hne : connectionId' ≠ connectionId := by
        rintro rfl
        exact hother event hinput hof
      have hnone : ∀ x : Option ManagementConnection,
          (∀ c ∈ x, c.connectionId = connectionId') →
            (x.filter fun c => c.connectionId = connectionId) = none := by
        intro x hx
        refine Option.filter_eq_none_iff.mpr fun c hc => ?_
        simp [hx c hc, hne]
      rw [hnone _ fun c' hc' => hid c' hc', hnone]
      intro c' hc'
      rw [hc] at hc'
      exact Option.some.inj hc' ▸ hcid
    · rw [hothers slot hslot]

end Server

end Registered

end PmuSimulator

import Mathlib
import PmuSimulator.Foundation.Components
import PmuSimulator.Server.Core
import PmuSimulator.Server.Moves

/-!
# Places

A place is one slot of one endpoint. Every input does to a place what some attempt on the place alone
does, whatever happens at the other places: an event on its connection, an accept into it, a
deadline, a boundary. What a place goes through is a path of a few kinds of moves.
-/

namespace PmuSimulator

/-! ### What is seen of a slot -/

/-- A slot, with what its connection is served from. -/
@[ext] structure SlotView where
  context : EndpointContext
  dataFrame : DataFrame
  connection : Option Connection

/-- An attempt on what is seen of a slot. -/
abbrev ViewAttempt := Attempt Failure SlotView (Nat × Activity) Unit

namespace SlotView

/-- An attempt on the connection of a slot. -/
def onConnection (attempt : EndpointContext → DataFrame → Option Connection → SlotAttempt Unit)
    (v : SlotView) : ViewAttempt :=
  (attempt v.context v.dataFrame v.connection).lift (fun connection => { v with connection }) id

end SlotView

namespace Endpoint

def seen (slot : Slot) (e : Endpoint) : SlotView where
  context := e.toEndpointContext
  dataFrame := e.dataFrame
  connection := e.connections slot

/-- What is seen of an endpoint at its slots. -/
def slotComponents :
    Attempt.Components Slot Endpoint SlotView (Slot × Nat × Activity) (Nat × Activity) where
  view := seen
  entry := fun slot entry => if entry.1 = slot then some entry.2 else none

lemma slotEntries_same (slot : Slot) (log : List (Nat × Activity)) :
    (log.map (slot, ·)).filterMap (slotComponents.entry slot) = log := by
  simp [slotComponents]

lemma slotEntries_other {slot slot' : Slot} (h : slot' ≠ slot) (log : List (Nat × Activity)) :
    (log.map (slot, ·)).filterMap (slotComponents.entry slot') = [] := by
  simp [slotComponents, Ne.symm h]

/-- An attempt on one slot is that slot's own. -/
lemma own_onSlot (attempt : EndpointContext → DataFrame → Option Connection → SlotAttempt Unit)
    (slot : Slot) (e : Endpoint) :
    Attempt.Own slotComponents slot e
      (e.onSlot slot (attempt e.toEndpointContext e.dataFrame))
      (SlotView.onConnection attempt (e.seen slot)) where
  result := rfl
  here := by
    simp only [slotComponents, seen, onSlot, SlotView.onConnection, Attempt.lift_state,
      setSlot_same]
    rfl
  log := by
    simp only [onSlot, SlotView.onConnection, Attempt.lift_log, slotEntries_same, List.map_id]
    rfl
  elsewhere := by
    intro slot' h
    simp only [slotComponents, seen, onSlot, Attempt.lift_state, setSlot_other e _ h]
    rfl
  silent := by
    intro slot' h
    exact slotEntries_other h _

end Endpoint

namespace Server

/-- What is seen of a server at its endpoints. -/
def endpointComponents :
    Attempt.Components Nat Server (Option Endpoint) Report (Slot × Nat × Activity) where
  view := fun i s => s.endpoints[i]?
  entry := fun i report =>
    match report with
    | .connection j slot connectionId activity =>
      if j = i then some (slot, connectionId, activity) else none
    | _ => none

lemma endpointEntries_same (i : Nat) (log : List (Slot × Nat × Activity)) :
    (log.map fun entry => Report.connection i entry.1 entry.2.1 entry.2.2).filterMap
      (endpointComponents.entry i) = log := by
  simp [endpointComponents]

lemma endpointEntries_other {i j : Nat} (h : j ≠ i) (log : List (Slot × Nat × Activity)) :
    (log.map fun entry => Report.connection i entry.1 entry.2.1 entry.2.2).filterMap
      (endpointComponents.entry j) = [] := by
  simp [endpointComponents, Ne.symm h]

/-- The attempt of an endpoint, where there is one. -/
def onOption (attempt : Endpoint → EndpointAttempt Unit) :
    Option Endpoint → Attempt Failure (Option Endpoint) (Slot × Nat × Activity) Unit
  | none => .failed (.panic "index out of bounds") none
  | some e => (attempt e).lift some id

/-- An attempt on one endpoint is that endpoint's own. -/
lemma own_onEndpoint (attempt : Endpoint → EndpointAttempt Unit) (i : Nat) (s : Server) :
    Attempt.Own endpointComponents i s (s.onEndpoint i attempt)
      (onOption attempt s.endpoints[i]?) := by
  unfold onEndpoint
  cases he : s.endpoints[i]? with
  | none => exact ⟨rfl, he, rfl, fun _ _ => rfl, fun _ _ => rfl⟩
  | some e =>
    obtain ⟨hi, -⟩ := List.getElem?_eq_some_iff.mp he
    refine ⟨rfl, ?_, ?_, fun j hj => ?_, fun j hj => endpointEntries_other hj _⟩
    · simp only [endpointComponents, Attempt.lift_state, onOption]
      rw [List.getElem?_set_self hi]
    · simp only [onOption, Attempt.lift_log, endpointEntries_same, List.map_id]
    · simp only [endpointComponents, Attempt.lift_state]
      rw [List.getElem?_set_ne (Ne.symm hj)]

end Server

/-! ### Moves of a place -/

/-- One move of a place in one input. `due` is the tick the place may still be handed in it; the
identifiers of connections that are opened are not below `firstId`. -/
inductive PlaceMove (seed : UInt64) (firstId : Nat) :
    SlotView → Option Tick → List (Nat × Activity) → SlotView → Option Tick → Prop where
  | moved {v : SlotView} {due : Option Tick} {c c' : Connection} {log : List Activity}
      (holds : v.connection = some c) (move : Move v.context v.dataFrame c log c') :
    PlaceMove seed firstId v due (log.map (c.connectionId, ·)) { v with connection := some c' } due
  | tick {v : SlotView} {c : Connection} {tick : Tick} {storage : DataFrame}
      (holds : v.connection = some c) (idle : c.pending.isPending = false)
      (streams : c.streaming = true)
      (encoded : encodeDataFrame v.context seed tick storage = .ok v.dataFrame) :
    PlaceMove seed firstId v (some tick) [(c.connectionId, .queued (.data tick))]
      { v with connection := some { c with pending := .data 0 } } none
  | slow {v : SlotView} {due : Option Tick} {c : Connection} (holds : v.connection = some c)
      (streams : c.streaming = true) (waits : c.pending.isPending = true) :
    PlaceMove seed firstId v due [(c.connectionId, .counted .slowClients)] v due
  | closed {v : SlotView} {due : Option Tick} {c : Connection} (holds : v.connection = some c) :
    PlaceMove seed firstId v due [(c.connectionId, .counted .closedClients)]
      { v with connection := none } due
  /-- The registry does not take the deregistration. -/
  | lost {v : SlotView} {due : Option Tick} {c : Connection} (holds : v.connection = some c) :
    PlaceMove seed firstId v due [] { v with connection := none } due
  | encoded {v : SlotView} {tick : Tick} {dataFrame : DataFrame}
      (idle : ∀ c ∈ v.connection, c.streaming = true → c.pending.isPending = false)
      (encoded : encodeDataFrame v.context seed tick v.dataFrame = .ok dataFrame) :
    PlaceMove seed firstId v (some tick) [] { v with dataFrame } (some tick)
  | opened {v : SlotView} {due : Option Tick} {connectionId token : Nat} {acceptedAt : Instant}
      (empty : v.connection = none) (fresh : firstId ≤ connectionId) :
    PlaceMove seed firstId v due []
      { v with connection := some (.new connectionId token v.context.limits.commandFrameBytes
          v.context.descriptor.wireVersion acceptedAt) } due

/-- Any number of moves of a place. -/
inductive PlacePath (seed : UInt64) (firstId : Nat) (v : SlotView) (due : Option Tick) :
    List (Nat × Activity) → SlotView → Option Tick → Prop where
  | nil : PlacePath seed firstId v due [] v due
  | snoc {log log' : List (Nat × Activity)} {v' v'' : SlotView} {due' due'' : Option Tick}
      (path : PlacePath seed firstId v due log v' due')
      (move : PlaceMove seed firstId v' due' log' v'' due'') :
    PlacePath seed firstId v due (log ++ log') v'' due''

namespace PlacePath

variable {seed : UInt64} {firstId : Nat} {v v' v'' : SlotView} {due due' due'' : Option Tick}
  {log log' : List (Nat × Activity)}

lemma single (h : PlaceMove seed firstId v due log v' due') :
    PlacePath seed firstId v due log v' due' := .snoc .nil h

lemma trans (h : PlacePath seed firstId v due log v' due')
    (h' : PlacePath seed firstId v' due' log' v'' due'') :
    PlacePath seed firstId v due (log ++ log') v'' due'' := by
  induction h' with
  | nil => simpa using h
  | snoc _ move ih =>
    rw [← List.append_assoc]
    exact .snoc ih move

/-- An invariant of moves is an invariant of paths. -/
theorem invariant {I : SlotView → Option Tick → List (Nat × Activity) → Prop}
    (h : PlacePath seed firstId v due log v' due') {before : List (Nat × Activity)}
    (hv : I v due before)
    (hmove : ∀ {v due before log v' due'}, I v due before →
      PlaceMove seed firstId v due log v' due' → I v' due' (before ++ log)) :
    I v' due' (before ++ log) := by
  induction h with
  | nil => simpa using hv
  | snoc _ move ih =>
    rw [← List.append_assoc]
    exact hmove ih move

end PlacePath

/-! ### Attempts on a slot -/

/-- An attempt on the connection of a slot goes along a path of the place. -/
def SlotAttempt.Follows {α : Type} (seed : UInt64) (firstId : Nat) (context : EndpointContext)
    (dataFrame : DataFrame) (due : Option Tick) (connection : Option Connection)
    (p : SlotAttempt α) (due' : Option Tick) : Prop :=
  PlacePath seed firstId ⟨context, dataFrame, connection⟩ due p.log
    ⟨context, dataFrame, p.state⟩ due'

open SlotAttempt

section Slots

variable {registry : Registry} {seed : UInt64} {firstId : Nat} {context : EndpointContext}
  {dataFrame : DataFrame} {connection : Option Connection} {due due' : Option Tick} {α β : Type}

lemma Follows.andThen {p : SlotAttempt α} {f : α → Option Connection → SlotAttempt β}
    (hp : Follows seed firstId context dataFrame due connection p due')
    (hf : ∀ a, p.result = .ok a →
      Follows seed firstId context dataFrame due' p.state (f a p.state) due') :
    Follows seed firstId context dataFrame due connection (p.andThen f) due' := by
  cases h : p.result with
  | error e =>
    rw [Attempt.andThen_error h]
    exact hp
  | ok a =>
    rw [Attempt.andThen_ok h]
    exact hp.trans (hf a h)

/-- Moves of the connection are moves of its place. -/
lemma path_of_moves {c c' : Connection} {log : List Activity}
    (moves : Moves context dataFrame c log c') :
    PlacePath seed firstId ⟨context, dataFrame, some c⟩ due (log.map (c.connectionId, ·))
      ⟨context, dataFrame, some c'⟩ due := by
  induction moves with
  | nil => exact .nil
  | snoc moves move ih =>
    rw [List.map_append]
    refine .snoc ih ?_
    rw [← moves.identity.1]
    exact .moved rfl move

lemma follows_onConnection {attempt : Connection → ConnectionAttempt Bool}
    (hmoving : ∀ c, ConnectionAttempt.Moving context dataFrame c (attempt c)) :
    Follows seed firstId context dataFrame due connection (onConnection attempt connection)
      due := by
  cases connection with
  | none => exact .nil
  | some c => exact path_of_moves (hmoving c)

lemma follows_closeConnection (connectionId : Nat) :
    Follows seed firstId context dataFrame due connection
      (closeConnection registry connectionId connection) due := by
  cases connection with
  | none => exact .nil
  | some c =>
    simp only [closeConnection]
    by_cases hid : c.connectionId ≠ connectionId
    · rw [if_pos hid]
      exact .nil
    · rw [if_neg hid]
      obtain rfl := not_not.mp hid
      cases registry.deregister c.token with
      | error kind => exact .single (.lost rfl)
      | ok _ => exact .single (.closed rfl)

lemma follows_keepOrClose (connectionId : Nat) (keep : Bool) :
    Follows seed firstId context dataFrame due connection
      (keepOrClose registry connectionId keep connection) due := by
  cases keep with
  | true => exact .nil
  | false => exact follows_closeConnection connectionId

lemma follows_dispatchConnection (connectionId : Nat) (readable writable : Bool)
    (answers : Answers) :
    Follows seed firstId context dataFrame due connection
      (dispatchConnection registry context dataFrame connectionId readable writable answers
        connection) due := by
  unfold dispatchConnection
  split
  · refine Follows.andThen (follows_onConnection fun c => ?_) fun keep _ => ?_
    · exact moving_serveConnection readable writable answers
    · exact follows_keepOrClose connectionId keep
  · exact .nil

lemma follows_expireConnection (now : Instant) :
    Follows seed firstId context dataFrame due connection
      (expireConnection registry now connection) due := by
  cases connection with
  | none => exact .nil
  | some c =>
    simp only [expireConnection]
    split
    · exact follows_closeConnection c.connectionId
    · exact .nil

lemma dropSlow_of_idle {c : Connection} (h : c.streaming = true → c.pending.isPending = false) :
    dropSlow registry (some c) = .done () (some c) := by
  cases hstreams : c.streaming with
  | false => simp [dropSlow, hstreams]
  | true => simp [dropSlow, hstreams, h hstreams]

lemma dropSlow_of_slow {c : Connection} (hstreams : c.streaming = true)
    (hwaits : c.pending.isPending = true) :
    dropSlow registry (some c) =
      (Attempt.note (c.connectionId, .counted .slowClients) (some c)).andThen fun _ slot =>
        closeConnection registry c.connectionId slot := by
  simp [dropSlow, hstreams, hwaits]

lemma follows_dropSlow :
    Follows seed firstId context dataFrame due connection (dropSlow registry connection) due := by
  cases connection with
  | none => exact .nil
  | some c =>
    by_cases hslow : c.streaming = true ∧ c.pending.isPending = true
    · rw [dropSlow_of_slow hslow.1 hslow.2]
      have hmove : Follows seed firstId context dataFrame due (some c)
          (Attempt.note (c.connectionId, .counted .slowClients) (some c)) due :=
        .single (.slow rfl hslow.1 hslow.2)
      exact Follows.andThen hmove fun _ _ => follows_closeConnection c.connectionId
    · rw [dropSlow_of_idle fun hstreams => by simpa using fun hwaits => hslow ⟨hstreams, hwaits⟩]
      exact .nil

/-- A connection that is left streaming has nothing to send. -/
lemma dropSlow_idle :
    ∀ c ∈ (dropSlow registry connection).state, c.streaming = true →
      c.pending.isPending = false := by
  cases connection with
  | none => simp [dropSlow]
  | some c =>
    by_cases hslow : c.streaming = true ∧ c.pending.isPending = true
    · rw [dropSlow_of_slow hslow.1 hslow.2, Attempt.andThen_ok (Attempt.note_result _ _)]
      simp only [Attempt.note_state, closeConnection, ne_eq, not_true_eq_false, if_false]
      cases registry.deregister c.token <;> simp
    · have hidle : c.streaming = true → c.pending.isPending = false := fun hstreams => by
        simpa using fun hwaits => hslow ⟨hstreams, hwaits⟩
      rw [dropSlow_of_idle hidle]
      rintro _ ⟨⟩
      exact hidle

lemma closeConnection_subset (connectionId : Nat) (connection : Option Connection) :
    ∀ c ∈ (closeConnection registry connectionId connection).state, connection = some c := by
  cases connection with
  | none => simp [closeConnection]
  | some c₀ =>
    simp only [closeConnection]
    split
    · exact fun c hc => hc
    · cases registry.deregister c₀.token <;> simp

lemma dropSlow_subset (connection : Option Connection) :
    ∀ c ∈ (dropSlow registry connection).state, connection = some c := by
  cases connection with
  | none => simp [dropSlow]
  | some c₀ =>
    simp only [dropSlow]
    split_ifs
    · exact fun c hc => hc
    · exact closeConnection_subset c₀.connectionId (some c₀)
    · exact fun c hc => hc

/-- The tick is handed out at most once. -/
lemma follows_sendTick {tick : Tick} {storage : DataFrame} (answers : Answers)
    (idle : ∀ c ∈ connection, c.streaming = true → c.pending.isPending = false)
    (encoded : encodeDataFrame context seed tick storage = .ok dataFrame) :
    ∃ due', Follows seed firstId context dataFrame (some tick) connection
      (sendTick registry context dataFrame tick answers connection) due' := by
  cases connection with
  | none => exact ⟨_, .nil⟩
  | some c =>
    cases hstreams : c.streaming with
    | false =>
      refine ⟨some tick, ?_⟩
      simp only [sendTick, hstreams, Bool.not_false, if_true]
      exact .nil
    | true =>
      refine ⟨none, ?_⟩
      simp only [sendTick, hstreams, Bool.not_true, Bool.false_eq_true, if_false]
      refine Follows.andThen ?_ fun keep _ => follows_keepOrClose c.connectionId keep
      obtain ⟨log, hlog, hmoves⟩ : ∃ log,
          (sendDataFrame registry context dataFrame tick answers c).log =
            .queued (.data tick) :: log ∧
          Moves context dataFrame { c with pending := .data 0 } log
            (sendDataFrame registry context dataFrame tick answers c).state :=
        moves_sendDataFrame
      have htick : PlaceMove seed firstId ⟨context, dataFrame, some c⟩ (some tick)
          [(c.connectionId, .queued (.data tick))]
          ⟨context, dataFrame, some { c with pending := .data 0 }⟩ none :=
        .tick rfl (idle c rfl hstreams) hstreams encoded
      have hpath := (PlacePath.single htick).trans (path_of_moves hmoves)
      simp only [Follows, onConnection, Attempt.lift_log, Attempt.lift_state, hlog, List.map_cons]
      exact hpath

end Slots

/-! ### Attempts on an endpoint -/

namespace Endpoint

/-- The log of a slot in the log of its endpoint. -/
def slotLog (slot : Slot) (log : List (Slot × Nat × Activity)) : List (Nat × Activity) :=
  log.filterMap (slotComponents.entry slot)

lemma slotLog_append (slot : Slot) (log log' : List (Slot × Nat × Activity)) :
    slotLog slot (log ++ log') = slotLog slot log ++ slotLog slot log' :=
  List.filterMap_append

lemma nodup_slots : slots.Nodup := by decide

lemma mem_slots (slot : Slot) : slot ∈ slots := by
  fin_cases slot <;> decide

/-- The turns of a loop over the slots, each on its own slot. -/
lemma own_turn (attempt : Slot → EndpointContext → DataFrame → Option Connection → SlotAttempt Unit)
    (slot : Slot) (e : Endpoint) :
    Attempt.Own slotComponents slot e
      (e.onSlot slot (attempt slot e.toEndpointContext e.dataFrame))
      (SlotView.onConnection (attempt slot) (slotComponents.view slot e)) :=
  own_onSlot (attempt slot) slot e

end Endpoint

/-- An attempt on an endpoint takes a slot along a path. -/
def EndpointAttempt.Follows (seed : UInt64) (firstId : Nat) (slot : Slot) (due : Option Tick)
    (e : Endpoint) (p : EndpointAttempt Unit) (due' : Option Tick) : Prop :=
  PlacePath seed firstId (e.seen slot) due (Endpoint.slotLog slot p.log) (p.state.seen slot) due'

namespace Endpoint

section Registered

variable {registry : Registry} {seed : UInt64} {firstId : Nat} {due due' : Option Tick}

/-- The turns of a loop over the slots. -/
def eachSlot
    (attempt : Slot → EndpointContext → DataFrame → Option Connection → SlotAttempt Unit)
    (e : Endpoint) : EndpointAttempt Unit :=
  Attempt.each (fun slot e => e.onSlot slot (attempt slot e.toEndpointContext e.dataFrame)) slots e

/-- A loop over the slots takes each of them along the path of its turn, if it comes to it. -/
lemma follows_eachSlot
    (attempt : Slot → EndpointContext → DataFrame → Option Connection → SlotAttempt Unit)
    {e : Endpoint} {slot : Slot}
    (hfollows : SlotAttempt.Follows seed firstId e.toEndpointContext e.dataFrame due
      (e.connections slot) (attempt slot e.toEndpointContext e.dataFrame (e.connections slot))
      due') :
    ∃ due'', (due'' = due ∨ due'' = due') ∧
      EndpointAttempt.Follows seed firstId slot due e (eachSlot attempt e) due'' := by
  rcases Attempt.each_at (own_turn attempt) nodup_slots (mem_slots slot) (s := e) with
    ⟨hview, hlog⟩ | ⟨⟨hview, hlog⟩, -⟩
  · refine ⟨due', .inr rfl, ?_⟩
    simp only [slotComponents, SlotView.onConnection, Attempt.lift_state, Attempt.lift_log,
      List.map_id] at hview hlog
    rw [EndpointAttempt.Follows, eachSlot, slotLog, slotComponents, hlog, hview]
    exact hfollows
  · refine ⟨due, .inl rfl, ?_⟩
    simp only [slotComponents] at hview hlog
    rw [EndpointAttempt.Follows, eachSlot, slotLog, slotComponents, hlog, hview]
    exact .nil

/-- What a loop over the slots logs of a slot is of its turn. -/
lemma mem_eachSlot
    (attempt : Slot → EndpointContext → DataFrame → Option Connection → SlotAttempt Unit)
    {e : Endpoint} {slot : Slot} {entry : Nat × Activity}
    (h : entry ∈ slotLog slot (eachSlot attempt e).log) :
    entry ∈ (attempt slot e.toEndpointContext e.dataFrame (e.connections slot)).log := by
  rcases Attempt.each_at (own_turn attempt) nodup_slots (mem_slots slot) (s := e) with
    ⟨-, hlog⟩ | ⟨⟨-, hlog⟩, -⟩
  · simp only [SlotView.onConnection, Attempt.lift_log, List.map_id] at hlog
    rw [slotLog, eachSlot, hlog] at h
    exact h
  · rw [slotLog, eachSlot, hlog] at h
    cases h

/-- A loop over the slots that succeeds has had the turn of each. -/
lemma eachSlot_connection
    {attempt : Slot → EndpointContext → DataFrame → Option Connection → SlotAttempt Unit}
    {e : Endpoint} (hok : (eachSlot attempt e).result = .ok ()) (slot : Slot) :
    (eachSlot attempt e).state.connections slot =
      (attempt slot e.toEndpointContext e.dataFrame (e.connections slot)).state := by
  obtain ⟨hview, -⟩ := Attempt.each_touched (own_turn attempt) nodup_slots (mem_slots slot) hok
  exact congrArg SlotView.connection hview

/-- An attempt on one slot takes every slot along a path. -/
lemma follows_onSlot {slot : Slot}
    (attempt : EndpointContext → DataFrame → Option Connection → SlotAttempt Unit) {e : Endpoint}
    (hfollows : SlotAttempt.Follows seed firstId e.toEndpointContext e.dataFrame due
      (e.connections slot) (attempt e.toEndpointContext e.dataFrame (e.connections slot)) due)
    (slot' : Slot) :
    EndpointAttempt.Follows seed firstId slot' due e
      (e.onSlot slot (attempt e.toEndpointContext e.dataFrame)) due := by
  have hown := own_onSlot attempt slot e
  by_cases h : slot' = slot
  · subst h
    have hview := hown.here
    have hlog := hown.log
    simp only [slotComponents, SlotView.onConnection, Attempt.lift_state, Attempt.lift_log,
      List.map_id] at hview hlog
    rw [EndpointAttempt.Follows, slotLog, slotComponents, hlog, hview]
    exact hfollows
  · have hview := hown.elsewhere slot' h
    have hlog := hown.silent slot' h
    simp only [slotComponents] at hview hlog
    rw [EndpointAttempt.Follows, slotLog, slotComponents, hlog, hview]
    exact .nil

lemma follows_disconnectPlanned (connectionId : Nat) (e : Endpoint) (slot : Slot) :
    EndpointAttempt.Follows seed firstId slot due e (disconnectPlanned registry connectionId e)
      due := by
  unfold disconnectPlanned
  cases slots.find? fun slot => e.holds slot connectionId with
  | none => exact .nil
  | some slot' =>
    have hclose : SlotAttempt.Follows seed firstId e.toEndpointContext e.dataFrame due
        (e.connections slot') (closeConnection registry connectionId (e.connections slot')) due :=
      follows_closeConnection connectionId
    exact follows_onSlot (fun _ _ => closeConnection registry connectionId) hclose slot

lemma follows_disconnectAllPlanned (plan : Option FramePlan) (e : Endpoint) (slot : Slot) :
    EndpointAttempt.Follows seed firstId slot due e (disconnectAllPlanned registry plan e) due := by
  cases plan with
  | none => exact .nil
  | some plan =>
    have hkeeps : (disconnectAllPlanned registry (some plan) e).Keeps (fun e' log =>
        PlacePath seed firstId (e.seen slot) due (slotLog slot log) (e'.seen slot) due) [] := by
      refine .each .nil fun connectionId _ e' before hpath => ?_
      simp only [Attempt.Keeps, slotLog_append]
      exact hpath.trans (follows_disconnectPlanned connectionId e' slot)
    exact hkeeps

lemma disconnectPlanned_subset (connectionId : Nat) (e : Endpoint) (slot : Slot) :
    ∀ c ∈ (disconnectPlanned registry connectionId e).state.connections slot,
      e.connections slot = some c := by
  unfold disconnectPlanned
  cases slots.find? fun slot => e.holds slot connectionId with
  | none => exact fun c hc => hc
  | some slot' =>
    intro c hc
    by_cases hslot : slot = slot'
    · subst hslot
      change c ∈ (e.setSlot slot _).connections slot at hc
      rw [Endpoint.setSlot_same] at hc
      exact closeConnection_subset connectionId _ c hc
    · change c ∈ (e.setSlot slot' _).connections slot at hc
      rw [Endpoint.setSlot_other e _ hslot] at hc
      exact hc

lemma disconnectAllPlanned_subset (plan : Option FramePlan) (e : Endpoint) (slot : Slot) :
    ∀ c ∈ (disconnectAllPlanned registry plan e).state.connections slot,
      e.connections slot = some c := by
  cases plan with
  | none => exact fun c hc => hc
  | some plan =>
    have hkeeps : (disconnectAllPlanned registry (some plan) e).Keeps
        (fun e' _ => ∀ c ∈ e'.connections slot, e.connections slot = some c) [] := by
      refine .each (fun c hc => hc) fun connectionId _ e' _ he' c hc => ?_
      exact he' c (disconnectPlanned_subset connectionId e' slot c hc)
    exact hkeeps

lemma follows_emitTick {tick : Tick} {omitData : Bool} {answers : Slot → Answers} {e : Endpoint}
    {slot : Slot}
    (idle : ∀ c ∈ e.connections slot, c.streaming = true → c.pending.isPending = false) :
    ∃ due', EndpointAttempt.Follows seed firstId slot (some tick) e
      (emitTick registry seed tick omitData answers e) due' := by
  unfold emitTick
  by_cases hany : (!e.anyStreaming) = true
  · rw [if_pos hany]
    exact ⟨_, .nil⟩
  rw [if_neg hany]
  by_cases homit : omitData = true
  · rw [if_pos homit]
    exact ⟨_, .nil⟩
  rw [if_neg homit]
  cases hencode : encodeDataFrame e.toEndpointContext seed tick e.dataFrame with
  | error failure => exact ⟨_, .nil⟩
  | ok dataFrame =>
    have hencoded : PlaceMove seed firstId (e.seen slot) (some tick) []
        (({ e with dataFrame } : Endpoint).seen slot) (some tick) := .encoded idle hencode
    obtain ⟨due', hfollows⟩ : ∃ due', SlotAttempt.Follows seed firstId e.toEndpointContext
        dataFrame (some tick) (e.connections slot)
        (sendTick registry e.toEndpointContext dataFrame tick (answers slot) (e.connections slot))
        due' := follows_sendTick (answers slot) idle hencode
    obtain ⟨due'', -, hpath⟩ := follows_eachSlot (e := { e with dataFrame })
      (fun slot context dataFrame => sendTick registry context dataFrame tick (answers slot))
      hfollows
    exact ⟨due'', (PlacePath.single hencoded).trans hpath⟩

/-- The second pass of a boundary over an endpoint. -/
lemma follows_emitEndpoint (boundary : Boundary) (plan : Option FramePlan)
    (answers : Slot → Answers) (e : Endpoint) (slot : Slot) :
    ∃ due', EndpointAttempt.Follows seed firstId slot (some (boundary.tick plan)) e
      (emitEndpoint registry seed boundary plan answers e) due' := by
  have hturn : SlotAttempt.Follows seed firstId e.toEndpointContext e.dataFrame
      (some (boundary.tick plan)) (e.connections slot) (dropSlow registry (e.connections slot))
      (some (boundary.tick plan)) := follows_dropSlow
  obtain ⟨due', hdue, hslow⟩ := follows_eachSlot (fun _ _ _ => dropSlow registry) hturn
  obtain rfl : due' = some (boundary.tick plan) := or_self_iff.mp hdue
  change ∃ due', EndpointAttempt.Follows seed firstId slot (some (boundary.tick plan)) e
    ((eachSlot (fun _ _ _ => dropSlow registry) e).andThen fun _ e =>
      emitTick registry seed (boundary.tick plan) (plan.any FramePlan.omitData) answers e) due'
  cases hr : (eachSlot (fun _ _ _ => dropSlow registry) e).result with
  | error failure =>
    rw [Attempt.andThen_error hr]
    exact ⟨_, hslow⟩
  | ok _ =>
    rw [Attempt.andThen_ok hr]
    have hconnection := eachSlot_connection hr slot
    obtain ⟨due', htick⟩ : ∃ due', EndpointAttempt.Follows seed firstId slot
        (some (boundary.tick plan)) (eachSlot (fun _ _ _ => dropSlow registry) e).state
        (emitTick registry seed (boundary.tick plan) (plan.any FramePlan.omitData) answers
          (eachSlot (fun _ _ _ => dropSlow registry) e).state) due' := by
      refine follows_emitTick ?_
      rw [hconnection]
      exact dropSlow_idle
    refine ⟨due', ?_⟩
    simp only [EndpointAttempt.Follows, slotLog_append]
    exact hslow.trans htick

end Registered

end Endpoint

end PmuSimulator

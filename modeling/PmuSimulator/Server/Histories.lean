import Mathlib
import PmuSimulator.Server.Identity

/-!
# Histories of places

What a place goes through in a run is one path after another. An invariant of the moves of a place
and of its log holds at every place of every run. Where a connection is opened, its identifier is new
to the log.
-/

namespace PmuSimulator

/-! ### Logs -/

/-- What has happened at a place in a history. -/
def placeHistory (i : Nat) (slot : Slot)
    (h : List (Machine.Taken EventLoop Input (List Report))) : List (Nat × Activity) :=
  Server.placeLog i slot (h.flatMap Machine.Taken.output)

/-- What has happened on the connection of an identifier. -/
def connectionLog (connectionId : Nat) (log : List (Nat × Activity)) : List Activity :=
  log.filterMap fun entry => if entry.1 = connectionId then some entry.2 else none

lemma placeHistory_snoc (i : Nat) (slot : Slot)
    (h : List (Machine.Taken EventLoop Input (List Report))) (r r' : EventLoop) (input : Input)
    (log : List Report) :
    placeHistory i slot (h ++ [⟨r, input, log, r'⟩]) =
      placeHistory i slot h ++ Server.placeLog i slot log := by
  simp only [placeHistory, List.flatMap_append, Server.placeLog_append, List.flatMap_singleton]

lemma connectionLog_append (connectionId : Nat) (log log' : List (Nat × Activity)) :
    connectionLog connectionId (log ++ log') =
      connectionLog connectionId log ++ connectionLog connectionId log' :=
  List.filterMap_append

@[simp] lemma connectionLog_nil (connectionId : Nat) : connectionLog connectionId [] = [] := rfl

@[simp] lemma connectionLog_own (connectionId : Nat) (log : List Activity) :
    connectionLog connectionId (log.map (connectionId, ·)) = log := by
  simp [connectionLog]

lemma connectionLog_single (connectionId : Nat) (activity : Activity) :
    connectionLog connectionId [(connectionId, activity)] = [activity] := by
  simp [connectionLog]

lemma connectionLog_fresh {connectionId : Nat} {log : List (Nat × Activity)}
    (h : ∀ entry ∈ log, entry.1 < connectionId) : connectionLog connectionId log = [] :=
  List.filterMap_eq_nil_iff.mpr fun entry he => if_neg (h entry he).ne

lemma exists_above (log : List (Nat × Activity)) : ∃ bound, ∀ entry ∈ log, entry.1 < bound := by
  induction log with
  | nil => exact ⟨0, by simp⟩
  | cons entry log ih =>
    obtain ⟨bound, hbound⟩ := ih
    refine ⟨max bound (entry.1 + 1), fun entry' he => ?_⟩
    rcases List.mem_cons.mp he with rfl | he
    · exact Nat.lt_of_lt_of_le (Nat.lt_succ_self _) (Nat.le_max_right _ _)
    · exact Nat.lt_of_lt_of_le (hbound entry' he) (Nat.le_max_left _ _)

/-- What is logged on a path is of the connection that was there, or of one opened since. -/
lemma PlacePath.entries {seed : UInt64} {firstId : Nat} {v v' : SlotView} {due due' : Option Tick}
    {log : List (Nat × Activity)} (h : PlacePath seed firstId v due log v' due') :
    ∀ entry ∈ log, (∃ c ∈ v.connection, entry.1 = c.connectionId) ∨ firstId ≤ entry.1 := by
  induction h with
  | nil => simp
  | @snoc _ _ v₁ _ _ _ path move ih =>
    intro entry he
    rcases List.mem_append.mp he with he | he
    · exact ih entry he
    -- a move logs the connection it finds, which the path so far has kept or opened
    · have hholds : ∀ {c : Connection}, v₁.connection = some c → entry.1 = c.connectionId →
          (∃ c ∈ v.connection, entry.1 = c.connectionId) ∨ firstId ≤ entry.1 := by
        intro c hc hid
        rw [hid]
        rcases path.identity c hc with ⟨c₀, hc₀, heq, -⟩ | hfresh
        · exact .inl ⟨c₀, hc₀, heq⟩
        · exact .inr hfresh
      cases move with
      | moved holds move =>
        obtain ⟨activity, -, rfl⟩ := List.mem_map.mp he
        exact hholds holds rfl
      | tick holds idle streams encoded =>
        obtain rfl := List.mem_singleton.mp he
        exact hholds holds rfl
      | slow holds streams waits =>
        obtain rfl := List.mem_singleton.mp he
        exact hholds holds rfl
      | closed holds =>
        obtain rfl := List.mem_singleton.mp he
        exact hholds holds rfl
      | _ => cases he

/-! ### Steps -/

section Registered

variable {registry : Registry} {codec : ManagementCodec} {l₀ l : EventLoop}
  {h : List (Machine.Taken EventLoop Input (List Report))} {i : Nat} {slot : Slot}

lemma placeLog_of_accepts {s : Server} {input : Input} (haccepts : s.Accepts input) :
    Server.placeLog i slot (s.handle registry codec input).log = [] := by
  cases input with
  | event event =>
    obtain ⟨j, htarget⟩ := haccepts
    simp only [Server.handle, Server.dispatchEvent, htarget]
    split
    · unfold Server.acceptAt
      cases s.endpoints[j]? with
      | none => rfl
      | some e =>
        exact Server.placeLog_quiet (Server.acceptConnections_log event.accepts
          (e, s.nextConnectionId) i)
    · rfl
  | expire now => exact haccepts.elim
  | boundary answers => exact haccepts.elim

lemma endpoint_of_step {r r' : EventLoop} {input : Input} {log : List Report}
    (hs : (eventLoop registry codec).step r input = .ok (log, r')) {e' : Endpoint}
    (he' : r'.server.endpoints[i]? = some e') : ∃ e, r.server.endpoints[i]? = some e := by
  have hlength : r'.server.endpoints.length = r.server.endpoints.length := by
    simpa [Server.core] using congrArg List.length (EventLoop.step_core hs).contexts
  have hi : i < r.server.endpoints.length := hlength ▸ (List.getElem?_eq_some_iff.mp he').1
  exact ⟨_, List.getElem?_eq_getElem hi⟩

/-- What a step does to a place is a path, on which only identifiers are opened that are new to what
was logged. -/
lemma path_of_step (slot : Slot) {r r' : EventLoop} {input : Input} {log : List Report}
    (hs : (eventLoop registry codec).step r input = .ok (log, r')) (routed : r.server.Routed)
    {before : List (Nat × Activity)}
    (hbefore : ∀ entry ∈ before, entry.1 < r.server.nextConnectionId) {e e' : Endpoint}
    (he : r.server.endpoints[i]? = some e) (he' : r'.server.endpoints[i]? = some e') :
    ∃ firstId due', PlacePath r.server.seed firstId (e.seen slot) (r.server.dueTick input i)
        (Server.placeLog i slot log) (e'.seen slot) due' ∧
      (∀ entry ∈ before ++ Server.placeLog i slot log, entry.1 < firstId) ∧
      ∀ entry ∈ before ++ Server.placeLog i slot log, entry.1 < r'.server.nextConnectionId := by
  obtain ⟨-, rfl, rfl⟩ := EventLoop.step_ok hs
  have hnext : r.server.nextConnectionId ≤
      (r.server.handle registry codec input).state.nextConnectionId :=
    (Server.handle_frame input r.server).2.1
  change (r.server.handle registry codec input).state.endpoints[i]? = some e' at he'
  have hpath : ∀ firstId, (r.server.Accepts input → firstId ≤ r.server.nextConnectionId) →
      ∃ due', PlacePath r.server.seed firstId (e.seen slot) (r.server.dueTick input i)
        (Server.placeLog i slot (r.server.handle registry codec input).log) (e'.seen slot) due' := by
    intro firstId hfirst
    obtain ⟨due', hfollows⟩ : ∃ due', ServerAttempt.Follows firstId i slot
        (r.server.dueTick input i) r.server (r.server.handle registry codec input) due' :=
      Server.path_of_handle input hfirst
    obtain ⟨e'', he'', hpath⟩ := hfollows e he
    obtain rfl := Option.some.inj (he'.symm.trans he'')
    exact ⟨due', hpath⟩
  by_cases haccepts : r.server.Accepts input
  · obtain ⟨due', hpath⟩ := hpath r.server.nextConnectionId fun _ => le_refl _
    refine ⟨_, due', hpath, ?_⟩
    rw [placeLog_of_accepts haccepts, List.append_nil]
    exact ⟨hbefore, fun entry hentry => Nat.lt_of_lt_of_le (hbefore entry hentry) hnext⟩
  · obtain ⟨bound, hbound⟩ := exists_above
      (before ++ Server.placeLog i slot (r.server.handle registry codec input).log)
    obtain ⟨due', hpath⟩ := hpath bound fun h => absurd h haccepts
    refine ⟨bound, due', hpath, hbound, fun entry hentry => ?_⟩
    refine Nat.lt_of_lt_of_le ?_ hnext
    rcases List.mem_append.mp hentry with hentry' | hentry'
    · exact hbefore entry hentry'
    · rcases hpath.entries entry hentry' with ⟨c, hc, hid⟩ | hfresh
      · rw [hid]
        exact (routed.below ⟨e, he, hc⟩).2
      · exact absurd (hbound entry hentry) (Nat.not_lt.mpr hfresh)

/-! ### Runs -/

lemma seed_of_run (run : (eventLoop registry codec).Run l₀ h l) :
    l.server.seed = l₀.server.seed := by
  refine run.invariant (P := fun l => l.server.seed = l₀.server.seed) rfl ?_
  intro r input log r' hr hs
  exact (EventLoop.step_core hs).seed.trans hr

/-- Only identifiers that were given out are in the log. -/
lemma placeHistory_below (started : Started l₀) (run : (eventLoop registry codec).Run l₀ h l)
    {e : Endpoint} (he : l.server.endpoints[i]? = some e) :
    ∀ entry ∈ placeHistory i slot h, entry.1 < l.server.nextConnectionId := by
  refine run.history (P := fun h l => ∀ e, l.server.endpoints[i]? = some e →
    ∀ entry ∈ placeHistory i slot h, entry.1 < l.server.nextConnectionId) ?_ ?_ e he
  · exact fun e he => by simp [placeHistory, Server.placeLog, Endpoint.slotLog]
  · intro h r input log r' run hr hs e' he'
    obtain ⟨e, he⟩ := endpoint_of_step hs he'
    obtain ⟨firstId, due', -, -, hnext⟩ :=
      path_of_step slot hs (routed_of_run started run) (hr e he) he he'
    rw [placeHistory_snoc]
    exact hnext

/-- An invariant of moves is an invariant of the history of every place. -/
theorem history_of_places {I : SlotView → List (Nat × Activity) → Prop} (started : Started l₀)
    (run : (eventLoop registry codec).Run l₀ h l)
    (hstart : ∀ e ∈ l₀.server.endpoints, ∀ slot, I (e.seen slot) [])
    (hmove : ∀ {firstId v due before log v' due'}, (∀ entry ∈ before ++ log, entry.1 < firstId) →
      I v before → PlaceMove l₀.server.seed firstId v due log v' due' → I v' (before ++ log))
    {e : Endpoint} (he : l.server.endpoints[i]? = some e) (slot : Slot) :
    I (e.seen slot) (placeHistory i slot h) := by
  refine run.history (P := fun h l => ∀ e, l.server.endpoints[i]? = some e →
    I (e.seen slot) (placeHistory i slot h)) ?_ ?_ e he
  · exact fun e he => hstart e (List.mem_of_getElem? he) slot
  · intro h r input log r' run hr hs e' he'
    obtain ⟨e, he⟩ := endpoint_of_step hs he'
    obtain ⟨firstId, due', hpath, hfresh, -⟩ := path_of_step slot hs (routed_of_run started run)
      (placeHistory_below started run he) he he'
    rw [placeHistory_snoc]
    have hkept : (∀ entry ∈ placeHistory i slot h ++ Server.placeLog i slot log,
        entry.1 < firstId) → I (e'.seen slot)
          (placeHistory i slot h ++ Server.placeLog i slot log) := by
      refine hpath.invariant (I := fun v _ before =>
        (∀ entry ∈ before, entry.1 < firstId) → I v before) (fun _ => hr e he) ?_
      intro v due before log v' due' hv move hall
      exact hmove hall (hv fun entry hentry => hall entry (List.mem_append_left _ hentry))
        (seed_of_run run ▸ move)
    exact hkept hfresh

end Registered

end PmuSimulator

import Mathlib
import PmuSimulator.Foundation.TwoStep
import PmuSimulator.Scenario.Invariant

/-!
# Two-step control

The controller is a two-step control protocol: a run of it, read as the events its callers see,
is a history of `TwoStep.Ledger`. What holds of every such history then holds of every run.
-/

open Std (ExtTreeMap)

namespace PmuSimulator

abbrev ControlEvent := TwoStep.Event ActivationToken ScenarioTarget ScenarioAction Instant

abbrev ControlLedger := TwoStep.Ledger ActivationToken ScenarioTarget ScenarioAction Instant

abbrev ControllerStep := Machine.Taken ScenarioController ControllerInput ControllerOutput

/-! ### The events of a step -/

/-- What a successful prepare, confirm or cancel is. -/
def answered : ControllerInput → ControllerOutput → List ControlEvent
  | .prepareActivation target scenarioName _ now, .prepared (.ok s) =>
    [.issued s.token ⟨target, .activate scenarioName, now + activationTokenTtl⟩]
  | .prepareClear target _ now, .prepared (.ok s) =>
    [.issued s.token ⟨target, .clear, now + activationTokenTtl⟩]
  | .confirm token now, .confirmed (.ok s) => [.confirmed token s.target s.action now]
  | .cancel token _, .cancelled (.ok _) => [.cancelled token]
  | _, _ => []

/-- The actions a successful `advance_boundary` takes out of the pending ones. -/
def applications (x : ControllerStep) : List ControlEvent :=
  match x.output with
  | .boundary (.ok ()) => x.before.pending.toList.map fun e => .applied e.1 e.2.action.snapshot
  | _ => []

/-- The tokens a step consumes without a successful confirm or cancel. -/
def lapsed (x : ControllerStep) : List ActivationToken :=
  x.before.prepared.keys.filter fun token =>
    x.after.prepared[token]?.isNone &&
      !((answered x.input x.output).filterMap TwoStep.Event.consumes).contains token

def expiries (x : ControllerStep) : List ControlEvent :=
  match x.input.time with
  | some now => (lapsed x).map (.expired · now)
  | none => []

def controlEvents (x : ControllerStep) : List ControlEvent :=
  answered x.input x.output ++ applications x ++ expiries x

/-! ### The ledger of a controller -/

def PreparedScenarioAction.request (p : PreparedScenarioAction) :
    TwoStep.Request ScenarioTarget ScenarioAction Instant :=
  ⟨p.target, p.action.snapshot, p.expiresAt⟩

namespace ScenarioController

def ledger (c : ScenarioController) : ControlLedger where
  known := {token | 0 < token.value ∧ token.value < c.nextToken}
  live token := (c.prepared[token]?).map PreparedScenarioAction.request
  queued target := (c.pending[target]?).map fun p => p.action.snapshot

lemma ledger_new (catalog : ScenarioCatalog) :
    (ScenarioController.new catalog).ledger = TwoStep.Ledger.empty := by
  ext1
  · ext token
    simp only [ledger, ScenarioController.new, Set.mem_ofPred_eq, TwoStep.Ledger.empty,
      Set.mem_empty_iff_false, iff_false]
    omega
  · funext token
    simp [ledger, ScenarioController.new, TwoStep.Ledger.empty]
  · funext target
    simp [ledger, ScenarioController.new, TwoStep.Ledger.empty]

lemma ledger_live {c : ScenarioController} {token : ActivationToken}
    {r : TwoStep.Request ScenarioTarget ScenarioAction Instant} :
    c.ledger.live token = some r ↔ ∃ p, c.prepared[token]? = some p ∧ p.request = r := by
  simp [ledger]

lemma ledger_live_of {c : ScenarioController} {token : ActivationToken} {p : PreparedScenarioAction}
    (hp : c.prepared[token]? = some p) : c.ledger.live token = some p.request :=
  ledger_live.mpr ⟨p, hp, rfl⟩

end ScenarioController

open ScenarioController

lemma mem_lapsed {x : ControllerStep} {token : ActivationToken} :
    token ∈ lapsed x ↔ (∃ p, x.before.prepared[token]? = some p) ∧
      x.after.prepared[token]? = none ∧
        token ∉ (answered x.input x.output).filterMap TwoStep.Event.consumes := by
  simp only [lapsed, List.mem_filter, ExtTreeMap.mem_keys, ← ExtTreeMap.isSome_getElem?_iff_mem,
    Option.isSome_iff_exists, Bool.and_eq_true, Option.isNone_iff_eq_none, Bool.not_eq_true',
    List.contains_eq_mem, decide_eq_false_iff_not]

lemma nodup_lapsed (x : ControllerStep) : (lapsed x).Nodup :=
  (ExtTreeMap.nodup_keys).filter _

/-- The preparations that lapse in a step expire one by one, from a ledger that has seen the rest of
the step. -/
lemma trace_expiries {x : ControllerStep} {l : ControlLedger} {now : Instant}
    (time : x.input.time = some now)
    (hknown : x.after.ledger.known = l.known) (hqueued : x.after.ledger.queued = l.queued)
    (hafter : ∀ (t : ActivationToken) (q : PreparedScenarioAction),
      x.after.prepared[t]? = some q → l.live t = some q.request)
    (hlate : ∀ (t : ActivationToken) (p : PreparedScenarioAction),
      x.before.prepared[t]? = some p → x.after.prepared[t]? = none →
        t ∉ (answered x.input x.output).filterMap TwoStep.Event.consumes →
          l.live t = some p.request ∧ p.expiresAt ≤ now)
    (hrest : ∀ t : ActivationToken, x.after.prepared[t]? = none → (l.live t).isSome →
      (∃ p, x.before.prepared[t]? = some p) ∧
        t ∉ (answered x.input x.output).filterMap TwoStep.Event.consumes) :
    TwoStep.Trace l (expiries x) x.after.ledger := by
  simp only [expiries, time]
  refine TwoStep.Trace.expired_all (nodup_lapsed x) ?_ hknown hqueued ?_
  · intro t ht
    obtain ⟨⟨p, hp⟩, hnone, hspent⟩ := mem_lapsed.mp ht
    obtain ⟨hl, hl'⟩ := hlate t p hp hnone hspent
    exact ⟨_, hl, hl'⟩
  · intro t
    cases hq : x.after.prepared[t]? with
    | some q =>
      have hnot : t ∉ lapsed x := fun ht => by simp [(mem_lapsed.mp ht).2.1] at hq
      rw [if_neg hnot, hafter t q hq, ledger_live_of hq]
    | none =>
      have hnone : x.after.ledger.live t = none := by simp [ledger, hq]
      rw [hnone]
      split_ifs with ht
      · rfl
      · by_contra hsome
        have hl : (l.live t).isSome := Option.isSome_iff_ne_none.mpr fun h => hsome h.symm
        exact ht (mem_lapsed.mpr ⟨(hrest t hq hl).1, hq, (hrest t hq hl).2⟩)

/-! ### Each operation is a history -/

section Effects

variable {c c' : ScenarioController} {i : ControllerInput} {o : ControllerOutput}

lemma answered_of_rejected (h : o.rejected = true) : answered i o = [] := by
  unfold answered
  split <;> first | rfl | simp [ControllerOutput.rejected] at h

lemma applications_of_rejected {x : ControllerStep} (h : x.output.rejected = true) :
    applications x = [] := by
  unfold applications
  split
  · simp_all [ControllerOutput.rejected]
  · rfl

/-- A step that is not a caller's success and only loses preparations past their deadline. -/
lemma trace_of_loss (x : ControllerStep) {now : Instant} (time : x.input.time = some now)
    (hanswered : answered x.input x.output = []) (happlied : applications x = [])
    (hnext : x.after.nextToken = x.before.nextToken) (hpending : x.after.pending = x.before.pending)
    (hsub : ∀ (t : ActivationToken) (q : PreparedScenarioAction),
      x.after.prepared[t]? = some q → x.before.prepared[t]? = some q)
    (hlate : ∀ (t : ActivationToken) (p : PreparedScenarioAction),
      x.before.prepared[t]? = some p → x.after.prepared[t]? = none → p.expiresAt ≤ now) :
    TwoStep.Trace x.before.ledger (controlEvents x) x.after.ledger := by
  simp only [controlEvents, hanswered, happlied, List.nil_append]
  refine trace_expiries time ?_ ?_ (fun t q hq => ledger_live_of (hsub t q hq))
    (fun t p hp hnone _ => ⟨ledger_live_of hp, hlate t p hp hnone⟩) ?_
  · simp only [ledger, hnext]
  · simp only [ledger, hpending]
  · intro t _ hl
    obtain ⟨r, hr⟩ := Option.isSome_iff_exists.mp hl
    obtain ⟨p, hp, -⟩ := ledger_live.mp hr
    exact ⟨⟨p, hp⟩, by simp [hanswered]⟩

/-- The last part of an accepted confirm or cancel: its own token is spent, others may lapse. -/
lemma trace_of_consumed (x : ControllerStep) {l : ControlLedger} {token : ActivationToken}
    {p : PreparedScenarioAction} {now : Instant} {e : ControlEvent}
    (time : x.input.time = some now) (hanswered : answered x.input x.output = [e])
    (happlied : applications x = []) (hconsumes : e.consumes = some token)
    (hp : x.before.prepared[token]? = some p)
    (hstep : TwoStep.Step x.before.ledger e l) (hknown : x.after.ledger.known = l.known)
    (hqueued : x.after.ledger.queued = l.queued)
    (hlive : l.live = Function.update x.before.ledger.live token none)
    (hafter : ∀ (t : ActivationToken) (q : PreparedScenarioAction),
      x.after.prepared[t]? = some q ↔
        (t ≠ token ∧ x.before.prepared[t]? = some q) ∧ now < q.expiresAt) :
    TwoStep.Trace x.before.ledger (controlEvents x) x.after.ledger := by
  have hspent : ∀ t, t ∈ (answered x.input x.output).filterMap TwoStep.Event.consumes ↔
      t = token := by
    simp [hanswered, hconsumes]
  have hl : ∀ t, t ≠ token → l.live t = x.before.ledger.live t := fun t ht => by
    rw [hlive, Function.update_of_ne ht]
  simp only [controlEvents, hanswered, happlied, List.append_nil]
  refine (TwoStep.Trace.single hstep).trans (trace_expiries time hknown hqueued ?_ ?_ ?_)
  · intro t q hq
    obtain ⟨⟨ht, hq⟩, -⟩ := (hafter t q).mp hq
    rw [hl t ht, ledger_live_of hq]
  · intro t q hq hnone ht
    have ht : t ≠ token := fun h => ht ((hspent t).mpr h)
    refine ⟨by rw [hl t ht, ledger_live_of hq], Nat.not_lt.mp fun hlt => ?_⟩
    simp [(hafter t q).mpr ⟨⟨ht, hq⟩, hlt⟩] at hnone
  · intro t _ hsome
    have ht : t ≠ token := by
      rintro rfl
      simp [hlive] at hsome
    rw [hl t ht] at hsome
    obtain ⟨r, hr⟩ := Option.isSome_iff_exists.mp hsome
    obtain ⟨q, hq, -⟩ := ledger_live.mp hr
    exact ⟨⟨q, hq⟩, fun h => ht ((hspent t).mp h)⟩

lemma answered_of_request {target : ScenarioTarget} {action : ScenarioAction} {now : Instant}
    (h : i.request = some (target, action, now)) (s : PreparedScenarioSnapshot) :
    answered i (.prepared (.ok s)) =
      [.issued s.token ⟨target, action, now + activationTokenTtl⟩] := by
  cases i <;> simp only [ControllerInput.request, reduceCtorEq, Option.some.injEq,
    Prod.mk.injEq] at h
  all_goals
    obtain ⟨rfl, rfl, rfl⟩ := h
    rfl

lemma trace_of_issued {target : ScenarioTarget} {action : StoredScenarioAction}
    {actorLabel : Option String} {now : Instant} {s : PreparedScenarioSnapshot}
    (h : c.Coherent) (request : i.request = some (target, action.snapshot, now))
    (time : i.time = some now) (hs : s.token = ⟨c.nextToken⟩)
    (hc : c' = (c.discarded now).issued target action actorLabel (now + activationTokenTtl)) :
    TwoStep.Trace c.ledger (controlEvents ⟨c, i, .prepared (.ok s), c'⟩) c'.ledger := by
  have hanswered := answered_of_request request s
  have hfresh : s.token ∉ c.ledger.known := by
    simp [ledger, hs]
  have hnew : ∀ (t : ActivationToken) (p : PreparedScenarioAction),
      c.prepared[t]? = some p → t ≠ s.token := by
    rintro t p hp rfl
    exact absurd (h.tokens _ p hp).2 (by simp [hs])
  have hprepared : ∀ (t : ActivationToken) (q : PreparedScenarioAction),
      c'.prepared[t]? = some q ↔ t = s.token ∧
        q = ⟨target, action, actorLabel, now + activationTokenTtl⟩ ∨
          t ≠ s.token ∧ c.prepared[t]? = some q ∧ now < q.expiresAt := by
    intro t q
    rw [hc, issued_prepared, discarded_prepared, hs]
    rfl
  simp only [controlEvents, hanswered, applications, List.append_nil]
  refine (TwoStep.Trace.single (.issued hfresh)).trans (trace_expiries time ?_ ?_ ?_ ?_ ?_)
  · ext t
    simp only [ledger, hc, ScenarioController.issued, issue, discarded_nextToken,
      Set.mem_ofPred_eq, Set.mem_insert_iff, hs]
    constructor
    · rintro ⟨h₀, hlt⟩
      rcases Nat.lt_succ_iff_lt_or_eq.mp hlt with hlt | heq
      · exact .inr ⟨h₀, hlt⟩
      · exact .inl (ActivationToken.value_injective heq)
    · rintro (rfl | ⟨h₀, hlt⟩)
      · exact ⟨h.nextToken, Nat.lt_succ_self _⟩
      · exact ⟨h₀, Nat.lt_succ_of_lt hlt⟩
  · simp [ledger, hc, ScenarioController.issued, issue]
  · intro t q hq
    rcases (hprepared t q).mp hq with ⟨rfl, rfl⟩ | ⟨ht, hq, -⟩
    · simp [PreparedScenarioAction.request]
    · simp only [Function.update_of_ne ht, ledger_live_of hq]
  · intro t p hp hnone _
    have hp : c.prepared[t]? = some p := hp
    have ht := hnew t p hp
    refine ⟨by simp only [Function.update_of_ne ht, ledger_live_of hp],
      Nat.not_lt.mp fun hlt => ?_⟩
    simp [(hprepared t p).mpr (.inr ⟨ht, hp, hlt⟩)] at hnone
  · intro t hnone hsome
    have ht : t ≠ s.token := by
      rintro rfl
      simp [(hprepared _ _).mpr (.inl ⟨rfl, rfl⟩)] at hnone
    simp only [Function.update_of_ne ht] at hsome
    obtain ⟨r, hr⟩ := Option.isSome_iff_exists.mp hsome
    obtain ⟨p, hp, -⟩ := ledger_live.mp hr
    exact ⟨⟨p, hp⟩, by simp [hanswered, TwoStep.Event.consumes, List.filterMap_cons]⟩

lemma trace_of_crossed {n : Nat} {active : ExtTreeMap ScenarioTarget ActiveScenarioAction} :
    TwoStep.Trace c.ledger
      (controlEvents ⟨c, .advanceBoundary n, .boundary (.ok ()), c.crossed n active⟩)
      (c.crossed n active).ledger := by
  simp only [controlEvents, answered, applications, expiries, ControllerInput.time,
    List.nil_append, List.append_nil]
  have hmap : (c.pending.toList.map fun e => (TwoStep.Event.applied e.1 e.2.action.snapshot :
      ControlEvent)) = (c.pending.toList.map fun e => (e.1, e.2.action.snapshot)).map
        fun e => .applied e.1 e.2 := by
    simp
  have hkeys : (c.pending.toList.map fun e => (e.1, e.2.action.snapshot)).map Prod.fst =
      c.pending.keys := by
    simp only [List.map_map, ← ExtTreeMap.map_fst_toList_eq_keys]
    rfl
  rw [hmap]
  refine TwoStep.Trace.applied_all (hkeys ▸ ExtTreeMap.nodup_keys) ?_ rfl rfl ?_
  · intro e he
    obtain ⟨⟨k, p⟩, hp, rfl⟩ := List.mem_map.mp he
    simp [ledger, ExtTreeMap.mem_toList_iff_getElem?_eq_some.mp hp]
  · intro k
    simp only [hkeys, ExtTreeMap.mem_keys, ← ExtTreeMap.isSome_getElem?_iff_mem]
    cases hk : c.pending[k]? <;> simp [ledger, ScenarioController.crossed, applyPending, hk]

/-- One operation of a coherent controller is a piece of history. -/
theorem trace_of_effect (he : Effect c i o c') (h : c.Coherent) :
    TwoStep.Trace c.ledger (controlEvents ⟨c, i, o, c'⟩) c'.ledger := by
  cases he with
  | refused rejected =>
    cases ht : i.time with
    | some now =>
      refine trace_of_loss ⟨c, i, o, c⟩ ht (answered_of_rejected rejected) (applications_of_rejected rejected)
        rfl rfl (fun t q hq => hq) ?_
      rintro t p hp hnone
      cases hnone.symm.trans hp
    | none =>
      simpa [controlEvents, answered_of_rejected rejected,
        applications_of_rejected (x := ⟨c, i, o, c⟩) rejected, expiries, ht] using .nil
  | @discarded _ _ now time rejected =>
    refine trace_of_loss ⟨c, i, o, c.discarded now⟩ time (answered_of_rejected rejected)
      (applications_of_rejected rejected) rfl rfl (fun t q hq => ((discarded_prepared c now).mp hq).1) ?_
    intro t p hp hnone
    refine Nat.not_lt.mp fun hlt => ?_
    simp [(discarded_prepared c now).mpr ⟨hp, hlt⟩] at hnone
  | @snapshot now =>
    refine trace_of_loss ⟨c, .snapshot now, _, c.discarded now⟩ rfl rfl rfl rfl rfl
      (fun t q hq => ((discarded_prepared c now).mp hq).1) ?_
    intro t p hp hnone
    refine Nat.not_lt.mp fun hlt => ?_
    simp [(discarded_prepared c now).mpr ⟨hp, hlt⟩] at hnone
  | issued request time => exact trace_of_issued h request time rfl rfl
  | @late _ _ token p now time prepared late rejected =>
    refine trace_of_loss ⟨c, i, o, c.consumed token p⟩ time (answered_of_rejected rejected)
      (applications_of_rejected rejected) rfl rfl (fun t q hq => (consumed_prepared.mp hq).2) ?_
    intro t q hq hnone
    have ht : t = token := by
      by_contra hne
      simp [consumed_prepared.mpr ⟨hne, hq⟩] at hnone
    obtain rfl := Option.some.inj (hq.symm.trans (ht ▸ prepared))
    exact late
  | @confirmed token p now prepared live =>
    have hfree : c.ledger.queued p.target = none := by
      simp [ledger, h.exclusive _ _ (h.target_prepared prepared)]
    refine trace_of_consumed ⟨c, .confirm token now, _, _⟩ rfl rfl rfl rfl prepared
      (.confirmed (ledger_live_of prepared) live hfree) rfl ?_ rfl ?_
    · funext k
      by_cases hk : k = p.target
      · subst hk
        simp [ledger, queued, OrderedMap.getElem?_insert, PreparedScenarioAction.request]
      · have hk' : p.target ≠ k := fun h => hk h.symm
        simp only [PreparedScenarioAction.request, Function.update_of_ne hk]
        simp [ledger, queued, OrderedMap.getElem?_insert, hk', ScenarioController.consumed,
          removePreparation]
    · intro t q
      exact (discarded_prepared _ now).trans (and_congr_left fun _ => consumed_prepared)
  | @cancelled token p now prepared live =>
    refine trace_of_consumed ⟨c, .cancel token now, _, _⟩ rfl rfl rfl rfl prepared
      (.cancelled (ledger_live_of prepared)) rfl rfl rfl ?_
    intro t q
    exact (discarded_prepared _ now).trans (and_congr_left fun _ => consumed_prepared)
  | crossed => exact trace_of_crossed

/-- Where an active record comes from in one operation. -/
lemma active_of_effect (he : Effect c i o c') {target : ScenarioTarget} {a : ActiveScenarioAction}
    (ha : c'.active[target]? = some a) :
    c.active[target]? = some a ∨
      ∃ p, i = .advanceBoundary a.firstEligibleBoundary ∧ o = .boundary (.ok ()) ∧
        c.pending[target]? = some p ∧ p.action = .activate a.scenario := by
  cases he with
  | crossed _ outlives =>
    rcases activated_or_active (outlives.getElem?.mp ha).1 with
      ⟨p, scenario, hp, hact, rfl⟩ | ⟨-, ha⟩
    · exact .inr ⟨p, rfl, rfl, hp, hact⟩
    · exact .inl ha
  | refused => exact .inl ha
  | discarded => exact .inl ha
  | snapshot => exact .inl ha
  | issued => exact .inl ha
  | late => exact .inl ha
  | confirmed => exact .inl ha
  | cancelled => exact .inl ha

/-- A step that is not a crossed boundary leaves the active records and the index alone. -/
lemma active_same_or_crossed (he : Effect c i o c') :
    (c'.active = c.active ∧ c'.currentSampleIndex = c.currentSampleIndex ∧
        o ≠ .boundary (.ok ())) ∨
      ∃ n active, i = .advanceBoundary n ∧ o = .boundary (.ok ()) ∧
        (∀ previous, c.currentSampleIndex = some previous → previous < n) ∧
        c.Outlives n active ∧ c' = c.crossed n active := by
  cases he with
  | crossed later outlives => exact .inr ⟨_, _, rfl, rfl, later, outlives, rfl⟩
  | refused rejected =>
    refine .inl ⟨rfl, rfl, ?_⟩
    rintro rfl
    cases rejected
  | discarded _ rejected =>
    refine .inl ⟨rfl, rfl, ?_⟩
    rintro rfl
    cases rejected
  | late _ _ _ rejected =>
    refine .inl ⟨rfl, rfl, ?_⟩
    rintro rfl
    cases rejected
  | snapshot => exact .inl ⟨rfl, rfl, by simp⟩
  | issued => exact .inl ⟨rfl, rfl, by simp⟩
  | confirmed => exact .inl ⟨rfl, rfl, by simp⟩
  | cancelled => exact .inl ⟨rfl, rfl, by simp⟩

/-- Only a clear of a sustained scenario can be pending where something is active. -/
lemma ScenarioController.Coherent.pending_of_active (h : Coherent c) {target : ScenarioTarget}
    {a : ActiveScenarioAction} {p : PendingScenarioAction} (ha : c.active[target]? = some a)
    (hp : c.pending[target]? = some p) :
    p.action = .clear ∧ a.scenario.lifecycle = .sustained := by
  have hadm := h.pending target p hp
  cases hact : p.action with
  | activate scenario =>
    rw [hact] at hadm
    cases ha.symm.trans hadm.1
  | clear =>
    rw [hact] at hadm
    obtain ⟨a', ha', hsus⟩ := hadm
    obtain rfl := Option.some.inj (ha.symm.trans ha')
    exact ⟨rfl, hsus⟩

lemma mem_of_applied {x : ControllerStep} {target : ScenarioTarget} {p : PendingScenarioAction}
    (ho : x.output = .boundary (.ok ())) (hp : x.before.pending[target]? = some p) :
    .applied target p.action.snapshot ∈ controlEvents x := by
  refine List.mem_append_left _ (List.mem_append_right _ ?_)
  simp only [applications, ho]
  exact List.mem_map.mpr ⟨(target, p), ExtTreeMap.mem_toList_iff_getElem?_eq_some.mpr hp, rfl⟩

/-- The record of a target ends in a step: it has expired at a boundary, or a clear of the target is
applied. -/
def EndsIn (x : ControllerStep) (target : ScenarioTarget) (a : ActiveScenarioAction) : Prop :=
  (a.scenario.lifecycle = .transient ∧
      ∃ n, x.input = .advanceBoundary n ∧ isExpiredAt a n = .ok true) ∨
    .applied target .clear ∈ controlEvents x

/-- Nothing else removes an active record. -/
lemma endsIn_of_effect (he : Effect c i o c') (h : c.Coherent) {target : ScenarioTarget}
    {a : ActiveScenarioAction} (ha : c.active[target]? = some a)
    (hleft : c'.active[target]? ≠ some a) : EndsIn ⟨c, i, o, c'⟩ target a := by
  rcases active_same_or_crossed he with ⟨hsame, -⟩ | ⟨n, active, rfl, rfl, -, hout, rfl⟩
  · rw [hsame] at hleft
    exact absurd ha hleft
  cases hp : c.pending[target]? with
  | some p =>
    right
    have hmem := mem_of_applied (x := ⟨c, .advanceBoundary n, .boundary (.ok ()),
      c.crossed n active⟩) rfl hp
    rw [(h.pending_of_active ha hp).1] at hmem
    exact hmem
  | none =>
    left
    have happlied : (c.applyPending n).active[target]? = some a := by
      rw [applyPending_active, hp]
      exact ha
    have hstays : remainsActive n a ≠ .ok true := fun hstays =>
      hleft (hout.getElem?.mpr ⟨happlied, hstays⟩)
    obtain ⟨keep, hjudged⟩ := OrderedMap.judged_of_retain hout happlied
    unfold remainsActive at hstays hjudged
    by_cases hlife : a.scenario.lifecycle = .transient
    · rw [if_neg (not_not.mpr hlife)] at hstays hjudged
      refine ⟨hlife, n, rfl, ?_⟩
      cases hexpired : isExpiredAt a n with
      | error failure => simp [hexpired, Except.map] at hjudged
      | ok expired =>
        cases expired with
        | true => rfl
        | false => exact absurd (by simp [hexpired, Except.map]) hstays
    · exact absurd (if_pos hlife) hstays

end Effects

/-! ### Every run is a history -/

section Runs

variable {raw : RawScenarioCatalog} {catalog : ScenarioCatalog} {c : ScenarioController}
  {h : List ControllerStep}

theorem trace_of_run (hc : compileCatalog raw = .ok catalog)
    (run : controllerMachine.Run (.new catalog) h c) :
    TwoStep.Trace TwoStep.Ledger.empty (h.flatMap controlEvents) c.ledger := by
  refine run.history (P := fun h c =>
    TwoStep.Trace TwoStep.Ledger.empty (h.flatMap controlEvents) c.ledger) ?_ ?_
  · rw [ledger_new]
    exact .nil
  · intro h r e o r' hr ih hs
    obtain ⟨hcoh, hrev⟩ := coherent_of_run hc hr
    rw [List.flatMap_append, List.flatMap_singleton]
    exact ih.trans (trace_of_effect (hcoh.effect hrev hs).1 hcoh)

lemma active_of_run (hc : compileCatalog raw = .ok catalog)
    (run : controllerMachine.Run (.new catalog) h c) :
    ∀ (target : ScenarioTarget) (a : ActiveScenarioAction), c.active[target]? = some a →
      ∃ x ∈ h, x.input = .advanceBoundary a.firstEligibleBoundary ∧
        .applied target (.activate a.scenario.name) ∈ controlEvents x := by
  refine run.history (P := fun h c => ∀ (target : ScenarioTarget) (a : ActiveScenarioAction),
    c.active[target]? = some a → ∃ x ∈ h, x.input = .advanceBoundary a.firstEligibleBoundary ∧
      .applied target (.activate a.scenario.name) ∈ controlEvents x) ?_ ?_
  · simp [ScenarioController.new]
  · intro h r e o r' hr ih hs target a ha
    obtain ⟨hcoh, hrev⟩ := coherent_of_run hc hr
    rcases active_of_effect (hcoh.effect hrev hs).1 ha with ha | ⟨p, rfl, rfl, hp, hact⟩
    · obtain ⟨x, hx, hx'⟩ := ih target a ha
      exact ⟨x, List.mem_append_left _ hx, hx'⟩
    · refine ⟨_, List.mem_append_right _ (List.mem_singleton.mpr rfl), rfl, ?_⟩
      have hmem : (target, p) ∈ r.pending.toList :=
        ExtTreeMap.mem_toList_iff_getElem?_eq_some.mpr hp
      refine List.mem_append_left _ (List.mem_append_right _ ?_)
      exact List.mem_map.mpr ⟨_, hmem, by simp [hact, StoredScenarioAction.snapshot]⟩

lemma endsIn_of_run (hc : compileCatalog raw = .ok catalog)
    (run : controllerMachine.Run (.new catalog) h c) :
    ∀ x ∈ h, ∀ (target : ScenarioTarget) (a : ActiveScenarioAction),
      x.before.active[target]? = some a → x.after.active[target]? ≠ some a →
        EndsIn x target a := by
  refine run.history (P := fun h _ => ∀ x ∈ h, ∀ (target : ScenarioTarget)
    (a : ActiveScenarioAction), x.before.active[target]? = some a →
      x.after.active[target]? ≠ some a → EndsIn x target a) ?_ ?_
  · intro x hx
    cases hx
  · intro h r e o r' hr ih hs x hx target a ha hleft
    obtain ⟨hcoh, hrev⟩ := coherent_of_run hc hr
    rcases List.mem_append.mp hx with hx | hx
    · exact ih x hx target a ha hleft
    · obtain rfl := List.mem_singleton.mp hx
      exact endsIn_of_effect (hcoh.effect hrev hs).1 hcoh ha hleft

/-- An issued token answers a prepare of that target and action, and its deadline counts from it. -/
lemma request_of_issued {x : ControllerStep} {token : ActivationToken}
    {r : TwoStep.Request ScenarioTarget ScenarioAction Instant}
    (hx : .issued token r ∈ controlEvents x) :
    ∃ now s, x.input.request = some (r.key, r.action, now) ∧ x.output = .prepared (.ok s) ∧
      s.token = token ∧ r.deadline = now + activationTokenTtl := by
  simp only [controlEvents, applications, expiries, List.mem_append] at hx
  rcases hx with (hx | hx) | hx
  · unfold answered at hx
    split at hx
    · rename_i now s hi ho
      obtain ⟨rfl, rfl⟩ := TwoStep.Event.issued.inj (List.mem_singleton.mp hx)
      exact ⟨now, s, by rw [hi]; rfl, ho, rfl, rfl⟩
    · rename_i now s hi ho
      obtain ⟨rfl, rfl⟩ := TwoStep.Event.issued.inj (List.mem_singleton.mp hx)
      exact ⟨now, s, by rw [hi]; rfl, ho, rfl, rfl⟩
    · cases List.mem_singleton.mp hx
    · cases List.mem_singleton.mp hx
    · cases hx
  · split at hx
    · obtain ⟨e, -, he⟩ := List.mem_map.mp hx
      cases he
    · cases hx
  · split at hx
    · obtain ⟨e, -, he⟩ := List.mem_map.mp hx
      cases he
    · cases hx

/-- Two-step control is one-shot and never bypassed. -/
theorem two_step_control (hc : compileCatalog raw = .ok catalog)
    (run : controllerMachine.Run (.new catalog) h c) {es : List ControlEvent}
    (hes : es = h.flatMap controlEvents) :
    -- no token is issued twice, or consumed twice
    (es.filterMap TwoStep.Event.issues).Nodup ∧ (es.filterMap TwoStep.Event.consumes).Nodup ∧
    -- a token is handed out by a prepare, and lives from then
    (∀ token r, .issued token r ∈ es → ∃ x ∈ h, ∃ now s,
      x.input.request = some (r.key, r.action, now) ∧ x.output = .prepared (.ok s) ∧
        s.token = token ∧ r.deadline = now + activationTokenTtl) ∧
    -- what is applied was queued by one confirm, in time, of a token issued once for it
    (∀ j target action, es[j]? = some (.applied target action) →
      (∃! i, i < j ∧ TwoStep.ConfirmsAt es i target ∧ TwoStep.IdleBetween es i j target) ∧
      ∃ i token now, i < j ∧ es[i]? = some (.confirmed token target action now) ∧
        TwoStep.IdleBetween es i j target ∧
          ∃! m, ∃ r, es[m]? = some (.issued token r) ∧ m < i ∧ r.key = target ∧
            r.action = action ∧ now < r.deadline) ∧
    -- a token that was cancelled or expired is never confirmed
    (∀ token, (.cancelled token ∈ es ∨ ∃ now, .expired token now ∈ es) →
      ∀ target action now, .confirmed token target action now ∉ es) ∧
    -- what is pending was confirmed and not applied since
    (∀ (target : ScenarioTarget) (p : PendingScenarioAction), c.pending[target]? = some p →
      ∃ i token now, es[i]? = some (.confirmed token target p.action.snapshot now) ∧
        TwoStep.IdleBetween es i es.length target) ∧
    -- what is active was applied at its first boundary
    (∀ (target : ScenarioTarget) (a : ActiveScenarioAction), c.active[target]? = some a →
      ∃ x ∈ h, x.input = .advanceBoundary a.firstEligibleBoundary ∧
        .applied target (.activate a.scenario.name) ∈ controlEvents x) ∧
    -- what leaves the active records has expired, or a clear of its target is applied
    ∀ x ∈ h, ∀ (target : ScenarioTarget) (a : ActiveScenarioAction),
      x.before.active[target]? = some a → x.after.active[target]? ≠ some a →
        EndsIn x target a := by
  have hacc : TwoStep.Accounts es c.ledger := hes ▸ (trace_of_run hc run).accounts
  refine ⟨hacc.issued_once, hacc.consumed_once, ?_, ?_, ?_, ?_, active_of_run hc run,
    endsIn_of_run hc run⟩
  · intro token r hr
    rw [hes] at hr
    obtain ⟨x, hx, hr⟩ := List.mem_flatMap.mp hr
    exact ⟨x, hx, request_of_issued hr⟩
  · intro j target action hj
    obtain ⟨i, token, now, hij, hi, hidle⟩ := hacc.confirmed_before j target action hj
    exact ⟨hacc.open_unique hj, i, token, now, hij, hi, hidle, hacc.issue_unique hi⟩
  · rintro token (ht | ⟨now, ht⟩) target action now'
    · exact hacc.not_confirmed ht rfl (by simp)
    · exact hacc.not_confirmed ht rfl (by simp)
  · intro target p hp
    exact hacc.waiting target p.action.snapshot (by simp [ledger, hp])

/-- A sustained scenario is activated and cleared. -/
theorem two_step_control_small : ∃ h c,
    controllerMachine.Run (.new smallCatalog) h c ∧
      (∃ i token now, i < 2 ∧ (h.flatMap controlEvents)[i]? =
        some (.confirmed token (.endpoint 7) (.activate "holdover") now)) ∧
      ∃ x ∈ h, ∃ a, x.before.active[ScenarioTarget.endpoint 7]? = some a ∧
        x.after.active[ScenarioTarget.endpoint 7]? = none ∧ EndsIn x (.endpoint 7) a := by
  have run : controllerMachine.Run (.new smallCatalog) _ _ :=
    (((((Machine.Run.nil.snoc (e := .prepareActivation (.endpoint 7) "holdover" none 0) rfl).snoc
      (e := .confirm ⟨1⟩ 5) rfl).snoc (e := .advanceBoundary 3) rfl).snoc
      (e := .prepareClear (.endpoint 7) none 6) rfl).snoc (e := .confirm ⟨2⟩ 7) rfl).snoc
      (e := .advanceBoundary 4) rfl
  obtain ⟨-, -, -, happlied, -, -, -, hends⟩ := two_step_control compileCatalog_small run rfl
  obtain ⟨-, i, token, now, hlt, hi, -⟩ := happlied 2 (.endpoint 7) (.activate "holdover") rfl
  refine ⟨_, _, run, ⟨i, token, now, hlt, hi⟩, _, List.mem_append_right _ List.mem_cons_self,
    _, rfl, rfl, hends _ (List.mem_append_right _ List.mem_cons_self) _ _ rfl ?_⟩
  exact fun h => by cases h

end Runs

end PmuSimulator

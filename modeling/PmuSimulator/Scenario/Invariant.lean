import Mathlib
import PmuSimulator.Scenario.Transition

/-!
# The controller invariant

`Coherent` is what holds of the controller between operations. It is proved for each change of
state of `Scenario.Transition`, and `Coherent.effect` sums up what a coherent controller can do in
one operation: the checks `confirm` makes after consuming a token never fail, so `Effect` has no
constructor for them.
-/

open Std (ExtTreeMap)

namespace PmuSimulator

namespace ScenarioController

/-- An action that fits what is active on its target. -/
def Admissible (c : ScenarioController) (target : ScenarioTarget) : StoredScenarioAction → Prop
  | .activate scenario =>
    c.active[target]? = none ∧ c.catalog.scenario scenario.name = some scenario ∧
      scenario.kind.compatible target = true
  | .clear => ∃ a, c.active[target]? = some a ∧ a.scenario.lifecycle = .sustained

/-- What holds of the controller between two operations. -/
structure Coherent (c : ScenarioController) : Prop where
  catalog : c.catalog.WellFormed
  /-- The two maps of preparations are inverse to each other. -/
  inverse : ∀ (token : ActivationToken) (target : ScenarioTarget),
    c.preparedTargets[target]? = some token ↔
      ∃ p, c.prepared[token]? = some p ∧ p.target = target
  /-- No target is both prepared and pending. -/
  exclusive : ∀ (target : ScenarioTarget) (token : ActivationToken),
    c.preparedTargets[target]? = some token → c.pending[target]? = none
  prepared : ∀ (token : ActivationToken) (p : PreparedScenarioAction),
    c.prepared[token]? = some p → c.Admissible p.target p.action
  pending : ∀ (target : ScenarioTarget) (p : PendingScenarioAction),
    c.pending[target]? = some p → c.Admissible target p.action
  active : ∀ (target : ScenarioTarget) (a : ActiveScenarioAction), c.active[target]? = some a →
    c.catalog.scenario a.scenario.name = some a.scenario ∧
      a.scenario.kind.compatible target = true
  tokens : ∀ (token : ActivationToken) (p : PreparedScenarioAction),
    c.prepared[token]? = some p → 0 < token.value ∧ token.value < c.nextToken
  nextToken : 0 < c.nextToken
  capacity : c.trackedTargetCount ≤ maxScenarioTargets

/-! ### Tracked targets -/

lemma mem_trackedTargets {c : ScenarioController} {target : ScenarioTarget} :
    target ∈ c.trackedTargets ↔ (c.active[target]?).isSome ∨ (c.pending[target]?).isSome ∨
      (c.preparedTargets[target]?).isSome := by
  simp only [trackedTargets, List.mem_toFinset, List.mem_append, ExtTreeMap.mem_keys,
    ← ExtTreeMap.isSome_getElem?_iff_mem, or_assoc]

lemma tracksTarget_eq_true {c : ScenarioController} {target : ScenarioTarget} :
    c.tracksTarget target = true ↔ target ∈ c.trackedTargets := by
  simp only [tracksTarget, mem_trackedTargets, Bool.or_eq_true,
    ExtTreeMap.contains_eq_isSome_getElem?]
  tauto

lemma trackedTargetCount_le {c c' : ScenarioController}
    (h : c'.trackedTargets ⊆ c.trackedTargets) : c'.trackedTargetCount ≤ c.trackedTargetCount :=
  Finset.card_le_card h

namespace Coherent

variable {c : ScenarioController}

lemma new {catalog : ScenarioCatalog} (h : catalog.WellFormed) :
    Coherent (ScenarioController.new catalog) where
  catalog := h
  inverse := by simp [ScenarioController.new]
  exclusive := by simp [ScenarioController.new]
  prepared := by simp [ScenarioController.new]
  pending := by simp [ScenarioController.new]
  active := by simp [ScenarioController.new]
  tokens := by simp [ScenarioController.new]
  nextToken := by simp [ScenarioController.new]
  capacity := by
    have hnone : (ScenarioController.new catalog).trackedTargets = ∅ :=
      Finset.eq_empty_of_forall_notMem fun target => by
        simp [mem_trackedTargets, ScenarioController.new]
    simp [trackedTargetCount, hnone]

/-- A prepared action's target is the one its token is filed under. -/
lemma target_prepared (h : Coherent c) {token : ActivationToken} {p : PreparedScenarioAction}
    (hp : c.prepared[token]? = some p) : c.preparedTargets[p.target]? = some token :=
  (h.inverse token p.target).mpr ⟨p, hp, rfl⟩

/-- A target has at most one token. -/
lemma token_unique (h : Coherent c) {t t' : ActivationToken} {p p' : PreparedScenarioAction}
    (hp : c.prepared[t]? = some p) (hp' : c.prepared[t']? = some p') (htarget : p.target = p'.target) :
    t = t' := by
  have h₁ := h.target_prepared hp
  rw [htarget, h.target_prepared hp'] at h₁
  exact (Option.some.inj h₁).symm

/-! ### The changes of state keep it -/

/-- Dropping preparations in both maps at once. -/
lemma of_fewer {c' : ScenarioController} (h : Coherent c) (hcatalog : c'.catalog = c.catalog)
    (hpending : c'.pending = c.pending) (hactive : c'.active = c.active)
    (hnext : c'.nextToken = c.nextToken)
    (hprepared : ∀ (token : ActivationToken) (p : PreparedScenarioAction),
      c'.prepared[token]? = some p → c.prepared[token]? = some p)
    (hinverse : ∀ (token : ActivationToken) (target : ScenarioTarget),
      c'.preparedTargets[target]? = some token ↔
        ∃ p, c'.prepared[token]? = some p ∧ p.target = target) : Coherent c' := by
  have hsub : ∀ (target : ScenarioTarget) (token : ActivationToken),
      c'.preparedTargets[target]? = some token → c.preparedTargets[target]? = some token := by
    intro target token ht
    obtain ⟨p, hp, htarget⟩ := (hinverse token target).mp ht
    exact (h.inverse token target).mpr ⟨p, hprepared token p hp, htarget⟩
  have hadm : ∀ target action, c.Admissible target action → c'.Admissible target action := by
    intro target action
    cases action <;> simp only [Admissible, hactive, hcatalog] <;> exact id
  refine
    { catalog := hcatalog ▸ h.catalog
      inverse := hinverse
      exclusive := fun target token ht => hpending ▸ h.exclusive target token (hsub _ _ ht)
      prepared := fun token p hp => hadm _ _ (h.prepared token p (hprepared _ _ hp))
      pending := fun target p hp => hadm _ _ (h.pending target p (hpending ▸ hp))
      active := fun target a ha => hcatalog ▸ h.active target a (hactive ▸ ha)
      tokens := fun token p hp => hnext ▸ h.tokens token p (hprepared _ _ hp)
      nextToken := hnext ▸ h.nextToken
      capacity := (trackedTargetCount_le fun target => ?_).trans h.capacity }
  simp only [mem_trackedTargets, hactive, hpending, Option.isSome_iff_exists]
  exact Or.imp_right (Or.imp_right fun ⟨token, ht⟩ => ⟨token, hsub _ _ ht⟩)

lemma discarded (h : Coherent c) (now : Instant) : Coherent (c.discarded now) := by
  refine h.of_fewer rfl rfl rfl rfl (fun token p hp => ((discarded_prepared c now).mp hp).1) ?_
  intro token target
  simp only [discarded_preparedTargets, discarded_prepared, h.inverse]
  constructor
  · rintro ⟨⟨p, hp, rfl⟩, hlive⟩
    exact ⟨p, ⟨hp, Nat.not_le.mp fun hlate => hlive token p hp hlate rfl⟩, rfl⟩
  · rintro ⟨p, ⟨hp, hlive⟩, rfl⟩
    refine ⟨⟨p, hp, rfl⟩, fun t q hq hlate htarget => ?_⟩
    obtain rfl := h.token_unique hq hp htarget
    obtain rfl := Option.some.inj (hq.symm.trans hp)
    exact Nat.not_le.mpr hlive hlate

lemma consumed (h : Coherent c) {token : ActivationToken} {p : PreparedScenarioAction}
    (hp : c.prepared[token]? = some p) : Coherent (c.consumed token p) := by
  refine h.of_fewer rfl rfl rfl rfl (fun t q hq => (consumed_prepared.mp hq).2) ?_
  intro t target
  simp only [consumed_preparedTargets, consumed_prepared, h.inverse]
  constructor
  · rintro ⟨hne, q, hq, rfl⟩
    refine ⟨q, ⟨?_, hq⟩, rfl⟩
    rintro rfl
    exact hne (congrArg _ (Option.some.inj (hq.symm.trans hp)))
  · rintro ⟨q, ⟨hne, hq⟩, rfl⟩
    exact ⟨fun htarget => hne (h.token_unique hq hp htarget), q, hq, rfl⟩

lemma issued (h : Coherent c) {target : ScenarioTarget} {action : StoredScenarioAction}
    {permits : Bool} (hissuable : c.Issuable target permits) (hadm : c.Admissible target action)
    (actorLabel : Option String) (expiresAt : Instant) :
    Coherent (c.issued target action actorLabel expiresAt) where
  catalog := h.catalog
  inverse := by
    intro t k
    simp only [issued_preparedTargets, issued_prepared, h.inverse]
    constructor
    · rintro (⟨rfl, rfl⟩ | ⟨hk, p, hp, rfl⟩)
      · exact ⟨_, .inl ⟨rfl, rfl⟩, rfl⟩
      · exact ⟨p, .inr ⟨fun ht => absurd (h.tokens t p hp).2 (ht ▸ Nat.lt_irrefl _), hp⟩, rfl⟩
    · rintro ⟨p, ⟨rfl, rfl⟩ | ⟨ht, hp⟩, rfl⟩
      · exact .inl ⟨rfl, rfl⟩
      · refine .inr ⟨?_, p, hp, rfl⟩
        rintro rfl
        exact absurd hissuable.unprepared (by simp [h.target_prepared hp])
  exclusive := by
    intro k t hk
    rcases issued_preparedTargets.mp hk with ⟨rfl, -⟩ | ⟨-, hk⟩
    · exact hissuable.unqueued
    · exact h.exclusive k t hk
  prepared := by
    intro t q hq
    rcases issued_prepared.mp hq with ⟨-, rfl⟩ | ⟨-, hq⟩
    · exact hadm
    · exact h.prepared t q hq
  pending := h.pending
  active := h.active
  tokens := by
    intro t q hq
    rcases issued_prepared.mp hq with ⟨rfl, -⟩ | ⟨-, hq⟩
    · exact ⟨h.nextToken, Nat.lt_succ_self _⟩
    · exact ⟨(h.tokens t q hq).1, Nat.lt_succ_of_lt (h.tokens t q hq).2⟩
  nextToken := Nat.succ_pos _
  capacity := by
    have hsub : (c.issued target action actorLabel expiresAt).trackedTargets ⊆
        insert target c.trackedTargets := by
      intro k
      simp only [Finset.mem_insert, mem_trackedTargets, Option.isSome_iff_exists,
        issued_preparedTargets]
      rintro (hk | hk | ⟨t, ⟨rfl, -⟩ | ⟨-, hk⟩⟩)
      · exact .inr (.inl hk)
      · exact .inr (.inr (.inl hk))
      · exact .inl rfl
      · exact .inr (.inr (.inr ⟨t, hk⟩))
    refine (Finset.card_le_card hsub).trans ?_
    rcases hissuable.room with htracked | hroom
    · rw [Finset.insert_eq_self.mpr (tracksTarget_eq_true.mp htracked)]
      exact h.capacity
    · exact (Finset.card_insert_le _ _).trans hroom

lemma queued (h : Coherent c) {p : PreparedScenarioAction}
    (hfree : c.preparedTargets[p.target]? = none) (hadm : c.Admissible p.target p.action)
    (hroom : (c.queued p).trackedTargetCount ≤ maxScenarioTargets) : Coherent (c.queued p) where
  catalog := h.catalog
  inverse := h.inverse
  exclusive := by
    intro k t hk
    have hne : k ≠ p.target := by
      rintro rfl
      cases hfree.symm.trans hk
    rw [Option.eq_none_iff_forall_ne_some]
    intro q hq
    rcases queued_pending.mp hq with ⟨rfl, -⟩ | ⟨-, hq⟩
    · exact hne rfl
    · cases hq.symm.trans (h.exclusive k t hk)
  prepared := h.prepared
  pending := by
    intro k q hq
    rcases queued_pending.mp hq with ⟨rfl, rfl⟩ | ⟨-, hq⟩
    · exact hadm
    · exact h.pending k q hq
  active := h.active
  tokens := h.tokens
  nextToken := h.nextToken
  capacity := hroom

/-- After a live token is consumed, the checks of `confirm` all pass. -/
lemma confirmable (h : Coherent c) {token : ActivationToken} {p : PreparedScenarioAction}
    (hp : c.prepared[token]? = some p) (now : Instant) :
    ((c.consumed token p).discarded now).confirmable p.target p.action = .ok () := by
  have hpending : ((c.consumed token p).discarded now).pending[p.target]? = none :=
    h.exclusive _ _ (h.target_prepared hp)
  have hadm : ((c.consumed token p).discarded now).Admissible p.target p.action :=
    h.prepared token p hp
  cases ha : p.action with
  | activate scenario =>
    rw [ha] at hadm
    simp only [ScenarioController.confirmable, contains_eq_false.mpr hpending,
      contains_eq_false.mpr hadm.1, Bool.or_self, Bool.false_eq_true, if_false]
  | clear =>
    rw [ha] at hadm
    simp only [ScenarioController.confirmable, contains_eq_false.mpr hpending,
      requireSustained_eq_ok.mpr hadm, Bool.false_eq_true, if_false]

lemma confirmed (h : Coherent c) {token : ActivationToken} {p : PreparedScenarioAction}
    (hp : c.prepared[token]? = some p) (now : Instant) :
    Coherent (((c.consumed token p).discarded now).queued p) := by
  have hd : Coherent ((c.consumed token p).discarded now) := (h.consumed hp).discarded now
  refine hd.queued ?_ (h.prepared token p hp) ((trackedTargetCount_le fun k => ?_).trans h.capacity)
  · rw [Option.eq_none_iff_forall_ne_some]
    intro t ht
    exact (consumed_preparedTargets.mp ((discarded_preparedTargets _ _).mp ht).1).1 rfl
  · simp only [mem_trackedTargets, Option.isSome_iff_exists]
    -- the target that becomes pending was tracked as a prepared one
    rintro (hk | ⟨q, hq⟩ | ⟨t, ht⟩)
    · exact .inl hk
    · rcases queued_pending.mp hq with ⟨rfl, -⟩ | ⟨-, hq⟩
      · exact .inr (.inr ⟨token, h.target_prepared hp⟩)
      · exact .inr (.inl ⟨q, hq⟩)
    · refine .inr (.inr ⟨t, ?_⟩)
      exact (consumed_preparedTargets.mp ((discarded_preparedTargets _ _).mp ht).1).2

/-! ### Boundaries keep it -/

lemma crossed (h : Coherent c) {n : Nat} {active : ExtTreeMap ScenarioTarget ActiveScenarioAction}
    (hout : c.Outlives n active) : Coherent (c.crossed n active) where
  catalog := h.catalog
  inverse := h.inverse
  exclusive := by simp [ScenarioController.crossed, applyPending]
  prepared := by
    intro token p hp
    have hp : c.prepared[token]? = some p := hp
    have hpending := h.exclusive _ _ (h.target_prepared hp)
    have hadm := h.prepared token p hp
    cases ha : p.action with
    | activate scenario =>
      rw [ha] at hadm
      refine ⟨?_, hadm.2⟩
      rw [Option.eq_none_iff_forall_ne_some]
      intro a hactive
      rcases activated_or_active (hout.getElem?.mp hactive).1 with
        ⟨q, -, hq, -⟩ | ⟨-, hq⟩
      · cases hq.symm.trans hpending
      · cases hq.symm.trans hadm.1
    | clear =>
      rw [ha] at hadm
      obtain ⟨a, hactive, hsus⟩ := hadm
      refine ⟨a, hout.getElem?.mpr ⟨?_, remainsActive_of_sustained hsus⟩, hsus⟩
      rw [applyPending_active, hpending]
      exact hactive
  pending := by simp [ScenarioController.crossed, applyPending]
  active := by
    intro target a ha
    rcases activated_or_active (hout.getElem?.mp ha).1 with
      ⟨p, scenario, hp, hact, rfl⟩ | ⟨-, ha⟩
    · have hadm := h.pending target p hp
      rw [hact] at hadm
      exact hadm.2
    · exact h.active target a ha
  tokens := h.tokens
  nextToken := h.nextToken
  capacity := by
    refine (trackedTargetCount_le fun k => ?_).trans h.capacity
    simp only [mem_trackedTargets, Option.isSome_iff_exists]
    rintro (⟨a, ha⟩ | ⟨p, hp⟩ | hk)
    · rcases activated_or_active (hout.getElem?.mp ha).1 with ⟨p, -, hp, -⟩ | ⟨-, ha⟩
      · exact .inr (.inl ⟨p, hp⟩)
      · exact .inl ⟨a, ha⟩
    · simp [ScenarioController.crossed, applyPending] at hp
    · exact .inr (.inr hk)

end Coherent

/-! ### One operation -/

/-- What one operation of a coherent controller answers and leaves behind. -/
inductive Effect (c : ScenarioController) :
    ControllerInput → ControllerOutput → ScenarioController → Prop where
  /-- Refused, nothing touched. -/
  | refused {i : ControllerInput} {o : ControllerOutput} (rejected : o.rejected = true) :
    Effect c i o c
  /-- Refused after the expired preparations went. -/
  | discarded {i : ControllerInput} {o : ControllerOutput} {now : Instant}
      (time : i.time = some now) (rejected : o.rejected = true) : Effect c i o (c.discarded now)
  | snapshot {now : Instant} :
    Effect c (.snapshot now)
      (.snapshot { currentSampleIndex := c.currentSampleIndex,
                   prepared := (c.discarded now).preparedActionsAt now,
                   pending := c.pendingActions, active := c.activeScenarios })
      (c.discarded now)
  | issued {i : ControllerInput} {target : ScenarioTarget} {action : StoredScenarioAction}
      {actorLabel : Option String} {now : Instant} {permits : Bool}
      (request : i.request = some (target, action.snapshot, now)) (time : i.time = some now)
      (issuable : (c.discarded now).Issuable target permits)
      (admissible : c.Admissible target action) :
    Effect c i
      (.prepared (.ok (PreparedScenarioAction.snapshot
        { target, action, actorLabel, expiresAt := now + activationTokenTtl } ⟨c.nextToken⟩ now)))
      ((c.discarded now).issued target action actorLabel (now + activationTokenTtl))
  /-- A token past its deadline is consumed and the caller refused. -/
  | late {i : ControllerInput} {o : ControllerOutput} {token : ActivationToken}
      {p : PreparedScenarioAction} {now : Instant} (time : i.time = some now)
      (prepared : c.prepared[token]? = some p) (late : p.expiresAt ≤ now)
      (rejected : o.rejected = true) : Effect c i o (c.consumed token p)
  | confirmed {token : ActivationToken} {p : PreparedScenarioAction} {now : Instant}
      (prepared : c.prepared[token]? = some p) (live : now < p.expiresAt) :
    Effect c (.confirm token now)
      (.confirmed (.ok { target := p.target, action := p.action.snapshot,
                         actorLabel := p.actorLabel }))
      (((c.consumed token p).discarded now).queued p)
  | cancelled {token : ActivationToken} {p : PreparedScenarioAction} {now : Instant}
      (prepared : c.prepared[token]? = some p) (live : now < p.expiresAt) :
    Effect c (.cancel token now) (.cancelled (.ok (p.snapshot token now)))
      ((c.consumed token p).discarded now)
  | crossed {n : Nat} {active : ExtTreeMap ScenarioTarget ActiveScenarioAction}
      (later : ∀ previous, c.currentSampleIndex = some previous → previous < n)
      (outlives : c.Outlives n active) :
    Effect c (.advanceBoundary n) (.boundary (.ok ())) (c.crossed n active)

variable {c c' : ScenarioController} {i : ControllerInput} {o : ControllerOutput}

lemma Effect.coherent (he : Effect c i o c') (h : Coherent c) : Coherent c' := by
  cases he with
  | refused => exact h
  | discarded => exact h.discarded _
  | snapshot => exact h.discarded _
  | issued _ _ issuable admissible => exact (h.discarded _).issued issuable admissible _ _
  | late _ prepared => exact h.consumed prepared
  | confirmed prepared => exact h.confirmed prepared _
  | cancelled prepared => exact (h.consumed prepared).discarded _
  | crossed _ outlives => exact h.crossed outlives

lemma effect_prepareActivation {target : ScenarioTarget} {scenarioName : String}
    {actorLabel : Option String} {now : Instant}
    {r : Except ScenarioControllerError PreparedScenarioSnapshot} (h : Coherent c)
    (hrev : c.revision ≤ u64Max)
    (hs : c.prepareActivation target scenarioName actorLabel now = .ok (r, c')) :
    Effect c (.prepareActivation target scenarioName actorLabel now) (.prepared r) c' ∧
      c'.revision ≤ u64Max := by
  unfold prepareActivation at hs
  cases hv : c.validateActivation target scenarioName actorLabel with
  | error e =>
    simp only [hv] at hs
    obtain ⟨rfl, rfl⟩ := ok_pair_eq.mp hs
    exact ⟨.refused rfl, hrev⟩
  | ok scenario =>
    simp only [hv] at hs
    obtain ⟨hfound, hkind⟩ := validateActivation_ok hv
    have hname : scenario.name = scenarioName := by
      simpa using List.find?_some hfound
    obtain ⟨hd, ⟨e, rfl, rfl⟩ | ⟨hissuable, hfit, rfl, rfl⟩⟩ := prepareAction_ok hrev hs
    · exact ⟨.discarded rfl rfl, hd⟩
    · refine ⟨.issued ?_ rfl hissuable ⟨hissuable.idle rfl, hname ▸ hfound, hkind⟩, hfit⟩
      simp [ControllerInput.request, StoredScenarioAction.snapshot, hname]

lemma effect_prepareClear {target : ScenarioTarget} {actorLabel : Option String} {now : Instant}
    {r : Except ScenarioControllerError PreparedScenarioSnapshot}
    (hrev : c.revision ≤ u64Max) (hs : c.prepareClear target actorLabel now = .ok (r, c')) :
    Effect c (.prepareClear target actorLabel now) (.prepared r) c' ∧ c'.revision ≤ u64Max := by
  rcases prepareClear_ok hrev hs with ⟨e, rfl, rfl⟩ | ⟨hd, ⟨e, rfl, rfl⟩ | ⟨hsus, hs⟩⟩
  · exact ⟨.refused rfl, hrev⟩
  · exact ⟨.discarded rfl rfl, hd⟩
  · have hs := prepareAction_ok hd hs
    rw [discarded_discarded] at hs
    obtain ⟨hd, ⟨e, rfl, rfl⟩ | ⟨hissuable, hfit, rfl, rfl⟩⟩ := hs
    · exact ⟨.discarded rfl rfl, hd⟩
    · exact ⟨.issued rfl rfl hissuable (requireSustained_eq_ok.mp hsus), hfit⟩

lemma effect_confirm {token : ActivationToken} {now : Instant}
    {r : Except ScenarioControllerError PendingScenarioSnapshot} (h : Coherent c)
    (hrev : c.revision ≤ u64Max) (hs : c.confirm token now = .ok (r, c')) :
    Effect c (.confirm token now) (.confirmed r) c' ∧ c'.revision ≤ u64Max := by
  cases hp : c.prepared[token]? with
  | none =>
    rw [confirm_of_none hp] at hs
    obtain ⟨rfl, rfl⟩ := ok_pair_eq.mp hs
    exact ⟨.refused rfl, hrev⟩
  | some p =>
    rcases Nat.lt_or_ge now p.expiresAt with hlive | hlate
    · rw [confirm_of_live hp hlive, h.confirmable hp] at hs
      split_ifs at hs with hcost
      obtain ⟨rfl, rfl⟩ := ok_pair_eq.mp hs
      exact ⟨.confirmed hp hlive, by simpa [consumptionCost, Nat.add_assoc, queued] using hcost⟩
    · rw [confirm_of_late hp hlate] at hs
      split_ifs at hs with hcost
      obtain ⟨rfl, rfl⟩ := ok_pair_eq.mp hs
      exact ⟨.late rfl hp hlate rfl, hcost⟩

lemma effect_cancel {token : ActivationToken} {now : Instant}
    {r : Except ScenarioControllerError PreparedScenarioSnapshot}
    (hrev : c.revision ≤ u64Max) (hs : c.cancel token now = .ok (r, c')) :
    Effect c (.cancel token now) (.cancelled r) c' ∧ c'.revision ≤ u64Max := by
  cases hp : c.prepared[token]? with
  | none =>
    rw [cancel_of_none hp] at hs
    obtain ⟨rfl, rfl⟩ := ok_pair_eq.mp hs
    exact ⟨.refused rfl, hrev⟩
  | some p =>
    rcases Nat.lt_or_ge now p.expiresAt with hlive | hlate
    · rw [cancel_of_live hp hlive] at hs
      split_ifs at hs with hcost
      obtain ⟨rfl, rfl⟩ := ok_pair_eq.mp hs
      exact ⟨.cancelled hp hlive, by simpa [consumptionCost, Nat.add_assoc] using hcost⟩
    · rw [cancel_of_late hp hlate] at hs
      split_ifs at hs with hcost
      obtain ⟨rfl, rfl⟩ := ok_pair_eq.mp hs
      exact ⟨.late rfl hp hlate rfl, hcost⟩

/-- Every operation of a coherent controller has one of the effects listed. -/
theorem Coherent.effect (h : Coherent c) (hrev : c.revision ≤ u64Max)
    (hs : controllerMachine.step c i = .ok (o, c')) : Effect c i o c' ∧ c'.revision ≤ u64Max := by
  cases i with
  | prepareActivation target scenarioName actorLabel now =>
    obtain ⟨⟨r, d⟩, hs, heq⟩ := bind_eq_ok.mp hs
    obtain ⟨rfl, rfl⟩ := ok_pair_eq.mp heq
    exact effect_prepareActivation h hrev hs
  | prepareClear target actorLabel now =>
    obtain ⟨⟨r, d⟩, hs, heq⟩ := bind_eq_ok.mp hs
    obtain ⟨rfl, rfl⟩ := ok_pair_eq.mp heq
    exact effect_prepareClear hrev hs
  | confirm token now =>
    obtain ⟨⟨r, d⟩, hs, heq⟩ := bind_eq_ok.mp hs
    obtain ⟨rfl, rfl⟩ := ok_pair_eq.mp heq
    exact effect_confirm h hrev hs
  | cancel token now =>
    obtain ⟨⟨r, d⟩, hs, heq⟩ := bind_eq_ok.mp hs
    obtain ⟨rfl, rfl⟩ := ok_pair_eq.mp heq
    exact effect_cancel hrev hs
  | advanceBoundary n =>
    obtain ⟨⟨r, d⟩, hs, heq⟩ := bind_eq_ok.mp hs
    obtain ⟨rfl, rfl⟩ := ok_pair_eq.mp heq
    rcases advanceBoundary_ok hrev hs with
      ⟨previous, -, -, rfl, rfl⟩ | ⟨hlater, rfl, active, hout, rfl, hfit⟩
    · exact ⟨.refused rfl, hrev⟩
    · exact ⟨.crossed hlater hout, hfit⟩
  | snapshot now =>
    obtain ⟨⟨s, d⟩, hs, heq⟩ := bind_eq_ok.mp hs
    obtain ⟨rfl, rfl⟩ := ok_pair_eq.mp heq
    obtain ⟨d, hd, heq⟩ := bind_eq_ok.mp hs
    obtain ⟨hcost, rfl⟩ := (discardExpiredPreparations_eq_ok hrev).mp hd
    obtain ⟨rfl, rfl⟩ := ok_pair_eq.mp heq
    exact ⟨.snapshot, hcost⟩

/-! ### Every run -/

section Runs

variable {raw : RawScenarioCatalog} {catalog : ScenarioCatalog}
  {h : List (Machine.Taken ScenarioController ControllerInput ControllerOutput)}

lemma coherent_of_run (hc : compileCatalog raw = .ok catalog)
    (run : controllerMachine.Run (.new catalog) h c) : Coherent c ∧ c.revision ≤ u64Max :=
  run.invariant (P := fun c => Coherent c ∧ c.revision ≤ u64Max)
    ⟨.new (compileCatalog_wellFormed hc), Nat.zero_le _⟩ fun ⟨hcoh, hrev⟩ hs =>
      ⟨(hcoh.effect hrev hs).1.coherent hcoh, (hcoh.effect hrev hs).2⟩

lemma Effect.nextToken_le (he : Effect c i o c') : c.nextToken ≤ c'.nextToken := by
  cases he <;> first | exact Nat.le_refl _ | exact Nat.le_succ _

/-- The token an operation hands out is the controller's next one. -/
lemma Effect.issued_lt (he : Effect c i o c') {s : PreparedScenarioSnapshot}
    (ho : o = .prepared (.ok s)) : s.token.value < c'.nextToken := by
  cases he with
  | issued =>
    obtain rfl := Except.ok.inj (ControllerOutput.prepared.inj ho)
    exact Nat.lt_succ_self _
  | refused rejected => simp [ho, ControllerOutput.rejected] at rejected
  | discarded _ rejected => simp [ho, ControllerOutput.rejected] at rejected
  | late _ _ _ rejected => simp [ho, ControllerOutput.rejected] at rejected
  | snapshot => cases ho
  | confirmed => cases ho
  | cancelled => cases ho
  | crossed => cases ho

lemma issued_lt_of_run (hc : compileCatalog raw = .ok catalog)
    (run : controllerMachine.Run (.new catalog) h c) :
    ∀ x ∈ h, ∀ s, x.output = .prepared (.ok s) → s.token.value < c.nextToken := by
  refine run.history (P := fun h c => ∀ x ∈ h, ∀ s, x.output = .prepared (.ok s) →
    s.token.value < c.nextToken) (by simp) ?_
  intro h r e o r' hr ih hs x hx s hout
  obtain ⟨hcoh, hrev⟩ := coherent_of_run hc hr
  have he := (hcoh.effect hrev hs).1
  rcases List.mem_append.mp hx with hx | hx
  · exact (ih x hx s hout).trans_le he.nextToken_le
  · obtain rfl := List.mem_singleton.mp hx
    exact he.issued_lt hout

/-- When the loop of `advance_boundary` comes to a pending action, the active map still has at its
target what it had before the loop, and that is what the action needs. -/
lemma Coherent.meets (h : Coherent c) (n : Nat)
    {pre post : List (ScenarioTarget × PendingScenarioAction)} {target : ScenarioTarget}
    {p : PendingScenarioAction} (hsplit : c.pending.toList = pre ++ (target, p) :: post) :
    { c with active := OrderedMap.overwrite (PendingScenarioAction.activated n) c.active pre }.Admissible
      target p.action := by
  have hnd := OrderedMap.nodup_keys_toList c.pending
  rw [hsplit, List.map_append, List.map_cons] at hnd
  have hpre : target ∉ pre.map Prod.fst :=
    fun hmem => (List.nodup_append.mp hnd).2.2 _ hmem _ (by simp) rfl
  have hp : c.pending[target]? = some p :=
    ExtTreeMap.mem_toList_iff_getElem?_eq_some.mp (by simp [hsplit])
  have hkeep := OrderedMap.getElem?_overwrite_of_notMem (PendingScenarioAction.activated n) c.active hpre
  have hadm := h.pending target p hp
  cases ha : p.action <;> simpa only [ha, Admissible, hkeep] using hadm

/-- In every state of every run the controller is coherent and every token handed out is below the
next one; `confirm` of a live token succeeds unless the revision runs out, and no pending action
overwrites an active record or clears a missing one. -/
theorem controller_invariant (hc : compileCatalog raw = .ok catalog)
    (run : controllerMachine.Run (.new catalog) h c) :
    Coherent c ∧
      (∀ x ∈ h, ∀ s, x.output = .prepared (.ok s) → s.token.value < c.nextToken) ∧
      (∀ (token : ActivationToken) (p : PreparedScenarioAction) (now : Instant),
        c.prepared[token]? = some p → now < p.expiresAt →
          c.confirm token now = if c.revision + c.consumptionCost token p now ≤ u64Max then
            .ok (.ok { target := p.target, action := p.action.snapshot,
                       actorLabel := p.actorLabel },
              ((c.consumed token p).discarded now).queued p)
            else .error revisionExhausted) ∧
      ∀ (n : Nat) (pre post : List (ScenarioTarget × PendingScenarioAction))
        (target : ScenarioTarget) (p : PendingScenarioAction),
        c.pending.toList = pre ++ (target, p) :: post →
          { c with active :=
              OrderedMap.overwrite (PendingScenarioAction.activated n) c.active pre }.Admissible
            target p.action := by
  obtain ⟨hcoh, hrev⟩ := coherent_of_run hc run
  refine ⟨hcoh, issued_lt_of_run hc run, fun token p now hp hlive => ?_, fun n pre post target p =>
    hcoh.meets n⟩
  rw [confirm_of_live hp hlive, hcoh.confirmable hp]

theorem controller_invariant_small : ∃ h c,
    controllerMachine.Run (.new smallCatalog) h c ∧ Coherent c ∧
      ∃ p, c.prepared[(⟨1⟩ : ActivationToken)]? = some p ∧
        ∃ s c', c.confirm ⟨1⟩ 59999999999 = .ok (.ok s, c') := by
  have run : controllerMachine.Run (.new smallCatalog) _ _ :=
    Machine.Run.nil.snoc (e := .prepareActivation (.endpoint 7) "holdover" none 0) rfl
  obtain ⟨hcoh, -, hconfirm, -⟩ := controller_invariant compileCatalog_small run
  exact ⟨_, _, run, hcoh, _, rfl, _, _, hconfirm ⟨1⟩ _ 59999999999 rfl (by decide)⟩

end Runs

end ScenarioController

end PmuSimulator

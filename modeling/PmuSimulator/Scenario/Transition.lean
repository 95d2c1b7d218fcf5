import Mathlib
import PmuSimulator.Scenario.Controller

/-!
# What each operation does to the controller

The operations are built from four changes of state: the expired preparations go, one preparation
is issued, one is consumed, the pending actions are applied. Each is a function here, with its
lookups, and each operation is described once in these terms; nothing later unfolds an operation.
-/

open Std (ExtTreeMap)

namespace PmuSimulator

namespace ScenarioController

lemma bumpRevision_eq_ok {c c' : ScenarioController} :
    c.bumpRevision = .ok c' ↔ c.revision + 1 ≤ u64Max ∧ c' = { c with revision := c.revision + 1 } := by
  unfold bumpRevision checkedAdd
  split_ifs with h
  · simp [h, eq_comm]
  · simp [h]

lemma bumpRevision_of_le {c : ScenarioController} (h : c.revision + 1 ≤ u64Max) :
    c.bumpRevision = .ok { c with revision := c.revision + 1 } :=
  bumpRevision_eq_ok.mpr ⟨h, rfl⟩

lemma bumpRevision_of_lt {c : ScenarioController} (h : u64Max < c.revision + 1) :
    c.bumpRevision = .error revisionExhausted := by
  simp [bumpRevision, checkedAdd, Nat.not_le.mpr h]

lemma bumpRevision_error {c : ScenarioController} {f : Failure} (h : c.bumpRevision = .error f) :
    f = revisionExhausted := by
  rcases Nat.lt_or_ge u64Max (c.revision + 1) with hover | hfit
  · rw [bumpRevision_of_lt hover] at h
    exact (Except.error.inj h).symm
  · rw [bumpRevision_of_le hfit] at h
    cases h

/-! ### Expiry of preparations -/

/-- The preparations that have expired by `now`. -/
def expiredEntries (c : ScenarioController) (now : Instant) :
    List (ActivationToken × PreparedScenarioAction) :=
  c.prepared.toList.filter fun e => e.2.expiresAt ≤ now

/-- The controller without some of its preparations, each of them a change of revision. -/
def without (c : ScenarioController) (entries : List (ActivationToken × PreparedScenarioAction)) :
    ScenarioController :=
  { c with
    prepared := OrderedMap.eraseAll c.prepared (entries.map Prod.fst)
    preparedTargets := OrderedMap.eraseAll c.preparedTargets (entries.map fun e => e.2.target)
    revision := c.revision + entries.length }

/-- The controller `discard_expired_preparations` leaves. -/
def discarded (c : ScenarioController) (now : Instant) : ScenarioController :=
  c.without (c.expiredEntries now)

lemma expiredTokens_eq (c : ScenarioController) (now : Instant) :
    c.expiredTokens now = (c.expiredEntries now).map Prod.fst := by
  simp only [expiredTokens, expiredEntries]
  induction c.prepared.toList with
  | nil => rfl
  | cons e es ih =>
    by_cases h : e.2.expiresAt ≤ now
    · simp [h, ih]
    · simp [h, ih]

lemma mem_expiredEntries {c : ScenarioController} {now : Instant} {token : ActivationToken}
    {p : PreparedScenarioAction} :
    (token, p) ∈ c.expiredEntries now ↔ c.prepared[token]? = some p ∧ p.expiresAt ≤ now := by
  simp only [expiredEntries, List.mem_filter, ExtTreeMap.mem_toList_iff_getElem?_eq_some,
    decide_eq_true_eq]

lemma nodup_expiredEntries (c : ScenarioController) (now : Instant) :
    ((c.expiredEntries now).map Prod.fst).Nodup :=
  (OrderedMap.nodup_keys_toList c.prepared).sublist (List.filter_sublist.map _)

lemma discardPreparation_of_some {c : ScenarioController} {token : ActivationToken}
    {p : PreparedScenarioAction} (hp : c.prepared[token]? = some p) :
    c.discardPreparation token = (c.removePreparation token p).bumpRevision := by
  simp [discardPreparation, hp]

/-- The loop of `discard_expired_preparations`, over any preparations the controller holds. -/
lemma discardPreparations_eq {entries : List (ActivationToken × PreparedScenarioAction)}
    {c : ScenarioController} (hnd : (entries.map Prod.fst).Nodup)
    (hmem : ∀ e ∈ entries, c.prepared[e.1]? = some e.2) (hrev : c.revision ≤ u64Max) :
    (entries.map Prod.fst).foldlM discardPreparation c =
      if c.revision + entries.length ≤ u64Max then .ok (c.without entries)
      else .error revisionExhausted := by
  induction entries generalizing c with
  | nil => simp [without, OrderedMap.eraseAll, hrev, pure, Except.pure]
  | cons e es ih =>
    simp only [List.map_cons, List.nodup_cons] at hnd
    rw [List.map_cons, List.foldlM_cons, discardPreparation_of_some (hmem e (by simp))]
    rcases Nat.lt_or_ge u64Max (c.revision + 1) with hover | hfit
    · rw [bumpRevision_of_lt (c := c.removePreparation e.1 e.2) hover,
        if_neg (by simp only [List.length_cons]; omega)]
      rfl
    · rw [bumpRevision_of_le (c := c.removePreparation e.1 e.2) hfit]
      have hrest : ∀ e' ∈ es, (c.prepared.erase e.1)[e'.1]? = some e'.2 := by
        intro e' he'
        rw [OrderedMap.getElem?_erase, if_neg]
        · exact hmem e' (by simp [he'])
        · intro h
          exact hnd.1 (h ▸ List.mem_map_of_mem he')
      refine (ih (c := { c.removePreparation e.1 e.2 with revision := c.revision + 1 })
        hnd.2 hrest hfit).trans ?_
      simp only [List.length_cons, Nat.add_assoc, Nat.add_comm 1]
      congr 1
      simp only [without, removePreparation, OrderedMap.eraseAll, List.map_cons, List.foldl_cons,
        List.length_cons, Nat.add_assoc, Nat.add_comm 1]

/-- `discard_expired_preparations` in closed form: only the revision can stop it. -/
theorem discardExpiredPreparations_eq {c : ScenarioController} (hrev : c.revision ≤ u64Max)
    (now : Instant) :
    c.discardExpiredPreparations now =
      if c.revision + (c.expiredEntries now).length ≤ u64Max then .ok (c.discarded now)
      else .error revisionExhausted := by
  rw [discardExpiredPreparations, expiredTokens_eq]
  exact discardPreparations_eq (nodup_expiredEntries c now)
    (fun e he => (mem_expiredEntries.mp he).1) hrev

lemma discardExpiredPreparations_eq_ok {c c' : ScenarioController} (hrev : c.revision ≤ u64Max)
    {now : Instant} :
    c.discardExpiredPreparations now = .ok c' ↔
      c.revision + (c.expiredEntries now).length ≤ u64Max ∧ c' = c.discarded now := by
  rw [discardExpiredPreparations_eq hrev]
  split_ifs with h
  · simp [h, eq_comm]
  · simp [h]

section Discarded

variable (c : ScenarioController) (now : Instant)

@[simp] lemma discarded_catalog : (c.discarded now).catalog = c.catalog := rfl
@[simp] lemma discarded_pending : (c.discarded now).pending = c.pending := rfl
@[simp] lemma discarded_active : (c.discarded now).active = c.active := rfl
@[simp] lemma discarded_nextToken : (c.discarded now).nextToken = c.nextToken := rfl
@[simp] lemma discarded_currentSampleIndex :
    (c.discarded now).currentSampleIndex = c.currentSampleIndex := rfl
@[simp] lemma discarded_revision :
    (c.discarded now).revision = c.revision + (c.expiredEntries now).length := rfl

/-- Exactly the preparations that have not expired stay. -/
lemma discarded_prepared {token : ActivationToken} {p : PreparedScenarioAction} :
    (c.discarded now).prepared[token]? = some p ↔
      c.prepared[token]? = some p ∧ now < p.expiresAt := by
  simp only [discarded, without, OrderedMap.getElem?_eraseAll]
  split_ifs with h
  · obtain ⟨⟨token, q⟩, hq, rfl⟩ := List.mem_map.mp h
    obtain ⟨hq, hlate⟩ := mem_expiredEntries.mp hq
    simp only [hq, Option.some.injEq, false_iff, not_and, Nat.not_lt]
    rintro rfl
    exact hlate
  · refine ⟨fun hp => ⟨hp, ?_⟩, And.left⟩
    by_contra hlate
    exact h (List.mem_map.mpr ⟨(token, p), mem_expiredEntries.mpr ⟨hp, Nat.not_lt.mp hlate⟩, rfl⟩)

lemma discarded_preparedTargets {target : ScenarioTarget} {token : ActivationToken} :
    (c.discarded now).preparedTargets[target]? = some token ↔
      c.preparedTargets[target]? = some token ∧
        ∀ (t : ActivationToken) (p : PreparedScenarioAction), c.prepared[t]? = some p →
          p.expiresAt ≤ now → p.target ≠ target := by
  simp only [discarded, without, OrderedMap.getElem?_eraseAll]
  split_ifs with h
  · obtain ⟨⟨t, p⟩, hp, rfl⟩ := List.mem_map.mp h
    obtain ⟨hp, hlate⟩ := mem_expiredEntries.mp hp
    simp only [false_iff, not_and, not_forall]
    exact fun _ => ⟨t, p, hp, hlate, fun h => h rfl⟩
  · refine ⟨fun ht => ⟨ht, fun t p hp hlate htarget => h ?_⟩, And.left⟩
    exact List.mem_map.mpr ⟨(t, p), mem_expiredEntries.mpr ⟨hp, hlate⟩, htarget⟩

end Discarded

lemma expiredEntries_discarded (c : ScenarioController) (now : Instant) :
    (c.discarded now).expiredEntries now = [] := by
  rw [List.eq_nil_iff_forall_not_mem]
  rintro ⟨token, p⟩ hp
  obtain ⟨hp, hlate⟩ := mem_expiredEntries.mp hp
  exact Nat.not_lt.mpr hlate ((discarded_prepared c now).mp hp).2

/-- Discarding twice at one time is discarding once. -/
lemma discarded_discarded (c : ScenarioController) (now : Instant) :
    (c.discarded now).discarded now = c.discarded now := by
  rw [discarded, expiredEntries_discarded]
  rfl

/-! ### Issuing, consuming and queueing -/

/-- The controller after a preparation was stored. -/
def issued (c : ScenarioController) (target : ScenarioTarget) (action : StoredScenarioAction)
    (actorLabel : Option String) (expiresAt : Instant) : ScenarioController :=
  { c.issue target action actorLabel expiresAt (c.nextToken + 1) with revision := c.revision + 1 }

/-- The controller after a preparation was taken out by `confirm` or `cancel`. -/
def consumed (c : ScenarioController) (token : ActivationToken) (p : PreparedScenarioAction) :
    ScenarioController :=
  { c.removePreparation token p with revision := c.revision + 1 }

/-- The controller after `confirm` queued a preparation for the next boundary. -/
def queued (c : ScenarioController) (p : PreparedScenarioAction) : ScenarioController :=
  { c with
    pending := c.pending.insert p.target { action := p.action, actorLabel := p.actorLabel } }

section Lookups

variable {c : ScenarioController}

lemma consumed_prepared {token t : ActivationToken} {p q : PreparedScenarioAction} :
    (c.consumed token p).prepared[t]? = some q ↔ t ≠ token ∧ c.prepared[t]? = some q := by
  simp only [consumed, removePreparation, OrderedMap.getElem?_erase]
  split_ifs with h
  · simp [h]
  · simp [Ne.symm h]

lemma consumed_preparedTargets {token t : ActivationToken} {p : PreparedScenarioAction}
    {target : ScenarioTarget} :
    (c.consumed token p).preparedTargets[target]? = some t ↔
      target ≠ p.target ∧ c.preparedTargets[target]? = some t := by
  simp only [consumed, removePreparation, OrderedMap.getElem?_erase]
  split_ifs with h
  · simp [h]
  · simp [Ne.symm h]

lemma issued_prepared {target : ScenarioTarget} {action : StoredScenarioAction}
    {actorLabel : Option String} {expiresAt : Instant} {t : ActivationToken}
    {q : PreparedScenarioAction} :
    (c.issued target action actorLabel expiresAt).prepared[t]? = some q ↔
      t = ⟨c.nextToken⟩ ∧ q = ⟨target, action, actorLabel, expiresAt⟩ ∨
        t ≠ ⟨c.nextToken⟩ ∧ c.prepared[t]? = some q := by
  simp only [issued, issue, OrderedMap.getElem?_insert]
  split_ifs with h
  · simp [h, eq_comm]
  · simp [Ne.symm h]

lemma issued_preparedTargets {target k : ScenarioTarget} {action : StoredScenarioAction}
    {actorLabel : Option String} {expiresAt : Instant} {t : ActivationToken} :
    (c.issued target action actorLabel expiresAt).preparedTargets[k]? = some t ↔
      k = target ∧ t = ⟨c.nextToken⟩ ∨ k ≠ target ∧ c.preparedTargets[k]? = some t := by
  simp only [issued, issue, OrderedMap.getElem?_insert]
  split_ifs with h
  · simp [h, eq_comm]
  · simp [Ne.symm h]

lemma queued_pending {p : PreparedScenarioAction} {target : ScenarioTarget}
    {q : PendingScenarioAction} :
    (c.queued p).pending[target]? = some q ↔
      target = p.target ∧ q = ⟨p.action, p.actorLabel⟩ ∨
        target ≠ p.target ∧ c.pending[target]? = some q := by
  simp only [queued, OrderedMap.getElem?_insert]
  split_ifs with h
  · simp [h, eq_comm]
  · simp [Ne.symm h]

end Lookups

/-- What `prepare_action` checks of a controller that holds no expired preparation. -/
structure Issuable (c : ScenarioController) (target : ScenarioTarget) (permitsActiveTarget : Bool) :
    Prop where
  unprepared : c.preparedTargets[target]? = none
  unqueued : c.pending[target]? = none
  idle : permitsActiveTarget = false → c.active[target]? = none
  room : c.tracksTarget target = true ∨ c.trackedTargetCount < maxScenarioTargets
  token : c.nextToken + 1 ≤ u64Max

lemma contains_eq_false {κ α : Type} [Ord κ] [Std.TransOrd κ] {m : ExtTreeMap κ α} {k : κ} :
    m.contains k = false ↔ m[k]? = none := by
  rw [ExtTreeMap.contains_eq_isSome_getElem?]
  cases m[k]? <;> simp

/-- `prepare_action` is refused, or issues the next token. -/
lemma prepareAction_ok {c c' : ScenarioController} {target : ScenarioTarget}
    {action : StoredScenarioAction} {actorLabel : Option String} {now : Instant}
    {permitsActiveTarget : Bool} {r : Except ScenarioControllerError PreparedScenarioSnapshot}
    (hrev : c.revision ≤ u64Max)
    (h : c.prepareAction target action actorLabel now permitsActiveTarget = .ok (r, c')) :
    (c.discarded now).revision ≤ u64Max ∧ ((∃ e, r = .error e ∧ c' = c.discarded now) ∨
      (c.discarded now).Issuable target permitsActiveTarget ∧
        (c.discarded now).revision + 1 ≤ u64Max ∧
        r = .ok (PreparedScenarioAction.snapshot
          { target, action, actorLabel, expiresAt := now + activationTokenTtl } ⟨c.nextToken⟩ now) ∧
        c' = (c.discarded now).issued target action actorLabel (now + activationTokenTtl)) := by
  obtain ⟨d, hd, h⟩ := bind_eq_ok.mp h
  obtain ⟨hcost, rfl⟩ := (discardExpiredPreparations_eq_ok hrev).mp hd
  refine ⟨hcost, ?_⟩
  split_ifs at h with hbusy hfull
  · exact .inl ⟨_, ok_pair_eq.mp h⟩
  · exact .inl ⟨_, ok_pair_eq.mp h⟩
  · split at h
    · exact .inl ⟨_, ok_pair_eq.mp h⟩
    · exact .inl ⟨_, ok_pair_eq.mp h⟩
    · rename_i expiresAt nextToken hexpires hnext
      obtain ⟨c₁, hc₁, h⟩ := bind_eq_ok.mp h
      obtain ⟨hfit, rfl⟩ := bumpRevision_eq_ok.mp hc₁
      obtain ⟨htoken, rfl⟩ := checkedAdd_eq_some.mp hnext
      obtain rfl : expiresAt = now + activationTokenTtl := by
        unfold Instant.checkedAdd at hexpires
        split_ifs at hexpires with hle
        exact (Option.some.inj hexpires).symm
      simp only [Bool.or_eq_true, Bool.and_eq_true, Bool.not_eq_true', not_or, not_and,
        Bool.not_eq_true, decide_eq_true_eq, ge_iff_le, Nat.not_le, contains_eq_false] at hbusy hfull
      refine .inr ⟨⟨hbusy.1.1, hbusy.1.2, fun hp => hbusy.2 hp, ?_, htoken⟩, hfit,
        ok_pair_eq.mp h⟩
      cases htracks : (c.discarded now).tracksTarget target with
      | true => exact .inl rfl
      | false => exact .inr (hfull htracks)

/-- A catalog scenario fit for the target is what a valid activation names. -/
lemma validateActivation_ok {c : ScenarioController} {target : ScenarioTarget}
    {scenarioName : String} {actorLabel : Option String} {scenario : ScenarioDefinition}
    (h : c.validateActivation target scenarioName actorLabel = .ok scenario) :
    c.catalog.scenario scenarioName = some scenario ∧ scenario.kind.compatible target = true := by
  obtain ⟨_, -, h⟩ := bind_eq_ok.mp h
  obtain ⟨_, -, h⟩ := bind_eq_ok.mp h
  obtain ⟨_, -, h⟩ := bind_eq_ok.mp h
  cases hs : c.catalog.scenario scenarioName with
  | none => simp [hs] at h
  | some found =>
    simp only [hs] at h
    obtain ⟨_, hv, h⟩ := bind_eq_ok.mp h
    obtain rfl := Except.ok.inj h
    unfold validateScenarioTarget at hv
    split_ifs at hv with hk
    exact ⟨rfl, hk⟩

lemma requireSustained_eq_ok {c : ScenarioController} {target : ScenarioTarget} :
    c.requireSustained target = .ok () ↔
      ∃ a, c.active[target]? = some a ∧ a.scenario.lifecycle = .sustained := by
  unfold requireSustained
  cases c.active[target]? with
  | none => simp
  | some a =>
    by_cases ha : a.scenario.lifecycle = .sustained <;> simp [ha]

lemma prepareClear_ok {c c' : ScenarioController} {target : ScenarioTarget}
    {actorLabel : Option String} {now : Instant}
    {r : Except ScenarioControllerError PreparedScenarioSnapshot} (hrev : c.revision ≤ u64Max)
    (h : c.prepareClear target actorLabel now = .ok (r, c')) :
    (∃ e, r = .error e ∧ c' = c) ∨
      (c.discarded now).revision ≤ u64Max ∧ ((∃ e, r = .error e ∧ c' = c.discarded now) ∨
        c.requireSustained target = .ok () ∧
          (c.discarded now).prepareAction target .clear actorLabel now true = .ok (r, c')) := by
  unfold prepareClear at h
  cases hv : validateClear target actorLabel with
  | error e =>
    simp only [hv] at h
    exact .inl ⟨e, ok_pair_eq.mp h⟩
  | ok u =>
    simp only [hv] at h
    obtain ⟨d, hd, h⟩ := bind_eq_ok.mp h
    obtain ⟨hcost, rfl⟩ := (discardExpiredPreparations_eq_ok hrev).mp hd
    refine .inr ⟨hcost, ?_⟩
    split_ifs at h with hbusy
    · exact .inl ⟨_, ok_pair_eq.mp h⟩
    · cases hs : (c.discarded now).requireSustained target with
      | error e =>
        simp only [hs] at h
        exact .inl ⟨e, ok_pair_eq.mp h⟩
      | ok u =>
        simp only [hs] at h
        exact .inr ⟨hs, h⟩

section Consumption

variable {c : ScenarioController} {token : ActivationToken} {p : PreparedScenarioAction}
  {now : Instant}

lemma confirm_of_none (hp : c.prepared[token]? = none) :
    c.confirm token now = .ok (.error (.unknownToken token), c) := by
  simp [confirm, hp]

lemma cancel_of_none (hp : c.prepared[token]? = none) :
    c.cancel token now = .ok (.error (.unknownToken token), c) := by
  simp [cancel, hp]

@[simp] lemma consumed_revision : (c.consumed token p).revision = c.revision + 1 := rfl

lemma bumpRevision_removePreparation :
    (c.removePreparation token p).bumpRevision =
      if c.revision + 1 ≤ u64Max then .ok (c.consumed token p) else .error revisionExhausted := by
  split_ifs with hrev
  · exact bumpRevision_of_le (c := c.removePreparation token p) hrev
  · exact bumpRevision_of_lt (c := c.removePreparation token p) (Nat.not_le.mp hrev)

/-- A token past its deadline is consumed all the same, if the revision allows. -/
lemma confirm_of_late (hp : c.prepared[token]? = some p) (hlate : p.expiresAt ≤ now) :
    c.confirm token now = if c.revision + 1 ≤ u64Max then
      .ok (.error (.expiredToken token), c.consumed token p) else .error revisionExhausted := by
  simp only [confirm, hp, bumpRevision_removePreparation]
  split_ifs with hrev
  · rfl
  · rfl

lemma cancel_of_late (hp : c.prepared[token]? = some p) (hlate : p.expiresAt ≤ now) :
    c.cancel token now = if c.revision + 1 ≤ u64Max then
      .ok (.error (.expiredToken token), c.consumed token p) else .error revisionExhausted := by
  simp only [cancel, hp, bumpRevision_removePreparation]
  split_ifs with hrev
  · rfl
  · rfl

/-- The changes of revision that consuming a live token makes. -/
def consumptionCost (c : ScenarioController) (token : ActivationToken) (p : PreparedScenarioAction)
    (now : Instant) : Nat :=
  1 + ((c.consumed token p).expiredEntries now).length

/-- Removing a live token and then the expired ones: one closed form for both consumers. -/
lemma consume_of_live {α : Type} (f : ScenarioController → Except Failure α) :
    (do
      let c ← (c.removePreparation token p).bumpRevision
      let c ← c.discardExpiredPreparations now
      f c) =
    if c.revision + c.consumptionCost token p now ≤ u64Max then
      f ((c.consumed token p).discarded now) else .error revisionExhausted := by
  rw [bumpRevision_removePreparation]
  split_ifs with hrev hcost hcost
  · have hfit : (c.consumed token p).revision ≤ u64Max := hrev
    rw [consumptionCost, ← Nat.add_assoc] at hcost
    rw [ok_bind, discardExpiredPreparations_eq hfit, consumed_revision, if_pos hcost, ok_bind]
  · have hfit : (c.consumed token p).revision ≤ u64Max := hrev
    rw [consumptionCost, ← Nat.add_assoc] at hcost
    rw [ok_bind, discardExpiredPreparations_eq hfit, consumed_revision, if_neg hcost, error_bind]
  · simp only [consumptionCost] at hcost
    omega
  · rfl

/-- The outcome of `confirm` for a live token, as its last checks decide it. -/
lemma confirm_of_live (hp : c.prepared[token]? = some p) (hlive : now < p.expiresAt) :
    c.confirm token now = if c.revision + c.consumptionCost token p now ≤ u64Max then
      .ok (match ((c.consumed token p).discarded now).confirmable p.target p.action with
        | .error e => (.error e, (c.consumed token p).discarded now)
        | .ok () => (.ok { target := p.target, action := p.action.snapshot,
                           actorLabel := p.actorLabel },
            ((c.consumed token p).discarded now).queued p))
      else .error revisionExhausted := by
  simp only [confirm, hp, ge_iff_le, Nat.not_le.mpr hlive, if_false]
  rw [consume_of_live]
  cases ((c.consumed token p).discarded now).confirmable p.target p.action <;> rfl

/-- `cancel` of a live token succeeds, if the revision allows. -/
lemma cancel_of_live (hp : c.prepared[token]? = some p) (hlive : now < p.expiresAt) :
    c.cancel token now = if c.revision + c.consumptionCost token p now ≤ u64Max then
      .ok (.ok (p.snapshot token now), (c.consumed token p).discarded now)
      else .error revisionExhausted := by
  simp only [cancel, hp, ge_iff_le, Nat.not_le.mpr hlive, if_false]
  exact consume_of_live _

end Consumption

/-! ### Boundaries -/

/-- The controller `advance_boundary` leaves when it is not refused, given the active records that
outlive the boundary. -/
def crossed (c : ScenarioController) (sampleIndex : Nat)
    (active : ExtTreeMap ScenarioTarget ActiveScenarioAction) : ScenarioController :=
  { c.applyPending sampleIndex with
    active
    revision :=
      if !c.pending.isEmpty || active.size ≠ (c.applyPending sampleIndex).active.size then
        c.revision + 1
      else c.revision }

/-- The active records that outlive a boundary. -/
def Outlives (c : ScenarioController) (sampleIndex : Nat)
    (active : ExtTreeMap ScenarioTarget ActiveScenarioAction) : Prop :=
  OrderedMap.retain (fun _ a => remainsActive sampleIndex a) (c.applyPending sampleIndex).active =
    .ok active

lemma crossBoundary_ok {c c' : ScenarioController} {sampleIndex : Nat}
    (h : c.crossBoundary sampleIndex = .ok c') (hrev : c.revision ≤ u64Max) :
    ∃ active, c.Outlives sampleIndex active ∧ c' = c.crossed sampleIndex active ∧
      c'.revision ≤ u64Max := by
  obtain ⟨e, he, h⟩ := bind_eq_ok.mp h
  obtain ⟨active, hactive, he⟩ := bind_eq_ok.mp he
  obtain rfl := Except.ok.inj he
  refine ⟨active, hactive, ?_⟩
  simp only [crossed]
  split_ifs at h ⊢ with hchanged
  · obtain ⟨hfit, rfl⟩ := bumpRevision_eq_ok.mp h
    exact ⟨rfl, hfit⟩
  · obtain rfl := Except.ok.inj h
    exact ⟨rfl, hrev⟩

/-- A boundary is refused for not being later than the last, or crossed. -/
lemma advanceBoundary_ok {c c' : ScenarioController} {sampleIndex : Nat}
    {r : Except ScenarioControllerError Unit} (hrev : c.revision ≤ u64Max)
    (h : c.advanceBoundary sampleIndex = .ok (r, c')) :
    (∃ previous, c.currentSampleIndex = some previous ∧ sampleIndex ≤ previous ∧
        r = .error (.nonMonotonicBoundary previous sampleIndex) ∧ c' = c) ∨
      (∀ previous, c.currentSampleIndex = some previous → previous < sampleIndex) ∧ r = .ok () ∧
        ∃ active, c.Outlives sampleIndex active ∧ c' = c.crossed sampleIndex active ∧
          c'.revision ≤ u64Max := by
  unfold advanceBoundary at h
  cases hcur : c.currentSampleIndex with
  | none =>
    simp only [hcur] at h
    obtain ⟨d, hd, h⟩ := bind_eq_ok.mp h
    obtain ⟨rfl, rfl⟩ := ok_pair_eq.mp h
    exact .inr ⟨by simp, rfl, crossBoundary_ok hd hrev⟩
  | some previous =>
    simp only [hcur] at h
    split_ifs at h with hle
    · obtain ⟨rfl, rfl⟩ := ok_pair_eq.mp h
      exact .inl ⟨previous, rfl, hle, rfl, rfl⟩
    · obtain ⟨d, hd, h⟩ := bind_eq_ok.mp h
      obtain ⟨rfl, rfl⟩ := ok_pair_eq.mp h
      refine .inr ⟨?_, rfl, crossBoundary_ok hd hrev⟩
      rintro _ ⟨⟩
      exact Nat.not_le.mp hle

/-- The active map once the pending actions were applied. -/
lemma applyPending_active (c : ScenarioController) (sampleIndex : Nat) (target : ScenarioTarget) :
    (c.applyPending sampleIndex).active[target]? =
      (c.pending[target]?).elim c.active[target]? (PendingScenarioAction.activated sampleIndex) :=
  OrderedMap.getElem?_overwrite_toList (PendingScenarioAction.activated sampleIndex) c.active
    c.pending target

lemma activated_or_active {c : ScenarioController} {n : Nat} {target : ScenarioTarget}
    {a : ActiveScenarioAction} (ha : (c.applyPending n).active[target]? = some a) :
    (∃ p scenario, c.pending[target]? = some p ∧ p.action = .activate scenario ∧
        a = ⟨scenario, p.actorLabel, n⟩) ∨
      c.pending[target]? = none ∧ c.active[target]? = some a := by
  rw [applyPending_active] at ha
  cases hp : c.pending[target]? with
  | none =>
    rw [hp] at ha
    exact .inr ⟨rfl, ha⟩
  | some p =>
    rw [hp] at ha
    simp only [Option.elim_some, PendingScenarioAction.activated] at ha
    split at ha
    · rename_i scenario hact
      exact .inl ⟨p, scenario, rfl, hact, (Option.some.inj ha).symm⟩
    · cases ha

/-- A sustained record outlives every boundary. -/
lemma remainsActive_of_sustained {n : Nat} {a : ActiveScenarioAction}
    (h : a.scenario.lifecycle = .sustained) : remainsActive n a = .ok true := by
  simp [remainsActive, h]

/-- The active map after a boundary: what was active or gets activated, and has not expired. -/
lemma Outlives.getElem? {c : ScenarioController} {sampleIndex : Nat}
    {active : ExtTreeMap ScenarioTarget ActiveScenarioAction} (h : c.Outlives sampleIndex active)
    {target : ScenarioTarget} {a : ActiveScenarioAction} :
    active[target]? = some a ↔
      (c.applyPending sampleIndex).active[target]? = some a ∧
        remainsActive sampleIndex a = .ok true :=
  OrderedMap.getElem?_retain h

end ScenarioController

end PmuSimulator

import Mathlib
import PmuSimulator.Scenario.Provenance

/-!
# Effect windows

A record activated at boundary `b` with offset `o` is effective from `b + o` on, a transient one of
duration `d` up to `b + o + d`, a sustained one until it is cleared. All three are sums of natural
numbers: the source only ever subtracts. Frame plans are the effects of the effective records.
-/

open Std (ExtTreeMap)

namespace PmuSimulator

open ScenarioController

/-! ### The checks of one record -/

lemma isEffectiveAt_iff {a : ActiveScenarioAction} {n : Nat} :
    isEffectiveAt a n = true ↔ a.firstEligibleBoundary + a.scenario.startFrameOffset ≤ n := by
  unfold isEffectiveAt
  cases h : checkedSub n a.firstEligibleBoundary with
  | none =>
    have hlt : n < a.firstEligibleBoundary := by
      by_contra hle
      simp [checkedSub, Nat.not_lt.mp hle] at h
    simp only [Bool.false_eq_true, false_iff]
    omega
  | some elapsed =>
    obtain ⟨hle, rfl⟩ := checkedSub_eq_some.mp h
    simp only [ge_iff_le, decide_eq_true_eq]
    omega

lemma isExpiredAt_eq {a : ActiveScenarioAction} {n d : Nat}
    (hd : a.scenario.durationFrames = some d) :
    isExpiredAt a n =
      .ok (decide (a.firstEligibleBoundary + a.scenario.startFrameOffset + d ≤ n)) := by
  simp only [isExpiredAt, checkedSub]
  by_cases h : a.firstEligibleBoundary ≤ n
  · by_cases h' : a.scenario.startFrameOffset ≤ n - a.firstEligibleBoundary
    · simp only [h, h', if_true, hd, ge_iff_le, Except.ok.injEq, decide_eq_decide]
      omega
    · simp only [h, h', if_true, if_false, Except.ok.injEq, false_eq_decide_iff]
      omega
  · simp only [h, if_false, Except.ok.injEq, false_eq_decide_iff]
    omega

/-- A transient record outlives the boundaries before the end of its window. -/
lemma remainsActive_transient {a : ActiveScenarioAction} {n d : Nat}
    (hlife : a.scenario.lifecycle = .transient) (hd : a.scenario.durationFrames = some d) :
    remainsActive n a =
      .ok (decide (n < a.firstEligibleBoundary + a.scenario.startFrameOffset + d)) := by
  simp only [remainsActive, hlife, ne_eq, not_true_eq_false, if_false, isExpiredAt_eq hd,
    Except.map, ← decide_not, Nat.not_le]

namespace ScenarioController

variable {c c' : ScenarioController} {i : ControllerInput} {o : ControllerOutput}

/-! ### The expectation on durations -/

lemma Coherent.wellFormed (h : Coherent c) {target : ScenarioTarget} {a : ActiveScenarioAction}
    (ha : c.active[target]? = some a) : a.scenario.WellFormed :=
  h.catalog.scenario (h.active target a ha).1

/-- A record that is active once the pending actions were applied has a catalog scenario. -/
lemma Coherent.applied_wellFormed (h : Coherent c) {n : Nat} {target : ScenarioTarget}
    {a : ActiveScenarioAction} (ha : (c.applyPending n).active[target]? = some a) :
    a.scenario.WellFormed := by
  rcases activated_or_active ha with ⟨p, scenario, hp, hact, rfl⟩ | ⟨-, ha⟩
  · have hadm := h.pending target p hp
    rw [hact] at hadm
    exact h.catalog.scenario hadm.2.1
  · exact h.wellFormed ha

lemma remainsActive_ok {a : ActiveScenarioAction} (h : a.scenario.WellFormed) (n : Nat) :
    ∃ keep, remainsActive n a = .ok keep := by
  cases hlife : a.scenario.lifecycle with
  | transient =>
    obtain ⟨d, hd, -⟩ := h.transient hlife
    exact ⟨_, remainsActive_transient hlife hd⟩
  | sustained => exact ⟨true, remainsActive_of_sustained hlife⟩

lemma Coherent.exists_outlives (h : Coherent c) (n : Nat) : ∃ active, c.Outlives n active :=
  OrderedMap.exists_retain fun _ _ ha => remainsActive_ok (h.applied_wellFormed ha) n

/-- Crossing a boundary can only fail for want of a revision. -/
lemma Coherent.crossBoundary_error (h : Coherent c) {n : Nat} {f : Failure}
    (hf : c.crossBoundary n = .error f) : f = revisionExhausted := by
  obtain ⟨active, hactive⟩ := h.exists_outlives n
  have hexpire : (c.applyPending n).expireTransientActions n =
      .ok { c.applyPending n with active } := by
    simp only [expireTransientActions]
    rw [show OrderedMap.retain _ _ = _ from hactive]
    rfl
  simp only [crossBoundary, hexpire, ok_bind] at hf
  split_ifs at hf
  · exact bumpRevision_error hf
  · cases hf

/-- So does `advance_boundary`: no transient record lacks a duration. -/
theorem Coherent.advanceBoundary_error (h : Coherent c) {n : Nat} {f : Failure}
    (hf : c.advanceBoundary n = .error f) : f = revisionExhausted := by
  unfold advanceBoundary at hf
  have hcross : ∀ {f : Failure}, (do
      return ((.ok () : Except ScenarioControllerError Unit), ← c.crossBoundary n)) = .error f →
        f = revisionExhausted := by
    intro f hf
    cases hc : c.crossBoundary n with
    | error g =>
      rw [hc] at hf
      obtain rfl := Except.error.inj hf
      exact h.crossBoundary_error hc
    | ok d =>
      rw [hc] at hf
      cases hf
  split at hf
  · split_ifs at hf
    exact hcross hf
  · exact hcross hf

/-! ### Frame plans -/

/-- The record is active on the target, and effective at the current boundary. -/
def Affects (c : ScenarioController) (target : ScenarioTarget) (a : ActiveScenarioAction) : Prop :=
  c.active[target]? = some a ∧ ∃ n, c.currentSampleIndex = some n ∧ isEffectiveAt a n = true

lemma Affects.unique {target : ScenarioTarget} {a a' : ActiveScenarioAction}
    (h : c.Affects target a) (h' : c.Affects target a') : a = a' :=
  Option.some.inj (h.1.symm.trans h'.1)

lemma affects_iff {n : Nat} (hn : c.currentSampleIndex = some n) {target : ScenarioTarget}
    {a : ActiveScenarioAction} :
    c.Affects target a ↔ c.active[target]? = some a ∧ isEffectiveAt a n = true := by
  simp [Affects, hn]

lemma framePlan_eq {n : Nat} (hn : c.currentSampleIndex = some n) (streamId : UInt16) :
    c.framePlan streamId = { c.endpointPlan streamId n with
      disconnectPdcConnectionIds := c.active.toList.filterMap (disconnects streamId n) } := by
  simp only [framePlan, hn]

lemma endpointPlan_of_affects {n : Nat} (hn : c.currentSampleIndex = some n) {streamId : UInt16}
    {a : ActiveScenarioAction} (h : c.Affects (.endpoint streamId) a) :
    c.endpointPlan streamId n = applyEndpointScenario {} a := by
  obtain ⟨ha, heff⟩ := (affects_iff hn).mp h
  simp [endpointPlan, ha, heff]

lemma endpointPlan_of_not_affects {n : Nat} (hn : c.currentSampleIndex = some n)
    {streamId : UInt16} (h : ∀ a, ¬ c.Affects (.endpoint streamId) a) :
    c.endpointPlan streamId n = {} := by
  unfold endpointPlan
  cases ha : c.active[ScenarioTarget.endpoint streamId]? with
  | none => rfl
  | some a =>
    have heff : ¬ isEffectiveAt a n = true := fun heff => h a ((affects_iff hn).mpr ⟨ha, heff⟩)
    simp [heff]

lemma disconnects_eq_some {streamId : UInt16} {n : Nat} {target : ScenarioTarget}
    {a : ActiveScenarioAction} {id : Nat} :
    disconnects streamId n (target, a) = some id ↔
      target = .pdc streamId id ∧ a.scenario.kind = .disconnectPdc ∧ isEffectiveAt a n = true := by
  cases target with
  | endpoint sid => simp [disconnects]
  | pdc sid connectionId =>
    simp only [disconnects, Bool.and_eq_true, decide_eq_true_eq, Option.ite_none_right_eq_some,
      Option.some.injEq, ScenarioTarget.pdc.injEq]
    tauto

lemma mem_disconnects {n : Nat} (hn : c.currentSampleIndex = some n) {streamId : UInt16}
    {id : Nat} :
    id ∈ c.active.toList.filterMap (disconnects streamId n) ↔
      ∃ a, c.Affects (.pdc streamId id) a ∧ a.scenario.kind = .disconnectPdc := by
  simp only [List.mem_filterMap, Prod.exists, ExtTreeMap.mem_toList_iff_getElem?_eq_some,
    disconnects_eq_some, affects_iff hn]
  constructor
  · rintro ⟨target, a, ha, rfl, hkind, heff⟩
    exact ⟨a, ⟨ha, heff⟩, hkind⟩
  · rintro ⟨a, ⟨ha, heff⟩, hkind⟩
    exact ⟨_, a, ha, rfl, hkind, heff⟩

/-- The plan of a stream has the effects of the records that affect its targets, and no others. -/
structure ShowsEffects (c : ScenarioController) (streamId : UInt16) : Prop where
  degradedTime : (c.framePlan streamId).degradedTime = true ↔
    ∃ a, c.Affects (.endpoint streamId) a ∧ a.scenario.kind = .degradedTime
  omitData : (c.framePlan streamId).omitData = true ↔
    ∃ a, c.Affects (.endpoint streamId) a ∧ a.scenario.kind = .missingFrames
  signal : ∀ x, (c.framePlan streamId).signal = some x ↔
    ∃ a, c.Affects (.endpoint streamId) a ∧ a.scenario.kind = .signalExcursion ∧
      a.scenario.signal = some x
  disconnects : ∀ id, id ∈ (c.framePlan streamId).disconnectPdcConnectionIds ↔
    ∃ a, c.Affects (.pdc streamId id) a ∧ a.scenario.kind = .disconnectPdc

theorem framePlan_effects (c : ScenarioController) (streamId : UInt16) :
    c.ShowsEffects streamId := by
  cases hn : c.currentSampleIndex with
  | none => constructor <;> simp [framePlan, hn, Affects]
  | some n =>
    refine ⟨?_, ?_, ?_, fun id => by rw [framePlan_eq hn]; exact mem_disconnects hn⟩
    all_goals rw [framePlan_eq hn]
    all_goals
      by_cases h : ∃ a, c.Affects (.endpoint streamId) a
      · obtain ⟨a, ha⟩ := h
        have hone : ∀ P : ActiveScenarioAction → Prop,
            (∃ a', c.Affects (.endpoint streamId) a' ∧ P a') ↔ P a :=
          fun P => ⟨fun ⟨a', ha', hP⟩ => ha.unique ha' ▸ hP, fun hP => ⟨a, ha, hP⟩⟩
        simp only [endpointPlan_of_affects hn ha, hone]
        cases hkind : a.scenario.kind <;> simp [applyEndpointScenario, hkind]
      · have hnone : ∀ a, ¬ c.Affects (.endpoint streamId) a := fun a ha => h ⟨a, ha⟩
        simp [endpointPlan_of_not_affects hn hnone, hnone]

/-- Nothing but the records that affect its targets enters the plan of a stream. -/
theorem framePlan_congr {streamId : UInt16} (hn : c'.currentSampleIndex = c.currentSampleIndex)
    (h : ∀ target a, target.streamId = streamId → (c.Affects target a ↔ c'.Affects target a)) :
    c.framePlan streamId = c'.framePlan streamId := by
  cases hc : c.currentSampleIndex with
  | none => simp [framePlan, hc, hn]
  | some n =>
    have hc' := hn.trans hc
    have hend : c.endpointPlan streamId n = c'.endpointPlan streamId n := by
      by_cases hsome : ∃ a, c.Affects (.endpoint streamId) a
      · obtain ⟨a, ha⟩ := hsome
        rw [endpointPlan_of_affects hc ha, endpointPlan_of_affects hc' ((h _ a rfl).mp ha)]
      · have hnone : ∀ a, ¬ c.Affects (.endpoint streamId) a := fun a ha => hsome ⟨a, ha⟩
        rw [endpointPlan_of_not_affects hc hnone,
          endpointPlan_of_not_affects hc' fun a ha => hnone a ((h _ a rfl).mpr ha)]
    have hids : c.active.toList.filterMap (disconnects streamId n) =
        c'.active.toList.filterMap (disconnects streamId n) := by
      refine OrderedMap.filterMap_toList_congr fun target a hpick => ?_
      obtain ⟨id, hid⟩ := Option.isSome_iff_exists.mp hpick
      obtain ⟨rfl, -, heff⟩ := disconnects_eq_some.mp hid
      have hsame := h (.pdc streamId id) a rfl
      rw [affects_iff hc, affects_iff hc'] at hsame
      simpa [heff] using hsame
    rw [framePlan_eq hc, framePlan_eq hc', hend, hids]

/-- What is active on a target is nothing to the other streams. -/
theorem framePlan_erase {target : ScenarioTarget} {streamId : UInt16}
    (h : streamId ≠ target.streamId) :
    { c with active := c.active.erase target }.framePlan streamId = c.framePlan streamId := by
  refine framePlan_congr rfl fun target' a htarget => ?_
  have hne : target ≠ target' := fun heq => h (heq ▸ htarget.symm)
  simp only [Affects, OrderedMap.getElem?_erase, if_neg hne]

/-! ### Windows of a run -/

lemma applied_of_mem {x : ControllerStep} {target : ScenarioTarget} {action : ScenarioAction}
    (hx : .applied target action ∈ controlEvents x) :
    x.output = .boundary (.ok ()) ∧
      ∃ p, x.before.pending[target]? = some p ∧ p.action.snapshot = action := by
  simp only [controlEvents, List.mem_append] at hx
  rcases hx with (hx | hx) | hx
  · unfold answered at hx
    split at hx <;> simp at hx
  · unfold applications at hx
    split at hx
    · rename_i ho
      obtain ⟨⟨k, p⟩, hp, he⟩ := List.mem_map.mp hx
      obtain ⟨rfl, rfl⟩ := TwoStep.Event.applied.inj he
      exact ⟨ho, p, ExtTreeMap.mem_toList_iff_getElem?_eq_some.mp hp, rfl⟩
    · cases hx
  · unfold expiries at hx
    split at hx
    · obtain ⟨t, -, he⟩ := List.mem_map.mp hx
      cases he
    · cases hx

/-- A clear of the target was applied somewhere in the steps. -/
def Cleared (h : List ControllerStep) (target : ScenarioTarget) : Prop :=
  ∃ x ∈ h, .applied target .clear ∈ controlEvents x

lemma cleared_snoc {h : List ControllerStep} {x : ControllerStep} {target : ScenarioTarget} :
    Cleared (h ++ [x]) target ↔ Cleared h target ∨ .applied target .clear ∈ controlEvents x := by
  simp [Cleared, or_and_right, exists_or]

/-- How far a record has come: the boundary reached, whether it is still the active one, and that
every other record of its target is newer. -/
structure Tracks (r : ActiveScenarioAction) (target : ScenarioTarget) (c : ScenarioController)
    (alive : Nat → Prop) : Prop where
  reached : ∃ n, c.currentSampleIndex = some n ∧ r.firstEligibleBoundary ≤ n ∧
    (c.active[target]? = some r ↔ alive n)
  newer : ∀ a : ActiveScenarioAction, c.active[target]? = some a →
    a = r ∨ r.firstEligibleBoundary < a.firstEligibleBoundary

variable {r : ActiveScenarioAction} {target : ScenarioTarget}

lemma Tracks.same {alive : Nat → Prop} (h : Tracks r target c alive)
    (hactive : c'.active = c.active) (hcurrent : c'.currentSampleIndex = c.currentSampleIndex) :
    Tracks r target c' alive :=
  ⟨hactive ▸ hcurrent ▸ h.reached, hactive ▸ h.newer⟩

/-- Across a boundary, `alive` has to say when the record is among those that stay. -/
lemma Tracks.crossed {alive alive' : Nat → Prop} (h : Tracks r target c alive) {n : Nat}
    {active : ExtTreeMap ScenarioTarget ActiveScenarioAction}
    (hlater : ∀ previous, c.currentSampleIndex = some previous → previous < n)
    (hout : c.Outlives n active)
    (hstays : ∀ m, c.currentSampleIndex = some m → m < n →
      ((c.pending[target]? = none ∧ alive m ∧ remainsActive n r = .ok true) ↔ alive' n)) :
    Tracks r target (c.crossed n active) alive' := by
  obtain ⟨m, hm, hle, halive⟩ := h.reached
  have hmn := hlater m hm
  refine ⟨⟨n, rfl, hle.trans hmn.le, ?_⟩, ?_⟩
  · rw [← hstays m hm hmn, ← halive]
    refine (hout.getElem?).trans ?_
    constructor
    · rintro ⟨hr, hkeep⟩
      rcases activated_or_active hr with ⟨p, scenario, -, -, heq⟩ | ⟨hpending, hactive⟩
      · exact absurd (hle.trans_lt hmn) (by simp [heq])
      · exact ⟨hpending, hactive, hkeep⟩
    · rintro ⟨hpending, hactive, hkeep⟩
      refine ⟨?_, hkeep⟩
      rw [applyPending_active, hpending]
      exact hactive
  · intro a ha
    rcases activated_or_active ((hout.getElem?).mp ha).1 with
      ⟨p, scenario, -, -, rfl⟩ | ⟨-, hactive⟩
    · exact .inr (hle.trans_lt hmn)
    · exact h.newer a hactive

/-- A transient record is active up to the end of its window. -/
lemma Tracks.transient_step {d : Nat} (hcoh : Coherent c) (he : Effect c i o c')
    (hlife : r.scenario.lifecycle = .transient) (hd : r.scenario.durationFrames = some d)
    (h : Tracks r target c
      fun n => n < r.firstEligibleBoundary + r.scenario.startFrameOffset + d) :
    Tracks r target c'
      fun n => n < r.firstEligibleBoundary + r.scenario.startFrameOffset + d := by
  rcases active_same_or_crossed he with ⟨hactive, hcurrent, -⟩ | ⟨n, active, -, -, hlater, hout, rfl⟩
  · exact h.same hactive hcurrent
  · refine h.crossed hlater hout fun m hm hmn => ?_
    rw [remainsActive_transient hlife hd, Except.ok.injEq, decide_eq_true_eq]
    refine ⟨fun ⟨_, _, hn⟩ => hn, fun hn => ⟨?_, hmn.trans hn, hn⟩⟩
    -- a transient record leaves nothing to be pending on its target
    obtain ⟨m', hm', -, halive⟩ := h.reached
    obtain rfl := Option.some.inj (hm.symm.trans hm')
    rw [Option.eq_none_iff_forall_ne_some]
    intro p hp
    have hsus := (hcoh.pending_of_active (halive.mpr (hmn.trans hn)) hp).2
    rw [hlife] at hsus
    cases hsus

/-- A sustained record is active until a clear of its target is applied. -/
lemma Tracks.sustained_step {h : List ControllerStep} (hcoh : Coherent c) (he : Effect c i o c')
    (hlife : r.scenario.lifecycle = .sustained)
    (ht : Tracks r target c fun _ => ¬ Cleared h target) :
    Tracks r target c' fun _ => ¬ Cleared (h ++ [⟨c, i, o, c'⟩]) target := by
  rcases active_same_or_crossed he with
    ⟨hactive, hcurrent, ho⟩ | ⟨n, active, rfl, rfl, hlater, hout, rfl⟩
  · have hnot : Cleared (h ++ [⟨c, i, o, c'⟩]) target ↔ Cleared h target := by
      rw [cleared_snoc, or_iff_left]
      exact fun hx => ho (applied_of_mem hx).1
    simpa only [hnot] using ht.same hactive hcurrent
  · refine ht.crossed hlater hout fun m hm hmn => ?_
    obtain ⟨m', -, -, halive⟩ := ht.reached
    simp only [remainsActive_of_sustained hlife, and_true, cleared_snoc, not_or]
    constructor
    · rintro ⟨hpending, hnot⟩
      refine ⟨hnot, fun hx => ?_⟩
      obtain ⟨-, p, hp, -⟩ := applied_of_mem hx
      cases hpending.symm.trans hp
    · rintro ⟨hnot, hx⟩
      refine ⟨?_, hnot⟩
      rw [Option.eq_none_iff_forall_ne_some]
      intro p hp
      have hclear := (hcoh.pending_of_active (halive.mpr hnot) hp).1
      have hmem := mem_of_applied (x := ⟨c, .advanceBoundary n, .boundary (.ok ()),
        c.crossed n active⟩) rfl hp
      rw [hclear] at hmem
      exact hx hmem

/-- The boundary that applies an activation starts the record. -/
lemma Tracks.start (hcoh : Coherent c) {p : PendingScenarioAction} {s : ScenarioDefinition}
    {b : Nat} {active : ExtTreeMap ScenarioTarget ActiveScenarioAction}
    (hp : c.pending[target]? = some p) (hact : p.action = .activate s) (hout : c.Outlives b active)
    {alive : Nat → Prop} (halive : alive b) :
    Tracks ⟨s, p.actorLabel, b⟩ target (c.crossed b active) alive := by
  have happlied : (c.applyPending b).active[target]? = some ⟨s, p.actorLabel, b⟩ := by
    rw [applyPending_active, hp]
    simp [PendingScenarioAction.activated, hact]
  have hwf := hcoh.applied_wellFormed happlied
  have hkeep : remainsActive b ⟨s, p.actorLabel, b⟩ = .ok true := by
    cases hlife : s.lifecycle with
    | transient =>
      obtain ⟨d, hd, hpos⟩ := hwf.transient hlife
      rw [remainsActive_transient hlife hd, Except.ok.injEq, decide_eq_true_eq]
      simp only
      omega
    | sustained => exact remainsActive_of_sustained hlife
  have hactive : active[target]? = some ⟨s, p.actorLabel, b⟩ :=
    hout.getElem?.mpr ⟨happlied, hkeep⟩
  refine ⟨⟨b, rfl, le_rfl, iff_of_true hactive halive⟩, fun a ha => .inl ?_⟩
  exact Option.some.inj (ha.symm.trans hactive)

/-! ### Every run -/

section Runs

variable {raw : RawScenarioCatalog} {catalog : ScenarioCatalog} {h₀ h : List ControllerStep}
  {c₀ c₁ : ScenarioController} {p : PendingScenarioAction} {s : ScenarioDefinition} {b : Nat}

/-- An invariant of the steps that follow, kept by every effect on a coherent controller. -/
lemma invariant_of_run {P : List ControllerStep → ScenarioController → Prop}
    (hcoh : Coherent c₁ ∧ c₁.revision ≤ u64Max) (hinit : P [] c₁)
    (hstep : ∀ {h c i o c'}, Coherent c → Effect c i o c' → P h c → P (h ++ [⟨c, i, o, c'⟩]) c')
    (run : controllerMachine.Run c₁ h c) : P h c := by
  have hall := run.history (P := fun h c => (Coherent c ∧ c.revision ≤ u64Max) ∧ P h c)
    ⟨hcoh, hinit⟩ ?_
  · exact hall.2
  · rintro h r e o r' - ⟨⟨hr, hrev⟩, hP⟩ hs
    obtain ⟨he, hrev'⟩ := hr.effect hrev hs
    exact ⟨⟨he.coherent hr, hrev'⟩, hstep hr he hP⟩

lemma transient_window (hcoh₀ : Coherent c₀) (hcoh : Coherent c₁ ∧ c₁.revision ≤ u64Max)
    (hp : c₀.pending[target]? = some p) (hact : p.action = .activate s) {d : Nat}
    (hlife : s.lifecycle = .transient) (hd : s.durationFrames = some d) (hpos : 0 < d)
    {active : ExtTreeMap ScenarioTarget ActiveScenarioAction} (hout : c₀.Outlives b active)
    (hc₁ : c₁ = c₀.crossed b active) (run : controllerMachine.Run c₁ h c) :
    Tracks ⟨s, p.actorLabel, b⟩ target c fun n => n < b + s.startFrameOffset + d :=
  invariant_of_run (P := fun _ c =>
      Tracks ⟨s, p.actorLabel, b⟩ target c fun n => n < b + s.startFrameOffset + d) hcoh
    (hc₁ ▸ Tracks.start hcoh₀ hp hact hout (by omega))
    (fun hcoh he ht => ht.transient_step hcoh he hlife hd) run

lemma sustained_window (hcoh₀ : Coherent c₀) (hcoh : Coherent c₁ ∧ c₁.revision ≤ u64Max)
    (hp : c₀.pending[target]? = some p) (hact : p.action = .activate s)
    (hlife : s.lifecycle = .sustained)
    {active : ExtTreeMap ScenarioTarget ActiveScenarioAction} (hout : c₀.Outlives b active)
    (hc₁ : c₁ = c₀.crossed b active) (run : controllerMachine.Run c₁ h c) :
    Tracks ⟨s, p.actorLabel, b⟩ target c fun _ => ¬ Cleared h target :=
  invariant_of_run (P := fun h c =>
      Tracks ⟨s, p.actorLabel, b⟩ target c fun _ => ¬ Cleared h target) hcoh
    (hc₁ ▸ Tracks.start hcoh₀ hp hact hout (by simp [Cleared]))
    (fun hcoh he ht => ht.sustained_step hcoh he hlife) run

/-- A pending activation that meets boundary `b` affects exactly the boundaries of its window, in
every state after it, and nothing but the plan of its own stream. -/
theorem effect_window (hc : compileCatalog raw = .ok catalog)
    (run₀ : controllerMachine.Run (.new catalog) h₀ c₀) (hp : c₀.pending[target]? = some p)
    (hact : p.action = .activate s)
    (hb : controllerMachine.step c₀ (.advanceBoundary b) = .ok (.boundary (.ok ()), c₁))
    (run : controllerMachine.Run c₁ h c) (hr : r = ⟨s, p.actorLabel, b⟩) :
    (∃ n, c.currentSampleIndex = some n ∧ b ≤ n ∧
      (s.lifecycle = .transient → ∃ d, s.durationFrames = some d ∧
        (c.active[target]? = some r ↔ n < b + s.startFrameOffset + d) ∧
        (c.Affects target r ↔
          b + s.startFrameOffset ≤ n ∧ n < b + s.startFrameOffset + d)) ∧
      (s.lifecycle = .sustained →
        (c.active[target]? = some r ↔ ¬ Cleared h target) ∧
        (c.Affects target r ↔ b + s.startFrameOffset ≤ n ∧ ¬ Cleared h target))) ∧
    (∀ streamId, c.ShowsEffects streamId) ∧
    (∀ streamId, streamId ≠ target.streamId →
      { c with active := c.active.erase target }.framePlan streamId = c.framePlan streamId) ∧
    ∀ n f, c.advanceBoundary n = .error f → f = revisionExhausted := by
  obtain ⟨hcoh₀, hrev₀⟩ := coherent_of_run hc run₀
  have hcoh₁ := coherent_of_run hc (run₀.snoc hb)
  have hcoh := coherent_of_run hc ((run₀.snoc hb).trans run)
  obtain ⟨he, -⟩ := hcoh₀.effect hrev₀ hb
  obtain ⟨active, hout, rfl⟩ : ∃ active, c₀.Outlives b active ∧ c₁ = c₀.crossed b active := by
    rcases active_same_or_crossed he with ⟨-, -, ho⟩ | ⟨n, active, hn, -, -, hout, hc₁⟩
    · exact absurd rfl ho
    · obtain rfl := ControllerInput.advanceBoundary.inj hn
      exact ⟨active, hout, hc₁⟩
  have heffective : ∀ n, c.currentSampleIndex = some n → (c.Affects target r ↔
      c.active[target]? = some r ∧ b + s.startFrameOffset ≤ n) := by
    intro n hn
    rw [affects_iff hn, isEffectiveAt_iff, hr]
  refine ⟨?_, framePlan_effects c, fun _ hne => framePlan_erase hne,
    fun _ _ hf => hcoh.1.advanceBoundary_error hf⟩
  cases hlife : s.lifecycle with
  | transient =>
    have hadm := hcoh₀.pending target p hp
    rw [hact] at hadm
    obtain ⟨d, hd, hpos⟩ := (hcoh₀.catalog.scenario hadm.2.1).transient hlife
    obtain ⟨n, hn, hle, halive⟩ :=
      (transient_window hcoh₀ hcoh₁ hp hact hlife hd hpos hout rfl run).reached
    rw [← hr] at halive
    refine ⟨n, hn, hle, fun _ => ⟨d, hd, halive, ?_⟩, by simp⟩
    rw [heffective n hn, halive, and_comm]
  | sustained =>
    obtain ⟨n, hn, hle, halive⟩ :=
      (sustained_window hcoh₀ hcoh₁ hp hact hlife hout rfl run).reached
    rw [← hr] at halive
    refine ⟨n, hn, hle, by simp, fun _ => ⟨halive, ?_⟩⟩
    rw [heffective n hn, halive, and_comm]

theorem effect_window_small : ∃ (c : ScenarioController) (r : ActiveScenarioAction),
    c.currentSampleIndex = some 8 ∧ r.firstEligibleBoundary = 6 ∧
      c.Affects (.endpoint 7) r := by
  have run₀ : controllerMachine.Run (.new smallCatalog) _ _ :=
    (Machine.Run.nil.snoc (e := .prepareActivation (.endpoint 7) "dropout" none 0) rfl).snoc
      (e := .confirm ⟨1⟩ 5) rfl
  obtain ⟨_, _, p, run₀, hp, hact, _, _, _, hb, run, h8⟩ : ∃ h₀ c₀ p,
      controllerMachine.Run (.new smallCatalog) h₀ c₀ ∧
      c₀.pending[ScenarioTarget.endpoint 7]? = some p ∧ p.action = .activate dropout ∧
      ∃ c₁ h c, controllerMachine.step c₀ (.advanceBoundary 6) = .ok (.boundary (.ok ()), c₁) ∧
        controllerMachine.Run c₁ h c ∧ c.currentSampleIndex = some 8 :=
    ⟨_, _, _, run₀, rfl, rfl, _, _, _, rfl,
      Machine.Run.nil.snoc (e := .advanceBoundary 8) rfl, rfl⟩
  obtain ⟨⟨n, hn, -, htransient, -⟩, -⟩ :=
    effect_window compileCatalog_small run₀ hp hact hb run rfl
  obtain ⟨d, hd, -, haffects⟩ := htransient rfl
  obtain rfl := Option.some.inj (h8.symm.trans hn)
  obtain rfl := Option.some.inj hd
  exact ⟨_, _, h8, rfl, haffects.mpr (by decide)⟩

end Runs

end ScenarioController

end PmuSimulator

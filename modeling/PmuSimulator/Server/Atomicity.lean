import Mathlib
import PmuSimulator.Server.Core

/-!
# Failed scenario operations

An operation of the controller that fails leaves the lifecycle records as they are, but for
preparations that are past their deadline at the time it is given. The server refuses what it can
before it asks the controller.
-/

namespace PmuSimulator

namespace ScenarioController

variable {c c' : ScenarioController} {i : ControllerInput} {o : ControllerOutput}

/-- The controller `c'` differs from `c` at most in preparations that have expired at a time. -/
structure KeptButExpired (time : Option Instant) (c c' : ScenarioController) : Prop where
  catalog : c'.catalog = c.catalog
  pending : c'.pending = c.pending
  active : c'.active = c.active
  currentSampleIndex : c'.currentSampleIndex = c.currentSampleIndex
  nextToken : c'.nextToken = c.nextToken
  prepared : ∀ (token : ActivationToken) (p : PreparedScenarioAction),
    c'.prepared[token]? = some p → c.prepared[token]? = some p
  live : ∀ (token : ActivationToken) (p : PreparedScenarioAction), c.prepared[token]? = some p →
    (∀ now, time = some now → now < p.expiresAt) → c'.prepared[token]? = some p
  preparedTargets : ∀ (target : ScenarioTarget) (token : ActivationToken),
    c'.preparedTargets[target]? = some token ↔
      c.preparedTargets[target]? = some token ∧ (c'.prepared[token]?).isSome = true

namespace KeptButExpired

lemma refl (coherent : Coherent c) (time : Option Instant) : KeptButExpired time c c := by
  refine ⟨rfl, rfl, rfl, rfl, rfl, fun _ _ hp => hp, fun _ _ hp _ => hp, fun target token => ?_⟩
  refine ⟨fun ht => ⟨ht, ?_⟩, And.left⟩
  obtain ⟨p, hp, -⟩ := (coherent.inverse token target).mp ht
  exact Option.isSome_iff_exists.mpr ⟨p, hp⟩

/-- Preparations went from both maps, and all of them had expired. -/
lemma of_coherent {time : Option Instant} (coherent : Coherent c) (coherent' : Coherent c')
    (hcatalog : c'.catalog = c.catalog) (hpending : c'.pending = c.pending)
    (hactive : c'.active = c.active) (hindex : c'.currentSampleIndex = c.currentSampleIndex)
    (hnext : c'.nextToken = c.nextToken)
    (hprepared : ∀ (token : ActivationToken) (p : PreparedScenarioAction),
      c'.prepared[token]? = some p → c.prepared[token]? = some p)
    (hlive : ∀ (token : ActivationToken) (p : PreparedScenarioAction),
      c.prepared[token]? = some p → (∀ now, time = some now → now < p.expiresAt) →
        c'.prepared[token]? = some p) : KeptButExpired time c c' := by
  refine ⟨hcatalog, hpending, hactive, hindex, hnext, hprepared, hlive, fun target token => ?_⟩
  rw [coherent'.inverse, coherent.inverse, Option.isSome_iff_exists]
  constructor
  · rintro ⟨p, hp, htarget⟩
    exact ⟨⟨p, hprepared token p hp, htarget⟩, p, hp⟩
  · rintro ⟨⟨p, hp, htarget⟩, q, hq⟩
    obtain rfl := Option.some.inj (hp.symm.trans (hprepared token q hq))
    exact ⟨p, hq, htarget⟩

end KeptButExpired

/-- A refused operation of a coherent controller. -/
lemma Effect.keptButExpired (effect : Effect c i o c') (coherent : Coherent c)
    (rejected : o.rejected = true) : KeptButExpired i.time c c' := by
  have coherent' := effect.coherent coherent
  cases effect with
  | refused => exact .refl coherent _
  | discarded time =>
    refine .of_coherent coherent coherent' rfl rfl rfl rfl rfl ?_ ?_
    · exact fun token p hp => ((discarded_prepared c _).mp hp).1
    · exact fun token p hp hlive => (discarded_prepared c _).mpr ⟨hp, hlive _ time⟩
  | late time prepared late =>
    refine .of_coherent coherent coherent' rfl rfl rfl rfl rfl ?_ ?_
    · exact fun token p hp => (consumed_prepared.mp hp).2
    · intro token p hp hlive
      refine consumed_prepared.mpr ⟨?_, hp⟩
      rintro rfl
      obtain rfl := Option.some.inj (hp.symm.trans prepared)
      exact Nat.not_lt.mpr late (hlive _ time)
  | snapshot => cases rejected
  | issued => cases rejected
  | confirmed => cases rejected
  | cancelled => cases rejected
  | crossed => cases rejected

end ScenarioController

/-! ### The server -/

/-- A label that `validate_actor_label` refuses. -/
def OversizedLabel (actorLabel : Option String) : Prop :=
  ∃ label ∈ actorLabel, maxScenarioActorLabelBytes < label.utf8ByteSize

namespace Server

lemma validateActorLabel_oversized {actorLabel : Option String} (h : OversizedLabel actorLabel) :
    validateActorLabel actorLabel = .error (.invalidActorLabel maxScenarioActorLabelBytes) := by
  obtain ⟨label, hlabel, hsize⟩ := h
  unfold validateActorLabel
  rw [if_pos]
  rw [Option.mem_def.mp hlabel]
  simpa using hsize

/-- A request on a token that is zero, or with a label that is too long, is refused by the server. -/
lemma answerToken_refused {α : Type} {s : Server} {token : Nat} {actorLabel : Option String}
    {respond : α → ManagementResponse}
    {operate : ScenarioController → ActivationToken → Except Failure (Outcome α)}
    (h : token = 0 ∨ OversizedLabel actorLabel) :
    ∃ response, s.answerToken token actorLabel respond operate = .ok (response, s) := by
  unfold answerToken
  by_cases hzero : token = 0
  · simp only [ActivationToken.fromValue, hzero, ne_eq, not_true_eq_false, if_false]
    exact ⟨_, rfl⟩
  · have hlabel := validateActorLabel_oversized (h.resolve_left hzero)
    simp only [ActivationToken.fromValue, hzero, ne_eq, not_false_eq_true, if_true]
    cases s.scenarioController with
    | none => exact ⟨_, rfl⟩
    | some c =>
      simp only [hlabel]
      exact ⟨_, rfl⟩

end Server

open ScenarioController

variable {raw : RawScenarioCatalog} {catalog : ScenarioCatalog} {c : ScenarioController}
  {h : List ControllerTaken}

/-- In every reachable state of the controller, an operation that fails keeps everything but expired
preparations; a confirm or a cancel that the server refuses keeps everything. -/
theorem failed_operation_atomic (hc : compileCatalog raw = .ok catalog)
    (run : controllerMachine.Run (.new catalog) h c) :
    (∀ i o c', controllerMachine.step c i = .ok (o, c') → o.rejected = true →
      KeptButExpired i.time c c') ∧
    ∀ (s : Server) (now : Instant) (token : Nat) (actorLabel : Option String),
      s.scenarioController = some c → (token = 0 ∨ OversizedLabel actorLabel) →
        (∃ response,
          s.managementRequestResponse now (.confirm token actorLabel) = .ok (response, s)) ∧
        ∃ response,
          s.managementRequestResponse now (.cancel token actorLabel) = .ok (response, s) := by
  obtain ⟨coherent, hrev⟩ := coherent_of_run hc run
  constructor
  · intro i o c' hs rejected
    exact (coherent.effect hrev hs).1.keptButExpired coherent rejected
  · intro s now token actorLabel _ hrefused
    exact ⟨Server.answerToken_refused hrefused, Server.answerToken_refused hrefused⟩

/-- A second prepare for a target that is prepared already. -/
theorem failed_operation_atomic_small : ∃ c c' : ScenarioController, ∃ p o,
    c.prepared[(⟨1⟩ : ActivationToken)]? = some p ∧
      controllerMachine.step c (.prepareActivation (.endpoint 7) "dropout" none 5) = .ok (o, c') ∧
      o.rejected = true ∧ c'.prepared[(⟨1⟩ : ActivationToken)]? = some p := by
  have run : controllerMachine.Run (.new smallCatalog) _ _ :=
    Machine.Run.nil.snoc (e := .prepareActivation (.endpoint 7) "holdover" none 0) rfl
  obtain ⟨h, c, run, p, hp, hlive, o, c', hs, rejected⟩ : ∃ h c,
      controllerMachine.Run (.new smallCatalog) h c ∧ ∃ p,
      c.prepared[(⟨1⟩ : ActivationToken)]? = some p ∧ 5 < p.expiresAt ∧ ∃ o c',
      controllerMachine.step c (.prepareActivation (.endpoint 7) "dropout" none 5) = .ok (o, c') ∧
      o.rejected = true :=
    ⟨_, _, run, _, rfl, by decide, _, _, rfl, rfl⟩
  have hkept := (failed_operation_atomic compileCatalog_small run).1 _ o c' hs rejected
  refine ⟨c, c', p, o, hp, hs, rejected, hkept.live _ p hp fun now hnow => ?_⟩
  obtain rfl := Option.some.inj hnow
  exact hlive

end PmuSimulator

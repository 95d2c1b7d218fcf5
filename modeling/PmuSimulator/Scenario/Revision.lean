import Mathlib
import PmuSimulator.Scenario.Invariant

/-!
# The revision of the controller

Clients take the revision for a version of the lifecycle records: two reads that show one revision
are reads of the same records. Every operation either leaves the records alone or moves the revision
on, and the revision never moves back.
-/

open Std (ExtTreeMap)

namespace PmuSimulator

namespace ScenarioController

/-- Two controllers hold the same lifecycle records. -/
structure SameRecords (c c' : ScenarioController) : Prop where
  prepared : c'.prepared = c.prepared
  preparedTargets : c'.preparedTargets = c.preparedTargets
  pending : c'.pending = c.pending
  active : c'.active = c.active

namespace SameRecords

variable {c c' c'' : ScenarioController}

lemma refl : SameRecords c c := ⟨rfl, rfl, rfl, rfl⟩

lemma trans (h : SameRecords c c') (h' : SameRecords c' c'') : SameRecords c c'' :=
  ⟨h'.prepared.trans h.prepared, h'.preparedTargets.trans h.preparedTargets,
    h'.pending.trans h.pending, h'.active.trans h.active⟩

end SameRecords

/-- A later controller whose revision has not moved holds the same records. -/
structure Advances (c c' : ScenarioController) : Prop where
  revision : c.revision ≤ c'.revision
  faithful : c'.revision = c.revision → SameRecords c c'

namespace Advances

variable {c c' c'' : ScenarioController}

lemma refl : Advances c c := ⟨Nat.le_refl _, fun _ => .refl⟩

lemma trans (h : Advances c c') (h' : Advances c' c'') : Advances c c'' where
  revision := h.revision.trans h'.revision
  faithful := by
    intro heq
    have h₁ := h.revision
    have h₂ := h'.revision
    exact (h.faithful (by omega)).trans (h'.faithful (by omega))

/-- A revision that has moved on is faithful whatever the records are. -/
lemma of_lt (h : c.revision < c'.revision) : Advances c c' :=
  ⟨h.le, fun heq => absurd heq.symm h.ne⟩

/-- Each preparation that goes moves the revision on by one. -/
lemma discarded (c : ScenarioController) (now : Instant) : Advances c (c.discarded now) where
  revision := by
    rw [discarded_revision]
    exact Nat.le_add_right _ _
  faithful := by
    intro heq
    rw [discarded_revision] at heq
    have hnone : c.expiredEntries now = [] := List.eq_nil_of_length_eq_zero (by omega)
    have hsame : c.discarded now = c := by
      rw [ScenarioController.discarded, hnone]
      rfl
    rw [hsame]
    exact .refl

lemma issued (c : ScenarioController) (target : ScenarioTarget) (action : StoredScenarioAction)
    (actorLabel : Option String) (expiresAt : Instant) :
    Advances c (c.issued target action actorLabel expiresAt) :=
  .of_lt (Nat.lt_succ_self _)

lemma consumed (c : ScenarioController) (token : ActivationToken) (p : PreparedScenarioAction) :
    Advances c (c.consumed token p) :=
  .of_lt (Nat.lt_succ_self _)

/-- A boundary with nothing pending and nothing expired leaves the active records alone. -/
lemma crossed {n : Nat} {active : ExtTreeMap ScenarioTarget ActiveScenarioAction}
    (hout : c.Outlives n active) : Advances c (c.crossed n active) := by
  cases hempty : c.pending.isEmpty with
  | false =>
    refine .of_lt ?_
    simp [ScenarioController.crossed, hempty]
  | true =>
    have hnone : c.pending = ∅ := ExtTreeMap.isEmpty_iff.mp hempty
    have happlied : (c.applyPending n).active = c.active := by
      refine ExtTreeMap.ext_getElem? fun target => ?_
      rw [applyPending_active, hnone]
      simp
    by_cases hsize : active.size = (c.applyPending n).active.size
    · have hactive : active = c.active :=
        (OrderedMap.retain_eq_of_size hout hsize).trans happlied
      refine ⟨by simp [ScenarioController.crossed, hempty, hsize], fun _ => ?_⟩
      exact ⟨rfl, rfl, hnone.symm, hactive⟩
    · refine .of_lt ?_
      simp [ScenarioController.crossed, hsize]

end Advances

variable {c c' : ScenarioController} {i : ControllerInput} {o : ControllerOutput}

/-- One operation, whether it answers or refuses. -/
lemma Effect.advances (he : Effect c i o c') : Advances c c' := by
  cases he with
  | refused => exact .refl
  | discarded => exact .discarded c _
  | snapshot => exact .discarded c _
  | issued => exact (Advances.discarded c _).trans (.issued _ _ _ _ _)
  | late => exact .consumed c _ _
  | confirmed =>
    -- the revision has moved before the pending record is stored
    refine .of_lt ?_
    change c.revision < ((c.consumed _ _).discarded _).revision
    rw [discarded_revision, consumed_revision]
    omega
  | cancelled => exact (Advances.consumed c _ _).trans (.discarded _ _)
  | crossed _ outlives => exact .crossed outlives

section Runs

variable {raw : RawScenarioCatalog} {catalog : ScenarioCatalog}
  {h h' : List (Machine.Taken ScenarioController ControllerInput ControllerOutput)}

/-- Coherent controllers only ever advance. -/
lemma Coherent.advances_of_run (hcoh : Coherent c) (hrev : c.revision ≤ u64Max)
    (run : controllerMachine.Run c h c') : Advances c c' := by
  have hall := run.invariant
    (P := fun r => (Coherent r ∧ r.revision ≤ u64Max) ∧ Advances c r) ⟨⟨hcoh, hrev⟩, .refl⟩ ?_
  · exact hall.2
  · rintro r e o r' ⟨⟨hr, hrev⟩, hadv⟩ hs
    obtain ⟨he, hrev'⟩ := hr.effect hrev hs
    exact ⟨⟨he.coherent hr, hrev'⟩, hadv.trans he.advances⟩

/-- Between any two points of a run, whatever the operations between them answered, the revision has
not decreased, and where it is equal the lifecycle records are the same. -/
theorem revision_faithful (hc : compileCatalog raw = .ok catalog)
    (run : controllerMachine.Run (.new catalog) h c) (run' : controllerMachine.Run c h' c') :
    c.revision ≤ c'.revision ∧
      (c'.revision = c.revision → c'.prepared = c.prepared ∧
        c'.preparedTargets = c.preparedTargets ∧ c'.pending = c.pending ∧
        c'.active = c.active) := by
  obtain ⟨hcoh, hrev⟩ := coherent_of_run hc run
  have hadv := hcoh.advances_of_run hrev run'
  refine ⟨hadv.revision, fun heq => ?_⟩
  obtain ⟨hprepared, htargets, hpending, hactive⟩ := hadv.faithful heq
  exact ⟨hprepared, htargets, hpending, hactive⟩

/-- A prepare that is refused and a boundary that changes nothing leave the revision where it is. -/
theorem revision_faithful_small : ∃ c c' : ScenarioController, ∃ h h',
    controllerMachine.Run (.new smallCatalog) h c ∧ controllerMachine.Run c h' c' ∧
      h'.length = 2 ∧ c.revision = 1 ∧ c'.prepared = c.prepared := by
  have run : controllerMachine.Run (.new smallCatalog) _ _ :=
    Machine.Run.nil.snoc (e := .prepareActivation (.endpoint 7) "holdover" none 0) rfl
  obtain ⟨_, c, run, h₁, _, c', run', hlength, h₁'⟩ : ∃ h c,
      controllerMachine.Run (.new smallCatalog) h c ∧ c.revision = 1 ∧
      ∃ h' c', controllerMachine.Run c h' c' ∧ h'.length = 2 ∧ c'.revision = 1 :=
    ⟨_, _, run, rfl, _, _,
      (Machine.Run.nil.snoc (e := .prepareActivation (.endpoint 7) "dropout" none 5) rfl).snoc
        (e := .advanceBoundary 3) rfl, rfl, rfl⟩
  exact ⟨c, c', _, _, run, run', hlength, h₁,
    ((revision_faithful compileCatalog_small run run').2 (h₁'.trans h₁.symm)).1⟩

end Runs

end ScenarioController

end PmuSimulator

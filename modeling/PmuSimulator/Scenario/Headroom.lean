import Mathlib
import PmuSimulator.Scenario.Window

/-!
# Revisions that are left

The revision is a `u64`, and an operation that would take it past the end panics. An operation
changes the revision once for every preparation it drops, and at most once more: while there are
that many revisions left, no operation fails.
-/

namespace PmuSimulator

open Std (ExtTreeMap)

namespace ScenarioController

/-- There is a revision left for each preparation, and one more. -/
def RevisionsLeft (c : ScenarioController) : Prop := c.revision + c.prepared.size + 1 ≤ u64Max

instance decidableRevisionsLeft (c : ScenarioController) : Decidable c.RevisionsLeft :=
  inferInstanceAs (Decidable (_ ≤ _))

variable {c : ScenarioController}

lemma expiredEntries_length_le (c : ScenarioController) (now : Instant) :
    (c.expiredEntries now).length ≤ c.prepared.size :=
  (List.length_filter_le _ _).trans_eq ExtTreeMap.length_toList

lemma RevisionsLeft.discards (h : c.RevisionsLeft) (now : Instant) :
    c.discardExpiredPreparations now = .ok (c.discarded now) ∧
      (c.discarded now).revision + 1 ≤ u64Max := by
  have hcost := c.expiredEntries_length_le now
  unfold RevisionsLeft at h
  refine ⟨(discardExpiredPreparations_eq_ok (by omega)).mpr ⟨by omega, rfl⟩, ?_⟩
  rw [discarded_revision]
  omega

/-- Nothing is left to be discarded where it was just done. -/
lemma discarded_again (c : ScenarioController) (now : Instant) :
    (c.discarded now).expiredEntries now = [] := by
  refine List.eq_nil_iff_forall_not_mem.mpr fun entry hmem => ?_
  obtain ⟨hprepared, hexpired⟩ := mem_expiredEntries.mp hmem
  exact Nat.not_lt.mpr hexpired ((discarded_prepared c now).mp hprepared).2

/-- Preparing an action behind a discard at the same time. -/
lemma prepareAction_discarded (now : Instant) (target : ScenarioTarget)
    (action : StoredScenarioAction) (actorLabel : Option String) (permitsActiveTarget : Bool)
    {d : ScenarioController} (hd : c.discardExpiredPreparations now = .ok d)
    (hrevision : d.revision + 1 ≤ u64Max) :
    ∃ outcome, c.prepareAction target action actorLabel now permitsActiveTarget = .ok outcome := by
  unfold prepareAction
  rw [hd, ok_bind]
  split_ifs
  · exact ⟨_, rfl⟩
  · exact ⟨_, rfl⟩
  · split
    · exact ⟨_, rfl⟩
    · exact ⟨_, rfl⟩
    · rename_i expiresAt nextToken _ _
      have hissued : (d.issue target action actorLabel expiresAt nextToken).revision + 1 ≤ u64Max :=
        hrevision
      rw [bumpRevision_of_le hissued]
      exact ⟨_, rfl⟩

lemma RevisionsLeft.prepareActivation (h : c.RevisionsLeft) (target : ScenarioTarget)
    (scenarioName : String) (actorLabel : Option String) (now : Instant) :
    ∃ outcome, c.prepareActivation target scenarioName actorLabel now = .ok outcome := by
  unfold ScenarioController.prepareActivation
  cases c.validateActivation target scenarioName actorLabel with
  | error e => exact ⟨_, rfl⟩
  | ok scenario =>
    obtain ⟨hd, hrevision⟩ := h.discards now
    exact prepareAction_discarded now target _ actorLabel false hd hrevision

lemma RevisionsLeft.prepareClear (h : c.RevisionsLeft) (target : ScenarioTarget)
    (actorLabel : Option String) (now : Instant) :
    ∃ outcome, c.prepareClear target actorLabel now = .ok outcome := by
  unfold ScenarioController.prepareClear
  cases validateClear target actorLabel with
  | error e => exact ⟨_, rfl⟩
  | ok _ =>
    obtain ⟨hd, hrevision⟩ := h.discards now
    simp only [hd, ok_bind]
    split_ifs
    · exact ⟨_, rfl⟩
    · cases (c.discarded now).requireSustained target with
      | error e => exact ⟨_, rfl⟩
      | ok _ =>
        have hagain : (c.discarded now).discardExpiredPreparations now =
            .ok ((c.discarded now).discarded now) := by
          refine (discardExpiredPreparations_eq_ok ((Nat.le_succ _).trans hrevision)).mpr ⟨?_, rfl⟩
          rw [discarded_again, List.length_nil, Nat.add_zero]
          exact (Nat.le_succ _).trans hrevision
        refine prepareAction_discarded now target _ actorLabel true hagain ?_
        rw [discarded_revision, discarded_again]
        exact hrevision

lemma RevisionsLeft.consumption (h : c.RevisionsLeft) (token : ActivationToken)
    (p : PreparedScenarioAction) (now : Instant) :
    c.revision + c.consumptionCost token p now ≤ u64Max := by
  have hcost := (c.consumed token p).expiredEntries_length_le now
  have hfewer : (c.consumed token p).prepared.size ≤ c.prepared.size := ExtTreeMap.size_erase_le
  unfold RevisionsLeft at h
  unfold consumptionCost
  omega

lemma RevisionsLeft.confirm (h : c.RevisionsLeft) (token : ActivationToken) (now : Instant) :
    ∃ outcome, c.confirm token now = .ok outcome := by
  cases hp : c.prepared[token]? with
  | none => exact ⟨_, confirm_of_none hp⟩
  | some p =>
    rcases Nat.lt_or_ge now p.expiresAt with hlive | hlate
    · rw [confirm_of_live hp hlive, if_pos (h.consumption token p now)]
      exact ⟨_, rfl⟩
    · rw [confirm_of_late hp hlate, if_pos (by unfold RevisionsLeft at h; omega)]
      exact ⟨_, rfl⟩

lemma RevisionsLeft.cancel (h : c.RevisionsLeft) (token : ActivationToken) (now : Instant) :
    ∃ outcome, c.cancel token now = .ok outcome := by
  cases hp : c.prepared[token]? with
  | none => exact ⟨_, cancel_of_none hp⟩
  | some p =>
    rcases Nat.lt_or_ge now p.expiresAt with hlive | hlate
    · rw [cancel_of_live hp hlive, if_pos (h.consumption token p now)]
      exact ⟨_, rfl⟩
    · rw [cancel_of_late hp hlate, if_pos (by unfold RevisionsLeft at h; omega)]
      exact ⟨_, rfl⟩

lemma RevisionsLeft.snapshot (h : c.RevisionsLeft) (now : Instant) :
    ∃ outcome, c.snapshot now = .ok outcome := by
  unfold ScenarioController.snapshot
  rw [(h.discards now).1]
  exact ⟨_, rfl⟩

lemma RevisionsLeft.crossBoundary (h : c.RevisionsLeft) (coherent : Coherent c)
    (sampleIndex : Nat) : ∃ d, c.crossBoundary sampleIndex = .ok d := by
  obtain ⟨active, hactive⟩ := coherent.exists_outlives sampleIndex
  have hexpire : (c.applyPending sampleIndex).expireTransientActions sampleIndex =
      .ok { c.applyPending sampleIndex with active } := by
    simp only [expireTransientActions]
    rw [show OrderedMap.retain _ _ = _ from hactive]
    rfl
  have hcrossed : ({ c.applyPending sampleIndex with active } : ScenarioController).revision + 1 ≤
      u64Max := by
    unfold RevisionsLeft at h
    change c.revision + 1 ≤ u64Max
    omega
  simp only [ScenarioController.crossBoundary, hexpire, ok_bind]
  split
  · exact ⟨_, bumpRevision_of_le hcrossed⟩
  · exact ⟨_, rfl⟩

/-- A boundary does not fail; it may be refused for its index. -/
lemma RevisionsLeft.advanceBoundary (h : c.RevisionsLeft) (coherent : Coherent c)
    (sampleIndex : Nat) : ∃ outcome, c.advanceBoundary sampleIndex = .ok outcome := by
  obtain ⟨d, hd⟩ := h.crossBoundary coherent sampleIndex
  unfold ScenarioController.advanceBoundary
  rw [hd]
  split
  · split
    · exact ⟨_, rfl⟩
    · exact ⟨_, rfl⟩
  · exact ⟨_, rfl⟩

end ScenarioController

end PmuSimulator

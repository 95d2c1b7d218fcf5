import Mathlib
import PmuSimulator.Foundation.Attempt

/-!
# Attempts on components

A state seen as a family of components, and an attempt that is one component's own: it does to that
component what an attempt on the component alone does, and nothing to the others. A loop over
components whose turns are their own does to each component what its turn does, or nothing where an
earlier turn failed.
-/

universe u v w x y

namespace Attempt

variable {φ : Type u} {σ : Type v} {τ : Type v} {ω : Type w} {ω' : Type w} {ι : Type y}

/-- What is seen of a state and of a log at each component. -/
structure Components (ι : Type y) (σ τ : Type v) (ω ω' : Type w) where
  view : ι → σ → τ
  entry : ι → ω → Option ω'

variable {k : Components ι σ τ ω ω'}

/-- The attempt `p` from `s` is the component `i`'s own: on it, it is the attempt `q`. -/
structure Own (k : Components ι σ τ ω ω') (i : ι) (s : σ) (p : Attempt φ σ ω PUnit.{x + 1})
    (q : Attempt φ τ ω' PUnit.{x + 1}) : Prop where
  result : p.result = q.result
  here : k.view i p.state = q.state
  log : p.log.filterMap (k.entry i) = q.log
  elsewhere : ∀ j, j ≠ i → k.view j p.state = k.view j s
  silent : ∀ j, j ≠ i → p.log.filterMap (k.entry j) = []

/-- What a component has seen of an attempt: nothing. -/
def Untouched (k : Components ι σ τ ω ω') (i : ι) (s : σ) (p : Attempt φ σ ω PUnit.{x + 1}) :
    Prop :=
  k.view i p.state = k.view i s ∧ p.log.filterMap (k.entry i) = []

/-- What a component has seen of an attempt: the attempt `q` on it alone. -/
def Touched (k : Components ι σ τ ω ω') (i : ι) (p : Attempt φ σ ω PUnit.{x + 1})
    (q : Attempt φ τ ω' PUnit.{x + 1}) : Prop :=
  k.view i p.state = q.state ∧ p.log.filterMap (k.entry i) = q.log

variable {f : ι → σ → Attempt φ σ ω PUnit.{x + 1}} {g : ι → τ → Attempt φ τ ω' PUnit.{x + 1}}
  {i : ι} {is : List ι} {s : σ}

/-- A loop does nothing to a component that has no turn. -/
lemma each_untouched (hown : ∀ j s, Own k j s (f j s) (g j (k.view j s))) (hi : i ∉ is) :
    Untouched k i s (each f is s) := by
  induction is generalizing s with
  | nil => exact ⟨rfl, rfl⟩
  | cons j is ih =>
    obtain ⟨hne, hi⟩ := List.ne_and_not_mem_of_not_mem_cons hi
    have hj := hown j s
    cases hr : (f j s).result with
    | error e =>
      rw [each, andThen_error hr]
      exact ⟨hj.elsewhere i hne, hj.silent i hne⟩
    | ok a =>
      rw [each, andThen_ok hr]
      obtain ⟨hview, hlog⟩ := ih hi (s := (f j s).state)
      refine ⟨hview.trans (hj.elsewhere i hne), ?_⟩
      rw [List.filterMap_append, hj.silent i hne, hlog]
      rfl

/-- A loop over different components does to each of them what its turn does, unless the loop has
failed before it came to it. -/
theorem each_at (hown : ∀ j s, Own k j s (f j s) (g j (k.view j s))) (hnd : is.Nodup)
    (hi : i ∈ is) :
    Touched k i (each f is s) (g i (k.view i s)) ∨
      Untouched k i s (each f is s) ∧ ∃ e, (each f is s).result = .error e := by
  induction is generalizing s with
  | nil => cases hi
  | cons j is ih =>
    obtain ⟨hnotin, hnd⟩ := List.nodup_cons.mp hnd
    have hj := hown j s
    cases hr : (f j s).result with
    | error e =>
      rw [each, andThen_error hr]
      by_cases heq : i = j
      · subst heq
        exact .inl ⟨hj.here, hj.log⟩
      · exact .inr ⟨⟨hj.elsewhere i heq, hj.silent i heq⟩, e, rfl⟩
    | ok a =>
      rw [each, andThen_ok hr]
      rcases List.mem_cons.mp hi with rfl | hi
      · -- its turn is over, and nothing after it touches it
        obtain ⟨hview, hlog⟩ := each_untouched hown hnotin (s := (f i s).state)
        refine .inl ⟨hview.trans hj.here, ?_⟩
        rw [List.filterMap_append, hj.log, hlog, List.append_nil]
      · have hne : i ≠ j := fun h => hnotin (h ▸ hi)
        have hview := hj.elsewhere i hne
        have hsilent := hj.silent i hne
        rcases ih hnd hi (s := (f j s).state) with ⟨hstate, hlog⟩ | ⟨⟨hstate, hlog⟩, herror⟩
        · rw [hview] at hstate hlog
          refine .inl ⟨hstate, ?_⟩
          rw [List.filterMap_append, hsilent, hlog]
          rfl
        · refine .inr ⟨⟨hstate.trans hview, ?_⟩, herror⟩
          rw [List.filterMap_append, hsilent, hlog]
          rfl

/-- A loop over different components succeeds exactly when every turn does. -/
theorem each_result_ok (hown : ∀ j s, Own k j s (f j s) (g j (k.view j s))) (hnd : is.Nodup) :
    (each f is s).result = .ok ⟨⟩ ↔ ∀ j ∈ is, (g j (k.view j s)).result = .ok ⟨⟩ := by
  induction is generalizing s with
  | nil => simp [each]
  | cons j is ih =>
    obtain ⟨hnotin, hnd⟩ := List.nodup_cons.mp hnd
    have hj := hown j s
    rw [each, andThen_result_eq_ok]
    constructor
    · rintro ⟨a, hok, hrest⟩ i hi
      rcases List.mem_cons.mp hi with rfl | hi
      · exact hj.result ▸ hok
      · have hne : i ≠ j := fun h => hnotin (h ▸ hi)
        rw [← hj.elsewhere i hne]
        exact (ih hnd).mp hrest i hi
    · intro hall
      refine ⟨⟨⟩, hj.result.trans (hall j List.mem_cons_self), (ih hnd).mpr fun i hi => ?_⟩
      have hne : i ≠ j := fun h => hnotin (h ▸ hi)
      rw [hj.elsewhere i hne]
      exact hall i (List.mem_cons_of_mem j hi)

/-- Where a loop over different components succeeds, every component has had its turn. -/
theorem each_touched (hown : ∀ j s, Own k j s (f j s) (g j (k.view j s))) (hnd : is.Nodup)
    (hi : i ∈ is) (hok : (each f is s).result = .ok ⟨⟩) :
    Touched k i (each f is s) (g i (k.view i s)) := by
  rcases each_at hown hnd hi (s := s) with htouched | ⟨-, e, herror⟩
  · exact htouched
  · cases hok.symm.trans herror

end Attempt

import Mathlib
import PmuSimulator.Foundation.Machine

/-!
# Observers of a run

An observer hears something of some steps of a run, and nothing of the others. Where a step it does
not hear leaves its view alone, and a step it hears takes views that agree to views that agree,
what it hears of a run decides what it comes to see: `Unwinds.view_eq`.
-/

universe u v w x y

namespace Machine

/-- What an observer hears of a step, and what it sees after a run. -/
structure Observer (σ : Type u) (ε : Type v) (ω : Type u) (ι : Type x) (β : Type y) where
  hears : Taken σ ε ω → Option ι
  view : List (Taken σ ε ω) → σ → β

namespace Observer

variable {σ : Type u} {ε : Type v} {ω : Type u} {φ : Type w} {ι : Type x} {β : Type y}

/-- What an observer hears of a run, in order. -/
def heard (o : Observer σ ε ω ι β) (h : List (Taken σ ε ω)) : List ι := h.filterMap o.hears

/-- A step is taken at the end of a run from `s`. -/
structure Ends (m : Machine σ ε ω φ) (s : σ) (h : List (Taken σ ε ω)) (x : Taken σ ε ω) :
    Prop where
  run : m.Run s h x.before
  step : m.step x.before x.input = .ok (x.output, x.after)

/-- Where the steps of a run from `s` are all allowed, what is heard decides what is seen. -/
structure Unwinds (o : Observer σ ε ω ι β) (m : Machine σ ε ω φ) (s : σ)
    (Allowed : Taken σ ε ω → Prop) : Prop where
  silent : ∀ {h x}, Ends m s h x → Allowed x → o.hears x = none →
    o.view (h ++ [x]) x.after = o.view h x.before
  told : ∀ {h x h' x'}, Ends m s h x → Ends m s h' x' → Allowed x → Allowed x' →
    o.view h x.before = o.view h' x'.before → ∀ {i}, o.hears x = some i → o.hears x' = some i →
    o.view (h ++ [x]) x.after = o.view (h' ++ [x']) x'.after

variable {o : Observer σ ε ω ι β} {m : Machine σ ε ω φ} {s t t' : σ}
  {Allowed : Taken σ ε ω → Prop} {h h' : List (Taken σ ε ω)}

/-- What is not heard is not seen. -/
lemma Unwinds.unheard (unwinds : o.Unwinds m s Allowed) (before : m.Run s h t)
    (run : m.Run t h' t') (allowed : ∀ x ∈ h', Allowed x) (silent : ∀ x ∈ h', o.hears x = none) :
    o.view (h ++ h') t' = o.view h t := by
  induction run with
  | nil => rw [List.append_nil]
  | @snoc h' r r' e output run step ih =>
    have hlast : Ends m s (h ++ h') ⟨r, e, output, r'⟩ := ⟨before.trans run, step⟩
    rw [← List.append_assoc]
    apply (unwinds.silent hlast (allowed _ List.mem_concat_self)
      (silent _ List.mem_concat_self)).trans
    exact ih (fun x hx => allowed x (List.mem_append_left _ hx))
      fun x hx => silent x (List.mem_append_left _ hx)

/-- The step of a history in which the last of what is heard is heard. -/
lemma heard_eq_concat {is : List ι} {i : ι} (hheard : o.heard h = is ++ [i]) :
    ∃ before x after, h = before ++ x :: after ∧ o.heard before = is ∧ o.hears x = some i ∧
      ∀ y ∈ after, o.hears y = none := by
  obtain ⟨h₁, h₂, rfl, hfirst, hrest⟩ := List.filterMap_eq_append_iff.mp hheard
  obtain ⟨quiet, x, after, rfl, hquiet, hx, hafter⟩ := List.filterMap_eq_cons_iff.mp hrest
  refine ⟨h₁ ++ quiet, x, after, (List.append_assoc _ _ _).symm, ?_, hx,
    List.filterMap_eq_nil_iff.mp hafter⟩
  rw [heard, List.filterMap_append, hfirst, List.filterMap_eq_nil_iff.mpr hquiet, List.append_nil]

/-- Two runs of which an observer hears the same end in the same view. -/
theorem Unwinds.view_eq (unwinds : o.Unwinds m s Allowed) (run : m.Run s h t)
    (run' : m.Run s h' t') (allowed : ∀ x ∈ h, Allowed x) (allowed' : ∀ x ∈ h', Allowed x)
    (same : o.heard h = o.heard h') : o.view h t = o.view h' t' := by
  induction run generalizing h' t' with
  | nil =>
    have hsilent : ∀ x ∈ h', o.hears x = none := List.filterMap_eq_nil_iff.mp same.symm
    exact (unwinds.unheard .nil run' allowed' hsilent).symm
  | @snoc h r r' e output run step ih =>
    have hlast : Ends m s h ⟨r, e, output, r'⟩ := ⟨run, step⟩
    have hbefore : ∀ x ∈ h, Allowed x := fun x hx => allowed x (List.mem_append_left _ hx)
    have hallowed := allowed _ List.mem_concat_self
    rw [heard, List.filterMap_append] at same
    cases hhears : o.hears ⟨r, e, output, r'⟩ with
    | none =>
      rw [List.filterMap_cons_none hhears, List.filterMap_nil, List.append_nil] at same
      exact (unwinds.silent hlast hallowed hhears).trans (ih run' hbefore allowed' same)
    | some i =>
      rw [List.filterMap_cons_some hhears, List.filterMap_nil] at same
      obtain ⟨before, x, after, rfl, hheard, hx, hquiet⟩ := heard_eq_concat same.symm
      obtain ⟨hrun, hstep, hend⟩ := run'.step_of_mid
      have hviews :=
        ih hrun hbefore (fun y hy => allowed' y (List.mem_append_left _ hy)) hheard.symm
      have hlast' : Ends m s before x := ⟨hrun, hstep⟩
      have htold := unwinds.told hlast hlast' hallowed (allowed' x (by simp)) hviews hhears hx
      -- what follows in the other run is not heard
      have hunheard := unwinds.unheard (hrun.snoc hstep) hend
        (fun y hy => allowed' y (by simp [hy])) hquiet
      rw [List.append_assoc, List.singleton_append] at hunheard
      exact htold.trans hunheard.symm

end Observer

end Machine

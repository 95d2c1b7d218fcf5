import Mathlib
import PmuSimulator.Foundation.Attempt

/-!
# Attempts that succeed

That an attempt does not fail is shown along its parts. What a part returns does not matter for it,
only that it returns, and in what state it leaves the next one.
-/

namespace Attempt

universe u v w x y

variable {φ : Type u} {σ τ : Type v} {ω ω' : Type w} {α β : Type x}

/-- The attempt does not fail. -/
def Succeeds (p : Attempt φ σ ω α) : Prop := ∃ a, p.result = .ok a

lemma succeeds_done (a : α) (s : σ) : (done a s : Attempt φ σ ω α).Succeeds := ⟨a, rfl⟩

lemma succeeds_note (o : ω) (s : σ) : (note o s : Attempt φ σ ω PUnit.{x + 1}).Succeeds :=
  ⟨⟨⟩, rfl⟩

lemma Succeeds.andThen {p : Attempt φ σ ω α} {f : α → σ → Attempt φ σ ω β} (hp : p.Succeeds)
    (hf : ∀ a, p.result = .ok a → (f a p.state).Succeeds) : (p.andThen f).Succeeds := by
  obtain ⟨a, ha⟩ := hp
  obtain ⟨b, hb⟩ := hf a ha
  exact ⟨b, andThen_result_eq_ok.mpr ⟨a, ha, hb⟩⟩

lemma Succeeds.lift {p : Attempt φ σ ω α} (hp : p.Succeeds) (put : σ → τ) (label : ω → ω') :
    (p.lift put label).Succeeds := hp

/-- A loop succeeds if every turn does, whatever the turns before it did. -/
lemma succeeds_each {ι : Type y} {f : ι → σ → Attempt φ σ ω PUnit.{x + 1}} {is : List ι}
    (hf : ∀ i ∈ is, ∀ s, (f i s).Succeeds) (s : σ) : (each f is s).Succeeds := by
  induction is generalizing s with
  | nil => exact succeeds_done _ _
  | cons i is ih =>
    refine (hf i List.mem_cons_self s).andThen fun _ _ => ?_
    exact ih (fun j hj => hf j (List.mem_cons_of_mem i hj)) _

/-- An attempt without a value of interest. -/
lemma Succeeds.result {p : Attempt φ σ ω PUnit.{x + 1}} (hp : p.Succeeds) : p.result = .ok ⟨⟩ :=
  hp.choose_spec

end Attempt

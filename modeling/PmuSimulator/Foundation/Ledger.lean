import Mathlib
import PmuSimulator.Foundation.Attempt

/-!
# Ledgers of attempts

A ledger says what a state is worth, and what an entry of the log puts in or takes out. An attempt is
balanced if what it puts in and takes out makes up for the worth of its two ends. A failure may lose
something: an attempt that fails is only held to its ledger under a proviso.
-/

universe u v w x y

namespace Attempt

/-- What states are worth, and what log entries add to them and take from them. -/
structure Ledger (σ : Type v) (ω : Type w) where
  worth : σ → Nat
  gain : ω → Nat
  loss : ω → Nat

variable {φ : Type u} {σ τ : Type v} {ω ω' : Type w} {α β : Type x}

namespace Ledger

variable (l : Ledger σ ω)

def gains (log : List ω) : Nat := (log.map l.gain).sum

def losses (log : List ω) : Nat := (log.map l.loss).sum

@[simp] lemma gains_append (log log' : List ω) :
    l.gains (log ++ log') = l.gains log + l.gains log' := by
  simp [gains]

@[simp] lemma losses_append (log log' : List ω) :
    l.losses (log ++ log') = l.losses log + l.losses log' := by
  simp [losses]

end Ledger

/-- The attempt keeps the books of the ledger, if it succeeds or the proviso holds. -/
def Balanced (l : Ledger σ ω) (proviso : Prop) (s : σ) (p : Attempt φ σ ω α) : Prop :=
  (proviso ∨ ∃ a, p.result = .ok a) →
    l.worth s + l.gains p.log = l.worth p.state + l.losses p.log

variable {l : Ledger σ ω} {l' : Ledger τ ω'} {proviso : Prop} {s : σ}

lemma balanced_done (a : α) : Balanced l proviso s (done a s : Attempt φ σ ω α) := fun _ => rfl

lemma balanced_failed (e : φ) : Balanced l proviso s (failed e s : Attempt φ σ ω α) := fun _ => rfl

/-- An attempt that logs nothing of weight and leaves the worth alone. -/
lemma balanced_of_still {p : Attempt φ σ ω α} (hworth : l.worth p.state = l.worth s)
    (hgain : ∀ o ∈ p.log, l.gain o = 0) (hloss : ∀ o ∈ p.log, l.loss o = 0) :
    Balanced l proviso s p := by
  intro _
  have hgains : l.gains p.log = 0 := List.sum_eq_zero (by simpa using hgain)
  have hlosses : l.losses p.log = 0 := List.sum_eq_zero (by simpa using hloss)
  rw [hgains, hlosses, hworth]

lemma Balanced.andThen {p : Attempt φ σ ω α} {f : α → σ → Attempt φ σ ω β}
    (hp : Balanced l proviso s p)
    (hf : ∀ a, p.result = .ok a → Balanced l proviso p.state (f a p.state)) :
    Balanced l proviso s (p.andThen f) := by
  cases h : p.result with
  | error e =>
    rw [andThen_error h]
    rintro (hproviso | ⟨a, ha⟩)
    · exact hp (.inl hproviso)
    · cases ha
  | ok a =>
    rw [andThen_ok h]
    intro hheld
    have hfirst := hp (.inr ⟨a, h⟩)
    have hrest := hf a h hheld
    simp only [Ledger.gains_append, Ledger.losses_append]
    omega

lemma Balanced.each {ι : Type y} {f : ι → σ → Attempt φ σ ω PUnit.{x + 1}} {is : List ι}
    (hf : ∀ i ∈ is, ∀ s, Balanced l proviso s (f i s)) :
    Balanced l proviso s (Attempt.each f is s) := by
  induction is generalizing s with
  | nil => exact balanced_done _
  | cons i is ih =>
    refine (hf i List.mem_cons_self s).andThen fun _ _ => ?_
    exact ih fun j hj => hf j (List.mem_cons_of_mem i hj)

/-- A ledger of a part of the state is a ledger of the whole, where the rest keeps its worth. -/
lemma Balanced.lift {p : Attempt φ σ ω α} {put : σ → τ} {label : ω → ω'} {t : τ} {rest : Nat}
    (hp : Balanced l proviso s p) (ht : l'.worth t = l.worth s + rest)
    (hput : l'.worth (put p.state) = l.worth p.state + rest)
    (hgain : ∀ o, l'.gain (label o) = l.gain o) (hloss : ∀ o, l'.loss (label o) = l.loss o) :
    Balanced l' proviso t (p.lift put label) := by
  intro hheld
  have hbooks := hp hheld
  have hgains : l'.gains (p.log.map label) = l.gains p.log := by
    simp only [Ledger.gains, List.map_map]
    exact congrArg List.sum (List.map_congr_left fun o _ => hgain o)
  have hlosses : l'.losses (p.log.map label) = l.losses p.log := by
    simp only [Ledger.losses, List.map_map]
    exact congrArg List.sum (List.map_congr_left fun o _ => hloss o)
  simp only [lift_log, lift_state, hgains, hlosses, hput, ht]
  omega

end Attempt

import Mathlib

/-!
# Attempts

A computation that changes a state in place, keeps a log, and may fail on its way. Unlike a
computation that returns its state only when it succeeds, an attempt has a state and a log also
where it failed: what was done before the failure stays done.

Two rules carry facts through a sequence of attempts. `Keeps` is for invariants of the state and
the log, whatever the result. `andThen_ok` and the lemmas on results follow the path where nothing
fails.
-/

universe u v w x y

/-- The result of a computation, the state it leaves and what it logged. -/
@[ext] structure Attempt (φ : Type u) (σ : Type v) (ω : Type w) (α : Type x) where
  result : Except φ α
  state : σ
  log : List ω

namespace Attempt

variable {φ : Type u} {σ τ : Type v} {ω ω' : Type w} {α β : Type x}

/-- Return a value. -/
def done (a : α) (s : σ) : Attempt φ σ ω α := ⟨.ok a, s, []⟩

/-- Fail where the state is. -/
def failed (e : φ) (s : σ) : Attempt φ σ ω α := ⟨.error e, s, []⟩

/-- Log one entry. -/
def note (o : ω) (s : σ) : Attempt φ σ ω PUnit.{x + 1} := ⟨.ok ⟨⟩, s, [o]⟩

/-- Go on with another attempt unless this one failed. -/
def andThen (p : Attempt φ σ ω α) (f : α → σ → Attempt φ σ ω β) : Attempt φ σ ω β :=
  match p.result with
  | .error e => ⟨.error e, p.state, p.log⟩
  | .ok a => ⟨(f a p.state).result, (f a p.state).state, p.log ++ (f a p.state).log⟩

/-- The same attempt on a larger state, with its log entries labelled. -/
def lift (p : Attempt φ σ ω α) (put : σ → τ) (label : ω → ω') : Attempt φ τ ω' α :=
  ⟨p.result, put p.state, p.log.map label⟩

/-- Attempt something for each element of a list, in order, until one fails. -/
def each {ι : Type y} (f : ι → σ → Attempt φ σ ω PUnit.{x + 1}) :
    List ι → σ → Attempt φ σ ω PUnit.{x + 1}
  | [], s => done ⟨⟩ s
  | i :: is, s => (f i s).andThen fun _ s => each f is s

@[simp] lemma done_result (a : α) (s : σ) : (done a s : Attempt φ σ ω α).result = .ok a := rfl
@[simp] lemma done_state (a : α) (s : σ) : (done a s : Attempt φ σ ω α).state = s := rfl
@[simp] lemma done_log (a : α) (s : σ) : (done a s : Attempt φ σ ω α).log = [] := rfl
@[simp] lemma failed_result (e : φ) (s : σ) :
    (failed e s : Attempt φ σ ω α).result = .error e := rfl
@[simp] lemma failed_state (e : φ) (s : σ) : (failed e s : Attempt φ σ ω α).state = s := rfl
@[simp] lemma failed_log (e : φ) (s : σ) : (failed e s : Attempt φ σ ω α).log = [] := rfl
@[simp] lemma note_result (o : ω) (s : σ) :
    (note o s : Attempt φ σ ω PUnit.{x + 1}).result = .ok ⟨⟩ := rfl
@[simp] lemma note_state (o : ω) (s : σ) :
    (note o s : Attempt φ σ ω PUnit.{x + 1}).state = s := rfl
@[simp] lemma note_log (o : ω) (s : σ) :
    (note o s : Attempt φ σ ω PUnit.{x + 1}).log = [o] := rfl
@[simp] lemma lift_result (p : Attempt φ σ ω α) (put : σ → τ) (label : ω → ω') :
    (p.lift put label).result = p.result := rfl
@[simp] lemma lift_state (p : Attempt φ σ ω α) (put : σ → τ) (label : ω → ω') :
    (p.lift put label).state = put p.state := rfl
@[simp] lemma lift_log (p : Attempt φ σ ω α) (put : σ → τ) (label : ω → ω') :
    (p.lift put label).log = p.log.map label := rfl

lemma andThen_ok {p : Attempt φ σ ω α} {a : α} (h : p.result = .ok a)
    (f : α → σ → Attempt φ σ ω β) :
    p.andThen f =
      ⟨(f a p.state).result, (f a p.state).state, p.log ++ (f a p.state).log⟩ := by
  simp only [andThen, h]

lemma andThen_error {p : Attempt φ σ ω α} {e : φ} (h : p.result = .error e)
    (f : α → σ → Attempt φ σ ω β) : p.andThen f = ⟨.error e, p.state, p.log⟩ := by
  simp only [andThen, h]

@[simp] lemma done_andThen (a : α) (s : σ) (f : α → σ → Attempt φ σ ω β) :
    (done a s).andThen f = f a s := by
  rw [andThen_ok (done_result a s)]
  rfl

@[simp] lemma failed_andThen (e : φ) (s : σ) (f : α → σ → Attempt φ σ ω β) :
    (failed e s).andThen f = failed e s := by
  rw [andThen_error (failed_result e s)]
  rfl

lemma andThen_result_eq_ok {p : Attempt φ σ ω α} {f : α → σ → Attempt φ σ ω β} {b : β} :
    (p.andThen f).result = .ok b ↔ ∃ a, p.result = .ok a ∧ (f a p.state).result = .ok b := by
  cases h : p.result with
  | error e => simp [andThen_error h]
  | ok a => simp [andThen_ok h]

lemma andThen_assoc {γ : Type x} (p : Attempt φ σ ω α) (f : α → σ → Attempt φ σ ω β)
    (g : β → σ → Attempt φ σ ω γ) :
    (p.andThen f).andThen g = p.andThen fun a s => (f a s).andThen g := by
  cases hp : p.result with
  | error e => rw [andThen_error hp, andThen_error rfl, andThen_error hp]
  | ok a =>
    rw [andThen_ok hp, andThen_ok hp]
    cases hf : (f a p.state).result with
    | error e => rw [andThen_error hf, andThen_error rfl]
    | ok b =>
      rw [andThen_ok hf, andThen_ok rfl]
      simp only [List.append_assoc]

/-- Going on with attempts that leave the state alone. -/
lemma andThen_state {p : Attempt φ σ ω α} {f : α → σ → Attempt φ σ ω β}
    (hf : ∀ a s, (f a s).state = s) : (p.andThen f).state = p.state := by
  cases h : p.result with
  | error e => rw [andThen_error h]
  | ok a => rw [andThen_ok h, hf]

/-- Going on with attempts that log nothing. -/
lemma andThen_log {p : Attempt φ σ ω α} {f : α → σ → Attempt φ σ ω β}
    (hf : ∀ a s, (f a s).log = []) : (p.andThen f).log = p.log := by
  cases h : p.result with
  | error e => rw [andThen_error h]
  | ok a => rw [andThen_ok h, hf, List.append_nil]

/-- What a sequence logs is logged by the first attempt or by the one it goes on with. -/
lemma mem_andThen_log {p : Attempt φ σ ω α} {f : α → σ → Attempt φ σ ω β} {o : ω}
    (h : o ∈ (p.andThen f).log) :
    o ∈ p.log ∨ ∃ a, p.result = .ok a ∧ o ∈ (f a p.state).log := by
  cases hp : p.result with
  | error e =>
    rw [andThen_error hp] at h
    exact .inl h
  | ok a =>
    rw [andThen_ok hp] at h
    exact (List.mem_append.mp h).imp_right fun h => ⟨a, rfl, h⟩

/-! ### Invariants -/

section Keeps

/-- The invariant `I` holds where the attempt ends, with its log behind what was logged before. -/
def Keeps (I : σ → List ω → Prop) (before : List ω) (p : Attempt φ σ ω α) : Prop :=
  I p.state (before ++ p.log)

variable {I : σ → List ω → Prop} {before : List ω}

lemma Keeps.done {a : α} {s : σ} (h : I s before) :
    Keeps I before (done a s : Attempt φ σ ω α) := by
  simpa [Keeps] using h

lemma Keeps.failed {e : φ} {s : σ} (h : I s before) :
    Keeps I before (failed e s : Attempt φ σ ω α) := by
  simpa [Keeps] using h

/-- An invariant goes through a sequence of two attempts. -/
lemma Keeps.andThen {p : Attempt φ σ ω α} {f : α → σ → Attempt φ σ ω β}
    (hp : p.Keeps I before)
    (hf : ∀ a, p.result = .ok a → I p.state (before ++ p.log) →
      (f a p.state).Keeps I (before ++ p.log)) :
    (p.andThen f).Keeps I before := by
  cases h : p.result with
  | error e =>
    rw [andThen_error h]
    exact hp
  | ok a =>
    rw [andThen_ok h, Keeps, ← List.append_assoc]
    exact hf a h hp

/-- An invariant every turn keeps is kept by the loop. -/
lemma Keeps.each {ι : Type y} {f : ι → σ → Attempt φ σ ω PUnit.{x + 1}} {is : List ι} {s : σ}
    (h : I s before)
    (hf : ∀ i ∈ is, ∀ s before, I s before → (f i s).Keeps I before) :
    (Attempt.each f is s).Keeps I before := by
  induction is generalizing s before with
  | nil => exact .done h
  | cons i is ih =>
    refine (hf i List.mem_cons_self s before h).andThen fun _ _ hI => ?_
    exact ih hI fun j hj => hf j (List.mem_cons_of_mem i hj)

end Keeps

end Attempt

import Mathlib

/-!
# Deterministic machines and their runs

A machine takes one input at a time and either answers it, moving to a next state, or fails,
which ends the run. All nondeterminism of the modelled world is in the inputs. A run keeps the
steps it took, oldest first, so that a property of a whole history is an invariant of runs.
-/

universe u v w

/-- One input gives an output and a next state, or a failure. -/
structure Machine (σ : Type u) (ε : Type v) (ω : Type u) (φ : Type w) where
  step : σ → ε → Except φ (ω × σ)

namespace Machine

variable {σ : Type u} {ε : Type v} {ω : Type u} {φ : Type w}

/-- One step of a run, with the states around it. -/
structure Taken (σ : Type u) (ε : Type v) (ω : Type u) where
  before : σ
  input : ε
  output : ω
  after : σ

/-- Feed a list of inputs, stopping at the first failure. -/
def exec (m : Machine σ ε ω φ) (s : σ) (inputs : List ε) : Except φ σ :=
  inputs.foldlM (fun s e => Prod.snd <$> m.step s e) s

/-- `Run m s h t`: the steps `h` lead from `s` to `t`. -/
inductive Run (m : Machine σ ε ω φ) (s : σ) : List (Taken σ ε ω) → σ → Prop where
  | nil : Run m s [] s
  | snoc {h : List (Taken σ ε ω)} {t t' : σ} {e : ε} {o : ω} (run : Run m s h t)
      (step : m.step t e = .ok (o, t')) : Run m s (h ++ [⟨t, e, o, t'⟩]) t'

variable {m : Machine σ ε ω φ} {s t : σ}

@[simp] lemma exec_nil : m.exec s [] = .ok s := rfl

lemma exec_cons (e : ε) (es : List ε) :
    m.exec s (e :: es) = (m.step s e).bind fun r => m.exec r.2 es := by
  simp only [exec, List.foldlM_cons]
  cases m.step s e <;> rfl

lemma exec_cons_eq_ok {e : ε} {es : List ε} :
    m.exec s (e :: es) = .ok t ↔
      ∃ o s', m.step s e = .ok (o, s') ∧ m.exec s' es = .ok t := by
  rw [exec_cons]
  cases hs : m.step s e with
  | error f => simp [Except.bind]
  | ok r => simp [Except.bind, Prod.ext_iff]

namespace Run

/-- A run may be continued by another one. -/
lemma trans {h h' : List (Taken σ ε ω)} {r : σ} (hr : m.Run s h r) (hr' : m.Run r h' t) :
    m.Run s (h ++ h') t := by
  induction hr' with
  | nil => simpa using hr
  | snoc _ hstep ih =>
    rw [← List.append_assoc]
    exact .snoc ih hstep

lemma cons {e : ε} {o : ω} {r : σ} {h : List (Taken σ ε ω)} (hstep : m.step s e = .ok (o, r))
    (hr : m.Run r h t) : m.Run s (⟨s, e, o, r⟩ :: h) t :=
  (Run.nil.snoc hstep).trans hr

lemma eq_of_nil (hr : m.Run s [] t) : s = t := by
  generalize hall : ([] : List (Taken σ ε ω)) = all at hr
  cases hr with
  | nil => rfl
  | snoc _ _ => simp at hall

/-- A run can be cut after any number of its steps. -/
lemma split {h h' : List (Taken σ ε ω)} (hr : m.Run s (h ++ h') t) :
    ∃ r, m.Run s h r ∧ m.Run r h' t := by
  induction h' using List.reverseRecOn generalizing t with
  | nil => exact ⟨t, by simpa using hr, .nil⟩
  | append_singleton h' x ih =>
    rw [← List.append_assoc] at hr
    generalize hall : (h ++ h') ++ [x] = all at hr
    cases hr with
    | nil => simp at hall
    | snoc hr hstep =>
      obtain ⟨rfl, hx⟩ := List.append_inj' hall rfl
      obtain ⟨r, h₁, h₂⟩ := ih hr
      obtain rfl := List.singleton_inj.mp hx
      exact ⟨r, h₁, h₂.snoc hstep⟩

/-- The step at any place of a run was really taken, between two shorter runs. -/
lemma step_of_mid {h h' : List (Taken σ ε ω)} {x : Taken σ ε ω}
    (hr : m.Run s (h ++ x :: h') t) :
    m.Run s h x.before ∧ m.step x.before x.input = .ok (x.output, x.after) ∧
      m.Run x.after h' t := by
  rw [← List.singleton_append, ← List.append_assoc] at hr
  obtain ⟨r, h₁, h₂⟩ := hr.split
  generalize hall : h ++ [x] = all at h₁
  cases h₁ with
  | nil => simp at hall
  | snoc h₀ hstep =>
    obtain ⟨rfl, hx⟩ := List.append_inj' hall rfl
    obtain rfl := List.singleton_inj.mp hx
    exact ⟨h₀, hstep, h₂⟩

/-- An invariant of states: true at the start and kept by every step. -/
theorem invariant {P : σ → Prop} {h : List (Taken σ ε ω)} (hr : m.Run s h t) (hinit : P s)
    (hstep : ∀ {r e o r'}, P r → m.step r e = .ok (o, r') → P r') : P t := by
  induction hr with
  | nil => exact hinit
  | snoc _ hs ih => exact hstep ih hs

/-- An invariant of histories, which may speak of every step taken so far. -/
theorem history {P : List (Taken σ ε ω) → σ → Prop} {h : List (Taken σ ε ω)} (hr : m.Run s h t)
    (hinit : P [] s)
    (hstep : ∀ {h r e o r'}, m.Run s h r → P h r → m.step r e = .ok (o, r') →
      P (h ++ [⟨r, e, o, r'⟩]) r') : P h t := by
  induction hr with
  | nil => exact hinit
  | snoc hr hs ih => exact hstep hr ih hs

end Run

/-- A successful execution is a run over the same inputs. -/
theorem run_of_exec {es : List ε} (hex : m.exec s es = .ok t) :
    ∃ h : List (Taken σ ε ω), h.map Taken.input = es ∧ m.Run s h t := by
  induction es generalizing s with
  | nil =>
    obtain rfl : s = t := by simpa using hex
    exact ⟨[], rfl, .nil⟩
  | cons e es ih =>
    obtain ⟨o, r, hs, hex⟩ := exec_cons_eq_ok.mp hex
    obtain ⟨h, rfl, hr⟩ := ih hex
    exact ⟨⟨s, e, o, r⟩ :: h, rfl, .cons hs hr⟩

end Machine

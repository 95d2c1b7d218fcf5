import Mathlib

/-!
# What the simulator takes from the language and the host

Machine integers are natural numbers with the checks the source makes; times are counts of
nanoseconds. A computation that can go wrong ends in a `Failure`: a panic, which ends the
process, or a `ServerError`, which ends the event loop.
-/

namespace PmuSimulator

/-- `u64::MAX`, and `usize::MAX` on the 64-bit targets the simulator runs on. -/
def u64Max : Nat := 2 ^ 64 - 1

/-- `checked_add` on 64-bit unsigned integers. -/
def checkedAdd (a b : Nat) : Option Nat := if a + b ≤ u64Max then some (a + b) else none

/-- `checked_mul` on 64-bit unsigned integers. -/
def checkedMul (a b : Nat) : Option Nat := if a * b ≤ u64Max then some (a * b) else none

/-- `checked_sub` on unsigned integers. -/
def checkedSub (a b : Nat) : Option Nat := if b ≤ a then some (a - b) else none

lemma checkedAdd_eq_some {a b c : Nat} :
    checkedAdd a b = some c ↔ a + b ≤ u64Max ∧ c = a + b := by
  unfold checkedAdd
  split <;> simp_all [eq_comm]

lemma checkedSub_eq_some {a b c : Nat} : checkedSub a b = some c ↔ b ≤ a ∧ c = a - b := by
  unfold checkedSub
  split <;> simp_all [eq_comm]

/-- A reading of the monotonic clock, in nanoseconds. -/
abbrev Instant := Nat

/-- A length of time, in nanoseconds. -/
abbrev Duration := Nat

/-- The last `Instant` the standard library represents: 64-bit signed seconds. -/
def instantMax : Instant := (2 ^ 63 - 1) * 1000000000 + 999999999

/-- `Instant::checked_add`. -/
def Instant.checkedAdd (now : Instant) (d : Duration) : Option Instant :=
  if now + d ≤ instantMax then some (now + d) else none

/-- A reading of the wall clock: nanoseconds after the Unix epoch, negative before it. -/
abbrev SystemTime := Int

/-- `duration_since(UNIX_EPOCH)`: `none` when the clock reads before the epoch. -/
def SystemTime.sinceEpoch (t : SystemTime) : Option Duration :=
  if 0 ≤ t then some t.toNat else none

/-- The kinds of I/O error the source tells apart, and all the others. -/
inductive ErrorKind where
  | wouldBlock
  | interrupted
  | connectionAborted
  | connectionReset
  | brokenPipe
  | other (code : Nat)
  deriving DecidableEq, Repr

/-- `ServerError`: an I/O error passed on, or a message of the server's own. -/
inductive ServerError where
  | io (error : ErrorKind)
  | message (text : String)
  deriving DecidableEq, Repr

/-- How a computation ends early: a panic, or a `ServerError` returned to the event loop. -/
inductive Failure where
  | panic (message : String)
  | server (error : ServerError)
  deriving DecidableEq, Repr

lemma bind_eq_ok {α β φ : Type} {x : Except φ α} {f : α → Except φ β} {b : β} :
    (x >>= f) = .ok b ↔ ∃ a, x = .ok a ∧ f a = .ok b := by
  cases x with
  | error e => simp [bind, Except.bind]
  | ok a => simp [bind, Except.bind]

lemma ok_bind {α β φ : Type} (a : α) (f : α → Except φ β) : (Except.ok a >>= f) = f a := rfl

lemma error_bind {α β φ : Type} (e : φ) (f : α → Except φ β) :
    (Except.error e >>= f) = Except.error e := rfl

lemma eq_ok_of_toOption {α φ : Type} {x : Except φ α} {a : α} (h : x.toOption = some a) :
    x = .ok a := by
  cases x with
  | error e => cases h
  | ok b => exact congrArg Except.ok (Option.some.inj h)

lemma ok_pair_eq {α β φ : Type} {a a' : α} {b b' : β} :
    (.ok (a, b) : Except φ (α × β)) = .ok (a', b') ↔ a' = a ∧ b' = b := by
  simp [eq_comm]

/-- A list that was made element by element. -/
lemma forall₂_of_mapM_ok {α β φ : Type} {f : α → Except φ β} {as : List α} {bs : List β}
    (h : as.mapM f = .ok bs) : List.Forall₂ (fun a b => f a = .ok b) as bs := by
  induction as generalizing bs with
  | nil =>
    obtain rfl := Except.ok.inj h
    exact .nil
  | cons a as ih =>
    rw [List.mapM_cons] at h
    obtain ⟨b, hb, h⟩ := bind_eq_ok.mp h
    obtain ⟨bs', hbs, h⟩ := bind_eq_ok.mp h
    obtain rfl := Except.ok.inj h
    exact .cons hb (ih hbs)

end PmuSimulator

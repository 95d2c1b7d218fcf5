import Mathlib

/-!
# Reading a body field by field

A decoder stands at an offset of a body, and gives a value and the offset behind what it took, or
fails. It reads a field when it does so wherever the field stands. Decoders that are bound together
read their fields one behind the other, so that a decoder of a format and an encoder of it are
compared field by field.
-/

/-- A decoder of a body that stays and an offset that moves. -/
abbrev Decoder (β ε : Type) := ReaderT (List β) (StateT Nat (Except ε))

namespace Decoder

variable {β ε α γ : Type}

/-- Run a decoder from an offset of a body. -/
def runFrom (d : Decoder β ε α) (body : List β) (offset : Nat) : Except ε (α × Nat) :=
  (d.run body).run offset

/-- A check that fails with an error. -/
def check (condition : Prop) [Decidable condition] (error : ε) : Decoder β ε Unit :=
  if condition then pure () else throw error

/-- Take the same kind of field again and again. -/
def times : Nat → Decoder β ε α → Decoder β ε Unit
  | 0, _ => pure ()
  | n + 1, d => do
    let _ ← d
    times n d

lemma runFrom_pure (a : α) (body : List β) (offset : Nat) :
    runFrom (pure a : Decoder β ε α) body offset = .ok (a, offset) := rfl

lemma runFrom_bind (d : Decoder β ε α) (k : α → Decoder β ε γ) (body : List β) (offset : Nat) :
    runFrom (d >>= k) body offset = (runFrom d body offset >>= fun r => runFrom (k r.1) body r.2) :=
  rfl

lemma runFrom_bind_ok {d : Decoder β ε α} {k : α → Decoder β ε γ} {body : List β} {offset : Nat}
    {r : α × Nat} (h : runFrom d body offset = .ok r) :
    runFrom (d >>= k) body offset = runFrom (k r.1) body r.2 := by
  rw [runFrom_bind, h]
  rfl

lemma runFrom_bind_error {d : Decoder β ε α} {k : α → Decoder β ε γ} {body : List β}
    {offset : Nat} {error : ε} (h : runFrom d body offset = .error error) :
    runFrom (d >>= k) body offset = .error error := by
  rw [runFrom_bind, h]
  rfl

/-! ### Fields -/

/-- The decoder takes the field and gives the value, wherever the field stands in one of the bodies
that are considered. -/
def Reads (Body : List β → Prop) (d : Decoder β ε α) (field : List β) (a : α) : Prop :=
  ∀ front rest, Body (front ++ field ++ rest) →
    d.runFrom (front ++ field ++ rest) front.length = .ok (a, (front ++ field).length)

/-- The decoder fails where the field stands. -/
def Fails (Body : List β → Prop) (d : Decoder β ε α) (field : List β) (error : ε) : Prop :=
  ∀ front rest, Body (front ++ field ++ rest) →
    d.runFrom (front ++ field ++ rest) front.length = .error error

variable {Body : List β → Prop} {d : Decoder β ε α} {field field' : List β} {a : α}

lemma Fails.bind {error : ε} (h : Fails Body d field error) (k : α → Decoder β ε γ) :
    Fails Body (d >>= k) field error :=
  fun front rest hbody => runFrom_bind_error (h front rest hbody)

/-- A body that starts with a field the decoder fails on. -/
lemma Fails.whole {error : ε} (h : Fails Body d field error) {rest : List β}
    (hbody : Body (field ++ rest)) : d.runFrom (field ++ rest) 0 = .error error := h [] rest hbody

namespace Reads

lemma pure (a : α) : Reads Body (Pure.pure a : Decoder β ε α) [] a := by
  intro front rest _
  rw [runFrom_pure, List.append_nil]

lemma check {condition : Prop} [Decidable condition] (error : ε) (h : condition) :
    Reads Body (Decoder.check condition error : Decoder β ε Unit) [] () := by
  rw [Decoder.check, if_pos h]
  exact .pure ()

/-- Fields are read one behind the other. -/
lemma bind {k : α → Decoder β ε γ} {b : γ} (h : Reads Body d field a)
    (h' : Reads Body (k a) field' b) : Reads Body (d >>= k) (field ++ field') b := by
  intro front rest hbody
  have hfront : front ++ (field ++ field') ++ rest = front ++ field ++ (field' ++ rest) := by
    simp only [List.append_assoc]
  have hmid : front ++ field ++ (field' ++ rest) = front ++ field ++ field' ++ rest := by
    simp only [List.append_assoc]
  rw [hfront] at hbody ⊢
  rw [runFrom_bind_ok (h front (field' ++ rest) hbody)]
  rw [hmid] at hbody ⊢
  rw [h' (front ++ field) rest hbody, List.append_assoc]

/-- What fails behind a field fails. -/
lemma bind_fails {k : α → Decoder β ε γ} {error : ε} (h : Reads Body d field a)
    (h' : Fails Body (k a) field' error) : Fails Body (d >>= k) (field ++ field') error := by
  intro front rest hbody
  have hfront : front ++ (field ++ field') ++ rest = front ++ field ++ (field' ++ rest) := by
    simp only [List.append_assoc]
  have hmid : front ++ field ++ (field' ++ rest) = front ++ field ++ field' ++ rest := by
    simp only [List.append_assoc]
  rw [hfront] at hbody ⊢
  rw [runFrom_bind_ok (h front (field' ++ rest) hbody)]
  rw [hmid] at hbody ⊢
  exact h' (front ++ field) rest hbody

/-- What takes nothing does not matter. -/
lemma skip {k : α → Decoder β ε γ} {b : γ} (h : Reads Body d [] a)
    (h' : Reads Body (k a) field b) : Reads Body (d >>= k) field b := h.bind h'

lemma skip_fails {k : α → Decoder β ε γ} {error : ε} (h : Reads Body d [] a)
    (h' : Fails Body (k a) field error) : Fails Body (d >>= k) field error := h.bind_fails h'

lemma check_bind {condition : Prop} [Decidable condition] {error : ε} {k : Unit → Decoder β ε γ}
    {b : γ} (h : condition) (h' : Reads Body (k ()) field b) :
    Reads Body (Decoder.check condition error >>= k) field b := (Reads.check error h).bind h'

/-- The last decoder takes nothing more. -/
lemma map {b : γ} (h : Reads Body d field a) {k : α → Decoder β ε γ} (h' : k a = Pure.pure b) :
    Reads Body (d >>= k) field b := by
  have hread := h.bind (k := k) (h'.symm ▸ Reads.pure b)
  rwa [List.append_nil] at hread

lemma times {fields : List (List β)} (h : ∀ field ∈ fields, ∃ a, Reads Body d field a) :
    Reads Body (Decoder.times fields.length d) fields.flatten () := by
  induction fields with
  | nil => exact .pure ()
  | cons field fields ih =>
    obtain ⟨a, hfield⟩ := h field (List.mem_cons_self ..)
    exact hfield.bind (ih fun field hfield => h field (List.mem_cons_of_mem _ hfield))

/-- A body that is one field is read to its end. -/
lemma whole (h : Reads Body d field a) (hbody : Body field) :
    d.runFrom field 0 = .ok (a, field.length) := by
  have hread := h [] [] (by simpa using hbody)
  simpa using hread

end Reads

end Decoder

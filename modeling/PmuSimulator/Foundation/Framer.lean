import Mathlib

/-!
# Cutting a stream into items

A framer looks at the front of a buffer and says that it needs more, that the front is bad, or
which item stands there and how long it is. What it says about a buffer stays true when the buffer
grows, except that it needs more. Then it does not matter in what pieces a stream arrives: feeding
the pieces one by one, and draining the buffer after each, gives what draining the whole stream
gives.
-/

universe u v

inductive Verdict (ρ : Type v) where
  | wait
  | fail
  | item (value : ρ) (length : Nat)

/-- A framer, with the facts that make it safe to ask early. -/
structure Framer (α : Type u) (ρ : Type v) where
  next : List α → Verdict ρ
  next_nil : next [] = .wait
  length_pos : ∀ {xs r n}, next xs = .item r n → 0 < n
  length_le : ∀ {xs r n}, next xs = .item r n → n ≤ xs.length
  item_append : ∀ {xs r n} (ys : List α), next xs = .item r n → next (xs ++ ys) = .item r n
  fail_append : ∀ {xs} (ys : List α), next xs = .fail → next (xs ++ ys) = .fail

namespace Framer

variable {α : Type u} {ρ : Type v} (f : Framer α ρ)

/-- The items found, how much of the buffer they take, whether what follows them is bad. -/
@[ext] structure Drained (ρ : Type v) where
  items : List ρ
  consumed : Nat
  failed : Bool

def Drained.cons (r : ρ) (n : Nat) (d : Drained ρ) : Drained ρ :=
  ⟨r :: d.items, n + d.consumed, d.failed⟩

/-- Take items from the front until there is no complete one, or a bad one. -/
def drain (xs : List α) : Drained ρ :=
  match _h : f.next xs with
  | .wait => ⟨[], 0, false⟩
  | .fail => ⟨[], 0, true⟩
  | .item r n => (drain (xs.drop n)).cons r n
termination_by xs.length
decreasing_by
  have := f.length_pos _h
  have := f.length_le _h
  simp only [List.length_drop]
  omega

variable {f}

lemma drain_wait {xs : List α} (h : f.next xs = .wait) : f.drain xs = ⟨[], 0, false⟩ := by
  rw [drain]
  split <;> simp_all

lemma drain_fail {xs : List α} (h : f.next xs = .fail) : f.drain xs = ⟨[], 0, true⟩ := by
  rw [drain]
  split <;> simp_all

lemma drain_item {xs : List α} {r : ρ} {n : Nat} (h : f.next xs = .item r n) :
    f.drain xs = (f.drain (xs.drop n)).cons r n := by
  rw [drain]
  split <;> simp_all

lemma consumed_le (xs : List α) : (f.drain xs).consumed ≤ xs.length := by
  fun_induction f.drain xs with
  | case1 xs h => exact Nat.zero_le _
  | case2 xs h => exact Nat.zero_le _
  | case3 xs r n h ih =>
    have := f.length_le h
    simp only [List.length_drop] at ih
    simp only [Drained.cons]
    omega

/-- Draining a longer buffer: nothing new after a failure, else it goes on with the rest. -/
theorem drain_append (xs ys : List α) :
    f.drain (xs ++ ys) =
      if (f.drain xs).failed then f.drain xs
      else
        let d := f.drain (xs.drop (f.drain xs).consumed ++ ys)
        ⟨(f.drain xs).items ++ d.items, (f.drain xs).consumed + d.consumed, d.failed⟩ := by
  induction hlen : xs.length using Nat.strong_induction_on generalizing xs with
  | h len ih =>
    cases h : f.next xs with
    | wait =>
      rw [drain_wait h]
      simp
    | fail =>
      rw [drain_fail h, drain_fail (f.fail_append ys h)]
      simp
    | item r n =>
      have hpos := f.length_pos h
      have hle := f.length_le h
      have hrest := ih (xs.drop n).length (by simp only [List.length_drop]; omega) (xs.drop n) rfl
      rw [drain_item h, drain_item (f.item_append ys h), List.drop_append_of_le_length hle, hrest]
      cases hf : (f.drain (xs.drop n)).failed <;>
        simp [Drained.cons, hf, List.drop_drop, Nat.add_assoc]

/-! ### Feeding a stream in pieces -/

variable (f)

/-- A buffer that is drained after each piece, with what came out of it so far. -/
structure Session (α : Type u) (ρ : Type v) where
  buffer : List α := []
  items : List ρ := []
  position : Nat := 0
  failed : Bool := false

def feed (s : Session α ρ) (piece : List α) : Session α ρ :=
  if s.failed then s
  else
    let d := f.drain (s.buffer ++ piece)
    { buffer := (s.buffer ++ piece).drop d.consumed
      items := s.items ++ d.items
      position := s.position + d.consumed
      failed := d.failed }

variable {f}

/-- A session that has taken a stream in. -/
structure Took (f : Framer α ρ) (s : Session α ρ) (stream : List α) : Prop where
  items : s.items = (f.drain stream).items
  position : s.position = (f.drain stream).consumed
  failed : s.failed = (f.drain stream).failed
  buffer : s.failed = false → s.buffer = stream.drop s.position

lemma Took.empty : Took f {} [] := by
  constructor <;> simp [drain_wait f.next_nil]

lemma Took.feed {s : Session α ρ} {stream : List α} (h : Took f s stream) (piece : List α) :
    Took f (f.feed s piece) (stream ++ piece) := by
  cases hs : s.failed with
  | true =>
    have hfailed : (f.drain stream).failed = true := h.failed ▸ hs
    have hdrain : f.drain (stream ++ piece) = f.drain stream := by
      rw [drain_append, if_pos hfailed]
    have hfeed : f.feed s piece = s := by simp [Framer.feed, hs]
    rw [hfeed]
    exact ⟨hdrain ▸ h.items, hdrain ▸ h.position, hdrain ▸ h.failed, by simp [hs]⟩
  | false =>
    have hfailed : (f.drain stream).failed = false := h.failed ▸ hs
    have hdrain := drain_append (f := f) stream piece
    rw [hfailed, ← h.position, ← h.items, ← h.buffer hs] at hdrain
    simp only [Bool.false_eq_true, if_false] at hdrain
    have hfeed : f.feed s piece =
        { buffer := (s.buffer ++ piece).drop (f.drain (s.buffer ++ piece)).consumed
          items := s.items ++ (f.drain (s.buffer ++ piece)).items
          position := s.position + (f.drain (s.buffer ++ piece)).consumed
          failed := (f.drain (s.buffer ++ piece)).failed } := by
      simp [Framer.feed, hs]
    rw [hfeed]
    refine ⟨by rw [hdrain], by rw [hdrain], by rw [hdrain], fun _ => ?_⟩
    simp only
    have hcut : (stream ++ piece).drop s.position = stream.drop s.position ++ piece :=
      List.drop_append_of_le_length (h.position ▸ consumed_le stream)
    rw [← List.drop_drop, hcut, h.buffer hs]

/-- However a stream is cut into pieces, what comes out is what draining it at once gives. -/
theorem took_foldl (pieces : List (List α)) : Took f (pieces.foldl f.feed {}) pieces.flatten := by
  induction pieces using List.reverseRecOn with
  | nil => exact .empty
  | append_singleton ps p ih =>
    simp only [List.foldl_append, List.foldl_cons, List.foldl_nil, List.flatten_append,
      List.flatten_singleton]
    exact ih.feed p

/-! ### Cuts -/

/-- A place between two items of a stream. -/
inductive Cut (f : Framer α ρ) (xs : List α) : Nat → Prop where
  | start : Cut f xs 0
  | item {n k : Nat} {r : ρ} (cut : Cut f xs n) (next : f.next (xs.drop n) = .item r k) :
    Cut f xs (n + k)

namespace Cut

variable {xs : List α} {n : Nat}

lemma le_length (h : Cut f xs n) : n ≤ xs.length := by
  induction h with
  | start => exact Nat.zero_le _
  | item _ next ih =>
    have hle := f.length_le next
    rw [List.length_drop] at hle
    omega

lemma append (h : Cut f xs n) (ys : List α) : Cut f (xs ++ ys) n := by
  induction h with
  | start => exact .start
  | @item n k r cut next ih =>
    have hnext : f.next ((xs ++ ys).drop n) = .item r k := by
      rw [List.drop_append_of_le_length cut.le_length]
      exact f.item_append ys next
    exact ih.item hnext

/-- Draining goes on from any cut. -/
lemma drain (h : Cut f xs n) : (f.drain xs).consumed = n + (f.drain (xs.drop n)).consumed ∧
    (f.drain xs).failed = (f.drain (xs.drop n)).failed := by
  induction h with
  | start => simp
  | item cut next ih =>
    rw [drain_item next, List.drop_drop] at ih
    exact ⟨ih.1.trans (Nat.add_assoc _ _ _).symm, ih.2⟩

/-- Where the front of the rest is bad, draining stops. -/
lemma drain_fail (h : Cut f xs n) (hfail : f.next (xs.drop n) = .fail) :
    (f.drain xs).consumed = n ∧ (f.drain xs).failed = true := by
  obtain ⟨hconsumed, hfailed⟩ := h.drain
  rw [Framer.drain_fail hfail] at hconsumed hfailed
  exact ⟨hconsumed, hfailed⟩

end Cut

/-- What follows a failure is nothing to it. -/
lemma drain_of_prefix {xs ys : List α} (h : (f.drain xs).failed = true) (hfront : xs <+: ys) :
    f.drain ys = f.drain xs := by
  obtain ⟨more, rfl⟩ := hfront
  rw [drain_append, if_pos h]

end Framer

import Mathlib

/-!
# Shift registers with feedback

A register takes in one bit after the other: the bit is added to the top bit of the register, the
register moves up by one, and what falls out at the top is fed back by a polynomial. All of it is
linear in exclusive or, and where the polynomial has a constant term a shift loses nothing. A run of
flipped bits that is no longer than the register therefore shows in what the register ends with.
-/

namespace ShiftRegister

variable {w : Nat} {poly : BitVec w}

def shift (poly s : BitVec w) : BitVec w :=
  if s.msb then (s <<< 1) ^^^ poly else s <<< 1

/-- The bit at the top of the register. -/
def top (w : Nat) (b : Bool) : BitVec w := if b then BitVec.twoPow w (w - 1) else 0#w

def feed (poly s : BitVec w) (b : Bool) : BitVec w := shift poly (s ^^^ top w b)

def run (poly s : BitVec w) (bits : List Bool) : BitVec w := bits.foldl (feed poly) s

/-! ### Shifts -/

lemma shift_xor (a b : BitVec w) : shift poly (a ^^^ b) = shift poly a ^^^ shift poly b := by
  have hcancel : ∀ x y : BitVec w, x ^^^ poly ^^^ (y ^^^ poly) = x ^^^ y := by
    intro x y
    rw [BitVec.xor_assoc, BitVec.xor_comm y, ← BitVec.xor_assoc poly, BitVec.xor_self,
      BitVec.zero_xor]
  unfold shift
  rw [BitVec.msb_xor, BitVec.shiftLeft_xor_distrib]
  cases a.msb <;> cases b.msb
  · rfl
  · simp [BitVec.xor_assoc]
  · simp only [Bool.true_bne, Bool.not_false, if_true, Bool.false_eq_true, if_false]
    rw [BitVec.xor_assoc, BitVec.xor_comm (b <<< 1), ← BitVec.xor_assoc]
  · simp [hcancel]

@[simp] lemma shift_zero : shift poly 0#w = 0#w := by
  have hself : shift poly (0#w ^^^ 0#w) = shift poly 0#w ^^^ shift poly 0#w := shift_xor _ _
  rwa [BitVec.xor_self, BitVec.xor_self] at hself

/-- Where the polynomial has a constant term, only the empty register is shifted to the empty one. -/
lemma shift_eq_zero (odd : poly.getLsbD 0 = true) {s : BitVec w} (h : shift poly s = 0#w) :
    s = 0#w := by
  have hw : 0 < w := by
    by_contra hzero
    obtain rfl := Nat.le_zero.mp (Nat.not_lt.mp hzero)
    simp at odd
  unfold shift at h
  cases hmsb : s.msb with
  | true =>
    rw [hmsb, if_pos rfl] at h
    have hlow := congrArg (fun x : BitVec w => x.getLsbD 0) h
    simp [odd] at hlow
  | false =>
    rw [hmsb, if_neg Bool.false_ne_true] at h
    apply BitVec.eq_of_getLsbD_eq
    intro i hi
    by_cases htop : i + 1 = w
    · obtain rfl : i = w - 1 := Nat.eq_sub_of_add_eq htop
      rw [BitVec.getLsbD_zero, ← hmsb, BitVec.msb_eq_getLsbD_last]
    · have hnext : i + 1 < w := Nat.lt_of_le_of_ne hi htop
      have hbit := congrArg (fun x : BitVec w => x.getLsbD (i + 1)) h
      rw [BitVec.getLsbD_shiftLeft, BitVec.getLsbD_zero] at hbit
      rw [BitVec.getLsbD_zero]
      simpa [hnext] using hbit

lemma iterate_eq_zero (odd : poly.getLsbD 0 = true) (n : Nat) {s : BitVec w}
    (h : (shift poly)^[n] s = 0#w) : s = 0#w := by
  induction n with
  | zero => exact h
  | succ n ih =>
    rw [Function.iterate_succ_apply'] at h
    exact ih (shift_eq_zero odd h)

/-! ### Runs -/

@[simp] lemma run_nil (s : BitVec w) : run poly s [] = s := rfl

lemma run_cons (s : BitVec w) (b : Bool) (bits : List Bool) :
    run poly s (b :: bits) = run poly (feed poly s b) bits := rfl

lemma run_append (s : BitVec w) (bits bits' : List Bool) :
    run poly s (bits ++ bits') = run poly (run poly s bits) bits' := List.foldl_append

lemma top_xor (a b : Bool) : top w (a ^^ b) = top w a ^^^ top w b := by
  cases a <;> cases b <;> simp [top]

lemma feed_xor (s s' : BitVec w) (b b' : Bool) :
    feed poly (s ^^^ s') (b ^^ b') = feed poly s b ^^^ feed poly s' b' := by
  unfold feed
  rw [← shift_xor, top_xor]
  congr 1
  ac_rfl

/-- Runs over bits of which some are flipped. -/
lemma run_xor {bits flips : List Bool} (hlength : flips.length = bits.length) (s s' : BitVec w) :
    run poly (s ^^^ s') (List.zipWith xor bits flips) = run poly s bits ^^^ run poly s' flips := by
  induction bits generalizing flips s s' with
  | nil =>
    obtain rfl := List.length_eq_zero_iff.mp hlength
    rfl
  | cons b bits ih =>
    cases flips with
    | nil => cases hlength
    | cons b' flips =>
      rw [List.zipWith_cons_cons, run_cons, run_cons, run_cons, feed_xor]
      exact ih (Nat.succ.inj hlength) _ _

lemma run_zeros (n : Nat) (s : BitVec w) :
    run poly s (List.replicate n false) = (shift poly)^[n] s := by
  induction n generalizing s with
  | zero => rfl
  | succ n ih =>
    rw [List.replicate_succ, run_cons, ih, feed, top, if_neg Bool.false_ne_true, BitVec.xor_zero]
    rfl

/-! ### Bits that fit the register -/

/-- The bits from the top of the register downwards. -/
def aligned (w : Nat) : List Bool → BitVec w
  | [] => 0#w
  | b :: bits => top w b ^^^ aligned w bits >>> 1

lemma aligned_low {bits : List Bool} {i : Nat} (h : i + bits.length < w) :
    (aligned w bits).getLsbD i = false := by
  induction bits generalizing i with
  | nil => exact BitVec.getLsbD_zero
  | cons b bits ih =>
    have hrest : (aligned w bits).getLsbD (1 + i) = false :=
      ih (by rw [List.length_cons] at h; omega)
    have htop : (top w b).getLsbD i = false := by
      have hne : w - 1 ≠ i := by rw [List.length_cons] at h; omega
      cases b <;> simp [top, BitVec.getLsbD_twoPow, hne]
    simp [aligned, BitVec.getLsbD_ushiftRight, hrest, htop]

variable (poly) in
/-- Moving down by one and shifting up again. -/
lemma shift_ushiftRight {x : BitVec w} (h : x.getLsbD 0 = false) : shift poly (x >>> 1) = x := by
  have hmsb : (x >>> 1).msb = false := by simp [BitVec.msb_ushiftRight]
  rw [shift, hmsb, if_neg Bool.false_ne_true]
  apply BitVec.eq_of_getLsbD_eq
  intro i hi
  cases i with
  | zero => simp [h]
  | succ i => simp [hi, Nat.add_comm]

lemma run_eq {bits : List Bool} (h : bits.length ≤ w) (s : BitVec w) :
    run poly s bits = (shift poly)^[bits.length] (s ^^^ aligned w bits) := by
  induction bits generalizing s with
  | nil => simp [aligned]
  | cons b bits ih =>
    have hlow : (aligned w bits).getLsbD 0 = false := aligned_low (by rw [Nat.zero_add]; exact h)
    have hup := shift_ushiftRight poly hlow
    calc run poly s (b :: bits)
        = (shift poly)^[bits.length] (feed poly s b ^^^ aligned w bits) := by
          rw [run_cons, ih (Nat.le_of_succ_le h)]
      _ = (shift poly)^[bits.length] (shift poly (s ^^^ aligned w (b :: bits))) := by
          rw [aligned, ← BitVec.xor_assoc, shift_xor (s ^^^ top w b), hup, feed]
      _ = (shift poly)^[(b :: bits).length] (s ^^^ aligned w (b :: bits)) := rfl

lemma aligned_ne_zero {bits : List Bool} (h : bits.length ≤ w) (hbit : true ∈ bits) :
    aligned w bits ≠ 0#w := by
  induction bits with
  | nil => cases hbit
  | cons b bits ih =>
    have hlow : (aligned w bits).getLsbD 0 = false := aligned_low (by rw [Nat.zero_add]; exact h)
    intro hzero
    cases b with
    | true =>
      have hw : 0 < w := Nat.lt_of_lt_of_le (Nat.succ_pos _) h
      have hmsb := congrArg BitVec.msb hzero
      simp [aligned, top, BitVec.msb_twoPow, BitVec.msb_ushiftRight, hw] at hmsb
    | false =>
      have hrest : true ∈ bits := by simpa using hbit
      refine ih (Nat.le_of_succ_le h) hrest ?_
      rw [aligned, top, if_neg Bool.false_ne_true, BitVec.zero_xor] at hzero
      rw [← shift_ushiftRight (0#w) hlow, hzero, shift_zero]

/-- A register is emptied by its own bits only. -/
lemma run_eq_zero_iff (odd : poly.getLsbD 0 = true) {bits : List Bool} (h : bits.length ≤ w)
    (s : BitVec w) : run poly s bits = 0#w ↔ s = aligned w bits := by
  rw [run_eq h]
  constructor
  · intro hzero
    exact BitVec.xor_eq_zero_iff.mp (iterate_eq_zero odd _ hzero)
  · rintro rfl
    rw [BitVec.xor_self, ← run_zeros]
    exact (run_zeros _ _).trans (Function.iterate_fixed shift_zero _)

/-! ### Bursts -/

/-- Some bits are flipped, all of them within a window. -/
structure Burst (width : Nat) (flips : List Bool) : Prop where
  flipped : true ∈ flips
  window : ∃ start, ∀ (i : Nat) (h : i < flips.length), flips[i] = true →
    start ≤ i ∧ i < start + width

lemma eq_replicate {bits : List Bool} (h : true ∉ bits) :
    bits = List.replicate bits.length false :=
  List.eq_replicate_iff.mpr ⟨rfl, fun b hb => by
    cases b with
    | true => exact absurd hb h
    | false => rfl⟩

/-- A burst is a window of bits with nothing around it. -/
lemma Burst.split {width : Nat} {flips : List Bool} (burst : Burst width flips) :
    ∃ n bits m, flips = List.replicate n false ++ bits ++ List.replicate m false ∧
      bits.length ≤ width ∧ true ∈ bits := by
  obtain ⟨start, hwindow⟩ := burst.window
  have hbefore : true ∉ flips.take start := by
    intro hmem
    obtain ⟨i, hi, hbit⟩ := List.mem_iff_getElem.mp hmem
    rw [List.getElem_take] at hbit
    rw [List.length_take, Nat.lt_min] at hi
    exact Nat.not_le.mpr hi.1 (hwindow i hi.2 hbit).1
  have hafter : true ∉ (flips.drop start).drop width := by
    intro hmem
    obtain ⟨i, hi, hbit⟩ := List.mem_iff_getElem.mp hmem
    rw [List.getElem_drop, List.getElem_drop] at hbit
    rw [List.length_drop, List.length_drop] at hi
    have hin := (hwindow _ (by omega) hbit).2
    omega
  have hall : flips = flips.take start ++ (flips.drop start).take width ++
      (flips.drop start).drop width := by
    rw [List.append_assoc, List.take_append_drop, List.take_append_drop]
  refine ⟨(flips.take start).length, (flips.drop start).take width,
    ((flips.drop start).drop width).length, ?_, List.length_take_le _ _, ?_⟩
  · rw [← eq_replicate hbefore, ← eq_replicate hafter]
    exact hall
  · have hflipped := burst.flipped
    rw [hall, List.mem_append, List.mem_append] at hflipped
    exact (hflipped.resolve_right hafter).resolve_left hbefore

/-- A burst that is no longer than the register does not leave it empty. -/
lemma run_burst_ne_zero (odd : poly.getLsbD 0 = true) {flips : List Bool} (burst : Burst w flips) :
    run poly 0#w flips ≠ 0#w := by
  obtain ⟨n, bits, m, rfl, hlength, hbit⟩ := burst.split
  rw [run_append, run_append, run_zeros, run_zeros, Function.iterate_fixed shift_zero]
  intro hzero
  have hbits := (run_eq_zero_iff odd hlength _).mp (iterate_eq_zero odd m hzero)
  exact aligned_ne_zero hlength hbit hbits.symm

/-- Bits with a burst in them lead to another register. -/
theorem run_burst_ne (odd : poly.getLsbD 0 = true) {bits flips : List Bool}
    (hlength : flips.length = bits.length) (burst : Burst w flips) (s : BitVec w) :
    run poly s (List.zipWith xor bits flips) ≠ run poly s bits := by
  have hxor : run poly (s ^^^ 0#w) (List.zipWith xor bits flips) =
      run poly s bits ^^^ run poly 0#w flips := run_xor hlength s (0#w)
  rw [BitVec.xor_zero] at hxor
  rw [hxor]
  intro hsame
  refine run_burst_ne_zero odd burst ?_
  have hcancel := congrArg (run poly s bits ^^^ ·) hsame
  simpa [← BitVec.xor_assoc] using hcancel

end ShiftRegister

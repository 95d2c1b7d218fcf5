import Mathlib

/-!
# Numerals

The decimal numerals over an ordered alphabet that has the ten digits. A numeral is canonical if it
has no leading zero that could be left out; then it is the numeral of its number, and numerals are
in the order of their numbers when they are compared by length first.
-/

universe u v

/-- The ten digits of an alphabet. They are in the order of their values. -/
structure Digits (α : Type u) [LT α] where
  isDigit : α → Bool
  value : α → Nat
  digit : Nat → α
  value_lt : ∀ {a}, isDigit a = true → value a < 10
  digit_value : ∀ {a}, isDigit a = true → digit (value a) = a
  isDigit_digit : ∀ {n}, n < 10 → isDigit (digit n) = true
  value_digit : ∀ {n}, n < 10 → value (digit n) = n
  lt_iff : ∀ {a b}, isDigit a = true → isDigit b = true → (a < b ↔ value a < value b)

namespace Digits

variable {α : Type u} [LT α] (D : Digits α)

def AllDigits (ds : List α) : Prop := ∀ a ∈ ds, D.isDigit a = true

/-- The number that digits stand for. -/
def number (ds : List α) : Nat := ds.foldl (fun n a => n * 10 + D.value a) 0

/-- The numeral of a number. -/
def numeral (n : Nat) : List α :=
  if n < 10 then [D.digit n] else numeral (n / 10) ++ [D.digit (n % 10)]

/-- A numeral without a leading zero, unless it is that of zero. -/
structure Canonical (ds : List α) : Prop where
  digits : D.AllDigits ds
  leading : ∃ a rest, ds = a :: rest ∧ (rest = [] ∨ D.value a ≠ 0)

/-- The numeral without its leading zeros, of which the last digit is none. -/
def strip : List α → List α
  | [] => []
  | [a] => [a]
  | a :: b :: rest => if D.value a = 0 then strip (b :: rest) else a :: b :: rest

variable {D}

lemma allDigits_cons {a : α} {ds : List α} :
    D.AllDigits (a :: ds) ↔ D.isDigit a = true ∧ D.AllDigits ds := List.forall_mem_cons

lemma number_nil : D.number [] = 0 := rfl

lemma number_concat (ds : List α) (a : α) :
    D.number (ds ++ [a]) = D.number ds * 10 + D.value a := by
  simp [number, List.foldl_append]

lemma number_cons (a : α) (ds : List α) :
    D.number (a :: ds) = D.value a * 10 ^ ds.length + D.number ds := by
  induction ds using List.reverseRecOn with
  | nil => simp [number]
  | append_singleton ds b ih =>
    rw [← List.cons_append, number_concat, ih, number_concat, List.length_append]
    simp only [List.length_singleton, pow_succ]
    ring

lemma number_lt {ds : List α} (h : D.AllDigits ds) : D.number ds < 10 ^ ds.length := by
  induction ds with
  | nil => exact Nat.one_pos
  | cons a ds ih =>
    obtain ⟨ha, hds⟩ := allDigits_cons.mp h
    have hvalue := D.value_lt ha
    calc D.number (a :: ds) = D.value a * 10 ^ ds.length + D.number ds := number_cons a ds
      _ < D.value a * 10 ^ ds.length + 10 ^ ds.length := Nat.add_lt_add_left (ih hds) _
      _ = (D.value a + 1) * 10 ^ ds.length := by ring
      _ ≤ 10 * 10 ^ ds.length := Nat.mul_le_mul_right _ hvalue
      _ = 10 ^ (a :: ds).length := by rw [List.length_cons, pow_succ, mul_comm]

/-! ### The numeral of a number -/

lemma numeral_of_lt {n : Nat} (h : n < 10) : D.numeral n = [D.digit n] := by
  rw [numeral, if_pos h]

lemma numeral_of_not_lt {n : Nat} (h : ¬ n < 10) :
    D.numeral n = D.numeral (n / 10) ++ [D.digit (n % 10)] := by
  rw [numeral, if_neg h]

lemma numeral_ne_nil (n : Nat) : D.numeral n ≠ [] := by
  rw [numeral]
  split <;> simp

lemma allDigits_numeral (n : Nat) : D.AllDigits (D.numeral n) := by
  fun_induction D.numeral n with
  | case1 n h => exact fun a ha => (List.mem_singleton.mp ha) ▸ D.isDigit_digit h
  | case2 n h ih =>
    intro a ha
    rcases List.mem_append.mp ha with ha | ha
    · exact ih a ha
    · exact (List.mem_singleton.mp ha) ▸ D.isDigit_digit (Nat.mod_lt n (by omega))

@[simp] lemma number_numeral (n : Nat) : D.number (D.numeral n) = n := by
  fun_induction D.numeral n with
  | case1 n h => simp [number, D.value_digit h]
  | case2 n h ih =>
    rw [number_concat, ih, D.value_digit (Nat.mod_lt n (by omega))]
    omega

lemma leading_numeral (n : Nat) :
    ∃ a rest, D.numeral n = a :: rest ∧ (rest = [] ∨ D.value a ≠ 0) := by
  fun_induction D.numeral n with
  | case1 n h => exact ⟨_, [], rfl, .inl rfl⟩
  | case2 n h ih =>
    obtain ⟨a, rest, heq, hlead⟩ := ih
    refine ⟨a, rest ++ [D.digit (n % 10)], by rw [heq, List.cons_append], .inr ?_⟩
    rcases hlead with rfl | hlead
    · intro hzero
      have hnumber : D.number (D.numeral (n / 10)) = 0 := by
        rw [heq]
        simpa [number] using hzero
      rw [number_numeral] at hnumber
      omega
    · exact hlead

lemma canonical_numeral (n : Nat) : D.Canonical (D.numeral n) :=
  ⟨allDigits_numeral n, leading_numeral n⟩

/-- A canonical numeral is that of its number. -/
theorem numeral_number {ds : List α} (h : D.Canonical ds) : D.numeral (D.number ds) = ds := by
  obtain ⟨a, rest, rfl, hlead⟩ := h.leading
  have digits := h.digits
  clear h
  induction rest using List.reverseRecOn with
  | nil =>
    have ha := (allDigits_cons.mp digits).1
    have hnumber : D.number [a] = D.value a := by simp [number]
    rw [hnumber, numeral, if_pos (D.value_lt ha), D.digit_value ha]
  | append_singleton rest b ih =>
    have hvalue : D.value a ≠ 0 := hlead.resolve_left (by simp)
    rw [← List.cons_append] at digits ⊢
    have hfront : D.AllDigits (a :: rest) := fun x hx => digits x (List.mem_append_left _ hx)
    have hb : D.isDigit b = true := digits b (List.mem_append_right _ (List.mem_singleton_self b))
    have hvb := D.value_lt hb
    have hpos : 0 < D.number (a :: rest) := by
      rw [number_cons]
      exact Nat.add_pos_left (Nat.mul_pos (Nat.pos_of_ne_zero hvalue) (Nat.pow_pos (by omega))) _
    have hdiv : (D.number (a :: rest) * 10 + D.value b) / 10 = D.number (a :: rest) := by omega
    have hmod : (D.number (a :: rest) * 10 + D.value b) % 10 = D.value b := by omega
    rw [number_concat, numeral, if_neg (by omega), hdiv, hmod, D.digit_value hb,
      ih (.inr hvalue) hfront]

/-- The numerals of the positive numbers are the digits with a first one that is not zero. -/
theorem positive_iff {ds : List α} :
    (D.AllDigits ds ∧ ∃ a rest, ds = a :: rest ∧ D.value a ≠ 0) ↔
      ∃ n, 1 ≤ n ∧ ds = D.numeral n := by
  constructor
  · rintro ⟨digits, a, rest, rfl, hvalue⟩
    have hcanonical : D.Canonical (a :: rest) := ⟨digits, a, rest, rfl, .inr hvalue⟩
    refine ⟨D.number (a :: rest), ?_, (numeral_number hcanonical).symm⟩
    rw [number_cons]
    exact Nat.add_pos_left
      (Nat.mul_pos (Nat.pos_of_ne_zero hvalue) (Nat.pow_pos (by omega))) _
  · rintro ⟨n, hn, rfl⟩
    obtain ⟨a, rest, heq, hlead⟩ := leading_numeral (D := D) n
    refine ⟨allDigits_numeral n, a, rest, heq, ?_⟩
    rcases hlead with rfl | hvalue
    · have hnumber : D.number [a] = n := by rw [← heq, number_numeral]
      have hdigit : D.number [a] = D.value a := by simp [number]
      omega
    · exact hvalue

/-! ### Leading zeros -/

lemma allDigits_strip {ds : List α} (h : D.AllDigits ds) : D.AllDigits (D.strip ds) := by
  fun_induction D.strip ds with
  | case1 => exact h
  | case2 => exact h
  | case3 a b rest hzero ih => exact ih (allDigits_cons.mp h).2
  | case4 => exact h

@[simp] lemma number_strip (ds : List α) : D.number (D.strip ds) = D.number ds := by
  fun_induction D.strip ds with
  | case1 => rfl
  | case2 => rfl
  | case3 a b rest hzero ih => rw [ih, number_cons a, hzero, Nat.zero_mul, Nat.zero_add]
  | case4 => rfl

lemma canonical_strip {ds : List α} (hne : ds ≠ []) (h : D.AllDigits ds) :
    D.Canonical (D.strip ds) := by
  refine ⟨allDigits_strip h, ?_⟩
  fun_induction D.strip ds with
  | case1 => exact absurd rfl hne
  | case2 a => exact ⟨a, [], rfl, .inl rfl⟩
  | case3 a b rest hzero ih => exact ih (List.cons_ne_nil _ _) (allDigits_cons.mp h).2
  | case4 a b rest hzero => exact ⟨a, b :: rest, rfl, .inr hzero⟩

/-- Digits without their leading zeros are the numeral of their number. -/
theorem strip_eq_numeral {ds : List α} (hne : ds ≠ []) (h : D.AllDigits ds) :
    D.strip ds = D.numeral (D.number ds) := by
  rw [← number_strip ds, numeral_number (canonical_strip hne h)]

/-! ### The order of numerals -/

/-- Digits of one length are ordered like their numbers. -/
theorem lt_iff_number_lt {as bs : List α} (has : D.AllDigits as) (hbs : D.AllDigits bs)
    (hlength : as.length = bs.length) : as < bs ↔ D.number as < D.number bs := by
  induction as generalizing bs with
  | nil =>
    obtain rfl := List.length_eq_zero_iff.mp hlength.symm
    simp
  | cons a as ih =>
    cases bs with
    | nil => cases hlength
    | cons b bs =>
      obtain ⟨ha, has⟩ := allDigits_cons.mp has
      obtain ⟨hb, hbs⟩ := allDigits_cons.mp hbs
      have hlength : as.length = bs.length := Nat.succ.inj hlength
      have hna := number_lt has
      have hnb := number_lt hbs
      rw [List.cons_lt_cons_iff, ih has hbs hlength, D.lt_iff ha hb, number_cons, number_cons,
        hlength]
      rw [hlength] at hna
      rcases Nat.lt_trichotomy (D.value a) (D.value b) with hlt | heq | hgt
      · refine iff_of_true (.inl hlt) ?_
        have hstep := Nat.mul_le_mul_right (10 ^ bs.length) (Nat.succ_le_of_lt hlt)
        rw [Nat.succ_mul] at hstep
        omega
      · have hab : a = b := by rw [← D.digit_value ha, heq, D.digit_value hb]
        rw [heq]
        simp [hab]
      · refine iff_of_false ?_ ?_
        · rintro (hlt | ⟨rfl, -⟩)
          · omega
          · omega
        · have hstep := Nat.mul_le_mul_right (10 ^ bs.length) (Nat.succ_le_of_lt hgt)
          rw [Nat.succ_mul] at hstep
          omega

/-- A longer canonical numeral is that of a larger number. -/
lemma number_lt_of_length_lt {as bs : List α} (has : D.AllDigits as) (hbs : D.Canonical bs)
    (hlength : as.length < bs.length) (hne : as ≠ []) : D.number as < D.number bs := by
  obtain ⟨-, b, rest, rfl, hlead⟩ := hbs
  have hrest : as.length ≤ rest.length := Nat.le_of_lt_succ hlength
  have hvalue : D.value b ≠ 0 := by
    refine hlead.resolve_left ?_
    rintro rfl
    exact hne (List.length_eq_zero_iff.mp (Nat.le_zero.mp hrest))
  calc D.number as < 10 ^ as.length := number_lt has
    _ ≤ 10 ^ rest.length := Nat.pow_le_pow_right (by omega) hrest
    _ ≤ D.value b * 10 ^ rest.length := Nat.le_mul_of_pos_left _ (Nat.pos_of_ne_zero hvalue)
    _ ≤ D.number (b :: rest) := by rw [number_cons]; exact Nat.le_add_right _ _

/-- Canonical numerals are in the order of their numbers when the longer one is the greater, and
those of one length are compared digit by digit. -/
theorem number_lt_iff {as bs : List α} (has : D.Canonical as) (hbs : D.Canonical bs) :
    D.number as < D.number bs ↔
      as.length < bs.length ∨ as.length = bs.length ∧ as < bs := by
  have hne : ∀ {ds : List α}, D.Canonical ds → ds ≠ [] := by
    rintro ds ⟨-, a, rest, rfl, -⟩
    exact List.cons_ne_nil _ _
  rcases Nat.lt_trichotomy as.length bs.length with hlt | heq | hgt
  · exact iff_of_true (number_lt_of_length_lt has.digits hbs hlt (hne has)) (.inl hlt)
  · rw [lt_iff_number_lt has.digits hbs.digits heq]
    simp [heq]
  · refine iff_of_false ?_ ?_
    · exact Nat.not_lt.mpr (number_lt_of_length_lt hbs.digits has hgt (hne hbs)).le
    · rintro (hlt | ⟨heq, -⟩) <;> omega

/-! ### Numbers with a bound -/

/-- Adding a digit, where the number may not pass a bound. -/
def bounded (bound : Nat) (n : Nat) (a : α) : Option Nat :=
  if n * 10 ≤ bound then if n * 10 + D.value a ≤ bound then some (n * 10 + D.value a) else none
  else none

/-- Reading digits with a bound fails just where their number passes it. -/
theorem foldlM_bounded (bound : Nat) (ds : List α) :
    ds.foldlM (D.bounded bound) 0 = if D.number ds ≤ bound then some (D.number ds) else none := by
  induction ds using List.reverseRecOn with
  | nil =>
    rw [number_nil, if_pos (Nat.zero_le _)]
    rfl
  | append_singleton ds a ih =>
    rw [List.foldlM_append, ih, number_concat]
    by_cases hfits : D.number ds ≤ bound
    · rw [if_pos hfits]
      simp only [List.foldlM_cons, List.foldlM_nil, Option.pure_def, Option.bind_eq_bind,
        Option.bind_some, Option.bind_fun_some, bounded]
      split_ifs <;> first | rfl | omega
    · rw [if_neg hfits, if_neg (by omega)]
      rfl

/-! ### Two alphabets -/

variable {β : Type v} [LT β] {E : Digits β} {f : α → β}

/-- Digits stand for the same number in all alphabets. -/
lemma number_map (hf : ∀ {a}, D.isDigit a = true → E.value (f a) = D.value a) {ds : List α}
    (h : D.AllDigits ds) : E.number (ds.map f) = D.number ds := by
  induction ds with
  | nil => rfl
  | cons a ds ih =>
    obtain ⟨ha, hds⟩ := allDigits_cons.mp h
    rw [List.map_cons, number_cons, number_cons, List.length_map, hf ha, ih hds]

/-- Numerals are written alike in all alphabets. -/
lemma map_numeral (hf : ∀ {n}, n < 10 → f (D.digit n) = E.digit n) (n : Nat) :
    (D.numeral n).map f = E.numeral n := by
  induction n using Nat.strong_induction_on with
  | h n ih =>
    by_cases h : n < 10
    · rw [numeral_of_lt h, numeral_of_lt h, List.map_singleton, hf h]
    · rw [numeral_of_not_lt h, numeral_of_not_lt h, List.map_append, List.map_singleton,
        ih (n / 10) (by omega), hf (Nat.mod_lt n (by omega))]

end Digits

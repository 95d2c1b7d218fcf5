import Mathlib
import PmuSimulator.Foundation.Decimal
import PmuSimulator.Management.Parse

/-!
# Decimal text of the console

The console keeps 64-bit numbers as text, since its own numbers cannot hold them all. Its text is
of UTF-16 code units, and so is the order in which it compares text. The server reads and writes
the same numbers as text of its own.

Both sides mean the same numbers by the same text: their digits are two alphabets of numerals.
-/

namespace PmuSimulator

/-! ### Text of the console -/

/-- A string of JavaScript. -/
abbrev ConsoleText := List UInt16

/-- What the console throws: a `ConsoleSnapshotError`, or the `SyntaxError` of `JSON.parse`. -/
inductive ConsoleError where
  | snapshot (kind : String)
  | invalidJson
  deriving DecidableEq, Repr

/-- The code units of a character, of which there are two outside the basic plane. -/
def codeUnits (c : Char) : ConsoleText :=
  if c.toNat < 0x10000 then [UInt16.ofNat c.toNat]
  else
    [UInt16.ofNat (0xd800 + (c.toNat - 0x10000) / 0x400),
      UInt16.ofNat (0xdc00 + (c.toNat - 0x10000) % 0x400)]

/-- The text a string of the server is for the console. -/
def consoleText (s : List Char) : ConsoleText := s.flatMap codeUnits

def assertSnapshot (condition : Prop) [Decidable condition] : Except ConsoleError Unit :=
  if condition then .ok () else .error (.snapshot "payload")

def requiredText (value : ConsoleText) : Except ConsoleError ConsoleText := do
  assertSnapshot (value.length > 0)
  return value

def isDigitUnit (u : UInt16) : Bool := 48 ≤ u && u ≤ 57

/-- `DECIMAL_STRING_PATTERN.test`. -/
def isDecimalString (text : ConsoleText) : Bool := !text.isEmpty && text.all isDigitUnit

/-- `POSITIVE_DECIMAL_STRING_PATTERN.test`. -/
def isPositiveDecimalString (text : ConsoleText) : Bool :=
  match text with
  | [] => false
  | u :: rest => (49 ≤ u && u ≤ 57) && rest.all isDigitUnit

def u64MaxDecimal : ConsoleText := consoleText "18446744073709551615".toList

/-- `replace(/^0+(?=[0-9])/, "")`. -/
def withoutLeadingZeros : ConsoleText → ConsoleText
  | [] => []
  | [u] => [u]
  | u :: v :: rest =>
    if u = 48 ∧ isDigitUnit v = true then withoutLeadingZeros (v :: rest) else u :: v :: rest

/-- The comparison of text with `U64_MAX_DECIMAL`. -/
def isAtMostU64Max (text : ConsoleText) : Prop :=
  text.length < u64MaxDecimal.length ∨
    text.length = u64MaxDecimal.length ∧ text ≤ u64MaxDecimal

instance (text : ConsoleText) : Decidable (isAtMostU64Max text) :=
  inferInstanceAs (Decidable (text.length < u64MaxDecimal.length ∨
    text.length = u64MaxDecimal.length ∧ text ≤ u64MaxDecimal))

def requiredDecimalU64String (value : ConsoleText) : Except ConsoleError ConsoleText := do
  let decimal ← requiredText value
  assertSnapshot (isDecimalString decimal)
  let normalized := withoutLeadingZeros decimal
  assertSnapshot (isAtMostU64Max normalized)
  return normalized

def requiredPositiveDecimalU64String (value : ConsoleText) : Except ConsoleError ConsoleText := do
  let decimal ← requiredText value
  assertSnapshot (isPositiveDecimalString decimal)
  assertSnapshot (isAtMostU64Max decimal)
  return decimal

def decimalStringIsGreaterThan (left right : ConsoleText) : Bool :=
  left.length > right.length || (left.length = right.length && left > right)

/-! ### The two alphabets -/

lemma isAsciiDigit_iff {c : Char} : isAsciiDigit c = true ↔ 48 ≤ c.toNat ∧ c.toNat ≤ 57 := by
  simp only [isAsciiDigit, Bool.and_eq_true, decide_eq_true_eq, Char.le_def, UInt32.le_iff_toNat_le]
  rfl

lemma isDigitUnit_iff {u : UInt16} : isDigitUnit u = true ↔ 48 ≤ u.toNat ∧ u.toNat ≤ 57 := by
  simp only [isDigitUnit, Bool.and_eq_true, decide_eq_true_eq, UInt16.le_iff_toNat_le]
  rfl

/-- The digits of the server. -/
def charDigits : Digits Char where
  isDigit := isAsciiDigit
  value := digitValue
  digit := Nat.digitChar
  value_lt h := by
    obtain ⟨-, hle⟩ := isAsciiDigit_iff.mp h
    exact Nat.sub_lt_right_of_lt_add (isAsciiDigit_iff.mp h).1 (Nat.lt_succ_of_le hle)
  digit_value {c} h := by
    obtain ⟨hge, hle⟩ := isAsciiDigit_iff.mp h
    apply Char.toNat_inj.mp
    have hvalue : digitValue c = c.toNat - 48 := rfl
    rw [hvalue, Nat.toNat_digitChar_of_lt_ten (by omega)]
    omega
  isDigit_digit {n} h := by
    rw [isAsciiDigit_iff, Nat.toNat_digitChar_of_lt_ten h]
    omega
  value_digit {n} h := by
    have hvalue : digitValue n.digitChar = n.digitChar.toNat - 48 := rfl
    rw [hvalue, Nat.toNat_digitChar_of_lt_ten h]
    omega
  lt_iff {a b} ha hb := by
    have ha := isAsciiDigit_iff.mp ha
    have hb := isAsciiDigit_iff.mp hb
    have hvalues : digitValue a < digitValue b ↔ a.toNat - 48 < b.toNat - 48 := Iff.rfl
    rw [hvalues, Char.lt_def, UInt32.lt_iff_toNat_lt]
    change a.toNat < b.toNat ↔ _
    omega

/-- The digits of the console. -/
def unitDigits : Digits UInt16 where
  isDigit := isDigitUnit
  value u := u.toNat - 48
  digit n := UInt16.ofNat (48 + n)
  value_lt h := by
    have h := isDigitUnit_iff.mp h
    omega
  digit_value {u} h := by
    have h := isDigitUnit_iff.mp h
    apply UInt16.toNat_inj.mp
    rw [UInt16.toNat_ofNat_of_lt' (by change _ < 65536; omega)]
    omega
  isDigit_digit {n} h := by
    rw [isDigitUnit_iff, UInt16.toNat_ofNat_of_lt' (by change _ < 65536; omega)]
    omega
  value_digit {n} h := by
    rw [UInt16.toNat_ofNat_of_lt' (by change _ < 65536; omega)]
    omega
  lt_iff {a b} ha hb := by
    have ha := isDigitUnit_iff.mp ha
    have hb := isDigitUnit_iff.mp hb
    rw [UInt16.lt_iff_toNat_lt]
    omega

/-! ### Digits on both sides -/

lemma codeUnits_digit {c : Char} (h : isAsciiDigit c = true) :
    codeUnits c = [UInt16.ofNat c.toNat] := by
  have h := isAsciiDigit_iff.mp h
  rw [codeUnits, if_pos (by omega)]

lemma isDigitUnit_codeUnits {c : Char} :
    (∀ u ∈ codeUnits c, isDigitUnit u = true) ↔ isAsciiDigit c = true := by
  rw [isAsciiDigit_iff, codeUnits]
  split
  · next hbasic =>
    rw [List.forall_mem_singleton, isDigitUnit_iff, UInt16.toNat_ofNat_of_lt' hbasic]
  · next hbasic =>
    refine iff_of_false (fun h => ?_) (by omega)
    have hlead := isDigitUnit_iff.mp (h _ List.mem_cons_self)
    have hvalid : c.toNat < 0x110000 := by
      rcases c.valid with hvalid | hvalid
      · exact Nat.lt_trans hvalid (by decide)
      · exact hvalid.2
    rw [UInt16.toNat_ofNat_of_lt' (by change _ < 65536; omega)] at hlead
    omega

lemma allDigits_consoleText {s : List Char} :
    unitDigits.AllDigits (consoleText s) ↔ charDigits.AllDigits s := by
  induction s with
  | nil => simp [consoleText, Digits.AllDigits]
  | cons c s ih =>
    have hcons : consoleText (c :: s) = codeUnits c ++ consoleText s := List.flatMap_cons
    rw [hcons, Digits.allDigits_cons, ← ih]
    unfold Digits.AllDigits
    rw [List.forall_mem_append]
    exact and_congr_left' isDigitUnit_codeUnits

lemma consoleText_digits {s : List Char} (h : charDigits.AllDigits s) :
    consoleText s = s.map fun c => UInt16.ofNat c.toNat := by
  induction s with
  | nil => rfl
  | cons c s ih =>
    obtain ⟨hc, hs⟩ := Digits.allDigits_cons.mp h
    have hcons : consoleText (c :: s) = codeUnits c ++ consoleText s := List.flatMap_cons
    rw [hcons, codeUnits_digit hc, ih hs]
    rfl

lemma consoleText_injOn {s s' : List Char} (h : charDigits.AllDigits s)
    (h' : charDigits.AllDigits s') (heq : consoleText s = consoleText s') : s = s' := by
  have hback : ∀ {s : List Char}, charDigits.AllDigits s →
      (consoleText s).map (fun u => Char.ofNat u.toNat) = s := by
    intro s hs
    rw [consoleText_digits hs, List.map_map]
    refine (List.map_congr_left fun c hc => ?_).trans (List.map_id s)
    have hc := isAsciiDigit_iff.mp (hs c hc)
    rw [Function.comp_apply, UInt16.toNat_ofNat_of_lt' (by change _ < 65536; omega),
      Char.ofNat_toNat, id_eq]
  rw [← hback h, ← hback h', heq]

@[simp] lemma consoleText_eq_nil {s : List Char} : consoleText s = [] ↔ s = [] := by
  cases s with
  | nil => simp [consoleText]
  | cons c s =>
    have hunits : codeUnits c ≠ [] := by
      unfold codeUnits
      split <;> simp
    simp [consoleText, hunits]

lemma consoleText_numeral (n : Nat) :
    consoleText (charDigits.numeral n) = unitDigits.numeral n := by
  rw [consoleText_digits (Digits.allDigits_numeral n)]
  refine Digits.map_numeral (fun {n} h => ?_) n
  change UInt16.ofNat n.digitChar.toNat = UInt16.ofNat (48 + n)
  rw [Nat.toNat_digitChar_of_lt_ten h]

lemma number_consoleText {s : List Char} (h : charDigits.AllDigits s) :
    unitDigits.number (consoleText s) = charDigits.number s := by
  rw [consoleText_digits h]
  refine Digits.number_map (fun {c} hc => ?_) h
  have hc := isAsciiDigit_iff.mp hc
  change (UInt16.ofNat c.toNat).toNat - 48 = c.toNat - 48
  rw [UInt16.toNat_ofNat_of_lt' (by change _ < 65536; omega)]

/-- All digits of the console are text of the server. -/
lemma exists_consoleText {text : ConsoleText} (h : unitDigits.AllDigits text) :
    ∃ s, charDigits.AllDigits s ∧ consoleText s = text := by
  induction text with
  | nil => exact ⟨[], by simp [Digits.AllDigits], rfl⟩
  | cons u text ih =>
    obtain ⟨hu, htext⟩ := Digits.allDigits_cons.mp h
    obtain ⟨s, hs, rfl⟩ := ih htext
    have hlt := unitDigits.value_lt hu
    have hc := charDigits.isDigit_digit hlt
    refine ⟨charDigits.digit (unitDigits.value u) :: s, Digits.allDigits_cons.mpr ⟨hc, hs⟩, ?_⟩
    have hcons : consoleText (charDigits.digit (unitDigits.value u) :: s) =
        codeUnits (charDigits.digit (unitDigits.value u)) ++ consoleText s := List.flatMap_cons
    rw [hcons, codeUnits_digit hc]
    have hunit : UInt16.ofNat (charDigits.digit (unitDigits.value u)).toNat = u := by
      change UInt16.ofNat (Nat.digitChar _).toNat = u
      rw [Nat.toNat_digitChar_of_lt_ten hlt]
      exact unitDigits.digit_value hu
    rw [hunit]
    rfl

/-! ### The server -/

lemma decimalText_eq (n : Nat) : decimalText n = charDigits.numeral n := by
  have htext : decimalText n = Nat.toDigits 10 n := Nat.toList_repr
  rw [htext]
  induction n using Nat.strong_induction_on with
  | h n ih =>
    by_cases h : n < 10
    · rw [Nat.toDigits_of_lt_base h, Digits.numeral_of_lt h]
      rfl
    · rw [Nat.toDigits_of_base_le (by decide) (Nat.not_lt.mp h),
        ih (n / 10) (by omega) Nat.toList_repr, Digits.numeral_of_not_lt h]
      rfl

lemma foldlM_decimalStep (s : List Char) :
    s.foldlM decimalStep 0 =
      if charDigits.number s ≤ u64Max then some (charDigits.number s) else none := by
  have hstep : decimalStep = charDigits.bounded u64Max := by
    funext n c
    rw [decimalStep, Digits.bounded, checkedMul]
    split <;> rfl
  rw [hstep]
  exact Digits.foldlM_bounded u64Max s

lemma all_isAsciiDigit {s : List Char} : s.all isAsciiDigit = true ↔ charDigits.AllDigits s :=
  List.all_eq_true

lemma parseDecimalU64_eq_ok {s : List Char} {v : Nat} :
    parseDecimalU64 s = .ok v ↔
      s ≠ [] ∧ charDigits.AllDigits s ∧ charDigits.number s ≤ u64Max ∧ charDigits.number s = v := by
  rw [parseDecimalU64, foldlM_decimalStep, ← all_isAsciiDigit]
  by_cases hne : s = []
  · simp [hne]
  by_cases hdigits : s.all isAsciiDigit = true
  · by_cases hfits : charDigits.number s ≤ u64Max
    · simp [hne, hdigits, hfits]
    · simp [hne, hdigits, hfits]
  · simp [hne, hdigits]

/-- A first digit that is none of zero makes digits canonical. -/
lemma leadingDigit_iff {c : Char} :
    ('1' ≤ c && c ≤ '9') = true ↔ isAsciiDigit c = true ∧ digitValue c ≠ 0 := by
  have hvalue : digitValue c = c.toNat - 48 := rfl
  have hleading : ('1' ≤ c && c ≤ '9') = true ↔ 49 ≤ c.toNat ∧ c.toNat ≤ 57 := by
    simp only [Bool.and_eq_true, decide_eq_true_eq, Char.le_def, UInt32.le_iff_toNat_le]
    rfl
  rw [hleading, isAsciiDigit_iff, hvalue]
  omega

theorem parseCanonicalDecimalToken_eq_some {s : List Char} {v : Nat} :
    parseCanonicalDecimalToken s = some v ↔ 1 ≤ v ∧ v ≤ u64Max ∧ s = decimalText v := by
  have hpositive : ((s.head?.any fun c => '1' ≤ c && c ≤ '9') = true ∧ s.all isAsciiDigit = true) ↔
      ∃ n, 1 ≤ n ∧ s = decimalText n := by
    simp only [decimalText_eq, ← Digits.positive_iff, ← all_isAsciiDigit]
    cases s with
    | nil => simp
    | cons c rest =>
      rw [List.head?_cons, Option.any_some, leadingDigit_iff, List.all_cons, Bool.and_eq_true]
      constructor
      · rintro ⟨⟨-, hvalue⟩, hdigits⟩
        exact ⟨hdigits, c, rest, rfl, hvalue⟩
      · rintro ⟨hdigits, a, tail, heq, hvalue⟩
        obtain ⟨rfl, rfl⟩ := List.cons.inj heq
        exact ⟨⟨hdigits.1, hvalue⟩, hdigits⟩
  rw [parseCanonicalDecimalToken, foldlM_decimalStep]
  constructor
  · intro h
    split at h
    · cases h
    next hcheck =>
    rw [Bool.or_eq_true, not_or, Bool.not_eq_true', Bool.not_eq_true', Bool.not_eq_false,
      Bool.not_eq_false] at hcheck
    obtain ⟨n, hn, rfl⟩ := hpositive.mp hcheck
    rw [decimalText_eq, Digits.number_numeral] at h
    split at h
    next hfits =>
      obtain rfl := Option.some.inj h
      exact ⟨hn, hfits, rfl⟩
    · cases h
  · rintro ⟨hpos, hfits, rfl⟩
    obtain ⟨hfirst, hall⟩ := hpositive.mpr ⟨v, hpos, rfl⟩
    rw [hfirst, hall, if_neg (by simp), decimalText_eq, Digits.number_numeral, if_pos hfits]

/-! ### The console -/

lemma assertSnapshot_eq_ok {condition : Prop} [Decidable condition] {u : Unit} :
    assertSnapshot condition = .ok u ↔ condition := by
  unfold assertSnapshot
  split <;> simp_all

lemma u64MaxDecimal_eq : u64MaxDecimal = unitDigits.numeral u64Max := by
  have htext : "18446744073709551615".toList = decimalText u64Max := by decide +kernel
  rw [u64MaxDecimal, htext, decimalText_eq, consoleText_numeral]

/-- The text of numbers is compared as the numbers are. -/
lemma isAtMostU64Max_iff {text : ConsoleText} (h : unitDigits.Canonical text) :
    isAtMostU64Max text ↔ unitDigits.number text ≤ u64Max := by
  have hmax : unitDigits.Canonical u64MaxDecimal :=
    u64MaxDecimal_eq ▸ Digits.canonical_numeral u64Max
  have hnumber : unitDigits.number u64MaxDecimal = u64Max := by
    rw [u64MaxDecimal_eq, Digits.number_numeral]
  have hlt := Digits.number_lt_iff hmax h
  rw [hnumber] at hlt
  have hle : unitDigits.number text ≤ u64Max ↔ ¬ u64Max < unitDigits.number text := Nat.not_lt.symm
  rw [hle, hlt, not_or, not_and, isAtMostU64Max]
  constructor
  · rintro (hless | ⟨hsame, hle⟩)
    · exact ⟨by omega, fun hsame => by omega⟩
    · exact ⟨by omega, fun _ => hle⟩
  · rintro ⟨hge, hsame⟩
    rcases Nat.lt_or_ge text.length u64MaxDecimal.length with hless | hge'
    · exact .inl hless
    · exact .inr ⟨by omega, hsame (by omega)⟩

lemma withoutLeadingZeros_eq {text : ConsoleText} (h : unitDigits.AllDigits text) :
    withoutLeadingZeros text = unitDigits.strip text := by
  fun_induction unitDigits.strip text with
  | case1 => rfl
  | case2 => rfl
  | case3 u v rest hzero ih =>
    obtain ⟨hu, hrest⟩ := Digits.allDigits_cons.mp h
    have hdigit := unitDigits.digit_value hu
    rw [hzero] at hdigit
    rw [withoutLeadingZeros, if_pos ⟨hdigit.symm, (Digits.allDigits_cons.mp hrest).1⟩, ih hrest]
  | case4 u v rest hzero =>
    rw [withoutLeadingZeros, if_neg]
    rintro ⟨rfl, -⟩
    exact hzero rfl

lemma isDecimalString_iff {text : ConsoleText} :
    isDecimalString text = true ↔ text ≠ [] ∧ unitDigits.AllDigits text := by
  rw [isDecimalString, Bool.and_eq_true, List.all_eq_true]
  exact and_congr_left' (by simp)

lemma bind_assertSnapshot {α : Type} {condition : Prop} [Decidable condition]
    {f : Unit → Except ConsoleError α} {a : α} :
    (assertSnapshot condition >>= f) = .ok a ↔ condition ∧ f () = .ok a := by
  rw [bind_eq_ok]
  constructor
  · rintro ⟨⟨⟩, hcondition, hf⟩
    exact ⟨assertSnapshot_eq_ok.mp hcondition, hf⟩
  · rintro ⟨hcondition, hf⟩
    exact ⟨(), assertSnapshot_eq_ok.mpr hcondition, hf⟩

lemma requiredText_eq_ok {text t : ConsoleText} :
    requiredText text = .ok t ↔ text ≠ [] ∧ t = text := by
  rw [requiredText, bind_assertSnapshot]
  refine and_congr List.length_pos_iff ?_
  exact ⟨fun h => (Except.ok.inj h).symm, fun h => h ▸ rfl⟩

theorem requiredDecimalU64String_eq_ok {text t : ConsoleText} :
    requiredDecimalU64String text = .ok t ↔
      text ≠ [] ∧ unitDigits.AllDigits text ∧ unitDigits.number text ≤ u64Max ∧
        t = unitDigits.numeral (unitDigits.number text) := by
  unfold requiredDecimalU64String
  rw [bind_eq_ok]
  simp only [requiredText_eq_ok, bind_assertSnapshot, isDecimalString_iff]
  constructor
  · rintro ⟨decimal, ⟨hne, rfl⟩, ⟨-, hdigits⟩, hmax, hreturn⟩
    rw [withoutLeadingZeros_eq hdigits] at hmax hreturn
    rw [isAtMostU64Max_iff (Digits.canonical_strip hne hdigits), Digits.number_strip] at hmax
    rw [Digits.strip_eq_numeral hne hdigits] at hreturn
    exact ⟨hne, hdigits, hmax, (Except.ok.inj hreturn).symm⟩
  · rintro ⟨hne, hdigits, hmax, rfl⟩
    refine ⟨text, ⟨hne, rfl⟩, ⟨hne, hdigits⟩, ?_, ?_⟩
    · rw [withoutLeadingZeros_eq hdigits,
        isAtMostU64Max_iff (Digits.canonical_strip hne hdigits), Digits.number_strip]
      exact hmax
    · rw [withoutLeadingZeros_eq hdigits, Digits.strip_eq_numeral hne hdigits]
      rfl

lemma isPositiveDecimalString_iff {text : ConsoleText} :
    isPositiveDecimalString text = true ↔ ∃ n, 1 ≤ n ∧ text = unitDigits.numeral n := by
  rw [← Digits.positive_iff]
  cases text with
  | nil => simp [isPositiveDecimalString]
  | cons u rest =>
    have hleading : (49 ≤ u && u ≤ 57) = true ↔
        unitDigits.isDigit u = true ∧ unitDigits.value u ≠ 0 := by
      simp only [Bool.and_eq_true, decide_eq_true_eq, UInt16.le_iff_toNat_le]
      change 49 ≤ u.toNat ∧ u.toNat ≤ 57 ↔ isDigitUnit u = true ∧ u.toNat - 48 ≠ 0
      rw [isDigitUnit_iff]
      omega
    rw [isPositiveDecimalString, Bool.and_eq_true, hleading, List.all_eq_true,
      Digits.allDigits_cons]
    constructor
    · rintro ⟨⟨hu, hvalue⟩, hrest⟩
      exact ⟨⟨hu, hrest⟩, u, rest, rfl, hvalue⟩
    · rintro ⟨⟨hu, hrest⟩, a, tail, heq, hvalue⟩
      obtain ⟨rfl, rfl⟩ := List.cons.inj heq
      exact ⟨⟨hu, hvalue⟩, hrest⟩

theorem requiredPositiveDecimalU64String_eq_ok {text t : ConsoleText} :
    requiredPositiveDecimalU64String text = .ok t ↔
      t = text ∧ ∃ n, 1 ≤ n ∧ n ≤ u64Max ∧ text = unitDigits.numeral n := by
  unfold requiredPositiveDecimalU64String
  rw [bind_eq_ok]
  simp only [requiredText_eq_ok, bind_assertSnapshot, isPositiveDecimalString_iff]
  constructor
  · rintro ⟨decimal, ⟨hne, rfl⟩, ⟨n, hn, rfl⟩, hmax, hreturn⟩
    rw [isAtMostU64Max_iff (Digits.canonical_numeral n), Digits.number_numeral] at hmax
    exact ⟨(Except.ok.inj hreturn).symm, n, hn, hmax, rfl⟩
  · rintro ⟨rfl, n, hn, hmax, rfl⟩
    refine ⟨_, ⟨Digits.numeral_ne_nil n, rfl⟩, ⟨n, hn, rfl⟩, ?_, rfl⟩
    rw [isAtMostU64Max_iff (Digits.canonical_numeral n), Digits.number_numeral]
    exact hmax

/-! ### Both sides -/

lemma requiredPositive_consoleText {s : List Char} {t : ConsoleText} :
    requiredPositiveDecimalU64String (consoleText s) = .ok t ↔
      t = consoleText s ∧ ∃ v, parseCanonicalDecimalToken s = some v := by
  simp only [requiredPositiveDecimalU64String_eq_ok, parseCanonicalDecimalToken_eq_some]
  refine and_congr_right fun _ => exists_congr fun v => and_congr_right fun _ =>
    and_congr_right fun _ => ?_
  constructor
  · intro h
    have hdigits : charDigits.AllDigits s :=
      allDigits_consoleText.mp (h ▸ Digits.allDigits_numeral v)
    rw [decimalText_eq]
    apply consoleText_injOn hdigits (Digits.allDigits_numeral v)
    rw [h, consoleText_numeral]
  · rintro rfl
    rw [decimalText_eq, consoleText_numeral]

lemma requiredDecimal_consoleText {s : List Char} {t : ConsoleText} :
    requiredDecimalU64String (consoleText s) = .ok t ↔
      ∃ v, parseDecimalU64 s = .ok v ∧ t = consoleText (decimalText v) := by
  rw [requiredDecimalU64String_eq_ok, allDigits_consoleText, ne_eq, consoleText_eq_nil]
  simp only [parseDecimalU64_eq_ok, decimalText_eq, consoleText_numeral]
  constructor
  · rintro ⟨hne, hdigits, hmax, rfl⟩
    rw [number_consoleText hdigits] at hmax ⊢
    exact ⟨_, ⟨hne, hdigits, hmax, rfl⟩, rfl⟩
  · rintro ⟨v, ⟨hne, hdigits, hmax, rfl⟩, rfl⟩
    rw [number_consoleText hdigits]
    exact ⟨hne, hdigits, hmax, rfl⟩

/-- The console and the server take the same text for the same numbers, and the console compares
the text of two numbers as the numbers. -/
theorem decimalU64_agrees :
    (∀ (s : List Char) (t : ConsoleText), requiredPositiveDecimalU64String (consoleText s) = .ok t ↔
      t = consoleText s ∧ ∃ v, parseCanonicalDecimalToken s = some v) ∧
    (∀ text : ConsoleText, (∃ t, requiredPositiveDecimalU64String text = .ok t) ↔
      ∃ s v, text = consoleText s ∧ parseCanonicalDecimalToken s = some v) ∧
    (∀ (s : List Char) (v : Nat), parseCanonicalDecimalToken s = some v ↔
      1 ≤ v ∧ v ≤ u64Max ∧ s = decimalText v ∧ s = ActivationToken.serialize ⟨v⟩) ∧
    (∀ (s : List Char) (t : ConsoleText), requiredDecimalU64String (consoleText s) = .ok t ↔
      ∃ v, parseDecimalU64 s = .ok v ∧ t = consoleText (decimalText v)) ∧
    (∀ text : ConsoleText, (∃ t, requiredDecimalU64String text = .ok t) ↔
      ∃ s v, text = consoleText s ∧ parseDecimalU64 s = .ok v) ∧
    ∀ v w : Nat, decimalStringIsGreaterThan (consoleText (decimalText v))
      (consoleText (decimalText w)) = decide (v > w) := by
  refine ⟨fun s t => requiredPositive_consoleText, fun text => ⟨?_, ?_⟩, fun s v => ?_,
    fun s t => requiredDecimal_consoleText, fun text => ⟨?_, ?_⟩, fun v w => ?_⟩
  · rintro ⟨t, ht⟩
    obtain ⟨-, n, hn, hmax, rfl⟩ := requiredPositiveDecimalU64String_eq_ok.mp ht
    obtain ⟨s, -, hs⟩ := exists_consoleText (Digits.allDigits_numeral (D := unitDigits) n)
    rw [← hs] at ht
    obtain ⟨v, hv⟩ := (requiredPositive_consoleText.mp ht).2
    exact ⟨s, v, hs.symm, hv⟩
  · rintro ⟨s, v, rfl, hv⟩
    exact ⟨_, requiredPositive_consoleText.mpr ⟨rfl, v, hv⟩⟩
  · rw [parseCanonicalDecimalToken_eq_some]
    exact ⟨fun ⟨hn, hmax, heq⟩ => ⟨hn, hmax, heq, heq⟩, fun ⟨hn, hmax, heq, _⟩ => ⟨hn, hmax, heq⟩⟩
  · rintro ⟨t, ht⟩
    obtain ⟨-, hdigits, -⟩ := requiredDecimalU64String_eq_ok.mp ht
    obtain ⟨s, -, rfl⟩ := exists_consoleText hdigits
    obtain ⟨v, hv, -⟩ := requiredDecimal_consoleText.mp ht
    exact ⟨s, v, rfl, hv⟩
  · rintro ⟨s, v, rfl, hv⟩
    exact ⟨_, requiredDecimal_consoleText.mpr ⟨v, hv, rfl⟩⟩
  · have hlt := Digits.number_lt_iff (Digits.canonical_numeral (D := unitDigits) w)
      (Digits.canonical_numeral v)
    rw [Digits.number_numeral, Digits.number_numeral] at hlt
    rw [decimalText_eq, decimalText_eq, consoleText_numeral, consoleText_numeral, Bool.eq_iff_iff,
      decide_eq_true_eq, gt_iff_lt, hlt, decimalStringIsGreaterThan]
    simp only [Bool.or_eq_true, Bool.and_eq_true, decide_eq_true_eq, gt_iff_lt]
    exact or_congr_right (and_congr_left' eq_comm)

end PmuSimulator

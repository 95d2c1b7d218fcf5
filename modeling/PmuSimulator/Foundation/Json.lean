import Mathlib

/-!
# JSON texts

The grammar of JSON over UTF-16 code units. The derivation of an object keeps its members: their
keys, with the escapes resolved, and the texts of their values.
-/

namespace Json

/-- The code unit of a character of the basic plane. -/
def unit (c : Char) : UInt16 := UInt16.ofNat c.toNat

def isSpace (u : UInt16) : Bool :=
  u = unit ' ' || u = unit '\t' || u = unit '\r' || u = unit '\n'

/-- The units that have a meaning of their own in a text: all but those of numbers and of names. -/
def isMark (u : UInt16) : Bool :=
  u = unit '"' || u = unit '{' || u = unit '}' || u = unit '[' || u = unit ']' || u = unit ',' ||
    u = unit ':'

def Spaces (t : List UInt16) : Prop := ∀ u ∈ t, isSpace u = true

/-- A text without a meaning inside: it ends where a space or a mark follows. -/
def Word (t : List UInt16) : Prop := ∀ u ∈ t, isSpace u = false ∧ isMark u = false

/-! ### Strings -/

def hexValue (u : UInt16) : Option Nat :=
  if unit '0' ≤ u ∧ u ≤ unit '9' then some (u.toNat - (unit '0').toNat)
  else if unit 'a' ≤ u ∧ u ≤ unit 'f' then some (10 + (u.toNat - (unit 'a').toNat))
  else if unit 'A' ≤ u ∧ u ≤ unit 'F' then some (10 + (u.toNat - (unit 'A').toNat))
  else none

/-- The unit of four hexadecimal digits. -/
def hexUnit (a b c d : UInt16) : Option UInt16 := do
  let a ← hexValue a
  let b ← hexValue b
  let c ← hexValue c
  let d ← hexValue d
  return UInt16.ofNat (((a * 16 + b) * 16 + c) * 16 + d)

/-- The escapes of one character, with what they stand for. -/
def escapes : List (UInt16 × UInt16) :=
  [(unit '"', unit '"'), (unit '\\', unit '\\'), (unit '/', unit '/'), (unit 'b', 8),
    (unit 'f', 12), (unit 'n', 10), (unit 'r', 13), (unit 't', 9)]

def isPlain (u : UInt16) : Bool := 32 ≤ u && u ≠ unit '"' && u ≠ unit '\\'

/-- The text between the quotes of a string, and the string it stands for. -/
inductive Characters : List UInt16 → List UInt16 → Prop where
  | nil : Characters [] []
  | plain {u : UInt16} {t k : List UInt16} (hu : isPlain u = true) (h : Characters t k) :
      Characters (u :: t) (u :: k)
  | escape {e u : UInt16} {t k : List UInt16} (he : escapes.lookup e = some u)
      (h : Characters t k) : Characters (unit '\\' :: e :: t) (u :: k)
  | hex {a b c d u : UInt16} {t k : List UInt16} (hu : hexUnit a b c d = some u)
      (h : Characters t k) : Characters (unit '\\' :: unit 'u' :: a :: b :: c :: d :: t) (u :: k)

/-- The string that the text between quotes stands for. -/
def unescape : List UInt16 → Option (List UInt16)
  | [] => some []
  | u :: t =>
    if isPlain u then (unescape t).map (u :: ·)
    else if u = unit '\\' then
      match t with
      | [] => none
      | e :: t =>
        if e = unit 'u' then
          match t with
          | a :: b :: c :: d :: t => do
            let u ← hexUnit a b c d
            return u :: (← unescape t)
          | _ => none
        else do
          let u ← escapes.lookup e
          return u :: (← unescape t)
    else none

lemma not_isPlain_backslash : isPlain (unit '\\') = false := by decide

lemma ne_u_of_escape {e u : UInt16} (he : escapes.lookup e = some u) : e ≠ unit 'u' := by
  rintro rfl
  have hnone : escapes.lookup (unit 'u') = none := by decide
  rw [hnone] at he
  cases he

theorem unescape_of_characters {t k : List UInt16} (h : Characters t k) : unescape t = some k := by
  induction h with
  | nil => rfl
  | plain hu h ih =>
    rw [unescape.eq_def]
    simp only [hu, if_true, ih, Option.map_some]
  | escape he h ih =>
    rw [unescape.eq_def]
    simp only [not_isPlain_backslash, Bool.false_eq_true, if_false, if_true,
      if_neg (ne_u_of_escape he), he, ih]
    rfl
  | hex hu h ih =>
    rw [unescape.eq_def]
    simp only [not_isPlain_backslash, Bool.false_eq_true, if_false, if_true, hu, ih]
    rfl

/-! ### Numbers and names -/

def isDigit (u : UInt16) : Bool := unit '0' ≤ u && u ≤ unit '9'

def Digits (t : List UInt16) : Prop := t ≠ [] ∧ ∀ u ∈ t, isDigit u = true

/-- Digits without a leading zero. -/
def Integer (t : List UInt16) : Prop := Digits t ∧ (t.head? = some (unit '0') → t = [unit '0'])

def Fraction (t : List UInt16) : Prop := t = [] ∨ ∃ ds, t = unit '.' :: ds ∧ Digits ds

def Exponent (t : List UInt16) : Prop :=
  t = [] ∨ ∃ e sign ds, t = e :: (sign ++ ds) ∧ (e = unit 'e' ∨ e = unit 'E') ∧
    (sign = [] ∨ sign = [unit '+'] ∨ sign = [unit '-']) ∧ Digits ds

def Number (t : List UInt16) : Prop :=
  ∃ sign int frac exp, t = sign ++ int ++ frac ++ exp ∧ (sign = [] ∨ sign = [unit '-']) ∧
    Integer int ∧ Fraction frac ∧ Exponent exp

/-- `true`, `false` and `null`. -/
def names : List (List UInt16) :=
  [['t', 'r', 'u', 'e'].map unit, ['f', 'a', 'l', 's', 'e'].map unit, ['n', 'u', 'l', 'l'].map unit]

/-! ### Values -/

/-- What a text is derived as. -/
inductive Shape where
  | value
  | elements
  | members (entries : List (List UInt16 × List UInt16))
  | object (entries : List (List UInt16 × List UInt16))

inductive Derives : Shape → List UInt16 → Prop where
  | name {t : List UInt16} (h : t ∈ names) : Derives .value t
  | number {t : List UInt16} (h : Number t) : Derives .value t
  | string {t k : List UInt16} (h : Characters t k) :
      Derives .value (unit '"' :: (t ++ [unit '"']))
  | emptyArray {s : List UInt16} (hs : Spaces s) : Derives .value (unit '[' :: (s ++ [unit ']']))
  | array {t : List UInt16} (h : Derives .elements t) :
      Derives .value (unit '[' :: (t ++ [unit ']']))
  | objectValue {entries : List (List UInt16 × List UInt16)} {t : List UInt16}
      (h : Derives (.object entries) t) : Derives .value t
  | element {s t s' : List UInt16} (hs : Spaces s) (h : Derives .value t) (hs' : Spaces s') :
      Derives .elements (s ++ t ++ s')
  | elements {s t s' rest : List UInt16} (hs : Spaces s) (h : Derives .value t) (hs' : Spaces s')
      (hrest : Derives .elements rest) : Derives .elements (s ++ t ++ s' ++ unit ',' :: rest)
  | emptyObject {s : List UInt16} (hs : Spaces s) :
      Derives (.object []) (unit '{' :: (s ++ [unit '}']))
  | object {entries : List (List UInt16 × List UInt16)} {t : List UInt16}
      (h : Derives (.members entries) t) :
      Derives (.object entries) (unit '{' :: (t ++ [unit '}']))
  | member {s key k s₁ s₂ t s₃ : List UInt16} (hs : Spaces s) (hkey : Characters key k)
      (hs₁ : Spaces s₁) (hs₂ : Spaces s₂) (h : Derives .value t) (hs₃ : Spaces s₃) :
      Derives (.members [(k, t)])
        (s ++ unit '"' :: (key ++ unit '"' :: (s₁ ++ unit ':' :: (s₂ ++ t ++ s₃))))
  | members {s key k s₁ s₂ t s₃ rest : List UInt16}
      {entries : List (List UInt16 × List UInt16)} (hs : Spaces s) (hkey : Characters key k)
      (hs₁ : Spaces s₁) (hs₂ : Spaces s₂) (h : Derives .value t) (hs₃ : Spaces s₃)
      (hrest : Derives (.members entries) rest) :
      Derives (.members ((k, t) :: entries))
        (s ++ unit '"' :: (key ++ unit '"' :: (s₁ ++ unit ':' ::
          (s₂ ++ t ++ s₃ ++ unit ',' :: rest))))

/-- A text of an object, with spaces around it. -/
def ObjectText (entries : List (List UInt16 × List UInt16)) (text : List UInt16) : Prop :=
  ∃ s t s', text = s ++ t ++ s' ∧ Spaces s ∧ Derives (.object entries) t ∧ Spaces s'

/-! ### Words -/

lemma word_append {t t' : List UInt16} (h : Word t) (h' : Word t') : Word (t ++ t') :=
  List.forall_mem_append.mpr ⟨h, h'⟩

lemma word_cons {u : UInt16} {t : List UInt16} (hu : isSpace u = false ∧ isMark u = false)
    (h : Word t) : Word (u :: t) := List.forall_mem_cons.mpr ⟨hu, h⟩

lemma word_nil : Word [] := List.forall_mem_nil _

lemma word_of_all {t : List UInt16} (h : t.all (fun u => !isSpace u && !isMark u) = true) :
    Word t := by
  intro u hu
  simpa using List.all_eq_true.mp h u hu

lemma word_digits {t : List UInt16} (h : Digits t) : Word t := by
  have hdigits : ∀ n < 10, isSpace (UInt16.ofNat (48 + n)) = false ∧
      isMark (UInt16.ofNat (48 + n)) = false := by decide
  intro u hu
  have hdigit := h.2 u hu
  simp only [isDigit, Bool.and_eq_true, decide_eq_true_eq, UInt16.le_iff_toNat_le] at hdigit
  change 48 ≤ u.toNat ∧ u.toNat ≤ 57 at hdigit
  have heq : u = UInt16.ofNat (48 + (u.toNat - 48)) := by
    rw [Nat.add_sub_cancel' hdigit.1, UInt16.ofNat_toNat]
  rw [heq]
  exact hdigits _ (by omega)

lemma word_number {t : List UInt16} (h : Number t) : Word t ∧ t ≠ [] := by
  obtain ⟨sign, int, frac, exp, rfl, hsign, hint, hfrac, hexp⟩ := h
  have hwsign : Word sign := by
    rcases hsign with rfl | rfl
    · exact word_nil
    · exact word_cons (by decide) word_nil
  have hwfrac : Word frac := by
    rcases hfrac with rfl | ⟨ds, rfl, hds⟩
    · exact word_nil
    · exact word_cons (by decide) (word_digits hds)
  have hwexp : Word exp := by
    rcases hexp with rfl | ⟨e, sign, ds, rfl, he, hsign, hds⟩
    · exact word_nil
    · refine word_cons ?_ (word_append ?_ (word_digits hds))
      · rcases he with rfl | rfl <;> decide
      · rcases hsign with rfl | rfl | rfl
        · exact word_nil
        · exact word_cons (by decide) word_nil
        · exact word_cons (by decide) word_nil
  refine ⟨word_append (word_append (word_append hwsign (word_digits hint.1)) hwfrac) hwexp, ?_⟩
  simp [hint.1.1]

lemma word_name {t : List UInt16} (h : t ∈ names) : Word t ∧ t ≠ [] := by
  simp only [names, List.mem_cons, List.not_mem_nil, or_false] at h
  rcases h with rfl | rfl | rfl
  all_goals exact ⟨word_of_all (by decide), by simp⟩

/-- A value starts with something else than a space. -/
lemma head_of_value {shape : Shape} {t : List UInt16} (h : Derives shape t)
    (hshape : shape = .value ∨ ∃ entries, shape = .object entries) :
    ∃ u t', t = u :: t' ∧ isSpace u = false := by
  have hword : ∀ {t : List UInt16}, Word t ∧ t ≠ [] → ∃ u t', t = u :: t' ∧ isSpace u = false := by
    rintro t ⟨hword, hne⟩
    obtain ⟨u, t', rfl⟩ := List.exists_cons_of_ne_nil hne
    exact ⟨u, t', rfl, (hword u List.mem_cons_self).1⟩
  induction h with
  | name h => exact hword (word_name h)
  | number h => exact hword (word_number h)
  | string | emptyArray | array | emptyObject | object => exact ⟨_, _, rfl, by decide⟩
  | objectValue _ ih => exact ih (.inr ⟨_, rfl⟩)
  | element | elements | member | members => simp at hshape

end Json

import Mathlib
import PmuSimulator.Foundation.Json
import PmuSimulator.Console.DecimalText

/-!
# A number from the text of a snapshot

`JSON.parse` would round a 64-bit number. The console therefore also scans the text itself for the
value of one property of the outermost object, and keeps its digits.

The scanner knows strings and brackets, but not the rest of the grammar. On each text of the
grammar it ends a value where the grammar does.
-/

namespace PmuSimulator

open Json (unit)

/-! ### The scanner -/

/-- The loops that move forward over characters of one kind. -/
def skipWhile (skipped : UInt16 → Bool) (text : ConsoleText) (position : Nat) : Nat :=
  if h : position < text.length then
    if skipped text[position] then skipWhile skipped text (position + 1) else position
  else position
termination_by text.length - position

def skipJsonWhitespace : ConsoleText → Nat → Nat := skipWhile Json.isSpace

/-- The loop of `jsonStringEnd`. -/
def stringScan (text : ConsoleText) (position : Nat) : Except ConsoleError Nat :=
  if h : position < text.length then
    if text[position] = unit '\\' then stringScan text (position + 2)
    else if text[position] = unit '"' then .ok (position + 1)
    else stringScan text (position + 1)
  else .error (.snapshot "payload")
termination_by text.length - position

def jsonStringEnd (text : ConsoleText) (position : Nat) : Except ConsoleError Nat := do
  assertSnapshot (text[position]? = some (unit '"'))
  stringScan text (position + 1)

lemma le_stringScan {text : ConsoleText} {position q : Nat}
    (h : stringScan text position = .ok q) : position < q := by
  fun_induction stringScan text position with
  | case1 position hlt hescape ih =>
    have hlater := ih h
    omega
  | case2 position hlt hescape hquote =>
    cases h
    exact Nat.lt_succ_self position
  | case3 position hlt hescape hquote ih =>
    have hlater := ih h
    omega
  | case4 => cases h

lemma lt_jsonStringEnd {text : ConsoleText} {position q : Nat}
    (h : jsonStringEnd text position = .ok q) : position < q :=
  Nat.lt_of_succ_lt (le_stringScan (bind_assertSnapshot.mp h).2)

/-- The loop of `jsonValueEnd` inside brackets, with the closing characters of those that are open,
the innermost first. -/
def bracketScan (text : ConsoleText) (position : Nat) (closingCharacters : List UInt16) :
    Except ConsoleError Nat :=
  if h : position < text.length then
    let character := text[position]
    if character = unit '"' then
      match hend : jsonStringEnd text position with
      | .error e => .error e
      | .ok stringEnd => bracketScan text stringEnd closingCharacters
    else if character = unit '{' then
      bracketScan text (position + 1) (unit '}' :: closingCharacters)
    else if character = unit '[' then
      bracketScan text (position + 1) (unit ']' :: closingCharacters)
    else if character = unit '}' ∨ character = unit ']' then
      if closingCharacters.head? = some character then
        match closingCharacters.tail with
        | [] => .ok (position + 1)
        | closingCharacters => bracketScan text (position + 1) closingCharacters
      else .error (.snapshot "payload")
    else bracketScan text (position + 1) closingCharacters
  else .error (.snapshot "payload")
termination_by text.length - position
decreasing_by
  · have hlt := lt_jsonStringEnd hend
    omega
  all_goals omega

/-- The characters that end a value outside of brackets. -/
def endsWord (u : UInt16) : Bool :=
  Json.isSpace u || u = unit ',' || u = unit ']' || u = unit '}'

def jsonValueEnd (text : ConsoleText) (position : Nat) : Except ConsoleError Nat :=
  if text[position]? = some (unit '"') then jsonStringEnd text position
  else if text[position]? = some (unit '{') then bracketScan text (position + 1) [unit '}']
  else if text[position]? = some (unit '[') then bracketScan text (position + 1) [unit ']']
  else .ok (skipWhile (!endsWord ·) text position)

def slice (text : ConsoleText) (start stop : Nat) : ConsoleText :=
  (text.drop start).take (stop - start)

/-- `JSON.parse` on the text of a string, with its quotes. -/
def parseJsonString (text : ConsoleText) : Except ConsoleError ConsoleText :=
  match text with
  | [] => .error .invalidJson
  | u :: rest =>
    if u = unit '"' ∧ rest.getLast? = some (unit '"') then
      match Json.unescape rest.dropLast with
      | some value => .ok value
      | none => .error .invalidJson
    else .error .invalidJson

/-- The value to return at the end of the object. -/
def foundValue (decimalValue : Option ConsoleText) : Except ConsoleError ConsoleText :=
  match decimalValue with
  | some value => .ok value
  | none => .error (.snapshot "payload")

/-- The decimal value behind a property. -/
def takeProperty (propertyName key value : ConsoleText) (decimalValue : Option ConsoleText) :
    Except ConsoleError (Option ConsoleText) :=
  if key = propertyName then do
    assertSnapshot (decimalValue = none)
    let decimal ← requiredDecimalU64String value
    return some decimal
  else .ok decimalValue

/-- One turn of the loop of `extractTopLevelDecimalU64Property`: where the next one starts, with the
decimal value found so far, or the value to return. -/
def extractTurn (text propertyName : ConsoleText) (position : Nat)
    (decimalValue : Option ConsoleText) :
    Except ConsoleError ((Nat × Option ConsoleText) ⊕ ConsoleText) :=
  let keyStart := skipJsonWhitespace text position
  if text[keyStart]? = some (unit '}') then (foundValue decimalValue).map .inr
  else do
    let keyEnd ← jsonStringEnd text keyStart
    let key ← parseJsonString (slice text keyStart keyEnd)
    let colon := skipJsonWhitespace text keyEnd
    assertSnapshot (text[colon]? = some (unit ':'))
    let valueStart := skipJsonWhitespace text (colon + 1)
    let valueEnd ← jsonValueEnd text valueStart
    let decimalValue ← takeProperty propertyName key (slice text valueStart valueEnd) decimalValue
    let behind := skipJsonWhitespace text valueEnd
    if text[behind]? = some (unit ',') then .ok (.inl (behind + 1, decimalValue))
    else do
      assertSnapshot (text[behind]? = some (unit '}'))
      (foundValue decimalValue).map .inr

/-! ### Progress -/

lemma le_skipWhile (skipped : UInt16 → Bool) (text : ConsoleText) (position : Nat) :
    position ≤ skipWhile skipped text position := by
  fun_induction skipWhile skipped text position with
  | case1 position hlt hskip ih => exact Nat.le_of_succ_le ih
  | case2 => exact le_rfl
  | case3 => exact le_rfl

lemma lt_bracketScan {text : ConsoleText} {position q : Nat} {closingCharacters : List UInt16}
    (h : bracketScan text position closingCharacters = .ok q) : position < q := by
  fun_induction bracketScan text position closingCharacters with
  | case1 => cases h
  | case2 position closing hlt character hquote stringEnd hend ih =>
    exact (lt_jsonStringEnd hend).trans (ih h)
  | case3 position closing hlt character hquote hopen ih => exact Nat.lt_of_succ_lt (ih h)
  | case4 position closing hlt character hquote hopen hopen' ih => exact Nat.lt_of_succ_lt (ih h)
  | case5 =>
    cases h
    exact Nat.lt_succ_self _
  | case6 position closing hlt character hquote hopen hopen' hclose hmatch hmore ih =>
    exact Nat.lt_of_succ_lt (ih h)
  | case7 => cases h
  | case8 position closing hlt character hquote hopen hopen' hclose ih =>
    exact Nat.lt_of_succ_lt (ih h)
  | case9 => cases h

lemma le_jsonValueEnd {text : ConsoleText} {position q : Nat}
    (h : jsonValueEnd text position = .ok q) : position ≤ q := by
  unfold jsonValueEnd at h
  split_ifs at h
  · exact (lt_jsonStringEnd h).le
  · exact (Nat.lt_of_succ_lt (lt_bracketScan h)).le
  · exact (Nat.lt_of_succ_lt (lt_bracketScan h)).le
  · cases h
    exact le_skipWhile _ text position

/-- Each turn moves forward in the text. -/
theorem lt_extractTurn {text propertyName : ConsoleText} {position q : Nat}
    {decimalValue found : Option ConsoleText}
    (h : extractTurn text propertyName position decimalValue = .ok (.inl (q, found))) :
    position < q ∧ q ≤ text.length := by
  have hfound : ∀ {v : Option ConsoleText}, (foundValue v).map Sum.inr ≠ .ok (.inl (q, found)) := by
    intro v hv
    cases v <;> cases hv
  unfold extractTurn at h
  dsimp only at h
  split at h
  · exact absurd h hfound
  obtain ⟨keyEnd, hkey, h⟩ := bind_eq_ok.mp h
  obtain ⟨key, -, h⟩ := bind_eq_ok.mp h
  obtain ⟨-, h⟩ := bind_assertSnapshot.mp h
  obtain ⟨valueEnd, hvalue, h⟩ := bind_eq_ok.mp h
  obtain ⟨value, -, h⟩ := bind_eq_ok.mp h
  split at h
  next hcomma =>
    obtain ⟨rfl, rfl⟩ := Prod.mk.inj (Sum.inl.inj (Except.ok.inj h))
    obtain ⟨hbehind, -⟩ := List.getElem?_eq_some_iff.mp hcomma
    refine ⟨?_, hbehind⟩
    calc position ≤ skipJsonWhitespace text position := le_skipWhile _ _ _
      _ ≤ keyEnd := (lt_jsonStringEnd hkey).le
      _ ≤ skipJsonWhitespace text keyEnd := le_skipWhile _ _ _
      _ ≤ skipJsonWhitespace text (skipJsonWhitespace text keyEnd + 1) :=
        (Nat.le_succ _).trans (le_skipWhile _ _ _)
      _ ≤ valueEnd := le_jsonValueEnd hvalue
      _ ≤ skipJsonWhitespace text valueEnd := le_skipWhile _ _ _
      _ < skipJsonWhitespace text valueEnd + 1 := Nat.lt_succ_self _
  · exact absurd (bind_assertSnapshot.mp h).2 hfound

def extractLoop (text propertyName : ConsoleText) (position : Nat)
    (decimalValue : Option ConsoleText) : Except ConsoleError ConsoleText :=
  match _hturn : extractTurn text propertyName position decimalValue with
  | .error e => .error e
  | .ok (.inl (position, decimalValue)) => extractLoop text propertyName position decimalValue
  | .ok (.inr value) => .ok value
termination_by text.length - position
decreasing_by
  have hforward := lt_extractTurn _hturn
  omega

def extractTopLevelDecimalU64Property (text propertyName : ConsoleText) :
    Except ConsoleError ConsoleText := do
  let position := skipJsonWhitespace text 0
  assertSnapshot (text[position]? = some (unit '{'))
  extractLoop text propertyName (position + 1) none

/-! ### Places in a text -/

section Places

variable {text t rest : ConsoleText} {position : Nat} {u : UInt16}

lemma getElem?_of_drop (h : text.drop position = u :: rest) : text[position]? = some u := by
  rw [← List.head?_drop, h, List.head?_cons]

lemma exists_getElem_of_drop (h : text.drop position = u :: rest) :
    ∃ hlt : position < text.length, text[position] = u :=
  List.getElem?_eq_some_iff.mp (getElem?_of_drop h)

lemma drop_succ (h : text.drop position = u :: rest) : text.drop (position + 1) = rest := by
  rw [← List.tail_drop, h, List.tail_cons]

lemma drop_behind (h : text.drop position = t ++ rest) :
    text.drop (position + t.length) = rest := by
  rw [← List.drop_drop, h, List.drop_left]

lemma slice_of_drop (h : text.drop position = t ++ rest) :
    slice text position (position + t.length) = t := by
  rw [slice, h, Nat.add_sub_cancel_left, List.take_left]

/-- A loop over characters of one kind ends in front of the first of another kind. -/
lemma skipWhile_of_drop {skipped : UInt16 → Bool} (ht : ∀ v ∈ t, skipped v = true)
    (hu : skipped u = false) (h : text.drop position = t ++ u :: rest) :
    skipWhile skipped text position = position + t.length := by
  induction t generalizing position with
  | nil =>
    obtain ⟨hlt, hget⟩ := exists_getElem_of_drop h
    rw [skipWhile, dif_pos hlt, hget, if_neg (by simp [hu])]
    rfl
  | cons v t ih =>
    obtain ⟨hlt, hget⟩ := exists_getElem_of_drop h
    obtain ⟨hv, ht⟩ := List.forall_mem_cons.mp ht
    rw [skipWhile, dif_pos hlt, hget, if_pos hv, ih ht (drop_succ h), List.length_cons]
    omega

end Places

/-! ### Strings -/

lemma stringScan_plain {text rest : ConsoleText} {position : Nat} {u : UInt16}
    (hu : u ≠ unit '"' ∧ u ≠ unit '\\') (h : text.drop position = u :: rest) :
    stringScan text position = stringScan text (position + 1) := by
  obtain ⟨hlt, hget⟩ := exists_getElem_of_drop h
  rw [stringScan, dif_pos hlt, hget, if_neg hu.2, if_neg hu.1]

lemma stringScan_escape {text rest : ConsoleText} {position : Nat}
    (h : text.drop position = unit '\\' :: rest) :
    stringScan text position = stringScan text (position + 2) := by
  obtain ⟨hlt, hget⟩ := exists_getElem_of_drop h
  rw [stringScan, dif_pos hlt, hget, if_pos rfl]

lemma plain_of_hexValue {u : UInt16} {n : Nat} (h : Json.hexValue u = some n) :
    u ≠ unit '"' ∧ u ≠ unit '\\' := by
  have hquote : Json.hexValue (unit '"') = none := by decide
  have hbackslash : Json.hexValue (unit '\\') = none := by decide
  constructor
  · rintro rfl
    rw [hquote] at h
    cases h
  · rintro rfl
    rw [hbackslash] at h
    cases h

/-- A string is scanned up to its closing quote, whatever is escaped in it. -/
theorem stringScan_characters {text t k rest : ConsoleText} {position : Nat}
    (hchars : Json.Characters t k) (h : text.drop position = t ++ unit '"' :: rest) :
    stringScan text position = .ok (position + t.length + 1) := by
  induction hchars generalizing position with
  | nil =>
    obtain ⟨hlt, hget⟩ := exists_getElem_of_drop h
    rw [stringScan, dif_pos hlt, hget, if_neg (by decide), if_pos rfl]
    rfl
  | @plain u t k hu _ ih =>
    simp only [Json.isPlain, Bool.and_eq_true, decide_eq_true_eq] at hu
    rw [stringScan_plain ⟨hu.1.2, hu.2⟩ h, ih (drop_succ h), List.length_cons]
    congr 1
    omega
  | @escape e u t k he _ ih =>
    rw [stringScan_escape h, ih (drop_succ (drop_succ h)), List.length_cons, List.length_cons]
    congr 1
    omega
  | @hex a b c d u t k hu _ ih =>
    simp only [Json.hexUnit, Option.bind_eq_bind, Option.bind_eq_some_iff] at hu
    obtain ⟨_, ha, _, hb, _, hc, _, hd, -⟩ := hu
    have hdigits := drop_succ (drop_succ h)
    rw [stringScan_escape h, stringScan_plain (plain_of_hexValue ha) hdigits,
      stringScan_plain (plain_of_hexValue hb) (drop_succ hdigits),
      stringScan_plain (plain_of_hexValue hc) (drop_succ (drop_succ hdigits)),
      stringScan_plain (plain_of_hexValue hd) (drop_succ (drop_succ (drop_succ hdigits))),
      ih (drop_succ (drop_succ (drop_succ (drop_succ hdigits))))]
    simp only [List.length_cons]
    congr 1
    omega

lemma jsonStringEnd_characters {text t k rest : ConsoleText} {position : Nat}
    (hchars : Json.Characters t k)
    (h : text.drop position = unit '"' :: (t ++ unit '"' :: rest)) :
    jsonStringEnd text position = .ok (position + t.length + 2) := by
  rw [jsonStringEnd, bind_assertSnapshot]
  refine ⟨getElem?_of_drop h, ?_⟩
  rw [stringScan_characters hchars (drop_succ h)]
  congr 1
  omega

lemma parseJsonString_characters {t k : ConsoleText} (hchars : Json.Characters t k) :
    parseJsonString (unit '"' :: (t ++ [unit '"'])) = .ok k := by
  simp [parseJsonString, Json.unescape_of_characters hchars]

/-! ### Brackets -/

/-- What the scanner passes over inside brackets, without a change to those that are open. -/
def Passed (t : ConsoleText) : Prop :=
  ∀ (text rest closing : ConsoleText) (position : Nat), text.drop position = t ++ rest →
    closing ≠ [] → bracketScan text position closing =
      bracketScan text (position + t.length) closing

lemma passed_nil : Passed [] := fun _ _ _ _ _ _ => rfl

lemma Passed.append {t t' : ConsoleText} (h : Passed t) (h' : Passed t') : Passed (t ++ t') := by
  intro text rest closing position hdrop hopen
  rw [List.append_assoc] at hdrop
  rw [h _ _ _ _ hdrop hopen, h' _ _ _ _ (drop_behind hdrop) hopen, List.length_append,
    Nat.add_assoc]

/-- A character that is neither a quote nor a bracket. -/
def isLoose (u : UInt16) : Bool :=
  u ≠ unit '"' && u ≠ unit '{' && u ≠ unit '[' && u ≠ unit '}' && u ≠ unit ']'

lemma passed_loose {u : UInt16} (hu : isLoose u = true) : Passed [u] := by
  intro text rest closing position hdrop _
  obtain ⟨hlt, hget⟩ := exists_getElem_of_drop hdrop
  simp only [isLoose, Bool.and_eq_true, decide_eq_true_eq] at hu
  obtain ⟨⟨⟨⟨hquote, hbrace⟩, hbracket⟩, hbrace'⟩, hbracket'⟩ := hu
  rw [bracketScan, dif_pos hlt]
  simp only [hget]
  rw [if_neg hquote, if_neg hbrace, if_neg hbracket, if_neg (not_or.mpr ⟨hbrace', hbracket'⟩)]
  rfl

lemma passed_all {t : ConsoleText} (ht : ∀ u ∈ t, isLoose u = true) : Passed t := by
  induction t with
  | nil => exact passed_nil
  | cons u t ih =>
    obtain ⟨hu, ht⟩ := List.forall_mem_cons.mp ht
    exact (passed_loose hu).append (ih ht)

lemma passed_spaces {t : ConsoleText} (ht : Json.Spaces t) : Passed t := by
  refine passed_all fun u hu => ?_
  have hspace := ht u hu
  simp only [Json.isSpace, Bool.or_eq_true, decide_eq_true_eq] at hspace
  rcases hspace with ((rfl | rfl) | rfl) | rfl <;> decide

lemma passed_word {t : ConsoleText} (ht : Json.Word t) : Passed t := by
  refine passed_all fun u hu => ?_
  have hmark := (ht u hu).2
  simp only [Json.isMark, Bool.or_eq_false_iff, decide_eq_false_iff_not] at hmark
  simp [isLoose, hmark]

lemma passed_string {t k : ConsoleText} (hchars : Json.Characters t k) :
    Passed (unit '"' :: (t ++ [unit '"'])) := by
  intro text rest closing position hdrop _
  have hstart : text.drop position = unit '"' :: (t ++ unit '"' :: rest) := by simpa using hdrop
  obtain ⟨hlt, hget⟩ := exists_getElem_of_drop hstart
  have hend := jsonStringEnd_characters hchars hstart
  have hlength : position + (unit '"' :: (t ++ [unit '"'])).length = position + t.length + 2 := by
    simp only [List.length_cons, List.length_append, List.length_nil]
    omega
  rw [bracketScan, dif_pos hlt, hlength]
  simp only [hget, if_true]
  split
  next e herror =>
    rw [hend] at herror
    cases herror
  next stringEnd hok =>
    rw [hend] at hok
    rw [Except.ok.inj hok]

/-- The brackets of arrays and of objects, with the character that closes each. -/
def IsBrackets (opening close : UInt16) : Prop :=
  opening = unit '{' ∧ close = unit '}' ∨ opening = unit '[' ∧ close = unit ']'

lemma bracketScan_open {text rest closing : ConsoleText} {position : Nat} {opening close : UInt16}
    (hbrackets : IsBrackets opening close) (h : text.drop position = opening :: rest) :
    bracketScan text position closing = bracketScan text (position + 1) (close :: closing) := by
  obtain ⟨hlt, hget⟩ := exists_getElem_of_drop h
  rw [bracketScan, dif_pos hlt]
  simp only [hget]
  rcases hbrackets with ⟨rfl, rfl⟩ | ⟨rfl, rfl⟩
  · rw [if_neg (by decide), if_pos rfl]
  · rw [if_neg (by decide), if_neg (by decide), if_pos rfl]

lemma bracketScan_close {text rest closing : ConsoleText} {position : Nat} {opening close : UInt16}
    (hbrackets : IsBrackets opening close) (h : text.drop position = close :: rest) :
    bracketScan text position (close :: closing) =
      if closing = [] then .ok (position + 1) else bracketScan text (position + 1) closing := by
  obtain ⟨hlt, hget⟩ := exists_getElem_of_drop h
  have hclose : close ≠ unit '"' ∧ close ≠ unit '{' ∧ close ≠ unit '[' ∧
      (close = unit '}' ∨ close = unit ']') := by
    rcases hbrackets with ⟨-, rfl⟩ | ⟨-, rfl⟩ <;> decide
  rw [bracketScan, dif_pos hlt]
  simp only [hget]
  rw [if_neg hclose.1, if_neg hclose.2.1, if_neg hclose.2.2.1, if_pos hclose.2.2.2, List.head?_cons,
    if_pos rfl, List.tail_cons]
  cases closing with
  | nil => rfl
  | cons c closing => rfl

/-- Inside brackets, what is passed over leads to the closing one. -/
lemma bracketScan_inside {text t rest : ConsoleText} (closing : ConsoleText) {position : Nat}
    {opening close : UInt16} (hbrackets : IsBrackets opening close) (ht : Passed t)
    (h : text.drop position = opening :: (t ++ close :: rest)) :
    bracketScan text (position + 1) (close :: closing) =
      if closing = [] then .ok (position + t.length + 2)
      else bracketScan text (position + t.length + 2) closing := by
  have hinside := drop_succ h
  rw [ht _ _ _ _ hinside (List.cons_ne_nil _ _), bracketScan_close hbrackets (drop_behind hinside)]
  have hposition : position + 1 + t.length + 1 = position + t.length + 2 := by omega
  rw [hposition]

lemma Passed.brackets {t : ConsoleText} {opening close : UInt16}
    (hbrackets : IsBrackets opening close) (ht : Passed t) :
    Passed (opening :: (t ++ [close])) := by
  intro text rest closing position hdrop hopen
  have hstart : text.drop position = opening :: (t ++ close :: rest) := by simpa using hdrop
  rw [bracketScan_open hbrackets hstart, bracketScan_inside _ hbrackets ht hstart, if_neg hopen]
  congr 1
  simp only [List.length_cons, List.length_append, List.length_nil]
  omega

/-- Whatever the grammar derives is passed over inside brackets. -/
theorem passed_derives {shape : Json.Shape} {t : ConsoleText} (h : Json.Derives shape t) :
    Passed t := by
  have hcomma : Passed [unit ','] := passed_loose (by decide)
  have hcolon : Passed [unit ':'] := passed_loose (by decide)
  have harray : IsBrackets (unit '[') (unit ']') := .inr ⟨rfl, rfl⟩
  have hobject : IsBrackets (unit '{') (unit '}') := .inl ⟨rfl, rfl⟩
  induction h with
  | name h => exact passed_word (Json.word_name h).1
  | number h => exact passed_word (Json.word_number h).1
  | string h => exact passed_string h
  | emptyArray hs => exact (passed_spaces hs).brackets harray
  | array _ ih => exact ih.brackets harray
  | objectValue _ ih => exact ih
  | element hs _ hs' ih => exact ((passed_spaces hs).append ih).append (passed_spaces hs')
  | elements hs _ hs' _ ih ihrest =>
    exact (((passed_spaces hs).append ih).append (passed_spaces hs')).append (hcomma.append ihrest)
  | emptyObject hs => exact (passed_spaces hs).brackets hobject
  | object _ ih => exact ih.brackets hobject
  | @member s key k s₁ s₂ t s₃ hs hkey hs₁ hs₂ _ hs₃ ih =>
    have hvalue := ((passed_spaces hs₂).append ih).append (passed_spaces hs₃)
    have hall := (passed_spaces hs).append
      ((passed_string hkey).append ((passed_spaces hs₁).append (hcolon.append hvalue)))
    simpa using hall
  | @members s key k s₁ s₂ t s₃ rest entries hs hkey hs₁ hs₂ _ hs₃ _ ih ihrest =>
    have hvalue := ((passed_spaces hs₂).append ih).append (passed_spaces hs₃)
    have hall := (passed_spaces hs).append ((passed_string hkey).append
      ((passed_spaces hs₁).append (hcolon.append (hvalue.append (hcomma.append ihrest)))))
    simpa using hall

/-! ### Values -/

lemma jsonValueEnd_brackets {text t rest : ConsoleText} {position : Nat} {opening close : UInt16}
    (hbrackets : IsBrackets opening close) (ht : Passed t)
    (h : text.drop position = opening :: (t ++ close :: rest)) :
    jsonValueEnd text position = .ok (position + (opening :: (t ++ [close])).length) := by
  have hget := getElem?_of_drop h
  have hscan := bracketScan_inside [] hbrackets ht h
  have hlength : position + (opening :: (t ++ [close])).length = position + t.length + 2 := by
    simp only [List.length_cons, List.length_append, List.length_nil]
    omega
  rw [if_pos rfl] at hscan
  rw [jsonValueEnd, hget, hlength]
  simp only [Option.some.injEq]
  rcases hbrackets with ⟨rfl, rfl⟩ | ⟨rfl, rfl⟩
  · rw [if_neg (by decide), if_pos rfl]
    exact hscan
  · rw [if_neg (by decide), if_neg (by decide), if_pos rfl]
    exact hscan

lemma jsonValueEnd_word {text t rest : ConsoleText} {position : Nat} {d : UInt16}
    (ht : Json.Word t ∧ t ≠ []) (hd : endsWord d = true)
    (h : text.drop position = t ++ d :: rest) :
    jsonValueEnd text position = .ok (position + t.length) := by
  obtain ⟨hword, hne⟩ := ht
  obtain ⟨u, t', rfl⟩ := List.exists_cons_of_ne_nil hne
  have hnot : ∀ v ∈ u :: t', (!endsWord v) = true := by
    intro v hv
    obtain ⟨hspace, hmark⟩ := hword v hv
    simp only [Json.isMark, Bool.or_eq_false_iff, decide_eq_false_iff_not] at hmark
    simp [endsWord, hspace, hmark]
  have hmark := (hword u List.mem_cons_self).2
  simp only [Json.isMark, Bool.or_eq_false_iff, decide_eq_false_iff_not] at hmark
  rw [jsonValueEnd, getElem?_of_drop h, skipWhile_of_drop hnot (by simp [hd]) h]
  simp [hmark]

/-- A value ends where the grammar ends it, in front of a space or of what closes or separates. -/
theorem jsonValueEnd_derives {shape : Json.Shape} {text t rest : ConsoleText} {position : Nat}
    {d : UInt16} (ht : Json.Derives shape t)
    (hshape : shape = .value ∨ ∃ entries, shape = .object entries) (hd : endsWord d = true)
    (h : text.drop position = t ++ d :: rest) :
    jsonValueEnd text position = .ok (position + t.length) := by
  have harray : IsBrackets (unit '[') (unit ']') := .inr ⟨rfl, rfl⟩
  have hobject : IsBrackets (unit '{') (unit '}') := .inl ⟨rfl, rfl⟩
  induction ht with
  | name ht => exact jsonValueEnd_word (Json.word_name ht) hd h
  | number ht => exact jsonValueEnd_word (Json.word_number ht) hd h
  | @string t k hchars =>
    have hstart : text.drop position = unit '"' :: (t ++ unit '"' :: (d :: rest)) := by
      simpa using h
    rw [jsonValueEnd, getElem?_of_drop hstart, if_pos rfl, jsonStringEnd_characters hchars hstart]
    simp [Nat.add_assoc]
  | emptyArray hs => exact jsonValueEnd_brackets harray (passed_spaces hs) (by simpa using h)
  | array ht => exact jsonValueEnd_brackets harray (passed_derives ht) (by simpa using h)
  | objectValue _ ih => exact ih (.inr ⟨_, rfl⟩) h
  | emptyObject hs => exact jsonValueEnd_brackets hobject (passed_spaces hs) (by simpa using h)
  | object ht => exact jsonValueEnd_brackets hobject (passed_derives ht) (by simpa using h)
  | element | elements | member | members => simp at hshape

/-- A value ends where the grammar ends it also where spaces follow. -/
lemma jsonValueEnd_value {text t s rest : ConsoleText} {position : Nat} {d : UInt16}
    (ht : Json.Derives .value t) (hs : Json.Spaces s) (hd : d = unit ',' ∨ d = unit '}')
    (h : text.drop position = t ++ (s ++ d :: rest)) :
    jsonValueEnd text position = .ok (position + t.length) := by
  cases s with
  | nil =>
    refine jsonValueEnd_derives ht (.inl rfl) ?_ h
    rcases hd with rfl | rfl <;> decide
  | cons u s =>
    refine jsonValueEnd_derives ht (.inl rfl) ?_ h
    rw [endsWord, hs u List.mem_cons_self]
    rfl

/-! ### Members -/

lemma skipJsonWhitespace_of_drop {text s rest : ConsoleText} {position : Nat} {u : UInt16}
    (hs : Json.Spaces s) (hu : Json.isSpace u = false)
    (h : text.drop position = s ++ u :: rest) :
    skipJsonWhitespace text position = position + s.length := skipWhile_of_drop hs hu h

/-- One turn reads one member, up to the comma or the brace behind it. -/
theorem extractTurn_member {text s key k s₁ s₂ t s₃ rest : ConsoleText} {position : Nat}
    (propertyName : ConsoleText) (decimalValue : Option ConsoleText) {d : UInt16}
    (hs : Json.Spaces s)
    (hkey : Json.Characters key k) (hs₁ : Json.Spaces s₁) (hs₂ : Json.Spaces s₂)
    (ht : Json.Derives .value t) (hs₃ : Json.Spaces s₃) (hd : d = unit ',' ∨ d = unit '}')
    (h : text.drop position =
      s ++ unit '"' :: (key ++ unit '"' :: (s₁ ++ unit ':' :: (s₂ ++ t ++ s₃ ++ d :: rest)))) :
    ∃ behind, text.drop behind = d :: rest ∧
      extractTurn text propertyName position decimalValue =
        takeProperty propertyName k t decimalValue >>= fun decimalValue =>
          if d = unit ',' then .ok (.inl (behind + 1, decimalValue))
          else (foundValue decimalValue).map .inr := by
  have hkeyStart := skipJsonWhitespace_of_drop hs (by decide) h
  have hquote := drop_behind h
  have hkeyEnd := jsonStringEnd_characters hkey hquote
  have hstring : text.drop (position + s.length) =
      (unit '"' :: (key ++ [unit '"'])) ++ (s₁ ++ unit ':' :: (s₂ ++ t ++ s₃ ++ d :: rest)) := by
    simpa using hquote
  have hlength : position + s.length + (unit '"' :: (key ++ [unit '"'])).length =
      position + s.length + key.length + 2 := by
    simp only [List.length_cons, List.length_append, List.length_nil]
    omega
  have hslice := slice_of_drop hstring
  have hbehindKey := drop_behind hstring
  rw [hlength] at hslice hbehindKey
  have hcolon := skipJsonWhitespace_of_drop hs₁ (by decide) hbehindKey
  have hcolonAt := drop_behind hbehindKey
  obtain ⟨u, t', hstart, hu⟩ := Json.head_of_value ht (.inl rfl)
  have hbehindColon := drop_succ hcolonAt
  have hvalueAt : text.drop (position + s.length + key.length + 2 + s₁.length + 1) =
      s₂ ++ u :: (t' ++ (s₃ ++ d :: rest)) := by simpa [hstart] using hbehindColon
  have hvalueStart := skipJsonWhitespace_of_drop hs₂ hu hvalueAt
  have hvalue := drop_behind hvalueAt
  rw [← List.cons_append, ← hstart] at hvalue
  have hdspace : Json.isSpace d = false := by rcases hd with rfl | rfl <;> decide
  have hvalueEnd := jsonValueEnd_value ht hs₃ hd hvalue
  have hbehindValue := drop_behind hvalue
  have hbehind := skipJsonWhitespace_of_drop hs₃ hdspace hbehindValue
  have hbehindAt := drop_behind hbehindValue
  refine ⟨_, hbehindAt, ?_⟩
  have hkeyUnit := getElem?_of_drop hquote
  unfold extractTurn
  simp only [hkeyStart, hkeyUnit]
  rw [if_neg (by decide), hkeyEnd]
  simp only [ok_bind, hslice, parseJsonString_characters hkey, hcolon, getElem?_of_drop hcolonAt,
    assertSnapshot, if_true, hvalueStart, hvalueEnd, slice_of_drop hvalue, hbehind,
    getElem?_of_drop hbehindAt]
  rcases hd with rfl | rfl
  · simp
  · have hne : unit '}' ≠ unit ',' := by decide
    simp only [Option.some.injEq, hne, if_false, if_true, ok_bind]

/-! ### The object -/

lemma extractLoop_continue {text propertyName : ConsoleText} {position q : Nat}
    {decimalValue found : Option ConsoleText}
    (h : extractTurn text propertyName position decimalValue = .ok (.inl (q, found))) :
    extractLoop text propertyName position decimalValue =
      extractLoop text propertyName q found := by
  rw [extractLoop]
  split <;> simp_all

lemma extractLoop_return {text propertyName : ConsoleText} {position : Nat}
    {decimalValue : Option ConsoleText} {r : Except ConsoleError ConsoleText}
    (h : extractTurn text propertyName position decimalValue = r.map .inr) :
    extractLoop text propertyName position decimalValue = r := by
  rw [extractLoop]
  cases r with
  | error e => split <;> simp_all [Except.map]
  | ok value => split <;> simp_all [Except.map]

lemma extractLoop_error {text propertyName : ConsoleText} {position : Nat}
    {decimalValue : Option ConsoleText} {e : ConsoleError}
    (h : extractTurn text propertyName position decimalValue = .error e) :
    extractLoop text propertyName position decimalValue = .error e :=
  extractLoop_return (r := .error e) h

/-- What the loop makes of the members it reads, one after the other. -/
def takeProperties (propertyName : ConsoleText) (entries : List (ConsoleText × ConsoleText))
    (decimalValue : Option ConsoleText) : Except ConsoleError (Option ConsoleText) :=
  entries.foldlM (fun found e => takeProperty propertyName e.1 e.2 found) decimalValue

theorem extractLoop_members {text propertyName t rest : ConsoleText} {position : Nat}
    {decimalValue : Option ConsoleText} {entries : List (ConsoleText × ConsoleText)}
    (ht : Json.Derives (.members entries) t) (h : text.drop position = t ++ unit '}' :: rest) :
    extractLoop text propertyName position decimalValue =
      takeProperties propertyName entries decimalValue >>= foundValue := by
  generalize hshape : Json.Shape.members entries = shape at ht
  induction ht generalizing position decimalValue entries with
  | @member s key k s₁ s₂ t s₃ hs hkey hs₁ hs₂ ht hs₃ =>
    cases hshape
    have hplace : text.drop position =
        s ++ unit '"' :: (key ++ unit '"' ::
          (s₁ ++ unit ':' :: (s₂ ++ t ++ s₃ ++ unit '}' :: rest))) := by simpa using h
    obtain ⟨behind, -, hturn⟩ := extractTurn_member propertyName decimalValue hs
      hkey hs₁ hs₂ ht hs₃ (.inr rfl) hplace
    cases hvalue : takeProperty propertyName k t decimalValue with
    | error e =>
      rw [hvalue, error_bind] at hturn
      rw [extractLoop_error hturn, takeProperties, List.foldlM_cons, hvalue]
      rfl
    | ok found =>
      rw [hvalue, ok_bind, if_neg (by decide)] at hturn
      rw [extractLoop_return hturn, takeProperties, List.foldlM_cons, hvalue]
      rfl
  | @members s key k s₁ s₂ t s₃ rest' entries' hs hkey hs₁ hs₂ ht hs₃ hrest ih ihrest =>
    cases hshape
    have hplace : text.drop position =
        s ++ unit '"' :: (key ++ unit '"' ::
          (s₁ ++ unit ':' :: (s₂ ++ t ++ s₃ ++ unit ',' :: (rest' ++ unit '}' :: rest)))) := by
      simpa using h
    obtain ⟨behind, hbehind, hturn⟩ := extractTurn_member propertyName decimalValue
      hs hkey hs₁ hs₂ ht hs₃ (.inl rfl) hplace
    cases hvalue : takeProperty propertyName k t decimalValue with
    | error e =>
      rw [hvalue, error_bind] at hturn
      rw [extractLoop_error hturn, takeProperties, List.foldlM_cons, hvalue]
      rfl
    | ok found =>
      rw [hvalue, ok_bind, if_pos rfl] at hturn
      rw [extractLoop_continue hturn, ihrest (drop_succ hbehind) rfl, takeProperties,
        takeProperties, List.foldlM_cons, hvalue]
      rfl
  | _ => cases hshape

lemma takeProperties_others {propertyName : ConsoleText}
    {entries : List (ConsoleText × ConsoleText)} (h : ∀ e ∈ entries, e.1 ≠ propertyName)
    (decimalValue : Option ConsoleText) :
    takeProperties propertyName entries decimalValue = .ok decimalValue := by
  induction entries with
  | nil => rfl
  | cons e entries ih =>
    obtain ⟨he, hentries⟩ := List.forall_mem_cons.mp h
    rw [takeProperties, List.foldlM_cons, takeProperty, if_neg he]
    exact ih hentries

/-- The digits of a JSON integer are those of its number. -/
lemma canonical_of_integer {digits : ConsoleText} (h : Json.Integer digits) :
    unitDigits.Canonical digits := by
  obtain ⟨⟨hne, hdigits⟩, hzero⟩ := h
  obtain ⟨u, rest, rfl⟩ := List.exists_cons_of_ne_nil hne
  have hall : unitDigits.AllDigits (u :: rest) := hdigits
  refine ⟨hall, u, rest, rfl, ?_⟩
  by_cases hu : u = unit '0'
  · exact .inl (List.cons.inj (hzero (by rw [hu]; rfl))).2
  · refine .inr fun hvalue => hu ?_
    rw [← unitDigits.digit_value (Digits.allDigits_cons.mp hall).1, hvalue]
    rfl

lemma takeProperty_integer {propertyName digits : ConsoleText} (hint : Json.Integer digits)
    (hmax : unitDigits.number digits ≤ u64Max) :
    takeProperty propertyName propertyName digits none = .ok (some digits) := by
  have hcanonical := canonical_of_integer hint
  have hrequired : requiredDecimalU64String digits = .ok digits :=
    requiredDecimalU64String_eq_ok.mpr
      ⟨hint.1.1, hcanonical.digits, hmax, (Digits.numeral_number hcanonical).symm⟩
  rw [takeProperty, if_pos rfl, hrequired]
  rfl

lemma extract_object {text propertyName digits : ConsoleText}
    {before after : List (ConsoleText × ConsoleText)}
    (htext : Json.ObjectText (before ++ (propertyName, digits) :: after) text)
    (honce : ∀ e ∈ before ++ after, e.1 ≠ propertyName) (hint : Json.Integer digits)
    (hmax : unitDigits.number digits ≤ u64Max) :
    extractTopLevelDecimalU64Property text propertyName = .ok digits := by
  obtain ⟨s, t, s', rfl, hs, ht, -⟩ := htext
  obtain ⟨hbefore, hafter⟩ := List.forall_mem_append.mp honce
  have htaken : takeProperties propertyName (before ++ (propertyName, digits) :: after) none =
      .ok (some digits) := by
    have hfirst := takeProperties_others hbefore none
    rw [takeProperties] at hfirst
    rw [takeProperties, List.foldlM_append, hfirst, ok_bind, List.foldlM_cons,
      takeProperty_integer hint hmax, ok_bind]
    exact takeProperties_others hafter _
  generalize hentries : before ++ (propertyName, digits) :: after = entries at ht htaken
  cases ht with
  | emptyObject hspaces => simp at hentries
  | @object _ t ht =>
    have hplace : (s ++ unit '{' :: (t ++ [unit '}']) ++ s').drop 0 =
        s ++ unit '{' :: (t ++ unit '}' :: s') := by simp
    have hopen := drop_behind hplace
    rw [extractTopLevelDecimalU64Property]
    simp only [skipJsonWhitespace_of_drop hs (by decide) hplace, getElem?_of_drop hopen,
      assertSnapshot, if_true, ok_bind]
    rw [extractLoop_members ht (drop_succ hopen), htaken]
    rfl

/-- The scanner returns the digits of the one property of that name, wherever else the name stands,
and each turn of its loop moves forward in the text. -/
theorem extractTopLevel_digits :
    (∀ (text propertyName digits : ConsoleText) (before after : List (ConsoleText × ConsoleText)),
      Json.ObjectText (before ++ (propertyName, digits) :: after) text →
      (∀ e ∈ before ++ after, e.1 ≠ propertyName) → Json.Integer digits →
      unitDigits.number digits ≤ u64Max →
        extractTopLevelDecimalU64Property text propertyName = .ok digits) ∧
    ∀ (text propertyName : ConsoleText) (position q : Nat)
      (decimalValue found : Option ConsoleText),
      extractTurn text propertyName position decimalValue = .ok (.inl (q, found)) →
        position < q ∧ q ≤ text.length :=
  ⟨fun _ _ _ _ _ => extract_object, fun _ _ _ _ _ _ => lt_extractTurn⟩

/-- An object with a bracket inside a string, whose second key is escaped. -/
def escapedKeyText : ConsoleText :=
  ['{', '"', 'a', '"', ':', '[', '"', '}', '"', ']', ',',
    '"', '\\', 'u', '0', '0', '7', '2', '"', ':', '7', '}'].map unit

theorem extractTopLevel_digits_escapedKey :
    extractTopLevelDecimalU64Property escapedKeyText [unit 'r'] = .ok [unit '7'] := by
  have hnone : Json.Spaces [] := List.forall_mem_nil _
  have ha : Json.Characters [unit 'a'] [unit 'a'] := .plain (by decide) .nil
  have hstring : Json.Characters [unit '}'] [unit '}'] := .plain (by decide) .nil
  have hr : Json.Characters (['\\', 'u', '0', '0', '7', '2'].map unit) [unit 'r'] :=
    .hex (by decide) .nil
  have hdigits : Json.Digits [unit '7'] :=
    ⟨List.cons_ne_nil _ _, List.forall_mem_singleton.mpr (by decide)⟩
  have hseven : Json.Integer [unit '7'] := ⟨hdigits, fun h => absurd h (by decide)⟩
  have hvalue : Json.Derives .value [unit '7'] :=
    .number ⟨[], _, [], [], rfl, .inl rfl, hseven, .inl rfl, .inl rfl⟩
  have harray := Json.Derives.array (.element hnone (.string hstring) hnone)
  have hobject := Json.Derives.object (.members hnone ha hnone hnone harray hnone
    (.member hnone hr hnone hnone hvalue hnone))
  refine extractTopLevel_digits.1 escapedKeyText [unit 'r'] [unit '7'] [(_, _)] []
    ⟨[], _, [], rfl, hnone, hobject, hnone⟩ ?_ hseven (by decide)
  decide

end PmuSimulator

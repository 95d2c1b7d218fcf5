import Mathlib
import PmuSimulator.Management.Connection

/-!
# Parsing a management request

A request is a head, of which a library for HTTP finds the end, and a body as long as the head
says. Nothing may follow it. What the head says is checked before the body is waited for, and the
body is read, by a library for JSON, when it is there.

Every verdict is final. A request that is complete was incomplete at each place before its end, and
bytes that are in error stay in error, whatever follows them.
-/

namespace PmuSimulator

/-! ### What is read by libraries -/

/-- The name of a header is text, its value is any bytes. -/
structure Header where
  name : String
  value : List UInt8
  deriving DecidableEq, Repr

structure RequestHead where
  method : Option String
  path : Option String
  version : Option Nat
  headers : List Header
  deriving DecidableEq, Repr

inductive HeadError where
  | tooManyHeaders
  | other
  deriving DecidableEq, Repr

/-- The end of a request head and what it says, or that more bytes are needed, or an error. -/
inductive HeadStatus where
  | complete (length : Nat) (head : RequestHead)
  | incomplete
  | failed (error : HeadError)
  deriving DecidableEq, Repr

structure PrepareScenarioRequest where
  target : ManagementTarget
  scenarioName : String
  actorLabel : Option String

structure ClearScenarioRequest where
  target : ManagementTarget
  actorLabel : Option String

/-- A JSON value as far as a token is concerned. A number is kept as the text it is printed as. -/
inductive JsonValue where
  | string (text : String)
  | number (text : String)
  | other
  deriving DecidableEq, Repr

structure ScenarioTokenRequestBody where
  token : JsonValue
  actorLabel : Option String

/-- What the libraries for HTTP and for JSON make of bytes. A body is `none` where it does not
deserialize. -/
structure RequestLibrary where
  parseHead (maxHeaders : Nat) (input : List UInt8) : HeadStatus
  prepareBody (body : List UInt8) : Option PrepareScenarioRequest
  clearBody (body : List UInt8) : Option ClearScenarioRequest
  tokenBody (body : List UInt8) : Option ScenarioTokenRequestBody

/-! ### The head -/

def maxRequestHeaders : Nat := 32

def eqIgnoreAsciiCase (a b : List Char) : Bool := a.map Char.toLower == b.map Char.toLower

def Header.isNamed (header : Header) (name : String) : Bool :=
  eqIgnoreAsciiCase header.name.toList name.toList

structure RequestFraming where
  contentLength : Option Nat
  contentType : Option (List UInt8)
  deriving DecidableEq, Repr

def isAsciiDigitByte (byte : UInt8) : Bool := 48 ≤ byte && byte ≤ 57

/-- `is_ascii_whitespace`: not the vertical tab. -/
def isAsciiWhitespaceByte (byte : UInt8) : Bool :=
  byte = 32 || byte = 9 || byte = 10 || byte = 12 || byte = 13

def isAsciiControlByte (byte : UInt8) : Bool := byte ≤ 31 || byte = 127

def trimLeadingHttpWhitespace (value : List UInt8) : List UInt8 :=
  value.dropWhile fun byte => byte = 32 || byte = 9

def isValidHost (value : List UInt8) : Bool :=
  !value.isEmpty && !value.any fun byte => isAsciiWhitespaceByte byte || isAsciiControlByte byte

def parseContentLength (value : List UInt8) : Except ParseError Nat :=
  if value.isEmpty || !value.all isAsciiDigitByte then .error .invalidContentLength
  else
    match value.foldlM (fun length byte =>
      (checkedMul length 10).bind fun length => checkedAdd length (byte.toNat - 48)) 0 with
    | some length => .ok length
    | none => .error .invalidContentLength

/-- The framing and the count of hosts among the headers so far. -/
structure InspectedHeaders extends RequestFraming where
  hostCount : Nat

def inspectHost (found : InspectedHeaders) (header : Header) : Except ParseError InspectedHeaders :=
  if header.isNamed "host" then
    if isValidHost (trimLeadingHttpWhitespace header.value) then
      .ok { found with hostCount := found.hostCount + 1 }
    else .error .invalidHost
  else .ok found

def inspectTransferEncoding (header : Header) : Except ParseError Unit :=
  if header.isNamed "transfer-encoding" then .error .unsupportedTransferEncoding else .ok ()

def inspectContentLength (found : InspectedHeaders) (header : Header) :
    Except ParseError InspectedHeaders :=
  if header.isNamed "content-length" then
    if found.contentLength.isSome then .error .duplicateContentLength
    else do
      let length ← parseContentLength header.value
      return { found with contentLength := some length }
  else .ok found

def inspectContentType (found : InspectedHeaders) (header : Header) :
    Except ParseError InspectedHeaders :=
  if header.isNamed "content-type" then
    if found.contentType.isSome then .error .duplicateContentType
    else .ok { found with contentType := some header.value }
  else .ok found

/-- One turn of the loop of `inspect_headers`. -/
def inspectHeader (found : InspectedHeaders) (header : Header) :
    Except ParseError InspectedHeaders := do
  let found ← inspectHost found header
  inspectTransferEncoding header
  let found ← inspectContentLength found header
  inspectContentType found header

def inspectHeaders (headers : List Header) : Except ParseError RequestFraming := do
  let found ← headers.foldlM inspectHeader ⟨⟨none, none⟩, 0⟩
  if found.hostCount = 0 then .error .missingHost
  else if found.hostCount > 1 then .error .duplicateHost
  else .ok found.toRequestFraming

/-- `char::is_whitespace`: the characters of Unicode's `White_Space`. -/
def isWhitespace (c : Char) : Bool :=
  (0x9 ≤ c.toNat && c.toNat ≤ 0xd) || c.toNat = 0x20 || c.toNat = 0x85 || c.toNat = 0xa0 ||
    c.toNat = 0x1680 || (0x2000 ≤ c.toNat && c.toNat ≤ 0x200a) || c.toNat = 0x2028 ||
    c.toNat = 0x2029 || c.toNat = 0x202f || c.toNat = 0x205f || c.toNat = 0x3000

def trim (text : List Char) : List Char :=
  ((text.dropWhile isWhitespace).reverse.dropWhile isWhitespace).reverse

def isJsonContentType (value : List UInt8) : Bool :=
  match String.fromUTF8? ⟨value.toArray⟩ with
  | none => false
  | some value =>
    eqIgnoreAsciiCase (trim (value.toList.takeWhile (· != ';'))) "application/json".toList

def Route.requiresJsonBody : Route → Bool
  | .prepare | .confirm | .clear | .cancel => true
  | _ => false

/-- The checks of `parse` on a head: the route, and the length of the body. -/
def checkHead (head : RequestHead) : Except ParseError (Route × Nat) :=
  if head.version ≠ some 1 then .error .unsupportedHttpVersion
  else do
    let framing ← inspectHeaders head.headers
    let route ← routeFor head.method head.path
    if route.requiresJsonBody &&
        framing.contentType.any fun contentType => !isJsonContentType contentType then
      .error .unsupportedMediaType
    else
      let bodyLength ←
        match framing.contentLength with
        | some length => .ok length
        | none => if route.requiresJsonBody then .error .contentLengthRequired else .ok 0
      if bodyLength > maxRequestBytes then .error .bodyTooLarge
      else if !route.requiresJsonBody && bodyLength ≠ 0 then .error .bodyNotAllowed
      else .ok (route, bodyLength)

/-! ### The body -/

def parseCanonicalDecimalToken (token : List Char) : Option Nat :=
  if !(token.head?.any fun c => '1' ≤ c && c ≤ '9') || !token.all isAsciiDigit then none
  else token.foldlM decimalStep 0

/-- What `Display` writes for a number. -/
def decimalText (n : Nat) : List Char := (toString n).toList

/-- The text an `ActivationToken` serializes to. -/
def ActivationToken.serialize (token : ActivationToken) : List Char := decimalText token.value

def parseLegacyCompatibleScenarioToken : JsonValue → Option Nat
  | .string token => parseCanonicalDecimalToken token.toList
  | .number token => parseCanonicalDecimalToken token.toList
  | .other => none

def parseCanonicalScenarioToken : JsonValue → Option Nat
  | .string token => parseCanonicalDecimalToken token.toList
  | _ => none

/-- `parse_json_body`. -/
def parseJsonBody {α : Type} (deserialized : Option α) : Except ParseError α :=
  match deserialized with
  | some body => .ok body
  | none => .error .invalidJsonBody

section Library

variable (lib : RequestLibrary)

def parseScenarioTokenRequest (body : List UInt8) (parseToken : JsonValue → Option Nat) :
    Except ParseError (Nat × Option String) := do
  let request ← parseJsonBody (lib.tokenBody body)
  match parseToken request.token with
  | none => .error .invalidToken
  | some token => .ok (token, request.actorLabel)

def ParseOutcome.ofExcept : Except ParseError ManagementRequest → ParseOutcome
  | .ok request => .complete request
  | .error e => .error e

def parsePrepare (body : List UInt8) : ParseOutcome :=
  .ofExcept do
    let request ← parseJsonBody (lib.prepareBody body)
    if request.target.streamId = 0 then .error .invalidTarget
    else .ok (.prepare request.target request.scenarioName request.actorLabel)

def parseConfirm (body : List UInt8) : ParseOutcome :=
  .ofExcept do
    let (token, actorLabel) ← parseScenarioTokenRequest lib body parseLegacyCompatibleScenarioToken
    return .confirm token actorLabel

def parseClear (body : List UInt8) : ParseOutcome :=
  .ofExcept do
    let request ← parseJsonBody (lib.clearBody body)
    if request.target.streamId = 0 then .error .invalidTarget
    else .ok (.clear request.target request.actorLabel)

def parseCancel (body : List UInt8) : ParseOutcome :=
  .ofExcept do
    let (token, actorLabel) ← parseScenarioTokenRequest lib body parseCanonicalScenarioToken
    return .cancel token actorLabel

/-- The request on a route, from its body. -/
def parseBody (route : Route) (body : List UInt8) : ParseOutcome :=
  match route with
  | .healthz => .complete .healthz
  | .readyz => .complete .readyz
  | .metrics => .complete .metrics
  | .catalog => .complete .catalog
  | .state => .complete .state
  | .consoleState cursor => .complete (.consoleState cursor)
  | .prepare => parsePrepare lib body
  | .confirm => parseConfirm lib body
  | .clear => parseClear lib body
  | .cancel => parseCancel lib body

/-! ### The request -/

def incompleteOrAtLimit (length : Nat) : ParseOutcome :=
  if length = maxRequestBytes then .error .incompleteAtLimit else .incomplete

/-- Where a request ends whose head ends at `headerEnd`, unless that is too far. -/
def requestEnd (headerEnd bodyLength : Nat) : Option Nat :=
  (checkedAdd headerEnd bodyLength).filter fun length => length ≤ maxRequestBytes

def parse (input : List UInt8) : ParseOutcome :=
  if input.length > maxRequestBytes then .error .requestTooLarge
  else
    match lib.parseHead maxRequestHeaders input with
    | .incomplete => incompleteOrAtLimit input.length
    | .failed .tooManyHeaders => .error .tooManyHeaders
    | .failed .other => .error .malformedRequest
    | .complete headerEnd head =>
      match checkHead head with
      | .error error => .error error
      | .ok (route, bodyLength) =>
        match requestEnd headerEnd bodyLength with
        | none => .error .requestTooLarge
        | some requestEnd =>
          if input.length < requestEnd then incompleteOrAtLimit input.length
          else if input.length > requestEnd then .error .trailingData
          else parseBody lib route ((input.take requestEnd).drop headerEnd)

end Library

/-! ### Requests in pieces -/

/-- How a library for HTTP takes a head in pieces: it asks for more until the head is complete, what
it found stays so whatever follows, and so does an error. -/
structure RequestLibrary.Steady (lib : RequestLibrary) : Prop where
  incomplete : ∀ {maxHeaders length : Nat} {input front : List UInt8} {head : RequestHead},
    lib.parseHead maxHeaders input = .complete length head → front <+: input.take length →
      front ≠ input.take length → lib.parseHead maxHeaders front = .incomplete
  complete : ∀ {maxHeaders length : Nat} {input other : List UInt8} {head : RequestHead},
    lib.parseHead maxHeaders input = .complete length head → input.take length <+: other →
      lib.parseHead maxHeaders other = .complete length head
  failed : ∀ {maxHeaders : Nat} {input : List UInt8} {e : HeadError} (more : List UInt8),
    lib.parseHead maxHeaders input = .failed e →
      ∃ e', lib.parseHead maxHeaders (input ++ more) = .failed e'

variable {lib : RequestLibrary}

lemma parse_tooLarge {input : List UInt8} (h : maxRequestBytes < input.length) :
    parse lib input = .error .requestTooLarge := by
  rw [parse, if_pos h]

lemma requestEnd_eq_some {headerEnd bodyLength n : Nat}
    (h : requestEnd headerEnd bodyLength = some n) :
    n = headerEnd + bodyLength ∧ n ≤ maxRequestBytes := by
  simp only [requestEnd, Option.filter_eq_some_iff, checkedAdd_eq_some, decide_eq_true_eq] at h
  exact ⟨h.1.2, h.2⟩

lemma incompleteOrAtLimit_ne_complete (length : Nat) (request : ManagementRequest) :
    incompleteOrAtLimit length ≠ .complete request := by
  unfold incompleteOrAtLimit
  split <;> simp

lemma incompleteOrAtLimit_of_lt {length : Nat} (h : length < maxRequestBytes) :
    incompleteOrAtLimit length = .incomplete := by
  rw [incompleteOrAtLimit, if_neg h.ne]

/-- A complete request is a complete head and the body that it announces. -/
theorem parse_eq_complete {input : List UInt8} {request : ManagementRequest}
    (h : parse lib input = .complete request) :
    input.length ≤ maxRequestBytes ∧ ∃ headerEnd head route bodyLength,
      lib.parseHead maxRequestHeaders input = .complete headerEnd head ∧
        checkHead head = .ok (route, bodyLength) ∧
        requestEnd headerEnd bodyLength = some input.length := by
  unfold parse at h
  split at h
  · cases h
  next hsize =>
  refine ⟨Nat.not_lt.mp hsize, ?_⟩
  cases hhead : lib.parseHead maxRequestHeaders input with
  | incomplete =>
    rw [hhead] at h
    exact absurd h (incompleteOrAtLimit_ne_complete _ _)
  | failed e =>
    rw [hhead] at h
    cases e <;> cases h
  | complete headerEnd head =>
    simp only [hhead] at h
    cases hcheck : checkHead head with
    | error e =>
      rw [hcheck] at h
      cases h
    | ok checked =>
      simp only [hcheck] at h
      cases hend : requestEnd headerEnd checked.2 with
      | none =>
        rw [hend] at h
        cases h
      | some n =>
        simp only [hend] at h
        split at h
        · exact absurd h (incompleteOrAtLimit_ne_complete _ _)
        next hlong =>
        split at h
        · cases h
        next hshort =>
        obtain rfl : n = input.length := by omega
        exact ⟨headerEnd, head, checked.1, checked.2, rfl, hcheck, hend⟩

/-- A request is incomplete at each place before its end. -/
theorem parse_of_front (steady : lib.Steady) {input front : List UInt8}
    {request : ManagementRequest} (h : parse lib input = .complete request)
    (hfront : front <+: input) (hproper : front ≠ input) : parse lib front = .incomplete := by
  obtain ⟨hsize, headerEnd, head, route, bodyLength, hhead, hcheck, hend⟩ := parse_eq_complete h
  obtain ⟨hlength, -⟩ := requestEnd_eq_some hend
  have hshorter : front.length < input.length :=
    lt_of_le_of_ne hfront.length_le fun heq => hproper (hfront.eq_of_length heq)
  rw [parse, if_neg (by omega)]
  by_cases hbody : headerEnd ≤ front.length
  · have hcovers : input.take headerEnd <+: front :=
      List.prefix_of_prefix_length_le (List.take_prefix _ _) hfront
        ((List.length_take_le _ _).trans hbody)
    rw [steady.complete hhead hcovers]
    simp only [hcheck, hend]
    rw [if_pos hshorter, incompleteOrAtLimit_of_lt (by omega)]
  · have hinside : front <+: input.take headerEnd :=
      List.prefix_take_iff.mpr ⟨hfront, (Nat.not_le.mp hbody).le⟩
    have hne : front ≠ input.take headerEnd := by
      intro heq
      have hlength := congrArg List.length heq
      rw [List.length_take] at hlength
      omega
    rw [steady.incomplete hhead hinside hne]
    exact incompleteOrAtLimit_of_lt (by omega)

lemma length_of_incompleteOrAtLimit {length : Nat} {e : ParseError}
    (h : incompleteOrAtLimit length = .error e) : length = maxRequestBytes := by
  unfold incompleteOrAtLimit at h
  split at h
  · assumption
  · cases h

/-- Bytes in error stay in error, whatever follows them. -/
theorem parse_error_append (steady : lib.Steady) {input : List UInt8} {e : ParseError}
    (h : parse lib input = .error e) (more : List UInt8) :
    ∃ e', parse lib (input ++ more) = .error e' := by
  by_cases hlarge : maxRequestBytes < (input ++ more).length
  · exact ⟨_, parse_tooLarge hlarge⟩
  rcases List.eq_nil_or_concat more with rfl | ⟨more, last, rfl⟩
  · exact ⟨e, by rwa [List.append_nil]⟩
  have hlength : input.length < (input ++ more.concat last).length := by simp
  have hfits : input.length < maxRequestBytes := by omega
  rw [parse, if_neg (by omega)] at h
  rw [parse, if_neg hlarge]
  cases hhead : lib.parseHead maxRequestHeaders input with
  | incomplete =>
    rw [hhead] at h
    exact absurd (length_of_incompleteOrAtLimit h) hfits.ne
  | failed error =>
    obtain ⟨error', hfailed⟩ := steady.failed (more.concat last) hhead
    rw [hfailed]
    cases error' with
    | tooManyHeaders => exact ⟨_, rfl⟩
    | other => exact ⟨_, rfl⟩
  | complete headerEnd head =>
    have hcovers : input.take headerEnd <+: input ++ more.concat last :=
      (List.take_prefix _ _).trans (List.prefix_append _ _)
    simp only [steady.complete hhead hcovers]
    simp only [hhead] at h
    cases hcheck : checkHead head with
    | error error => exact ⟨error, rfl⟩
    | ok checked =>
      simp only [hcheck] at h ⊢
      cases hend : requestEnd headerEnd checked.2 with
      | none => exact ⟨_, rfl⟩
      | some n =>
        simp only [hend] at h ⊢
        have hreached : ¬ input.length < n := by
          intro hshort
          rw [if_pos hshort] at h
          exact absurd (length_of_incompleteOrAtLimit h) hfits.ne
        rw [if_neg (by omega), if_pos (by omega)]
        exact ⟨_, rfl⟩

end PmuSimulator

import Mathlib
import PmuSimulator.Scenario.Controller
import PmuSimulator.TimeHealth

/-!
# Management requests and responses

Routes and console cursors are read from the text of a request target. Reading the rest of a
request, and writing a response, rest on libraries for HTTP and JSON: they are a `ManagementCodec`,
and a response is the data it carries.
-/

namespace PmuSimulator

/-! ### Requests -/

structure ManagementTarget where
  streamId : UInt16
  connectionId : Option Nat
  deriving DecidableEq, Repr

structure ConsoleStateCursor where
  processIdentity : String
  controllerRevision : Nat
  offset : Nat
  deriving DecidableEq, Repr

inductive ManagementRequest where
  | healthz
  | readyz
  | metrics
  | catalog
  | state
  | consoleState (cursor : Option ConsoleStateCursor)
  | prepare (target : ManagementTarget) (scenarioName : String) (actorLabel : Option String)
  | confirm (token : Nat) (actorLabel : Option String)
  | clear (target : ManagementTarget) (actorLabel : Option String)
  | cancel (token : Nat) (actorLabel : Option String)
  deriving DecidableEq, Repr

inductive AllowedMethod where
  | get
  | post
  deriving DecidableEq, Repr

inductive ParseError where
  | requestTooLarge
  | incompleteAtLimit
  | malformedRequest
  | tooManyHeaders
  | unsupportedHttpVersion
  | missingHost
  | duplicateHost
  | invalidHost
  | unsupportedTransferEncoding
  | duplicateContentLength
  | invalidContentLength
  | duplicateContentType
  | unsupportedMediaType
  | contentLengthRequired
  | bodyTooLarge
  | bodyNotAllowed
  | trailingData
  | methodNotAllowed (allowed : AllowedMethod)
  | unknownPath
  | invalidJsonBody
  | invalidTarget
  | invalidToken
  | invalidQuery
  deriving DecidableEq, Repr

inductive ParseOutcome where
  | complete (request : ManagementRequest)
  | incomplete
  | error (error : ParseError)
  deriving DecidableEq, Repr

/-! ### Routes -/

inductive Route where
  | healthz
  | readyz
  | metrics
  | catalog
  | state
  | consoleState (cursor : Option ConsoleStateCursor)
  | prepare
  | confirm
  | clear
  | cancel
  deriving DecidableEq, Repr

def isAsciiDigit (c : Char) : Bool := '0' ≤ c && c ≤ '9'

def isLowercaseHexDigit (c : Char) : Bool := isAsciiDigit c || ('a' ≤ c && c ≤ 'f')

def digitValue (c : Char) : Nat := c.toNat - '0'.toNat

/-- One digit of a decimal `u64`. -/
def decimalStep (number : Nat) (c : Char) : Option Nat :=
  (checkedMul number 10).bind fun number => checkedAdd number (digitValue c)

def parseDecimalU64 (value : List Char) : Except ParseError Nat :=
  if value.isEmpty || !value.all isAsciiDigit then .error .invalidQuery
  else
    match value.foldlM decimalStep 0 with
    | some number => .ok number
    | none => .error .invalidQuery

def parseConsoleCursor (value : List Char) : Except ParseError ConsoleStateCursor :=
  match value.splitOn ':' with
  | processIdentity :: controllerRevision :: offset :: rest => do
    let controllerRevision ← parseDecimalU64 controllerRevision
    let offset ← parseDecimalU64 offset
    if !rest.isEmpty || processIdentity.length ≠ 64 || !processIdentity.all isLowercaseHexDigit then
      .error .invalidQuery
    else
      .ok { processIdentity := String.ofList processIdentity, controllerRevision, offset }
  | _ => .error .invalidQuery

/-- The text before the first `separator` and the text behind it. -/
def splitOnce (separator : Char) (text : List Char) : Option (List Char × List Char) :=
  match text.dropWhile (· != separator) with
  | [] => none
  | _ :: rest => some (text.takeWhile (· != separator), rest)

/-- One parameter of the query, with the format and the cursor found before it. -/
def parseConsoleParameter (found : Option (List Char) × Option ConsoleStateCursor)
    (parameter : List Char) :
    Except ParseError (Option (List Char) × Option ConsoleStateCursor) :=
  match splitOnce '=' parameter with
  | none => .error .invalidQuery
  | some (name, value) =>
    if name = "format".toList ∧ found.1 = none then .ok (some value, found.2)
    else if name = "cursor".toList then do
      let cursor ← parseConsoleCursor value
      if found.2 = none then .ok (found.1, some cursor) else .error .invalidQuery
    else .error .invalidQuery

def parseConsoleStateRoute (query : List Char) : Except ParseError Route :=
  if query.isEmpty then .error .invalidQuery
  else do
    let (format, cursor) ← (query.splitOn '&').foldlM parseConsoleParameter (none, none)
    if format = some "console-v1".toList then .ok (.consoleState cursor) else .error .invalidQuery

/-- The routes without a query, with the method each allows. -/
def plainRoutes : List (String × AllowedMethod × Route) :=
  [("/healthz", .get, .healthz), ("/readyz", .get, .readyz), ("/metrics", .get, .metrics),
    ("/v1/catalog", .get, .catalog), ("/v1/state", .get, .state),
    ("/v1/scenarios/prepare", .post, .prepare), ("/v1/scenarios/confirm", .post, .confirm),
    ("/v1/scenarios/clear", .post, .clear), ("/v1/scenarios/cancel", .post, .cancel)]

def AllowedMethod.name : AllowedMethod → String
  | get => "GET"
  | post => "POST"

/-- The path and the query of a request target. -/
def splitTarget (requestTarget : List Char) :
    Except ParseError (List Char × Option (List Char)) :=
  match splitOnce '?' requestTarget with
  | none => .ok (requestTarget, none)
  | some (path, query) => if query.contains '?' then .error .invalidQuery else .ok (path, some query)

def routeFor (method requestTarget : Option String) : Except ParseError Route :=
  match method, requestTarget with
  | some method, some requestTarget => do
    let (path, query) ← splitTarget requestTarget.toList
    match plainRoutes.lookup (String.ofList path) with
    | none => .error .unknownPath
    | some (allowed, route) =>
      if method ≠ allowed.name then .error (.methodNotAllowed allowed)
      else
        match query with
        | none => .ok route
        | some query => if route = .state then parseConsoleStateRoute query else .error .invalidQuery
  | _, _ => .error .malformedRequest

/-! ### Responses -/

inductive StatusCode where
  | ok
  | accepted
  | noContent
  | badRequest
  | notFound
  | methodNotAllowed
  | notAcceptable
  | payloadTooLarge
  | unsupportedMediaType
  | internalServerError
  | serviceUnavailable
  deriving DecidableEq, Repr

structure ServerStats where
  acceptedClients : Nat := 0
  closedClients : Nat := 0
  rejectedClients : Nat := 0
  malformedCommands : Nat := 0
  unsupportedCommands : Nat := 0
  slowClients : Nat := 0
  sentDataFrames : Nat := 0
  skippedTicks : Nat := 0
  deriving DecidableEq, Repr

structure ManagementPdcState where
  connectionId : Nat
  streaming : Bool
  deriving DecidableEq, Repr

structure ManagementEndpointState where
  streamId : UInt16
  activeConnections : Nat
  connections : List ManagementPdcState
  deriving DecidableEq, Repr

/-- What every state response tells of the server. -/
structure ServerOverview where
  ready : Bool
  timeHealth : TimeHealthState
  stats : ServerStats
  endpoints : List ManagementEndpointState
  deriving DecidableEq, Repr

structure ManagementConsoleScenarioControllerState where
  currentSampleIndex : Option Nat
  prepared : List PreparedScenarioSnapshot
  pending : List PendingScenarioSnapshot
  active : List ActiveScenarioSnapshot
  preparedCount : Nat
  pendingCount : Nat
  activeCount : Nat
  deriving DecidableEq, Repr

structure ConsoleStateResponse where
  processIdentity : String
  controllerRevision : Nat
  overview : ServerOverview
  scenarioController : ManagementConsoleScenarioControllerState
  nextCursor : Option String
  deriving DecidableEq, Repr

inductive ManagementResponse where
  | healthz
  | readyz (ready : Bool)
  | metrics (overview : ServerOverview) (rejectedConnections : Option Nat)
  | catalog (catalog : ScenarioCatalog)
  | state (overview : ServerOverview) (scenarioController : Option ScenarioControllerSnapshot)
  | consoleState (response : ConsoleStateResponse)
  | prepared (snapshot : PreparedScenarioSnapshot)
  | confirmed (snapshot : PendingScenarioSnapshot)
  | cancelled (snapshot : PreparedScenarioSnapshot)
  | error (status : StatusCode) (code message : String)
  | parseError (error : ParseError)

/-- Reading requests from bytes and writing responses to bytes. -/
structure ManagementCodec where
  parse : List UInt8 → ParseOutcome
  encode : ManagementResponse → List UInt8

def scenarioControllerUnavailableResponse : ManagementResponse :=
  .error .serviceUnavailable "scenario_controller_unavailable"
    "scenario controller is not enabled"

def scenarioRequestRejectedResponse : ManagementResponse :=
  .error .badRequest "scenario_request_rejected" "scenario request could not be applied"

def invalidTokenResponse : ManagementResponse :=
  .error .badRequest "invalid_token" "token must be greater than zero"

def staleConsoleCursorResponse : ManagementResponse :=
  .error .badRequest "stale_console_cursor" "console state changed; reload is required"

def invalidConsoleCursorResponse : ManagementResponse :=
  .error .badRequest "invalid_console_cursor" "console cursor is outside the current state"

end PmuSimulator

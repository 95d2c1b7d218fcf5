import Mathlib
import PmuSimulator.Config
import PmuSimulator.Foundation.Machine
import PmuSimulator.Foundation.OrderedMap
import PmuSimulator.Scenario.Catalog

/-!
# The scenario controller

The controller holds at most one lifecycle record per target: a prepared action waiting for its
token to be confirmed, a pending action waiting for the next reporting boundary, an active
scenario. It is driven by caller-supplied times and boundary indices only. Every operation is a
function from a controller to a result and the controller it leaves behind, also when the result
is an error.
-/

open Std (ExtTreeMap LawfulEqOrd)

namespace PmuSimulator

/-- `MAX_SCENARIO_TARGETS`: one endpoint and two PDC targets for each PMU. -/
def maxScenarioTargets : Nat := maxLogicalPmus * 3

def maxScenarioActorLabelBytes : Nat := 64

/-- `ACTIVATION_TOKEN_TTL`: sixty seconds. -/
def activationTokenTtl : Duration := 60 * 1000000000

/-- An endpoint, or one PDC connection attached to an endpoint. -/
inductive ScenarioTarget where
  | endpoint (streamId : UInt16)
  | pdc (streamId : UInt16) (connectionId : Nat)
  deriving DecidableEq, Repr

namespace ScenarioTarget

def streamId : ScenarioTarget → UInt16
  | endpoint streamId => streamId
  | pdc streamId _ => streamId

/-- The derived order of the source: the variant first, then the fields. -/
def orderKey : ScenarioTarget → Nat ×ₗ Nat ×ₗ Nat
  | endpoint streamId => toLex (0, toLex (streamId.toNat, 0))
  | pdc streamId connectionId => toLex (1, toLex (streamId.toNat, connectionId))

lemma orderKey_injective : Function.Injective orderKey := by
  intro a b h
  cases a <;> cases b <;> simp_all [orderKey, UInt16.toNat_inj]

instance : LinearOrder ScenarioTarget := LinearOrder.lift' orderKey orderKey_injective

instance : LawfulEqOrd ScenarioTarget where
  eq_of_compare := compare_eq_iff_eq.mp

instance : Std.TransOrd ScenarioTarget := inferInstance

end ScenarioTarget

/-- An opaque token returned by prepare and consumed by confirm. -/
structure ActivationToken where
  value : Nat
  deriving DecidableEq, Repr

namespace ActivationToken

lemma value_injective : Function.Injective value := fun a b h => by
  cases a
  cases b
  exact congrArg _ h

instance : LinearOrder ActivationToken := LinearOrder.lift' value value_injective

instance : LawfulEqOrd ActivationToken where
  eq_of_compare := compare_eq_iff_eq.mp

instance : Std.TransOrd ActivationToken := inferInstance

/-- `ActivationToken::from_value`. -/
def fromValue (value : Nat) : Option ActivationToken := if value ≠ 0 then some ⟨value⟩ else none

end ActivationToken

inductive ScenarioAction where
  | activate (scenarioName : String)
  | clear
  deriving DecidableEq, Repr

structure PreparedScenarioSnapshot where
  token : ActivationToken
  confirmExpiresInMs : Nat
  target : ScenarioTarget
  action : ScenarioAction
  actorLabel : Option String
  deriving DecidableEq, Repr

structure PendingScenarioSnapshot where
  target : ScenarioTarget
  action : ScenarioAction
  actorLabel : Option String
  deriving DecidableEq, Repr

structure ActiveScenarioSnapshot where
  target : ScenarioTarget
  scenarioName : String
  kind : ScenarioKind
  lifecycle : ScenarioLifecycle
  startFrameOffset : Nat
  firstEligibleBoundary : Nat
  actorLabel : Option String
  deriving DecidableEq, Repr

structure ScenarioControllerSnapshot where
  currentSampleIndex : Option Nat
  prepared : List PreparedScenarioSnapshot
  pending : List PendingScenarioSnapshot
  active : List ActiveScenarioSnapshot
  deriving DecidableEq, Repr

/-- Wire-independent effects to apply while emitting one endpoint's frame. -/
structure FramePlan where
  degradedTime : Bool := false
  omitData : Bool := false
  signal : Option SignalExcursion := none
  disconnectPdcConnectionIds : List Nat := []

inductive ScenarioControllerError where
  | invalidTarget (target : ScenarioTarget)
  | invalidScenarioName (name : String)
  | invalidActorLabel (maximum : Nat)
  | unknownScenario (name : String)
  | incompatibleTarget (target : ScenarioTarget) (kind : ScenarioKind)
  | targetBusy (target : ScenarioTarget)
  | targetCapacityExceeded (maximum : Nat)
  | noActiveScenario (target : ScenarioTarget)
  | clearRequiresSustainedScenario (target : ScenarioTarget)
  | unknownToken (token : ActivationToken)
  | expiredToken (token : ActivationToken)
  | tokenSpaceExhausted
  | tokenExpiryOverflow
  | nonMonotonicBoundary (previous received : Nat)
  deriving DecidableEq, Repr

/-! ### State -/

inductive StoredScenarioAction where
  | activate (scenario : ScenarioDefinition)
  | clear

def StoredScenarioAction.snapshot : StoredScenarioAction → ScenarioAction
  | activate scenario => .activate scenario.name
  | clear => .clear

structure PreparedScenarioAction where
  target : ScenarioTarget
  action : StoredScenarioAction
  actorLabel : Option String
  expiresAt : Instant

structure PendingScenarioAction where
  action : StoredScenarioAction
  actorLabel : Option String

structure ActiveScenarioAction where
  scenario : ScenarioDefinition
  actorLabel : Option String
  firstEligibleBoundary : Nat

structure ScenarioController where
  catalog : ScenarioCatalog
  prepared : ExtTreeMap ActivationToken PreparedScenarioAction
  preparedTargets : ExtTreeMap ScenarioTarget ActivationToken
  pending : ExtTreeMap ScenarioTarget PendingScenarioAction
  active : ExtTreeMap ScenarioTarget ActiveScenarioAction
  currentSampleIndex : Option Nat
  nextToken : Nat
  revision : Nat

/-- `ScenarioController::new`. -/
def ScenarioController.new (catalog : ScenarioCatalog) : ScenarioController where
  catalog := catalog
  prepared := ∅
  preparedTargets := ∅
  pending := ∅
  active := ∅
  currentSampleIndex := none
  nextToken := 1
  revision := 0

/-- What an operation leaves: its result and the controller. -/
abbrev Outcome (α : Type) := Except ScenarioControllerError α × ScenarioController

/-! ### Validation -/

def validateControllerTarget (target : ScenarioTarget) : Except ScenarioControllerError Unit :=
  if target.streamId = 0 then .error (.invalidTarget target) else .ok ()

def validateControllerName (name : String) : Except ScenarioControllerError Unit :=
  match validateName name with
  | .error _ => .error (.invalidScenarioName name)
  | .ok () => .ok ()

def validateActorLabel (actorLabel : Option String) : Except ScenarioControllerError Unit :=
  if actorLabel.any fun label => label.utf8ByteSize > maxScenarioActorLabelBytes then
    .error (.invalidActorLabel maxScenarioActorLabelBytes)
  else
    .ok ()

/-- Which kinds may be applied to which targets. -/
def ScenarioKind.compatible : ScenarioKind → ScenarioTarget → Bool
  | .disconnectPdc, .pdc .. => true
  | .disconnectPdc, .endpoint _ => false
  | _, .endpoint _ => true
  | _, .pdc .. => false

def validateScenarioTarget (target : ScenarioTarget) (kind : ScenarioKind) :
    Except ScenarioControllerError Unit :=
  if kind.compatible target then .ok () else .error (.incompatibleTarget target kind)

/-! ### Times and effects -/

def confirmationExpiresInMs (expiresAt now : Instant) : Nat :=
  if now ≤ expiresAt then min ((expiresAt - now) / 1000000) u64Max else 0

def PreparedScenarioAction.snapshot (prepared : PreparedScenarioAction) (token : ActivationToken)
    (now : Instant) : PreparedScenarioSnapshot where
  token := token
  confirmExpiresInMs := confirmationExpiresInMs prepared.expiresAt now
  target := prepared.target
  action := prepared.action.snapshot
  actorLabel := prepared.actorLabel

def isEffectiveAt (active : ActiveScenarioAction) (sampleIndex : Nat) : Bool :=
  match checkedSub sampleIndex active.firstEligibleBoundary with
  | some elapsed => elapsed ≥ active.scenario.startFrameOffset
  | none => false

def isExpiredAt (active : ActiveScenarioAction) (sampleIndex : Nat) : Except Failure Bool :=
  match checkedSub sampleIndex active.firstEligibleBoundary with
  | none => .ok false
  | some elapsed =>
    match checkedSub elapsed active.scenario.startFrameOffset with
    | none => .ok false
    | some elapsedSinceStart =>
      match active.scenario.durationFrames with
      | none => .error (.panic "compiled transient scenarios always have a duration")
      | some duration => .ok (elapsedSinceStart ≥ duration)

/-- The active record a pending action turns into at its boundary, if any. -/
def PendingScenarioAction.activated (sampleIndex : Nat) (action : PendingScenarioAction) :
    Option ActiveScenarioAction :=
  match action.action with
  | .activate scenario =>
    some { scenario, actorLabel := action.actorLabel, firstEligibleBoundary := sampleIndex }
  | .clear => none

namespace ScenarioController

/-- The `expect` of `bump_revision`. -/
def revisionExhausted : Failure := .panic "scenario controller revision space is exhausted"

/-- `bump_revision`: the revision is a `u64` and its exhaustion is a panic. -/
def bumpRevision (c : ScenarioController) : Except Failure ScenarioController :=
  match checkedAdd c.revision 1 with
  | some revision => .ok { c with revision }
  | none => .error revisionExhausted

/-- Drop a prepared record from both maps. -/
def removePreparation (c : ScenarioController) (token : ActivationToken)
    (prepared : PreparedScenarioAction) : ScenarioController :=
  { c with
    prepared := c.prepared.erase token
    preparedTargets := c.preparedTargets.erase prepared.target }

/-- The tokens `discard_expired_preparations` collects before it removes anything. -/
def expiredTokens (c : ScenarioController) (now : Instant) : List ActivationToken :=
  c.prepared.toList.filterMap fun e => if now ≥ e.2.expiresAt then some e.1 else none

/-- One turn of the loop over the expired tokens. -/
def discardPreparation (c : ScenarioController) (token : ActivationToken) :
    Except Failure ScenarioController :=
  match c.prepared[token]? with
  | some prepared => (c.removePreparation token prepared).bumpRevision
  | none => .ok c

def discardExpiredPreparations (c : ScenarioController) (now : Instant) :
    Except Failure ScenarioController :=
  (c.expiredTokens now).foldlM discardPreparation c

def tracksTarget (c : ScenarioController) (target : ScenarioTarget) : Bool :=
  c.preparedTargets.contains target || c.pending.contains target || c.active.contains target

/-- The targets with a record, as the set `tracked_target_count` counts. -/
def trackedTargets (c : ScenarioController) : Finset ScenarioTarget :=
  (c.active.keys ++ c.pending.keys ++ c.preparedTargets.keys).toFinset

def trackedTargetCount (c : ScenarioController) : Nat := c.trackedTargets.card

/-! ### Operations -/

/-- The record `prepare_action` stores, and the controller holding it. -/
def issue (c : ScenarioController) (target : ScenarioTarget) (action : StoredScenarioAction)
    (actorLabel : Option String) (expiresAt : Instant) (nextToken : Nat) : ScenarioController :=
  { c with
    prepared := c.prepared.insert ⟨c.nextToken⟩ { target, action, actorLabel, expiresAt }
    preparedTargets := c.preparedTargets.insert target ⟨c.nextToken⟩
    nextToken := nextToken }

def prepareAction (c : ScenarioController) (target : ScenarioTarget)
    (action : StoredScenarioAction) (actorLabel : Option String) (now : Instant)
    (permitsActiveTarget : Bool) : Except Failure (Outcome PreparedScenarioSnapshot) := do
  let c ← c.discardExpiredPreparations now
  if c.preparedTargets.contains target || c.pending.contains target ||
      (!permitsActiveTarget && c.active.contains target) then
    return (.error (.targetBusy target), c)
  else if !c.tracksTarget target && c.trackedTargetCount ≥ maxScenarioTargets then
    return (.error (.targetCapacityExceeded maxScenarioTargets), c)
  else
    match now.checkedAdd activationTokenTtl, checkedAdd c.nextToken 1 with
    | none, _ => return (.error .tokenExpiryOverflow, c)
    | some _, none => return (.error .tokenSpaceExhausted, c)
    | some expiresAt, some nextToken =>
      let prepared : PreparedScenarioAction := { target, action, actorLabel, expiresAt }
      let snapshot := prepared.snapshot ⟨c.nextToken⟩ now
      let c ← (c.issue target action actorLabel expiresAt nextToken).bumpRevision
      return (.ok snapshot, c)

/-- The checks of `prepare_activation` before anything is stored. -/
def validateActivation (c : ScenarioController) (target : ScenarioTarget) (scenarioName : String)
    (actorLabel : Option String) : Except ScenarioControllerError ScenarioDefinition := do
  validateControllerTarget target
  validateControllerName scenarioName
  validateActorLabel actorLabel
  match c.catalog.scenario scenarioName with
  | none => .error (.unknownScenario scenarioName)
  | some scenario => do
    validateScenarioTarget target scenario.kind
    return scenario

def prepareActivation (c : ScenarioController) (target : ScenarioTarget) (scenarioName : String)
    (actorLabel : Option String) (now : Instant) :
    Except Failure (Outcome PreparedScenarioSnapshot) :=
  match c.validateActivation target scenarioName actorLabel with
  | .error e => .ok (.error e, c)
  | .ok scenario => c.prepareAction target (.activate scenario) actorLabel now false

/-- The checks of `prepare_clear` on its arguments. -/
def validateClear (target : ScenarioTarget) (actorLabel : Option String) :
    Except ScenarioControllerError Unit := do
  validateControllerTarget target
  validateActorLabel actorLabel

/-- An active sustained scenario is what a clear needs, at its prepare and at its confirm. -/
def requireSustained (c : ScenarioController) (target : ScenarioTarget) :
    Except ScenarioControllerError Unit :=
  match c.active[target]? with
  | none => .error (.noActiveScenario target)
  | some active =>
    if active.scenario.lifecycle ≠ .sustained then
      .error (.clearRequiresSustainedScenario target)
    else
      .ok ()

def prepareClear (c : ScenarioController) (target : ScenarioTarget)
    (actorLabel : Option String) (now : Instant) :
    Except Failure (Outcome PreparedScenarioSnapshot) :=
  match validateClear target actorLabel with
  | .error e => .ok (.error e, c)
  | .ok () => do
    let c ← c.discardExpiredPreparations now
    if c.preparedTargets.contains target || c.pending.contains target then
      return (.error (.targetBusy target), c)
    else
      match c.requireSustained target with
      | .error e => return (.error e, c)
      | .ok () => c.prepareAction target .clear actorLabel now true

/-- What `confirm` checks after it has consumed the token. -/
def confirmable (c : ScenarioController) (target : ScenarioTarget) :
    StoredScenarioAction → Except ScenarioControllerError Unit
  | .activate _ =>
    if c.pending.contains target || c.active.contains target then .error (.targetBusy target)
    else .ok ()
  | .clear =>
    if c.pending.contains target then .error (.targetBusy target)
    else c.requireSustained target

def confirm (c : ScenarioController) (token : ActivationToken) (now : Instant) :
    Except Failure (Outcome PendingScenarioSnapshot) :=
  match c.prepared[token]? with
  | none => .ok (.error (.unknownToken token), c)
  | some prepared => do
    let c ← (c.removePreparation token prepared).bumpRevision
    if now ≥ prepared.expiresAt then
      return (.error (.expiredToken token), c)
    else
      let c ← c.discardExpiredPreparations now
      match c.confirmable prepared.target prepared.action with
      | .error e => return (.error e, c)
      | .ok () =>
        let snapshot : PendingScenarioSnapshot :=
          { target := prepared.target, action := prepared.action.snapshot,
            actorLabel := prepared.actorLabel }
        return (.ok snapshot,
          { c with
            pending := c.pending.insert prepared.target
              { action := prepared.action, actorLabel := prepared.actorLabel } })

def cancel (c : ScenarioController) (token : ActivationToken) (now : Instant) :
    Except Failure (Outcome PreparedScenarioSnapshot) :=
  match c.prepared[token]? with
  | none => .ok (.error (.unknownToken token), c)
  | some prepared => do
    let c ← (c.removePreparation token prepared).bumpRevision
    if now ≥ prepared.expiresAt then
      return (.error (.expiredToken token), c)
    else
      let c ← c.discardExpiredPreparations now
      return (.ok (prepared.snapshot token now), c)

/-- What `expire_transient_actions` asks of each active record. -/
def remainsActive (sampleIndex : Nat) (active : ActiveScenarioAction) : Except Failure Bool :=
  if active.scenario.lifecycle ≠ .transient then .ok true
  else (isExpiredAt active sampleIndex).map fun expired => !expired

def expireTransientActions (c : ScenarioController) (sampleIndex : Nat) :
    Except Failure ScenarioController := do
  let active ← OrderedMap.retain (fun _ active => remainsActive sampleIndex active) c.active
  return { c with active }

/-- The controller after `advance_boundary` has taken the pending actions. -/
def applyPending (c : ScenarioController) (sampleIndex : Nat) : ScenarioController :=
  { c with
    currentSampleIndex := some sampleIndex
    pending := ∅
    active := OrderedMap.overwrite (PendingScenarioAction.activated sampleIndex) c.active
      c.pending.toList }

/-- `advance_boundary` past its monotonicity check. -/
def crossBoundary (c : ScenarioController) (sampleIndex : Nat) :
    Except Failure ScenarioController := do
  let applied := c.applyPending sampleIndex
  let expired ← applied.expireTransientActions sampleIndex
  if !c.pending.isEmpty || expired.active.size ≠ applied.active.size then
    expired.bumpRevision
  else
    return expired

def advanceBoundary (c : ScenarioController) (sampleIndex : Nat) :
    Except Failure (Outcome Unit) :=
  match c.currentSampleIndex with
  | some previous =>
    if sampleIndex ≤ previous then
      .ok (.error (.nonMonotonicBoundary previous sampleIndex), c)
    else do
      return (.ok (), ← c.crossBoundary sampleIndex)
  | none => do
    return (.ok (), ← c.crossBoundary sampleIndex)

/-- What an effective scenario on the endpoint itself adds to the plan. -/
def applyEndpointScenario (plan : FramePlan) (active : ActiveScenarioAction) : FramePlan :=
  match active.scenario.kind with
  | .degradedTime => { plan with degradedTime := true }
  | .missingFrames => { plan with omitData := true }
  | .signalExcursion => { plan with signal := active.scenario.signal }
  | .normal | .recovery | .disconnectPdc => plan

/-- The part of a plan that comes from the endpoint's own scenario. -/
def endpointPlan (c : ScenarioController) (streamId : UInt16) (sampleIndex : Nat) : FramePlan :=
  match c.active[ScenarioTarget.endpoint streamId]? with
  | some active => if isEffectiveAt active sampleIndex then applyEndpointScenario {} active else {}
  | none => {}

/-- The connection an active record disconnects from a stream, one visit of `frame_plan`. -/
def disconnects (streamId : UInt16) (sampleIndex : Nat) :
    ScenarioTarget × ActiveScenarioAction → Option Nat
  | (.endpoint _, _) => none
  | (.pdc targetStreamId connectionId, active) =>
    if targetStreamId = streamId && active.scenario.kind = .disconnectPdc &&
        isEffectiveAt active sampleIndex then
      some connectionId
    else
      none

def framePlan (c : ScenarioController) (streamId : UInt16) : FramePlan :=
  match c.currentSampleIndex with
  | none => {}
  | some sampleIndex =>
    { c.endpointPlan streamId sampleIndex with
      disconnectPdcConnectionIds := c.active.toList.filterMap (disconnects streamId sampleIndex) }

/-! ### Snapshots -/

def preparedActionsAt (c : ScenarioController) (now : Instant) : List PreparedScenarioSnapshot :=
  c.prepared.toList.map fun e => e.2.snapshot e.1 now

def pendingActions (c : ScenarioController) : List PendingScenarioSnapshot :=
  c.pending.toList.map fun e =>
    { target := e.1, action := e.2.action.snapshot, actorLabel := e.2.actorLabel }

def activeScenarios (c : ScenarioController) : List ActiveScenarioSnapshot :=
  c.active.toList.map fun e =>
    { target := e.1, scenarioName := e.2.scenario.name, kind := e.2.scenario.kind,
      lifecycle := e.2.scenario.lifecycle, startFrameOffset := e.2.scenario.startFrameOffset,
      firstEligibleBoundary := e.2.firstEligibleBoundary, actorLabel := e.2.actorLabel }

def snapshot (c : ScenarioController) (now : Instant) :
    Except Failure (ScenarioControllerSnapshot × ScenarioController) := do
  let c ← c.discardExpiredPreparations now
  return ({ currentSampleIndex := c.currentSampleIndex, prepared := c.preparedActionsAt now,
            pending := c.pendingActions, active := c.activeScenarios }, c)

end ScenarioController

/-! ### The controller as a machine -/

inductive ControllerInput where
  | prepareActivation (target : ScenarioTarget) (scenarioName : String)
      (actorLabel : Option String) (now : Instant)
  | prepareClear (target : ScenarioTarget) (actorLabel : Option String) (now : Instant)
  | confirm (token : ActivationToken) (now : Instant)
  | cancel (token : ActivationToken) (now : Instant)
  | advanceBoundary (sampleIndex : Nat)
  | snapshot (now : Instant)
  deriving DecidableEq, Repr

inductive ControllerOutput where
  | prepared (result : Except ScenarioControllerError PreparedScenarioSnapshot)
  | confirmed (result : Except ScenarioControllerError PendingScenarioSnapshot)
  | cancelled (result : Except ScenarioControllerError PreparedScenarioSnapshot)
  | boundary (result : Except ScenarioControllerError Unit)
  | snapshot (snapshot : ScenarioControllerSnapshot)

/-- The time an operation is given. -/
def ControllerInput.time : ControllerInput → Option Instant
  | .prepareActivation _ _ _ now => some now
  | .prepareClear _ _ now => some now
  | .confirm _ now => some now
  | .cancel _ now => some now
  | .advanceBoundary _ => none
  | .snapshot now => some now

/-- What a prepare asks for, and when. -/
def ControllerInput.request : ControllerInput → Option (ScenarioTarget × ScenarioAction × Instant)
  | .prepareActivation target scenarioName _ now => some (target, .activate scenarioName, now)
  | .prepareClear target _ now => some (target, .clear, now)
  | _ => none

/-- The outputs that report an error. -/
def ControllerOutput.rejected : ControllerOutput → Bool
  | .prepared (.error _) => true
  | .confirmed (.error _) => true
  | .cancelled (.error _) => true
  | .boundary (.error _) => true
  | _ => false

/-- One operation of the controller. -/
def ScenarioController.apply (c : ScenarioController) :
    ControllerInput → Except Failure (ControllerOutput × ScenarioController)
  | .prepareActivation target scenarioName actorLabel now => do
    let (result, c) ← c.prepareActivation target scenarioName actorLabel now
    return (.prepared result, c)
  | .prepareClear target actorLabel now => do
    let (result, c) ← c.prepareClear target actorLabel now
    return (.prepared result, c)
  | .confirm token now => do
    let (result, c) ← c.confirm token now
    return (.confirmed result, c)
  | .cancel token now => do
    let (result, c) ← c.cancel token now
    return (.cancelled result, c)
  | .advanceBoundary sampleIndex => do
    let (result, c) ← c.advanceBoundary sampleIndex
    return (.boundary result, c)
  | .snapshot now => do
    let (snapshot, c) ← c.snapshot now
    return (.snapshot snapshot, c)

/-- The controller driven by any sequence of operations. -/
def controllerMachine :
    Machine ScenarioController ControllerInput ControllerOutput Failure where
  step := ScenarioController.apply

end PmuSimulator

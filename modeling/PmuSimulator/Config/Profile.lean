import Mathlib
import PmuSimulator.Config

/-!
# Compiling a profile

A profile, as the YAML reader hands it over, is validated field by field and then unrolled: every
endpoint has the values of the fleet, with its index added to the port and to both identifiers and
appended to the name.

The compiler only compares, adds, scales and rounds the numbers of a profile, so it is given over
any numbers that can do this: the single-precision ones of the program, or the rationals, on which
the same code computes exactly.
-/

namespace PmuSimulator

/-- `V2_NAME_FIELD_BYTES`. -/
def v2NameFieldBytes : Nat := 16

/-- What the source does with numbers besides comparing, adding, multiplying and dividing them:
rounding is half away from zero, and conversion to an integer saturates. -/
class Numeric (F : Type) where
  isFinite : F → Bool
  abs : F → F
  round : F → F
  toU32 : F → UInt32
  ofU32 : UInt32 → F

instance : Numeric Float32 := ⟨Float32.isFinite, Float32.abs, Float32.round, Float32.toUInt32,
  UInt32.toFloat32⟩

/-- Rounding half away from zero. -/
def roundAway (q : ℚ) : ℤ := if 0 ≤ q then round q else -round (-q)

instance : Numeric ℚ where
  isFinite _ := true
  abs q := |q|
  round q := roundAway q
  toU32 q := UInt32.ofNat (min ⌊q⌋.toNat (2 ^ 32 - 1))
  ofU32 n := n.toNat

/-! ### Profiles -/

structure RawLimits where
  maxLogicalPmus : Nat
  maxClientsPerEndpoint : Nat
  maxCommandFrameBytes : Nat
  requestedSocketReceiveBufferBytes : Nat
  requestedSocketSendBufferBytes : Nat
  deriving DecidableEq, Repr

structure RawSignalRecipe (F : Type) where
  nominal : F
  variation : F

structure PhasorRecipe (F : Type) where
  voltageMagnitude : F
  voltageVariation : F
  voltageClass : F
  voltageScale : F
  currentMagnitude : F
  currentVariation : F
  currentScale : F

structure Fleet (F : Type) where
  count : Nat
  firstListenPort : UInt16
  firstStreamId : UInt16
  firstPmuId : UInt16
  pdcName : String
  pmuNamePrefix : String
  protocolVersion : UInt8
  v2GoodStatPmuIds : List UInt16
  dataRateHz : UInt16
  timeBase : UInt32
  nominalFrequencyHz : UInt16
  phasors : PhasorRecipe F
  frequencyDeviationHz : RawSignalRecipe F
  rocofHzPerS : RawSignalRecipe F

structure Profile (F : Type) where
  seed : UInt64
  limits : RawLimits
  fleet : Fleet F

/-- `ConfigError`, a message. -/
structure ConfigError where
  message : String
  deriving DecidableEq, Repr

/-! ### Identifiers -/

/-- `u16::try_from`. -/
def toU16? (n : Nat) : Option UInt16 := if n < 2 ^ 16 then some (UInt16.ofNat n) else none

/-- `u16::checked_add`. -/
def checkedAddU16 (a b : UInt16) : Option UInt16 :=
  if a.toNat + b.toNat < 2 ^ 16 then some (a + b) else none

/-- `ok_or_else`. -/
def okOr {α : Type} (value : Option α) (message : String) : Except ConfigError α :=
  match value with
  | some a => .ok a
  | none => .error ⟨message⟩

/-- A check that fails with a message. -/
def ensure (condition : Prop) [Decidable condition] (message : String) :
    Except ConfigError Unit :=
  if condition then .ok () else .error ⟨message⟩

def finalIdentifier (first offset : UInt16) (name : String) : Except ConfigError UInt16 := do
  let finalValue ← okOr (checkedAddU16 first offset) s!"fleet {name} range overflows u16"
  ensure (¬(first = 0 ∨ finalValue = 0xffff)) s!"fleet {name}s must be in 1..=65534"
  return finalValue

def WireVersion.tryFrom (protocolVersion : UInt8) : Except ConfigError WireVersion :=
  if protocolVersion = v2ProtocolVersion then .ok .v2
  else if protocolVersion = v3ProtocolVersion then .ok .v3
  else
    .error ⟨"fleet.protocol_version must be 2 for C37.118.2-2011 V2 or 3 for C37.118.2-2024 V3"⟩

/-! ### Names -/

/-- `as_bytes`. -/
def utf8Bytes (value : String) : List UInt8 := value.toByteArray.data.toList

def isAsciiControl (byte : UInt8) : Bool := byte ≤ 0x1f || byte == 0x7f

/-- A name behind its length. -/
def encodedName (value field : String) : Except ConfigError (List UInt8) :=
  if value.isEmpty || value.utf8ByteSize > 255 then
    .error ⟨s!"{field} must contain 1 to 255 UTF-8 bytes"⟩
  else if (utf8Bytes value).any isAsciiControl then
    .error ⟨s!"{field} must not contain ASCII control characters"⟩
  else
    .ok (UInt8.ofNat value.utf8ByteSize :: utf8Bytes value)

/-- A name filled up with spaces. -/
def v2FixedAscii (value field : String) : Except ConfigError (List UInt8) :=
  if value.isEmpty || value.utf8ByteSize > v2NameFieldBytes ||
      !(utf8Bytes value).all fun byte => 0x20 ≤ byte && byte ≤ 0x7e then
    .error ⟨s!"{field} must contain 1 to {v2NameFieldBytes} printable ASCII bytes for C37.118 V2"⟩
  else
    .ok (utf8Bytes value ++ List.replicate (v2NameFieldBytes - value.utf8ByteSize) 0x20)

/-- The format `:03`. -/
def zeroPadded (n : Nat) : String := String.ofList ((toString n).toList.leftpad 3 '0')

/-- The name an ordinal is appended to. -/
def pmuNameSource (pmuNamePrefix : String) (ordinal : Nat) : String :=
  pmuNamePrefix ++ zeroPadded ordinal

def standardChannelNames : Except ConfigError (List (List UInt8)) :=
  ["VL1", "VL2", "VL3", "IL1", "IL2", "IL3", "FREQ", "ROCOF"].mapM
    fun name => encodedName name "V3 channel name"

def standardV2ChannelNames : Except ConfigError (List (List UInt8)) :=
  ["VL1", "VL2", "VL3", "IL1", "IL2", "IL3"].mapM fun name => v2FixedAscii name "V2 channel name"

/-! ### Global identifiers -/

def u64ToBeBytes (v : UInt64) : List UInt8 :=
  [(v >>> 56).toUInt8, (v >>> 48).toUInt8, (v >>> 40).toUInt8, (v >>> 32).toUInt8,
    (v >>> 24).toUInt8, (v >>> 16).toUInt8, (v >>> 8).toUInt8, v.toUInt8]

def splitmix64 (value : UInt64) : UInt64 :=
  let value := value + 0x9e3779b97f4a7c15
  let value := (value ^^^ (value >>> 30)) * 0xbf58476d1ce4e5b9
  let value := (value ^^^ (value >>> 27)) * 0x94d049bb133111eb
  value ^^^ (value >>> 31)

def deterministicUuid (seed : UInt64) (index : Nat) : List UInt8 :=
  let first := splitmix64 (seed ^^^ UInt64.ofNat index)
  let second := splitmix64 (first ^^^ 0x9e3779b97f4a7c15)
  let identifier := u64ToBeBytes first ++ u64ToBeBytes second
  (identifier.modify 6 fun byte => (byte &&& 0x0f) ||| 0x40).modify 8
    fun byte => (byte &&& 0x3f) ||| 0x80

/-! ### Validation -/

def validateLimits (limits : RawLimits) : Except ConfigError Unit := do
  ensure (1 ≤ limits.maxLogicalPmus ∧ limits.maxLogicalPmus ≤ maxLogicalPmus)
    s!"limits.max_logical_pmus must be in 1..={maxLogicalPmus}"
  ensure (limits.maxClientsPerEndpoint = 2) "limits.max_clients_per_endpoint must be exactly 2"
  ensure (18 ≤ limits.maxCommandFrameBytes ∧ limits.maxCommandFrameBytes ≤ maxCommandFrameBytes)
    s!"limits.max_command_frame_bytes must be in 18..={maxCommandFrameBytes}"
  validateSocketBuffer "limits.requested_socket_receive_buffer_bytes"
    limits.requestedSocketReceiveBufferBytes
  validateSocketBuffer "limits.requested_socket_send_buffer_bytes"
    limits.requestedSocketSendBufferBytes
where
  /-- One turn of the loop over the socket buffers. -/
  validateSocketBuffer (name : String) (value : Nat) : Except ConfigError Unit :=
    ensure (1 ≤ value ∧ value ≤ maxCommandFrameBytes)
      s!"{name} must be in 1..={maxCommandFrameBytes}"

/-- One turn of the loop over the listed identifiers; `seen` are those before. -/
def validateGoodStatPmuId (firstPmuId finalPmuId : UInt16) (seen : List UInt16) (pmuId : UInt16) :
    Except ConfigError (List UInt16) := do
  ensure (firstPmuId ≤ pmuId ∧ pmuId ≤ finalPmuId)
    "fleet.v2_good_stat_pmu_ids must reference configured PMU_IDs"
  ensure (pmuId ∉ seen) "fleet.v2_good_stat_pmu_ids must not contain duplicates"
  return seen ++ [pmuId]

def validateV2GoodStatPmuIds (pmuIds : List UInt16) (firstPmuId finalPmuId : UInt16)
    (wireVersion : WireVersion) : Except ConfigError Unit := do
  ensure (pmuIds = [] ∨ wireVersion = .v2)
    "fleet.v2_good_stat_pmu_ids is supported only by V2 profiles"
  let _ ← pmuIds.foldlM (validateGoodStatPmuId firstPmuId finalPmuId) []
  return ()

section Numbers

variable {F : Type} [Add F] [Mul F] [Div F] [LT F] [LE F] [DecidableLT F] [DecidableLE F]
  [OfScientific F] [Numeric F]

def validateFinite (name : String) (value : F) : Except ConfigError Unit :=
  ensure (Numeric.isFinite value) s!"{name} must be finite"

def validatePositiveFinite (name : String) (value : F) : Except ConfigError Unit := do
  validateFinite name value
  ensure (¬value ≤ 0.0) s!"{name} must be greater than zero"

def validateNonNegative (name : String) (value : F) : Except ConfigError Unit := do
  validateFinite name value
  ensure (¬value < 0.0) s!"{name} must be non-negative"

def validateFixedMagnitudeRange (name : String) (nominal variation scale : F) :
    Except ConfigError Unit :=
  ensure (¬(nominal + variation) / scale > Numeric.ofU32 0xffff)
    (s!"{name} and its variation exceed the fixed-point magnitude range " ++
      "for the configured scale")

/-- The checks of the voltages. -/
def validateVoltage (phasors : PhasorRecipe F) : Except ConfigError Unit := do
  validatePositiveFinite "fleet.phasors.voltage_magnitude" phasors.voltageMagnitude
  validateNonNegative "fleet.phasors.voltage_variation" phasors.voltageVariation
  ensure (¬phasors.voltageVariation > phasors.voltageMagnitude)
    "fleet.phasors.voltage_variation must not exceed voltage_magnitude"
  validateNonNegative "fleet.phasors.voltage_class" phasors.voltageClass
  validatePositiveFinite "fleet.phasors.voltage_scale" phasors.voltageScale
  validateFixedMagnitudeRange "fleet.phasors.voltage_magnitude" phasors.voltageMagnitude
    phasors.voltageVariation phasors.voltageScale

/-- The checks of the currents. -/
def validateCurrent (phasors : PhasorRecipe F) : Except ConfigError Unit := do
  validatePositiveFinite "fleet.phasors.current_magnitude" phasors.currentMagnitude
  validateNonNegative "fleet.phasors.current_variation" phasors.currentVariation
  ensure (¬phasors.currentVariation > phasors.currentMagnitude)
    "fleet.phasors.current_variation must not exceed current_magnitude"
  validatePositiveFinite "fleet.phasors.current_scale" phasors.currentScale
  validateFixedMagnitudeRange "fleet.phasors.current_magnitude" phasors.currentMagnitude
    phasors.currentVariation phasors.currentScale

/-- The checks of the frequency deviation and its rate of change. -/
def validateSignals (frequencyDeviationHz rocofHzPerS : RawSignalRecipe F) :
    Except ConfigError Unit := do
  validateFinite "fleet.frequency_deviation_hz.nominal" frequencyDeviationHz.nominal
  validateNonNegative "fleet.frequency_deviation_hz.variation" frequencyDeviationHz.variation
  validateFinite "fleet.rocof_hz_per_s.nominal" rocofHzPerS.nominal
  validateNonNegative "fleet.rocof_hz_per_s.variation" rocofHzPerS.variation
  ensure (¬Numeric.abs frequencyDeviationHz.nominal + frequencyDeviationHz.variation > 32.767)
    "fleet.frequency_deviation_hz must fit the fixed-point plus-or-minus 32.767 Hz range"
  ensure (¬Numeric.abs rocofHzPerS.nominal + rocofHzPerS.variation > 327.67)
    "fleet.rocof_hz_per_s must fit the fixed-point plus-or-minus 327.67 Hz/s range"

def validateFleet (fleet : Fleet F) (maxLogicalPmus : Nat) : Except ConfigError WireVersion := do
  ensure (1 ≤ fleet.count ∧ fleet.count ≤ maxLogicalPmus)
    s!"fleet.count must be in 1..={maxLogicalPmus}"
  let wireVersion ← WireVersion.tryFrom fleet.protocolVersion
  ensure (fleet.dataRateHz = 50) "fleet.data_rate_hz must be 50 for the V3 simulator profile"
  ensure (1 ≤ fleet.timeBase ∧ fleet.timeBase ≤ 0x00ffffff)
    "fleet.time_base must fit the 24-bit TIME_BASE field"
  ensure (fleet.timeBase % fleet.dataRateHz.toUInt32 = 0)
    "fleet.time_base must be an integer multiple of fleet.data_rate_hz"
  ensure (fleet.nominalFrequencyHz = 50 ∨ fleet.nominalFrequencyHz = 60)
    "fleet.nominal_frequency_hz must be 50 or 60"
  let _ ← encodedName fleet.pdcName "fleet.pdc_name"
  let _ ← encodedName (pmuNameSource fleet.pmuNamePrefix fleet.count) "fleet.pmu_name_prefix"
  let countMinusOne ← okOr (toU16? (fleet.count - 1)) "fleet.count exceeds the V3 PMU limit"
  let _ ← finalIdentifier fleet.firstStreamId countMinusOne "STREAM_ID"
  let finalPmuId ← finalIdentifier fleet.firstPmuId countMinusOne "PMU_ID"
  validateV2GoodStatPmuIds fleet.v2GoodStatPmuIds fleet.firstPmuId finalPmuId wireVersion
  validateVoltage fleet.phasors
  validateCurrent fleet.phasors
  validateSignals fleet.frequencyDeviationHz fleet.rocofHzPerS
  return wireVersion

/-! ### Compilation -/

/-- The 24-bit count of hundred-thousandths that stands for a scale, behind its kind. -/
def v2Phunit (scale : F) (current : Bool) (field : String) : Except ConfigError UInt32 := do
  let scaled := Numeric.round (scale * 100000.0)
  ensure (Numeric.isFinite scaled ∧ 1.0 ≤ scaled ∧ scaled ≤ Numeric.ofU32 0x00ffffff)
    s!"{field} cannot be represented by the C37.118 V2 PHUNIT scale"
  return (if current then 0x01000000 else 0) ||| Numeric.toU32 scaled

def v2Phunits (phasors : PhasorRecipe F) : Except ConfigError (List UInt32) := do
  let voltage ← v2Phunit phasors.voltageScale false "fleet.phasors.voltage_scale"
  let current ← v2Phunit phasors.currentScale true "fleet.phasors.current_scale"
  return [voltage, voltage, voltage, current, current, current]

/-- What all endpoints have in common besides the fleet: the names and units of their channels. -/
inductive ChannelTables where
  | v2 (channelNames : List (List UInt8)) (phunits : List UInt32)
  | v3 (channelNames : List (List UInt8))

def ChannelTables.compile (wireVersion : WireVersion) (phasors : PhasorRecipe F) :
    Except ConfigError ChannelTables :=
  match wireVersion with
  | .v2 => do
    let channelNames ← standardV2ChannelNames
    let phunits ← v2Phunits phasors
    return .v2 channelNames phunits
  | .v3 => do
    let channelNames ← standardChannelNames
    return .v3 channelNames

/-- What an endpoint has by its wire version: its name, its global identifier, its channel names and
its metadata. -/
def compileNames (profile : Profile F) (tables : ChannelTables) (nameSource : String)
    (pmuId : UInt16) (index : Nat) :
    Except ConfigError
      (List UInt8 × List UInt8 × List (List UInt8) × Option V2EndpointMetadata) :=
  match tables with
  | .v2 channelNames phunits => do
    let stationName ← v2FixedAscii nameSource "fleet.pmu_name_prefix"
    return ([], List.replicate 16 0, [], some {
      stationName, channelNames, phunits
      goodStat := profile.fleet.v2GoodStatPmuIds.contains pmuId })
  | .v3 channelNames => do
    let pmuName ← encodedName nameSource "fleet.pmu_name_prefix"
    return (pmuName, deterministicUuid profile.seed index, channelNames, none)

/-- One turn of the loop over the indices; `single` is how an endpoint holds a number. -/
def compileEndpoint (single : F → Float32) (profile : Profile F) (wireVersion : WireVersion)
    (pdcName : List UInt8) (tables : ChannelTables) (index : Nat) :
    Except ConfigError EndpointDescriptor := do
  let fleet := profile.fleet
  let offset ← okOr (toU16? index) "fleet index does not fit into u16"
  let port ← okOr (checkedAddU16 fleet.firstListenPort offset)
    "fleet listener port range overflows u16"
  let streamId ← okOr (checkedAddU16 fleet.firstStreamId offset)
    "fleet STREAM_ID range overflows u16"
  let pmuId ← okOr (checkedAddU16 fleet.firstPmuId offset) "fleet PMU_ID range overflows u16"
  let nameSource := pmuNameSource fleet.pmuNamePrefix (index + 1)
  let (pmuName, globalPmuId, channelNames, v2) ←
    compileNames profile tables nameSource pmuId index
  return {
    index, port, streamId, pmuId
    protocolVersion := fleet.protocolVersion
    wireVersion, v2, pdcName, pmuName, globalPmuId, channelNames
    timeBase := fleet.timeBase
    dataRateHz := fleet.dataRateHz
    nominalFrequencyHz := fleet.nominalFrequencyHz
    voltageMagnitude := single fleet.phasors.voltageMagnitude
    voltageVariation := single fleet.phasors.voltageVariation
    voltageClass := single fleet.phasors.voltageClass
    voltageScale := single fleet.phasors.voltageScale
    currentMagnitude := single fleet.phasors.currentMagnitude
    currentVariation := single fleet.phasors.currentVariation
    currentScale := single fleet.phasors.currentScale
    frequencyDeviation :=
      ⟨single fleet.frequencyDeviationHz.nominal, single fleet.frequencyDeviationHz.variation⟩
    rocof := ⟨single fleet.rocofHzPerS.nominal, single fleet.rocofHzPerS.variation⟩ }

def compileProfile (single : F → Float32) (profile : Profile F) :
    Except ConfigError CompiledProfile := do
  validateLimits profile.limits
  let fleet := profile.fleet
  let wireVersion ← validateFleet fleet profile.limits.maxLogicalPmus
  let countMinusOne ← okOr (toU16? (fleet.count - 1)) "fleet.count exceeds the V3 PMU limit"
  let finalPort ← okOr (checkedAddU16 fleet.firstListenPort countMinusOne)
    "fleet listener port range overflows u16"
  let _ ← finalIdentifier fleet.firstStreamId countMinusOne "STREAM_ID"
  let _ ← finalIdentifier fleet.firstPmuId countMinusOne "PMU_ID"
  ensure (¬(fleet.firstListenPort = 0 ∨ finalPort = 0)) "fleet listener ports must be non-zero"
  let pdcName ← encodedName fleet.pdcName "fleet.pdc_name"
  let tables ← ChannelTables.compile wireVersion fleet.phasors
  let endpoints ← (List.range fleet.count).mapM
    (compileEndpoint single profile wireVersion pdcName tables)
  return {
    seed := profile.seed
    limits := ⟨profile.limits.maxCommandFrameBytes⟩
    endpoints }

end Numbers

end PmuSimulator

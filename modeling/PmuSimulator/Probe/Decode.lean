import Mathlib
import PmuSimulator.Foundation.Cursor
import PmuSimulator.Management.Fleet
import PmuSimulator.Wire.Commands

/-!
# What the probe decodes

The probe is a program of its own that plays the peer of the simulator. It does not share the parser
of the simulator: it has its own decoder of frames, and decoders of the bodies that the simulator
only encodes.
-/

namespace PmuSimulator

/-- How the probe ends early: a panic, a `ProbeError`, or an I/O error it passes on. -/
inductive ProbeFailure where
  | panic (message : String)
  | probe (message : String)
  | io (error : ErrorKind)
  deriving DecidableEq, Repr

namespace Probe

/-! ### Fields -/

/-- A decoder of a body, at an offset of it. -/
abbrev BodyDecoder (α : Type) := Decoder UInt8 ProbeFailure α

open Decoder (check times)

/-- `ok_or_else`, and `expect`. -/
def orThrow {α : Type} (value : Option α) (failure : ProbeFailure) : BodyDecoder α :=
  match value with
  | some a => pure a
  | none => throw failure

def takeBytes (length : Nat) : BodyDecoder (List UInt8) := fun body offset =>
  match checkedAdd offset length with
  | none => .error (.probe "configuration field length overflow")
  | some stop =>
    if stop ≤ body.length then .ok ((body.drop offset).take length, stop)
    else .error (.probe "configuration frame is truncated")

def takeU16 : BodyDecoder UInt16 := do
  let bytes ← takeBytes 2
  return u16FromBeBytes (bytes.getD 0 0) (bytes.getD 1 0)

def takeI16 : BodyDecoder Int16 := do
  let bytes ← takeBytes 2
  return (u16FromBeBytes (bytes.getD 0 0) (bytes.getD 1 0)).toInt16

def takeU32 : BodyDecoder UInt32 := do
  let bytes ← takeBytes 4
  return u32FromBeBytes (bytes.getD 0 0) (bytes.getD 1 0) (bytes.getD 2 0) (bytes.getD 3 0)

def takeName : BodyDecoder String := do
  let bytes ← takeBytes 1
  let length ← orThrow bytes.head? (.panic "one byte requested")
  let name ← takeBytes length.toNat
  orThrow (fromUtf8 name) (.probe "configuration name is not UTF-8")

/-! ### Frames -/

def probeCrc16Ccitt (bytes : List UInt8) : UInt16 :=
  bytes.foldl turn 0xffff
where
  /-- The outer loop: the byte is put on top, and shifted through. -/
  turn (checksum : UInt16) (byte : UInt8) : UInt16 :=
    Nat.iterate shift 8 (checksum ^^^ (byte.toUInt16 <<< 8))
  /-- The inner loop. -/
  shift (checksum : UInt16) : UInt16 :=
    if checksum &&& 0x8000 ≠ 0 then (checksum <<< 1) ^^^ 0x1021 else checksum <<< 1

/-- A frame by its parts; `quality` is `message_time_quality` of a V2 frame, and nothing to V3. -/
structure DecodedFrame where
  frameType : UInt8
  streamId : UInt16
  timestamp : Timestamp
  quality : UInt8
  body : List UInt8
  deriving DecidableEq, Repr

/-- `decode_v2_frame` and `decode_v3_frame`, with the sync check and the texts that tell them
apart. -/
def decodeFrameWith (protocolVersion : UInt8) (validSync : UInt8 → UInt8 → Bool)
    (label envelope sync : String) (bytes : List UInt8) : Except ProbeFailure DecodedFrame :=
  let frameSize := (u16At bytes 2).toNat
  if bytes.length < frameHeaderBytes + frameChecksumBytes then
    .error (.probe (label ++ " frame is shorter than the " ++ envelope ++ " envelope"))
  else if !validSync (bytes.getD 0 0) (bytes.getD 1 0) then
    .error (.probe (label ++ " frame has an invalid sync " ++ sync))
  else if bytes.getD 1 0 &&& 0x0f ≠ protocolVersion then
    .error (.probe ("received C37.118 version " ++ toString (bytes.getD 1 0 &&& 0x0f) ++
      " but expected " ++ toString protocolVersion))
  else if frameSize ≠ bytes.length ∨ frameSize < frameHeaderBytes + frameChecksumBytes then
    .error (.probe (label ++ " frame size does not match its envelope"))
  else if probeCrc16Ccitt (bytes.take (frameSize - 2)) ≠ u16At bytes (frameSize - 2) then
    .error (.probe (label ++ " frame checksum is invalid"))
  else
    .ok {
      frameType := bytes.getD 1 0 >>> 4
      streamId := u16At bytes 4
      timestamp := {
        soc := u32FromBeBytes (bytes.getD 6 0) (bytes.getD 7 0) (bytes.getD 8 0) (bytes.getD 9 0)
        fracsec := u32FromBeBytes 0 (bytes.getD 11 0) (bytes.getD 12 0) (bytes.getD 13 0) }
      quality := bytes.getD 10 0
      body := (bytes.take (frameSize - frameChecksumBytes)).drop frameHeaderBytes }

/-- The sync check of `decode_v2_frame`. -/
def v2ValidSync (first second : UInt8) : Bool := !(first ≠ 0xaa || second &&& 0x80 ≠ 0)

/-- The sync check of `decode_v3_frame`. -/
def v3ValidSync (first _second : UInt8) : Bool := !(first ≠ 0xaa)

def decodeV2Frame : List UInt8 → Except ProbeFailure DecodedFrame :=
  decodeFrameWith v2ProtocolVersion v2ValidSync "C37.118 V2" "V2" "word"

def decodeV3Frame : List UInt8 → Except ProbeFailure DecodedFrame :=
  decodeFrameWith v3ProtocolVersion v3ValidSync "C37.118" "V3" "byte"

/-- `validate_frame_identity` of either version. -/
def validateFrameIdentityWith (label identifier : String) (frame : DecodedFrame)
    (expectedStreamId : UInt16) : Except ProbeFailure Unit :=
  if frame.streamId ≠ expectedStreamId then
    .error (.probe ("received " ++ label ++ " " ++ identifier ++ " " ++ toString frame.streamId ++
      " but expected " ++ toString expectedStreamId))
  else .ok ()

/-! ### Configurations -/

structure ConfigurationSummary where
  timeBase : UInt32
  pmuId : UInt16
  dataRateHz : UInt16
  deriving DecidableEq, Repr

/-- The check of `TIME_BASE`, which divides by the rate it is asked for. -/
def checkTimeBase (label : String) (timeBase : UInt32) (expectedRateHz : UInt16) :
    BodyDecoder Unit :=
  let invalid :=
    ProbeFailure.probe (label ++ " TIME_BASE is invalid for the requested data rate")
  if timeBase = 0 ∨ timeBase >>> 24 ≠ 0 then throw invalid
  else if expectedRateHz = 0 then
    throw (.panic "attempt to calculate the remainder with a divisor of zero")
  else check (timeBase % expectedRateHz.toUInt32 = 0) invalid

/-- What is taken of a configuration: its `TIME_BASE`, its `PMU_ID` and the rates it names. -/
structure ConfigurationFields where
  timeBase : UInt32
  pmuId : UInt16
  rates : List Int16

/-- The end of `decode_configuration`: the body must be at its end and name the rate. -/
def summarize (message : String) (body : List UInt8) (expectedRateHz : UInt16)
    (fields : BodyDecoder ConfigurationFields) : Except ProbeFailure ConfigurationSummary := do
  let (fields, offset) ← fields.runFrom body 0
  if offset ≠ body.length ∨ fields.rates.any (· ≠ expectedRateHz.toInt16) then
    throw (.probe message)
  else return ⟨fields.timeBase, fields.pmuId, expectedRateHz⟩

def v3ConfigurationFields (expectedRateHz : UInt16) : BodyDecoder ConfigurationFields := do
  let continuationIndex ← takeU16
  check (continuationIndex = 0)
    (.probe "fragmented C37.118 configuration is not supported by the probe")
  let timeBase ← takeU32
  checkTimeBase "configuration" timeBase expectedRateHz
  let _ ← takeName
  let pmuCount ← takeU16
  check (pmuCount = 1) (.probe "probe requires one PMU per V3 stream")
  let _ ← takeName
  let pmuId ← takeU16
  check (¬(pmuId = 0 ∨ pmuId = 0xffff)) (.probe "configuration PMU_ID is invalid")
  let pmuVersion ← takeU16
  check (pmuVersion = v3ProtocolVersion.toUInt16) (.probe "configuration PMU_VERSION is not V3")
  let _ ← takeBytes 16
  let format ← takeU16
  check (format = 0x0001) (.probe "probe requires fixed-point polar FORMAT")
  let phasorCount ← takeU16
  let analogCount ← takeU16
  let frequencyCount ← takeU16
  let rocofCount ← takeU16
  let digitalCount ← takeU16
  check ((phasorCount, analogCount, frequencyCount, rocofCount, digitalCount) = (6, 0, 1, 1, 0))
    (.probe "configuration signal counts do not match the V3 simulator profile")
  times (phasorCount + frequencyCount + rocofCount).toNat takeName
  let _ ← takeBytes (16 * phasorCount.toNat)
  let _ ← takeBytes (8 * (frequencyCount + rocofCount).toNat)
  let _ ← takeBytes 12
  let pmuFlag ← takeU16
  check (pmuFlag &&& ((1 : UInt16) <<< 12) = 0)
    (.probe "probe does not support periodic data attributes")
  let _ ← takeBytes 8
  let pmuRate ← takeI16
  let _ ← takeU16
  let streamRate ← takeI16
  let _ ← takeU16
  return ⟨timeBase, pmuId, [pmuRate, streamRate]⟩

/-- `decode_configuration` of the V3 probe. -/
def decodeV3Configuration (body : List UInt8) (expectedRateHz : UInt16) :
    Except ProbeFailure ConfigurationSummary :=
  summarize "configuration data rates or frame length are invalid" body expectedRateHz
    (v3ConfigurationFields expectedRateHz)

def isPrintable (byte : UInt8) : Bool := 0x20 ≤ byte && byte ≤ 0x7e

/-- Sixteen bytes of text. -/
def takeFixedName (message : String) : BodyDecoder Unit := do
  let name ← takeBytes 16
  check (name.all isPrintable = true) (.probe message)

def takePhunit : BodyDecoder Unit := do
  let phunit ← takeU32
  check (¬(phunit >>> 24 > 1 ∨ phunit &&& 0x00ffffff = 0)) (.probe "V2 PHUNIT is invalid")

def v2ConfigurationFields (expectedRateHz : UInt16) : BodyDecoder ConfigurationFields := do
  let timeBase ← takeU32
  checkTimeBase "V2 configuration" timeBase expectedRateHz
  let pmuCount ← takeU16
  check (pmuCount = 1) (.probe "probe requires one PMU per V2 stream")
  takeFixedName "V2 station name is not fixed-width ASCII"
  let pmuId ← takeU16
  check (¬(pmuId = 0 ∨ pmuId = 0xffff)) (.probe "V2 configuration PMU IDCODE is invalid")
  let format ← takeU16
  check (format = 0x0001) (.probe "probe requires fixed-point polar V2 FORMAT")
  let phasorCount ← takeU16
  let analogCount ← takeU16
  let digitalCount ← takeU16
  check ((phasorCount, analogCount, digitalCount) = (6, 0, 0))
    (.probe "V2 configuration signal counts do not match the simulator profile")
  times phasorCount.toNat (takeFixedName "V2 channel name is not fixed-width ASCII")
  times phasorCount.toNat takePhunit
  let nominal ← takeU16
  check (¬nominal > 1) (.probe "V2 FNOM is invalid")
  let _ ← takeU16
  let dataRate ← takeI16
  return ⟨timeBase, pmuId, [dataRate]⟩

/-- `decode_configuration` of the V2 probe. -/
def decodeV2Configuration (body : List UInt8) (expectedRateHz : UInt16) :
    Except ProbeFailure ConfigurationSummary :=
  summarize "V2 configuration data rate or frame length is invalid" body expectedRateHz
    (v2ConfigurationFields expectedRateHz)

def decodeHeader (body : List UInt8) : Except ProbeFailure Unit :=
  if body.isEmpty || !body.all isPrintable then
    .error (.probe "C37.118 V2 HDR payload must contain printable ASCII text")
  else .ok ()

/-! ### Data and errors -/

/-- The ticks of a timestamp since the epoch. -/
def ticks (configuration : ConfigurationSummary) (timestamp : Timestamp) : Nat :=
  timestamp.soc.toNat * configuration.timeBase.toNat + timestamp.fracsec.toNat

/-- The checks of a timestamp in `decode_periodic_data`: it is at a reporting interval, and one
interval after the one before. -/
def checkTimestamp (label : String) (timestamp : Timestamp) (configuration : ConfigurationSummary)
    (previous : Option Timestamp) : Except ProbeFailure Unit :=
  let dividesByZero := ProbeFailure.panic "attempt to divide by zero"
  let remainderOfZero :=
    ProbeFailure.panic "attempt to calculate the remainder with a divisor of zero"
  let step := configuration.timeBase / configuration.dataRateHz.toUInt32
  let unaligned : ProbeFailure :=
    .probe (label ++ "periodic data timestamp is not aligned to the configured rate")
  if timestamp.fracsec ≥ configuration.timeBase then .error unaligned
  else if configuration.dataRateHz = 0 then .error dividesByZero
  else if step = 0 then .error remainderOfZero
  else if timestamp.fracsec % step ≠ 0 then .error unaligned
  else
    match previous with
    | none => .ok ()
    | some previous =>
      if ticks configuration timestamp - ticks configuration previous ≠ step.toNat then
        .error (.probe
          (label ++ "periodic data timestamps skipped a configured reporting interval"))
      else .ok ()

/-- `decode_periodic_data` of the V3 probe. -/
def decodeV3PeriodicData (frame : DecodedFrame) (configuration : ConfigurationSummary)
    (previous : Option Timestamp) : Except ProbeFailure Unit :=
  if frame.body.length ≠ 32 then
    .error (.probe "periodic data frame has an unexpected V3 body length")
  else checkTimestamp "" frame.timestamp configuration previous

/-- `decode_periodic_data` of the V2 probe. -/
def decodeV2PeriodicData (frame : DecodedFrame) (configuration : ConfigurationSummary)
    (previous : Option Timestamp) : Except ProbeFailure Unit :=
  let stat := u16At frame.body 0
  if frame.quality ≠ WireV2.messageTimeQualityUnknown then
    .error (.probe ("V2 periodic data message time quality is not the simulator's conservative " ++
      "unknown value"))
  else if frame.body.length ≠ 30 then
    .error (.probe "periodic data frame has an unexpected V2 body length")
  else if stat ≠ 0 ∧ stat ≠ WireV2.statFlagSyncUncertain ||| WireV2.statPmuTimeQualityUnknown then
    .error (.probe
      "V2 periodic data STAT is neither good nor the simulator's conservative status")
  else checkTimestamp "V2 " frame.timestamp configuration previous

def decodeErrorResponse (body : List UInt8) : Except ProbeFailure UInt16 :=
  if body.length ≠ 4 then .error (.probe "C37.118 error response has an invalid length")
  else .ok (u16At body 0)

end Probe

end PmuSimulator

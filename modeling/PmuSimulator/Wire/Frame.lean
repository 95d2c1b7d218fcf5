import Mathlib
import PmuSimulator.Config
import PmuSimulator.Scenario.Catalog

/-!
# Frame envelopes

What the two wire versions have in common. A frame is a sync byte, a byte of frame type and
version, a size, an identifier, a timestamp, a body and a checksum; the versions differ in the sync
check, in the byte before the fraction of a second, and in the values they use.
-/

namespace PmuSimulator

/-! ### Big-endian integers -/

/-- `u16::from_be_bytes`. -/
def u16FromBeBytes (hi lo : UInt8) : UInt16 := UInt16.ofNat (hi.toNat * 256 + lo.toNat)

/-- `u16::to_be_bytes`. -/
def u16ToBeBytes (v : UInt16) : List UInt8 :=
  [UInt8.ofNat (v.toNat / 256), UInt8.ofNat (v.toNat % 256)]

/-- `u32::to_be_bytes`. -/
def u32ToBeBytes (v : UInt32) : List UInt8 :=
  [UInt8.ofNat (v.toNat / 16777216), UInt8.ofNat (v.toNat / 65536 % 256),
    UInt8.ofNat (v.toNat / 256 % 256), UInt8.ofNat (v.toNat % 256)]

/-- The big-endian 16-bit integer that starts at byte `i`. -/
def u16At (bytes : List UInt8) (i : Nat) : UInt16 :=
  u16FromBeBytes (bytes.getD i 0) (bytes.getD (i + 1) 0)

@[simp] lemma u16ToBeBytes_length (v : UInt16) : (u16ToBeBytes v).length = 2 := rfl

@[simp] lemma u32ToBeBytes_length (v : UInt32) : (u32ToBeBytes v).length = 4 := rfl

lemma u16ToBeBytes_fromBeBytes (hi lo : UInt8) : u16ToBeBytes (u16FromBeBytes hi lo) = [hi, lo] := by
  have hhi := hi.toNat_lt
  have hlo := lo.toNat_lt
  have hv : (u16FromBeBytes hi lo).toNat = hi.toNat * 256 + lo.toNat :=
    UInt16.toNat_ofNat_of_lt' (by simp only [UInt16.size]; omega)
  have h₁ : (hi.toNat * 256 + lo.toNat) / 256 = hi.toNat := by omega
  have h₂ : (hi.toNat * 256 + lo.toNat) % 256 = lo.toNat := by omega
  simp only [u16ToBeBytes, hv, h₁, h₂, UInt8.ofNat_toNat]

lemma u16FromBeBytes_toBeBytes (v : UInt16) :
    u16FromBeBytes (UInt8.ofNat (v.toNat / 256)) (UInt8.ofNat (v.toNat % 256)) = v := by
  have hv := v.toNat_lt
  have h₁ : (UInt8.ofNat (v.toNat / 256)).toNat = v.toNat / 256 :=
    UInt8.toNat_ofNat_of_lt' (by simp only [UInt8.size]; omega)
  have h₂ : (UInt8.ofNat (v.toNat % 256)).toNat = v.toNat % 256 :=
    UInt8.toNat_ofNat_of_lt' (by simp only [UInt8.size]; omega)
  have h₃ : v.toNat / 256 * 256 + v.toNat % 256 = v.toNat := by omega
  simp only [u16FromBeBytes, h₁, h₂, h₃, UInt16.ofNat_toNat]

/-! ### Checksums -/

/-- One bit of `crc16_ccitt`. -/
def crc16Bit (checksum : UInt16) : UInt16 :=
  if checksum &&& 0x8000 ≠ 0 then (checksum <<< 1) ^^^ 0x1021 else checksum <<< 1

/-- One byte of `crc16_ccitt`. -/
def crc16Byte (checksum : UInt16) (byte : UInt8) : UInt16 :=
  Nat.iterate crc16Bit 8 (checksum ^^^ (byte.toUInt16 <<< 8))

def crc16Ccitt (bytes : List UInt8) : UInt16 := bytes.foldl crc16Byte 0xffff

def frameHeaderBytes : Nat := 14

def frameChecksumBytes : Nat := 2

/-- `MIN_FRAME_BYTES`: the header and the checksum. -/
def minFrameBytes : Nat := frameHeaderBytes + frameChecksumBytes

def checksumMatches (frame : List UInt8) : Bool :=
  if frame.length < frameChecksumBytes then false
  else
    let payloadEnd := frame.length - frameChecksumBytes
    crc16Ccitt (frame.take payloadEnd) = u16At frame payloadEnd

/-! ### Parsing -/

inductive FrameError where
  | tooShort
  | badSync
  | declaredSizeTooSmall
  | declaredSizeTooLarge
  | incomplete
  | trailingBytes
  | badChecksum
  | unsupportedVersion
  | unexpectedFrameType
  | invalidCommandSize
  | unsupportedCommand
  deriving DecidableEq, Repr

def syncByte : UInt8 := 0xaa

/-- The bytes of a frame whose envelope was checked. -/
structure FrameView where
  bytes : List UInt8
  enough : minFrameBytes ≤ bytes.length
  deriving DecidableEq

namespace FrameView

/-- The size a frame declares. -/
def declaredSize (bytes : List UInt8) : Nat := (u16At bytes 2).toNat

/-- `FrameView::parse_with_limit` of either version; the check of the first two bytes is theirs. -/
def parseWith (validSync : UInt8 → UInt8 → Bool) (bytes : List UInt8) (maximumSize : Nat) :
    Except FrameError FrameView :=
  if short : bytes.length < minFrameBytes then .error .tooShort
  else if !validSync (bytes.getD 0 0) (bytes.getD 1 0) then .error .badSync
  else if declaredSize bytes < minFrameBytes then .error .declaredSizeTooSmall
  else if declaredSize bytes > maximumSize then .error .declaredSizeTooLarge
  else if bytes.length < declaredSize bytes then .error .incomplete
  else if bytes.length > declaredSize bytes then .error .trailingBytes
  else if !checksumMatches bytes then .error .badChecksum
  else .ok ⟨bytes, Nat.not_lt.mp short⟩

def frameType (frame : FrameView) : UInt8 := frame.bytes.getD 1 0 >>> 4

def version (frame : FrameView) : UInt8 := frame.bytes.getD 1 0 &&& 0x0f

/-- `idcode` of a V2 frame, `stream_id` of a V3 frame. -/
def idcode (frame : FrameView) : UInt16 := u16At frame.bytes 4

/-- `parse_command` of either version, with its version, frame type and command codes. -/
def parseCommandWith {κ : Type} (protocolVersion frameTypeCommand : UInt8)
    (command : UInt16 → Option κ) (frame : FrameView) : Except FrameError (UInt16 × κ) :=
  if frame.version ≠ protocolVersion then .error .unsupportedVersion
  else if frame.frameType ≠ frameTypeCommand then .error .unexpectedFrameType
  else if frame.bytes.length ≠ 18 then .error .invalidCommandSize
  else
    match command (u16At frame.bytes 14) with
    | some command => .ok (frame.idcode, command)
    | none => .error .unsupportedCommand

end FrameView

/-! ### Encoding -/

structure Timestamp where
  soc : UInt32
  fracsec : UInt32
  deriving DecidableEq, Repr

/-- The header `write_common` writes over the first bytes of a frame of `size` bytes; `quality` is
the byte the versions differ in. -/
def headerWith (protocolVersion quality frameType : UInt8) (size : Nat) (idcode : UInt16)
    (timestamp : Timestamp) : List UInt8 :=
  [syncByte, (frameType <<< 4) ||| protocolVersion] ++ u16ToBeBytes (UInt16.ofNat size) ++
    u16ToBeBytes idcode ++ u32ToBeBytes timestamp.soc ++ [quality] ++
    (u32ToBeBytes timestamp.fracsec).tail

/-- A header and a body, with their checksum. -/
def frameWith (protocolVersion quality frameType : UInt8) (idcode : UInt16) (timestamp : Timestamp)
    (body : List UInt8) : List UInt8 :=
  let payload := headerWith protocolVersion quality frameType (minFrameBytes + body.length) idcode
    timestamp ++ body
  payload ++ u16ToBeBytes (crc16Ccitt payload)

/-- `encode_frame` of either version. -/
def encodeFrameWith (protocolVersion quality frameType : UInt8) (idcode : UInt16)
    (timestamp : Timestamp) (body : List UInt8) : Except Failure (List UInt8) :=
  if minFrameBytes + body.length ≤ 65535 then
    .ok (frameWith protocolVersion quality frameType idcode timestamp body)
  else
    .error (.panic "C37.118 frame exceeds FRAMESIZE")

@[simp] lemma headerWith_length (protocolVersion quality frameType : UInt8) (size : Nat)
    (idcode : UInt16) (timestamp : Timestamp) :
    (headerWith protocolVersion quality frameType size idcode timestamp).length =
      frameHeaderBytes := rfl

@[simp] lemma frameWith_length (protocolVersion quality frameType : UInt8) (idcode : UInt16)
    (timestamp : Timestamp) (body : List UInt8) :
    (frameWith protocolVersion quality frameType idcode timestamp body).length =
      minFrameBytes + body.length := by
  simp only [frameWith, List.length_append, headerWith_length, u16ToBeBytes_length, minFrameBytes,
    frameChecksumBytes]
  omega

/-! ### Sampled signals -/

/-- `waveform`: the seed arithmetic wraps. -/
def waveform (seed : UInt64) (endpointIndex channel sampleIndex : Nat) : Float32 :=
  let phaseSeed : UInt64 :=
    seed + UInt64.ofNat endpointIndex * 37 + UInt64.ofNat channel * 101
  let phase := (phaseSeed % 6283).toFloat32 / 1000.0
  let step := (UInt64.ofNat (sampleIndex % 10000)).toFloat32 * 0.03141593
  (phase + step).sin

/-- The magnitude sampled on a phasor channel; the first three channels are voltages. -/
def sampledMagnitude (endpoint : EndpointDescriptor) (seed : UInt64) (sampleIndex : Nat)
    (signalExcursion : Option SignalExcursion) (channel : Nat) : Float32 :=
  if channel < 3 then
    let magnitude := endpoint.voltageMagnitude +
      endpoint.voltageVariation * waveform seed endpoint.index channel sampleIndex
    match signalExcursion with
    | some signal => magnitude + signal.voltageMagnitudeDelta
    | none => magnitude
  else
    endpoint.currentMagnitude +
      endpoint.currentVariation * waveform seed endpoint.index channel sampleIndex

def channelPhase (channel : Nat) : Float32 :=
  match channel % 3 with
  | 0 => 0.0
  | 1 => -2.0943952
  | _ => 2.0943952

/-- A sampled frequency deviation or its rate of change, with what an excursion adds. -/
def sampledSignal (recipe : SignalRecipe) (seed : UInt64) (endpointIndex channel sampleIndex : Nat)
    (excursion : Option Float32) : Float32 :=
  let value := recipe.nominal + recipe.variation * waveform seed endpointIndex channel sampleIndex
  match excursion with
  | some delta => value + delta
  | none => value

def sampledFrequency (endpoint : EndpointDescriptor) (seed : UInt64) (sampleIndex : Nat)
    (signalExcursion : Option SignalExcursion) : Float32 :=
  sampledSignal endpoint.frequencyDeviation seed endpoint.index phasorCount sampleIndex
    (signalExcursion.map SignalExcursion.frequencyDeviationHz)

def sampledRocof (endpoint : EndpointDescriptor) (seed : UInt64) (sampleIndex : Nat)
    (signalExcursion : Option SignalExcursion) : Float32 :=
  sampledSignal endpoint.rocof seed endpoint.index (phasorCount + 1) sampleIndex
    (signalExcursion.map SignalExcursion.rocofHzPerS)

def fixedMagnitude (value scale : Float32) : UInt16 := (value / scale).round.toUInt16

def fixedAngle (value : Float32) : Int16 := (value * 10000.0).round.toInt16

def fixedFrequency (valueHz : Float32) : Int16 := (valueHz * 1000.0).round.toInt16

def fixedRocof (valueHzPerSecond : Float32) : Int16 := (valueHzPerSecond * 100.0).round.toInt16

/-- The phasors, frequency and rate of change of a periodic data frame; `scale` is the magnitude
scale of each channel. -/
def sampledBody (endpoint : EndpointDescriptor) (seed : UInt64) (sampleIndex : Nat)
    (signalExcursion : Option SignalExcursion) (scale : Nat → Float32) : List UInt8 :=
  ((List.range phasorCount).flatMap fun channel =>
    u16ToBeBytes (fixedMagnitude
      (sampledMagnitude endpoint seed sampleIndex signalExcursion channel) (scale channel)) ++
    u16ToBeBytes (fixedAngle (channelPhase channel)).toUInt16) ++
  u16ToBeBytes (fixedFrequency
    (sampledFrequency endpoint seed sampleIndex signalExcursion)).toUInt16 ++
  u16ToBeBytes (fixedRocof (sampledRocof endpoint seed sampleIndex signalExcursion)).toUInt16

end PmuSimulator

import Mathlib
import PmuSimulator.Wire.Frame

/-!
# IEEE C37.118.2-2024 version 3

Commands in, capability, stream configuration, periodic data and error response frames out.
-/

namespace PmuSimulator

namespace WireV3

def frameTypePeriodicData : UInt8 := 0x8
def frameTypeCapability : UInt8 := 0xa
def frameTypeStreamConfiguration : UInt8 := 0xb
def frameTypeCommand : UInt8 := 0xc
def frameTypeErrorResponse : UInt8 := 0xf

def commandStop : UInt16 := 0x0010
def commandStart : UInt16 := 0x0020
def commandCapability : UInt16 := 0x0040
def commandStreamConfiguration : UInt16 := 0x0060

def statFlagSyncUncertain : UInt16 := 0x2000
def timeQualityUnknown : UInt16 := 0x7fff

inductive Command where
  | stop
  | start
  | capability
  | streamConfiguration
  deriving DecidableEq, Repr

inductive ErrorResponseCode where
  | rejectedCommand
  | wrongStreamOrPmu
  deriving DecidableEq, Repr

def ErrorResponseCode.value : ErrorResponseCode → UInt16
  | rejectedCommand => 1
  | wrongStreamOrPmu => 2

/-! ### Parsing -/

def validSync (first _second : UInt8) : Bool := first == syncByte

/-- `wire_v3::FrameView::parse`. -/
def parse (bytes : List UInt8) : Except FrameError FrameView :=
  FrameView.parseWith validSync bytes 65535

def commandOfCode (code : UInt16) : Option Command :=
  if code = commandStop then some .stop
  else if code = commandStart then some .start
  else if code = commandCapability then some .capability
  else if code = commandStreamConfiguration then some .streamConfiguration
  else none

/-- `wire_v3::parse_command`. -/
def parseCommand (frame : FrameView) : Except FrameError (UInt16 × Command) :=
  frame.parseCommandWith v3ProtocolVersion frameTypeCommand commandOfCode

/-! ### Encoding -/

def Command.code : Command → UInt16
  | stop => commandStop
  | start => commandStart
  | capability => commandCapability
  | streamConfiguration => commandStreamConfiguration

def encodeFrame (frameType : UInt8) (streamId : UInt16) (timestamp : Timestamp)
    (body : List UInt8) : Except Failure (List UInt8) :=
  encodeFrameWith v3ProtocolVersion 0 frameType streamId timestamp body

def encodeCommand (streamId : UInt16) (command : Command) (timestamp : Timestamp) :
    Except Failure (List UInt8) :=
  encodeFrame frameTypeCommand streamId timestamp (u16ToBeBytes command.code)

/-- `append_f32`. -/
def f32Bytes (value : Float32) : List UInt8 := u32ToBeBytes value.toBits

/-- The bits of `f32::INFINITY`. -/
def infinityBits : UInt32 := 0x7f800000

def phaseType (channel : Nat) (current : Bool) : UInt8 :=
  let component := match channel % 3 with
    | 0 => 0b100
    | 1 => 0b101
    | _ => 0b110
  if current then component ||| 0b1000 else component

def pmuFlag (nominalFrequencyHz : UInt16) : UInt16 :=
  ((1 : UInt16) <<< 15) ||| if nominalFrequencyHz = 50 then (1 : UInt16) <<< 13 else 0

def configurationBody (endpoint : EndpointDescriptor) : List UInt8 :=
  u16ToBeBytes 0 ++ u32ToBeBytes endpoint.timeBase ++ endpoint.pdcName ++ u16ToBeBytes 1 ++
    endpoint.pmuName ++ u16ToBeBytes endpoint.pmuId ++
    u16ToBeBytes endpoint.protocolVersion.toUInt16 ++ endpoint.globalPmuId ++
    u16ToBeBytes 0x0001 ++ u16ToBeBytes (UInt16.ofNat phasorCount) ++ u16ToBeBytes 0 ++
    u16ToBeBytes (UInt16.ofNat frequencyCount) ++ u16ToBeBytes (UInt16.ofNat rocofCount) ++
    u16ToBeBytes 0 ++ endpoint.channelNames.flatten ++
    ((List.range phasorCount).flatMap fun channel =>
      [0, 0, phaseType channel (channel ≥ 3), 0] ++
      f32Bytes (if channel < 3 then endpoint.voltageScale else endpoint.currentScale) ++
      f32Bytes 0.0 ++ f32Bytes endpoint.voltageClass) ++
    f32Bytes 0.001 ++ f32Bytes 0.0 ++ f32Bytes 0.01 ++ f32Bytes 0.0 ++
    u32ToBeBytes infinityBits ++ u32ToBeBytes infinityBits ++ u32ToBeBytes infinityBits ++
    u16ToBeBytes (pmuFlag endpoint.nominalFrequencyHz) ++
    u32ToBeBytes 0xffffffff ++ u32ToBeBytes 0xffffffff ++
    u16ToBeBytes endpoint.dataRateHz ++ u16ToBeBytes 0 ++
    u16ToBeBytes endpoint.dataRateHz ++ u16ToBeBytes 0

def encodeConfiguration (frameType : UInt8) (endpoint : EndpointDescriptor)
    (timestamp : Timestamp) : Except Failure (List UInt8) :=
  encodeFrame frameType endpoint.streamId timestamp (configurationBody endpoint)

def encodeCapability (endpoint : EndpointDescriptor) (timestamp : Timestamp) :
    Except Failure (List UInt8) :=
  encodeConfiguration frameTypeCapability endpoint timestamp

def encodeStreamConfiguration (endpoint : EndpointDescriptor) (timestamp : Timestamp) :
    Except Failure (List UInt8) :=
  encodeConfiguration frameTypeStreamConfiguration endpoint timestamp

/-- `encode_periodic_data_with_scenario_into`: the whole buffer is written, and the time is never
claimed to be good. -/
def encodePeriodicDataWithScenario (endpoint : EndpointDescriptor) (seed : UInt64)
    (sampleIndex : Nat) (timestamp : Timestamp) (_forceDegradedTime : Bool)
    (signalExcursion : Option SignalExcursion) : List UInt8 :=
  frameWith v3ProtocolVersion 0 frameTypePeriodicData endpoint.streamId timestamp
    (u16ToBeBytes statFlagSyncUncertain ++ u16ToBeBytes timeQualityUnknown ++
      sampledBody endpoint seed sampleIndex signalExcursion fun channel =>
        if channel < 3 then endpoint.voltageScale else endpoint.currentScale)

/-- `encode_error_response_into`. -/
def encodeErrorResponse (streamId : UInt16) (code : ErrorResponseCode) (timestamp : Timestamp) :
    List UInt8 :=
  frameWith v3ProtocolVersion 0 frameTypeErrorResponse streamId timestamp
    (u16ToBeBytes code.value ++ u16ToBeBytes 0)

end WireV3

end PmuSimulator

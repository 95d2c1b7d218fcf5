import Mathlib
import PmuSimulator.Wire.Frame

/-!
# IEEE C37.118.2-2011 version 2

Commands in, header, configuration and periodic data frames out.
-/

namespace PmuSimulator

namespace WireV2

def frameTypePeriodicData : UInt8 := 0x0
def frameTypeHeader : UInt8 := 0x1
def frameTypeConfiguration1 : UInt8 := 0x2
def frameTypeConfiguration2 : UInt8 := 0x3
def frameTypeCommand : UInt8 := 0x4

def commandStop : UInt16 := 0x0001
def commandStart : UInt16 := 0x0002
def commandHeader : UInt16 := 0x0003
def commandConfiguration1 : UInt16 := 0x0004
def commandConfiguration2 : UInt16 := 0x0005

def messageTimeQualityUnknown : UInt8 := 0x0f
def statFlagSyncUncertain : UInt16 := 0x2000
def statPmuTimeQualityUnknown : UInt16 := 0x01c0

inductive Command where
  | stop
  | start
  | header
  | configuration1
  | configuration2
  deriving DecidableEq, Repr

/-! ### Parsing -/

/-- The sync word: its second byte has the top bit clear. -/
def validSync (first second : UInt8) : Bool := first == syncByte && second &&& 0x80 == 0

/-- `wire_v2::FrameView::parse`. -/
def parse (bytes : List UInt8) : Except FrameError FrameView :=
  FrameView.parseWith validSync bytes 65535

def commandOfCode (code : UInt16) : Option Command :=
  if code = commandStop then some .stop
  else if code = commandStart then some .start
  else if code = commandHeader then some .header
  else if code = commandConfiguration1 then some .configuration1
  else if code = commandConfiguration2 then some .configuration2
  else none

/-- `wire_v2::parse_command`. -/
def parseCommand (frame : FrameView) : Except FrameError (UInt16 × Command) :=
  frame.parseCommandWith v2ProtocolVersion frameTypeCommand commandOfCode

/-! ### Encoding -/

def Command.code : Command → UInt16
  | stop => commandStop
  | start => commandStart
  | header => commandHeader
  | configuration1 => commandConfiguration1
  | configuration2 => commandConfiguration2

def encodeFrame (frameType : UInt8) (idcode : UInt16) (timestamp : Timestamp)
    (body : List UInt8) : Except Failure (List UInt8) :=
  encodeFrameWith v2ProtocolVersion messageTimeQualityUnknown frameType idcode timestamp body

def encodeCommand (idcode : UInt16) (command : Command) (timestamp : Timestamp) :
    Except Failure (List UInt8) :=
  encodeFrame frameTypeCommand idcode timestamp (u16ToBeBytes command.code)

def encodeHeader (endpoint : EndpointDescriptor) (timestamp : Timestamp) :
    Except Failure (List UInt8) :=
  match endpoint.v2 with
  | none => .error (.panic "V2 header encoding requires V2 endpoint metadata")
  | some metadata =>
    encodeFrame frameTypeHeader endpoint.streamId timestamp metadata.stationName

def configurationBody (endpoint : EndpointDescriptor) (metadata : V2EndpointMetadata) :
    List UInt8 :=
  u32ToBeBytes endpoint.timeBase ++ u16ToBeBytes 1 ++ metadata.stationName ++
    u16ToBeBytes endpoint.pmuId ++ u16ToBeBytes 0x0001 ++
    u16ToBeBytes (UInt16.ofNat phasorCount) ++ u16ToBeBytes 0 ++ u16ToBeBytes 0 ++
    metadata.channelNames.flatten ++ metadata.phunits.flatMap u32ToBeBytes ++
    u16ToBeBytes (if endpoint.nominalFrequencyHz = 50 then 1 else 0) ++ u16ToBeBytes 0 ++
    u16ToBeBytes endpoint.dataRateHz

def encodeConfiguration (frameType : UInt8) (endpoint : EndpointDescriptor)
    (timestamp : Timestamp) : Except Failure (List UInt8) :=
  match endpoint.v2 with
  | none => .error (.panic "V2 configuration encoding requires V2 endpoint metadata")
  | some metadata =>
    encodeFrame frameType endpoint.streamId timestamp (configurationBody endpoint metadata)

def encodeConfiguration1 (endpoint : EndpointDescriptor) (timestamp : Timestamp) :
    Except Failure (List UInt8) :=
  encodeConfiguration frameTypeConfiguration1 endpoint timestamp

def encodeConfiguration2 (endpoint : EndpointDescriptor) (timestamp : Timestamp) :
    Except Failure (List UInt8) :=
  encodeConfiguration frameTypeConfiguration2 endpoint timestamp

def phunitScale (phunit : UInt32) : Float32 := (phunit &&& 0x00ffffff).toFloat32 / 100000.0

/-- `encode_periodic_data_with_scenario_into`: the whole buffer is written. -/
def encodePeriodicDataWithScenario (endpoint : EndpointDescriptor) (seed : UInt64)
    (sampleIndex : Nat) (timestamp : Timestamp) (forceDegradedTime : Bool)
    (signalExcursion : Option SignalExcursion) : Except Failure (List UInt8) :=
  match endpoint.v2 with
  | none => .error (.panic "V2 periodic-data encoding requires V2 endpoint metadata")
  | some metadata =>
    let stat := if metadata.goodStat && !forceDegradedTime then 0
      else statFlagSyncUncertain ||| statPmuTimeQualityUnknown
    .ok (frameWith v2ProtocolVersion messageTimeQualityUnknown frameTypePeriodicData
      endpoint.streamId timestamp (u16ToBeBytes stat ++
        sampledBody endpoint seed sampleIndex signalExcursion fun channel =>
          phunitScale (metadata.phunits.getD channel 0)))

end WireV2

end PmuSimulator

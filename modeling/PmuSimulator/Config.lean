import Mathlib
import PmuSimulator.Platform

/-!
# Compiled profiles

The data the running server has of its fleet: one descriptor for each endpoint, and the limits of
a connection's buffers.
-/

namespace PmuSimulator

/-- `MAX_LOGICAL_PMUS`. -/
def maxLogicalPmus : Nat := 150

def phasorCount : Nat := 6

def frequencyCount : Nat := 1

def rocofCount : Nat := 1

/-- `MAX_COMMAND_FRAME_BYTES`: four KiB. -/
def maxCommandFrameBytes : Nat := 4 * 1024

def v2ProtocolVersion : UInt8 := 2

def v3ProtocolVersion : UInt8 := 3

inductive WireVersion where
  | v2
  | v3
  deriving DecidableEq, Repr

def WireVersion.protocolVersion : WireVersion → UInt8
  | v2 => v2ProtocolVersion
  | v3 => v3ProtocolVersion

structure Limits where
  commandFrameBytes : Nat
  deriving DecidableEq, Repr

/-- The limits `validate_limits` admits. -/
def Limits.Admitted (limits : Limits) : Prop :=
  18 ≤ limits.commandFrameBytes ∧ limits.commandFrameBytes ≤ maxCommandFrameBytes

instance (limits : Limits) : Decidable limits.Admitted := inferInstanceAs (Decidable (_ ∧ _))

structure V2EndpointMetadata where
  stationName : List UInt8
  channelNames : List (List UInt8)
  phunits : List UInt32
  goodStat : Bool
  deriving DecidableEq, Repr

structure SignalRecipe where
  nominal : Float32
  variation : Float32

structure EndpointDescriptor where
  index : Nat
  port : UInt16
  streamId : UInt16
  pmuId : UInt16
  protocolVersion : UInt8
  wireVersion : WireVersion
  v2 : Option V2EndpointMetadata
  pdcName : List UInt8
  pmuName : List UInt8
  globalPmuId : List UInt8
  channelNames : List (List UInt8)
  timeBase : UInt32
  dataRateHz : UInt16
  nominalFrequencyHz : UInt16
  voltageMagnitude : Float32
  voltageVariation : Float32
  voltageClass : Float32
  voltageScale : Float32
  currentMagnitude : Float32
  currentVariation : Float32
  currentScale : Float32
  frequencyDeviation : SignalRecipe
  rocof : SignalRecipe

structure CompiledProfile where
  seed : UInt64
  limits : Limits
  endpoints : List EndpointDescriptor

end PmuSimulator

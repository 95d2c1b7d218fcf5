import Mathlib
import PmuSimulator.Wire.Frame

/-!
# Ticks and timestamps

The scheduler turns the monotonic clock into sample indices; the wall clock gives every sample index
a timestamp, and gives error responses the time they are made at.
-/

namespace PmuSimulator

def nanosPerSecond : Nat := 1000000000

def u32Max : Nat := 2 ^ 32 - 1

/-- `sample_offset`. -/
def sampleOffset (sampleIndex : Nat) (dataRateHz : UInt16) : Duration :=
  min (sampleIndex * nanosPerSecond / dataRateHz.toNat) u64Max

/-! ### The scheduler -/

structure Scheduler where
  started : Instant
  dataRateHz : UInt16
  nextSampleIndex : Nat
  deriving DecidableEq, Repr

namespace Scheduler

def new (dataRateHz : UInt16) (started : Instant) : Scheduler := ⟨started, dataRateHz, 0⟩

def timeout (scheduler : Scheduler) (now : Instant) : Duration :=
  scheduler.started + sampleOffset scheduler.nextSampleIndex scheduler.dataRateHz - now

/-- The sample index the monotonic clock has reached. -/
def currentIndex (scheduler : Scheduler) (now : Instant) : Nat :=
  min ((now - scheduler.started) * scheduler.dataRateHz.toNat / nanosPerSecond) u64Max

/-- `take_due`: the sample index that is due, with the number of ticks skipped before it. -/
def takeDue (scheduler : Scheduler) (now : Instant) : Option (Nat × Nat) × Scheduler :=
  let currentIndex := scheduler.currentIndex now
  if currentIndex < scheduler.nextSampleIndex then (none, scheduler)
  else
    (some (currentIndex, currentIndex - scheduler.nextSampleIndex),
      { scheduler with nextSampleIndex := min (currentIndex + 1) u64Max })

end Scheduler

/-! ### The wall clock -/

structure WallClock where
  firstTimestamp : Timestamp
  ticksPerFrame : Nat
  timeBase : Nat
  deriving DecidableEq, Repr

/-- `as u32`. -/
def truncateToU32 (n : Nat) : UInt32 := UInt32.ofNat (n % 2 ^ 32)

/-- `u32::saturating_add`. -/
def saturatingAddU32 (a b : UInt32) : UInt32 := UInt32.ofNat (min (a.toNat + b.toNat) u32Max)

/-- `timestamp_for_sample`: the sum of ticks is taken modulo the word size. -/
def WallClock.timestampForSample (clock : WallClock) (sampleIndex : Nat) : Timestamp :=
  let totalTicks :=
    (clock.firstTimestamp.fracsec.toNat + min (sampleIndex * clock.ticksPerFrame) u64Max) % 2 ^ 64
  { soc := saturatingAddU32 clock.firstTimestamp.soc (truncateToU32 (totalTicks / clock.timeBase))
    fracsec := truncateToU32 (totalTicks % clock.timeBase) }

/-- `aligned_timestamp`, for a positive number of ticks per frame. -/
def alignedTimestamp (now : Duration) (dataRateHz : UInt16) (timeBase : UInt32) :
    Except Failure Timestamp :=
  let ticksPerFrame := timeBase.toNat / dataRateHz.toNat
  let totalTicks := (min (now / nanosPerSecond * timeBase.toNat) u64Max +
    now % nanosPerSecond * timeBase.toNat / nanosPerSecond) % 2 ^ 64
  let nextTicks := min ((totalTicks / ticksPerFrame + 1) % 2 ^ 64 * ticksPerFrame) u64Max
  if ticksPerFrame = 0 then .error (.panic "attempt to divide by zero")
  else if nextTicks / timeBase.toNat > u32Max then
    .error (.server (.message "aligned C37.118 timestamp exceeds SOC range"))
  else
    .ok ⟨UInt32.ofNat (nextTicks / timeBase.toNat), truncateToU32 (nextTicks % timeBase.toNat)⟩

/-- `delay_until_timestamp`. -/
def delayUntilTimestamp (now : Duration) (timestamp : Timestamp) (timeBase : UInt32) : Duration :=
  let targetTicks := timestamp.soc.toNat * timeBase.toNat + timestamp.fracsec.toNat
  let targetNanos := (targetTicks * nanosPerSecond + timeBase.toNat - 1) / timeBase.toNat
  min (targetNanos - now) u64Max

/-- What either reading of the wall clock reports before the epoch. -/
def clockBeforeEpoch : Failure :=
  .server (.message
    "system clock is before Unix epoch: second time provided was later than self")

/-- `WallClock::aligned_start`, from one reading of each clock. -/
def WallClock.alignedStart (dataRateHz : UInt16) (timeBase : UInt32) (wallClock : SystemTime)
    (now : Instant) : Except Failure (WallClock × Instant) :=
  match wallClock.sinceEpoch with
  | none => .error clockBeforeEpoch
  | some sinceEpoch =>
    match alignedTimestamp sinceEpoch dataRateHz timeBase with
    | .error e => .error e
    | .ok firstTimestamp =>
      .ok (⟨firstTimestamp, timeBase.toNat / dataRateHz.toNat, timeBase.toNat⟩,
        now + delayUntilTimestamp sinceEpoch firstTimestamp timeBase)

/-! ### The time of an error response -/

/-- `response_timestamp`. -/
def responseTimestamp (timeBase : UInt32) (wallClock : SystemTime) : Except Failure Timestamp :=
  match wallClock.sinceEpoch with
  | none => .error clockBeforeEpoch
  | some sinceEpoch =>
    if sinceEpoch / nanosPerSecond > u32Max then
      .error (.server (.message "error-response timestamp exceeds SOC range"))
    else
      .ok ⟨UInt32.ofNat (sinceEpoch / nanosPerSecond),
        truncateToU32 (sinceEpoch % nanosPerSecond * timeBase.toNat / nanosPerSecond)⟩

end PmuSimulator

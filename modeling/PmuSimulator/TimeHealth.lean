import Mathlib
import PmuSimulator.Platform

/-!
# Time health

Whether the wall clock may be trusted at a reporting boundary: it must not be before the epoch, its
synchronization must be verified, and it must not have gone back by more than one interval.
-/

namespace PmuSimulator

inductive TimeSynchronizationSource where
  | alwaysVerified
  | unverified
  | file (path : String)
  deriving DecidableEq, Repr

def isAsciiWhitespace (c : Char) : Bool :=
  c = ' ' || c = '\t' || c = '\n' || c = '\r' || c = '\x0c'

namespace TimeSynchronizationSource

def fileContentsAreVerified (contents : String) : Bool :=
  ((contents.toList.dropWhile isAsciiWhitespace).reverse.dropWhile isAsciiWhitespace).reverse =
    "verified".toList

/-- `is_verified`; `contents` is what reading the file gives, `none` where it cannot be read. -/
def isVerified (contents : Option String) : TimeSynchronizationSource → Bool
  | alwaysVerified => true
  | unverified => false
  | file _ => contents.any fileContentsAreVerified

end TimeSynchronizationSource

inductive TimeHealthState where
  | unobserved
  | verified
  | synchronizationUnverified
  | materialClockRegression
  deriving DecidableEq, Repr

def TimeHealthState.isDegraded : TimeHealthState → Bool
  | verified => false
  | _ => true

structure TimeHealthMonitor where
  reportingInterval : Duration
  lastObservedWallClock : Option SystemTime
  deriving DecidableEq, Repr

namespace TimeHealthMonitor

def new (reportingInterval : Duration) : TimeHealthMonitor := ⟨reportingInterval, none⟩

def hasMaterialClockRegression (monitor : TimeHealthMonitor)
    (observedWallClock : SystemTime) : Bool :=
  match monitor.lastObservedWallClock with
  | none => false
  | some last =>
    if last ≤ observedWallClock then false
    else last - observedWallClock > (monitor.reportingInterval : Int)

def observeBoundary (monitor : TimeHealthMonitor) (observedWallClock : SystemTime)
    (synchronizationVerified : Bool) : TimeHealthState × TimeHealthMonitor :=
  let state :=
    if observedWallClock.sinceEpoch.isNone || !synchronizationVerified then
      TimeHealthState.synchronizationUnverified
    else if monitor.hasMaterialClockRegression observedWallClock then
      TimeHealthState.materialClockRegression
    else
      TimeHealthState.verified
  (state, { monitor with lastObservedWallClock := some observedWallClock })

end TimeHealthMonitor

end PmuSimulator

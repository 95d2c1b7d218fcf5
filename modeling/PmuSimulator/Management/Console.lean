import Mathlib
import PmuSimulator.Management.Request

/-!
# Console pages

A console reads the lifecycle records of the controller page by page. One offset runs through the
prepared, the pending and the active records, and the cursor of the next page carries it.
-/

namespace PmuSimulator

def consoleLifecycleRecordsPerPage : Nat := 48

/-- `management_console_lifecycle_page`: the records from an offset on, and the offset behind them
if there are more. -/
def managementConsoleLifecyclePage (snapshot : ScenarioControllerSnapshot) (offset : Nat) :
    Option (ManagementConsoleScenarioControllerState × Option Nat) := do
  let preparedCount := snapshot.prepared.length
  let pendingCount := snapshot.pending.length
  let activeCount := snapshot.active.length
  let totalCount ← checkedAdd (← checkedAdd preparedCount pendingCount) activeCount
  if offset > totalCount then none
  else
    let prepared := (snapshot.prepared.drop (min offset preparedCount)).take
      consoleLifecycleRecordsPerPage
    let remaining := consoleLifecycleRecordsPerPage - prepared.length
    let pendingOffset := min (offset - preparedCount) pendingCount
    let pending := (snapshot.pending.drop pendingOffset).take remaining
    let remaining := remaining - pending.length
    let activeOffset := min (offset - min (preparedCount + pendingCount) u64Max) activeCount
    let active := (snapshot.active.drop activeOffset).take remaining
    let next := offset + (prepared.length + pending.length + active.length)
    some
      ({ currentSampleIndex := snapshot.currentSampleIndex
         prepared, pending, active, preparedCount, pendingCount, activeCount },
        if next < totalCount then some next else none)

/-- `console_cursor`. -/
def consoleCursor (processIdentity : String) (controllerRevision offset : Nat) : String :=
  processIdentity ++ ":" ++ toString controllerRevision ++ ":" ++ toString offset

end PmuSimulator

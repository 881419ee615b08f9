import CyclicBus.Bus.ScriptedMaster
import CyclicBus.Controller
import CyclicBus.Report.ProcessData

/-!
# Trees of runs

What tools see of a run that has ended, apart from what depends on the speed of the machine.
-/

namespace CyclicBus

/-- How the counters of a run compare with its statistics and with each other. -/
instance : ToNode RunSummary where
  toNode s :=
    let c := s.counters
    .ofFields [
      field "reason" s.reason.message,
      field "ran" (c.cycles != 0),
      field "match" (c.cycles == s.statistics.cycles && c.overruns == s.statistics.overruns),
      field "degraded_all" (c.degradedCycles == c.cycles),
      field "degraded_none" (c.degradedCycles == 0),
      field "unavailable_all" (c.referenceUnavailable == c.cycles),
      field "unavailable_none" (c.referenceUnavailable == 0),
      field "health_changes" c.masterHealthChanges,
      field "period" s.statistics.period]

/-- What the calls of a master session show about a run. -/
structure JournalSummary where
  appTimes : List UInt64
  /-- The number of calls before the first frame is sent. -/
  firstSend : Option Nat
  /-- The number of calls before the first activation. -/
  firstActivation : Option Nat
  receives : Nat
  healthPolls : Nat
  deriving DecidableEq, Repr

/-- The application time that a call sets. -/
def MasterCall.appTime? : MasterCall → Option UInt64
  | setApplicationTime t => some t
  | _ => none

def JournalSummary.ofCalls (calls : List MasterCall) : JournalSummary where
  appTimes := calls.filterMap (·.appTime?)
  firstSend := calls.idxOf? .send
  firstActivation := calls.idxOf? .activate
  receives := calls.count .receive
  healthPolls := calls.count .masterHealth

instance : ToNode JournalSummary where
  toNode s := .ofFields [
    field "app_times" s.appTimes,
    field "first_send" s.firstSend,
    field "first_activate" s.firstActivation,
    field "receives" s.receives,
    field "health_polls" s.healthPolls]

end CyclicBus

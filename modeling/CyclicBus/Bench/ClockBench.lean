import CyclicBus.Bus.ScriptedMaster
import CyclicBus.Clock.Sync

/-!
# Clock synchronisation on a virtual clock

A clock synchronisation with a scripted master and a clock that moves only when it is told to.
-/

namespace CyclicBus.Bench

/-- The reading of a reference clock that the application time leads by `diff`. -/
def readingFor (appTime : UInt64) (diff : Int) : UInt32 := appTime.toUInt32 - .ofInt diff

/-- A clock synchronisation with its surroundings. -/
structure ClockBench where
  clock : ClockSync
  master : ScriptedMaster
  now : UInt64

namespace ClockBench

def sync (b : ClockBench) : SyncReport × ClockBench :=
  let (report, clock, master) := b.clock.sync b.now b.now b.master
  (report, { b with clock, master })

def update (b : ClockBench) : DriftUpdate × ClockBench :=
  let (update, clock) := b.clock.update
  (update, { b with clock })

/-- A whole cycle with a given difference. -/
def cycle (diff : Int) (b : ClockBench) : SyncReport × DriftUpdate × ClockBench :=
  let reading := readingFor b.clock.state.appTime diff
  let (report, b) :=
    { b with master.readings := b.master.readings ++ [Except.ok reading] : ClockBench }.sync
  let (update, b) := { b with now := b.now + b.clock.params.period : ClockBench }.update
  (report, update, b)

def clearJournal (b : ClockBench) : ClockBench := { b with master.journal := #[] }

/-- Cycles in a row with the same difference: the last filter step, or `last` without any cycle. -/
def cycles (diff : Int) (last : Option DriftUpdate) :
    Nat → ClockBench → Option DriftUpdate × ClockBench
  | 0, b => (last, b)
  | n + 1, b =>
    let (_, update, b) := b.cycle diff
    cycles diff (some update) n b.clearJournal

end ClockBench

end CyclicBus.Bench

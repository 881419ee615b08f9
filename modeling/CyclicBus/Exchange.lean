import CyclicBus.Clock.Sync
import CyclicBus.Config.Cycle
import CyclicBus.ProcessData.Store
import CyclicBus.Trace.Counters
import CyclicBus.Trace.Sink
import CyclicBus.Worker.Machine

/-!
# The exchange of a cycle

One cycle of a run against a master session, in a fixed order: receive, evaluate the domain, look at
the health, publish a snapshot, write the held outputs, queue the domain, synchronise the clocks,
send, and step the drift filter. Health and reference faults are reported at their edges: once when
they begin, and for the domain once when they end.

An `Exchange` owns the master session while it runs, and what it shares with its users: process
data, counters and trace.
-/

namespace CyclicBus

/-- What a cycle reads of its surroundings: the clock at four points, and whether the parts that it
shares with other threads are free. -/
structure Readings where
  snapshotClock : UInt64
  syncClock : UInt64
  /-- The clock as the master reads it for its reference clock. -/
  referenceClock : UInt64
  /-- The clock as the master reads it when it sends. -/
  sendClock : UInt64
  latestFree : Bool
  subscribersFree : Bool
  outputsFree : Bool
  deriving DecidableEq, Repr

namespace Readings

/-- A clock that stands still for the cycle, and nothing held by other threads. -/
def still (now : UInt64) : Readings := ⟨now, now, now, now, true, true, true⟩

/-- No part is held by another thread. -/
def Uncontended (r : Readings) : Prop :=
  r.latestFree = true ∧ r.subscribersFree = true ∧ r.outputsFree = true

/-- The clock stands still for the cycle. -/
def Steady (r : Readings) : Prop :=
  r.snapshotClock = r.syncClock ∧ r.referenceClock = r.syncClock ∧ r.sendClock = r.syncClock

end Readings

/-- What a run shares with its users. -/
structure Shared where
  topology : Topology
  data : ProcessData
  counters : RunCounters
  trace : Trace

def Shared.ofTopology (topology : Topology) (trace : Trace) : Shared :=
  ⟨topology, .ofTopology topology, .zero, trace⟩

/-- The state of a run between two cycles. -/
structure Exchange (M : Type) where
  master : M
  shared : Shared
  clock : ClockSync
  pollInterval : UInt32
  pollIn : UInt32
  degraded : Bool
  referenceLost : Bool
  polled : Option MasterHealth
  /-- The outputs written in each cycle, with the generation that they were copied at. -/
  held : OutputImage
  snapshot : Snapshot

namespace Exchange

variable {M : Type}

/-- The state before the first cycle: the current outputs are held, the clock is zero, and a poll is
due. -/
def start (master : M) (shared : Shared) (config : CycleConfig) : Exchange M where
  master
  shared
  clock := .ofParams config.driftParams
  pollInterval := config.pollInterval
  pollIn := 0
  degraded := false
  referenceLost := false
  polled := none
  held := shared.data.image
  snapshot := .ofTopology shared.topology

def emit (e : CycleEvent) (x : Exchange M) : Exchange M :=
  { x with shared.trace := x.shared.trace.emitCycle e }

def count (f : RunCounters → RunCounters) (x : Exchange M) : Exchange M :=
  { x with shared.counters := f x.shared.counters }

/-- Take note of the domain's health: count a degraded cycle, report where the status changes. -/
def noteDomain (cycle : UInt64) (health : DomainHealth) (x : Exchange M) : Exchange M :=
  if health.isDegraded then
    let x := x.count .countDegraded
    if x.degraded then x
    else { x with degraded := true }.emit
      (.domainDegraded cycle health.workingCounter health.expected)
  else if x.degraded then
    { x with degraded := false }.emit (.domainRecovered cycle health.workingCounter)
  else x

/-- Take note of the master's health at a poll: report it where it differs from the last poll. -/
def noteMaster (cycle : UInt64) (health : MasterHealth) (x : Exchange M) : Exchange M :=
  if x.polled = some health then x
  else ({ x with polled := some health }.count .countHealthChange).emit
    (.masterHealthChanged cycle health.slaves health.alStates health.linkUp)

def countDown (x : Exchange M) : Exchange M := { x with pollIn := .ofNat (x.pollIn.toNat - 1) }

/-- Look at the domain's health, and at the master's where a poll is due. -/
def checkHealth [MasterSession M] (cycle : UInt64) (x : Exchange M) : Exchange M :=
  let (health, master) := MasterSession.domainHealth x.master
  let x : Exchange M := noteDomain cycle health { x with master }
  if x.pollIn = 0 then
    let (health, master) := MasterSession.masterHealth x.master
    (noteMaster cycle health { x with master, pollIn := x.pollInterval }).countDown
  else x.countDown

def publish [MasterSession M] (cycle : UInt64) (r : Readings) (x : Exchange M) : Exchange M :=
  let snapshot := x.snapshot.capture x.shared.topology (MasterSession.domain x.master) cycle
    (x.clock.timeAt r.snapshotClock)
  let x :=
    { x with
      snapshot
      shared.data := x.shared.data.publish snapshot r.latestFree r.subscribersFree }
  if r.latestFree then x else x.emit (.snapshotDropped cycle)

/-- A domain with the held outputs of every device whose range fits, in index order. -/
def writeOutputs (t : Topology) (held : List (List UInt8)) (domain : List UInt8) : List UInt8 :=
  held.zipIdx.foldl (fun domain h => (t.putOutput? h.2 h.1 domain).getD domain) domain

/-- Bring the held outputs up to date and write them. -/
def applyOutputs [MasterSession M] (r : Readings) (x : Exchange M) : Exchange M :=
  let held := if r.outputsFree then x.shared.data.image.refresh x.held else x.held
  { x with
    held
    master := MasterSession.setDomain
      (writeOutputs x.shared.topology held.devices (MasterSession.domain x.master)) x.master }

/-- Take note of a synchronisation: anomalies each time, a lost reference clock at its edge. -/
def noteSync (cycle : UInt64) (report : SyncReport) (x : Exchange M) : Exchange M :=
  let x :=
    match report.anomaly with
    | some anomaly =>
      (x.count .countClockAnomaly).emit
        (.clockBackwardJump cycle anomaly.hardware anomaly.timeBase)
    | none => x
  if report.referenceUnavailable then
    let x := x.count .countReferenceUnavailable
    if x.referenceLost then x
    else { x with referenceLost := true }.emit (.referenceUnavailable cycle)
  else { x with referenceLost := false }

/-- Take note of a filter step: its start, and every clamped adjustment. -/
def noteDrift (cycle : UInt64) (update : DriftUpdate) (x : Exchange M) : Exchange M :=
  match update with
  | .armed firstDiff appTime => x.emit (.driftArmed cycle appTime firstDiff)
  | .adjusted adjustment true =>
    (x.count .countSaturation).emit (.driftSaturated cycle adjustment x.clock.params.clamp)
  | _ => x

def syncClocks [MasterSession M] (cycle : UInt64) (r : Readings) (x : Exchange M) : Exchange M :=
  let (report, clock, master) := x.clock.sync r.syncClock r.referenceClock x.master
  noteSync cycle report { x with clock, master }

def stepDrift (cycle : UInt64) (x : Exchange M) : Exchange M :=
  let (update, clock) := x.clock.update
  noteDrift cycle update { x with clock }

/-- A call of the master session that answers nothing. -/
def call (f : M → M) (x : Exchange M) : Exchange M := { x with master := f x.master }

def execute [MasterSession M] (cycle : UInt64) (r : Readings) (x : Exchange M) : Exchange M :=
  let x := x.call MasterSession.receive
  let x := x.call MasterSession.processDomain
  let x := x.checkHealth cycle
  let x := x.publish cycle r
  let x := x.applyOutputs r
  let x := x.call MasterSession.queueDomain
  let x := x.syncClocks cycle r
  let x := x.call (MasterSession.send r.sendClock)
  let x := x.stepDrift cycle
  x.count .countCycle

/-- Take note of a cycle that took longer than its period. -/
def noteOverrun (context : CycleContext) (exec : UInt64) (x : Exchange M) : Exchange M :=
  (x.count .countOverrun).emit (.deadlineOverrun context.cycle exec context.period)

def noteWindow (context : CycleContext) (w : Statistics.Window) (x : Exchange M) : Exchange M :=
  x.emit (.timingWindow context.cycle w.exec.samples w.period.greatest w.exec.greatest
    w.latency.greatest w.overruns)

instance [MasterSession M] : CycleBody (Exchange M) Readings where
  runCycle context r x := x.execute context.cycle r
  onOverrun := noteOverrun
  onWindow := noteWindow

end Exchange

end CyclicBus

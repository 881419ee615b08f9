import CyclicBus.Exchange
import CyclicBus.Fault.Engine
import CyclicBus.Worker.Handshake

/-!
# Controller

The life cycle of runs over one master session: idle, running, stopping, idle again. While idle the
controller holds the session; `start` hands it to a worker, `stop` takes it back. Only a worker that
panicked takes the session with it.

Calls are pure steps. What the operating system answers is an argument: the grants of the host where
a worker is launched, and the answers to the last steps of a worker where it is joined.
-/

namespace CyclicBus

/-- The life cycle as seen from outside. -/
inductive RunState where
  | idle
  | running
  | stopping
  deriving DecidableEq, Repr

def RunState.name : RunState → String
  | idle => "Idle"
  | running => "Running"
  | stopping => "Stopping"

/-- Where the master session and the shared data are. -/
inductive Holding (M : Type) where
  /-- With the controller; a session that was lost is missing. -/
  | idle (master : Option M) (shared : Shared)
  /-- With a worker that was not joined yet. -/
  | running (worker : Worker (Exchange M))

/-- What a finished run leaves. -/
structure RunSummary where
  statistics : Statistics
  reason : Worker.ExitReason
  counters : RunCounters

/-- A controller of runs. -/
structure Controller (M : Type) where
  state : RunState
  holding : Holding M
  log : Array LogRecord

namespace Controller

variable {M : Type}

/-! ## Views -/

def ofMaster (master : M) (topology : Topology) (trace : Trace) : Controller M :=
  ⟨.idle, .idle (some master) (.ofTopology topology trace), #[]⟩

/-- The worker, if one was not joined yet. -/
def worker? (c : Controller M) : Option (Worker (Exchange M)) :=
  match c.holding with
  | .idle _ _ => none
  | .running w => some w

/-- The session, while the controller holds it. -/
def master? (c : Controller M) : Option M :=
  match c.holding with
  | .idle master _ => master
  | .running _ => none

/-- What runs share with the users of the controller. -/
def shared (c : Controller M) : Shared :=
  match c.holding with
  | .idle _ shared => shared
  | .running w => w.body.shared

def isRunning (c : Controller M) : Bool := c.worker?.any fun w => !w.finished

def cyclesCompleted (c : Controller M) : UInt64 := (c.worker?.map (·.completed)).getD 0

def label (c : Controller M) : String :=
  let worker :=
    match c.worker? with
    | some w => "Some(" ++ w.label ++ ")"
    | none => "None"
  "CommunicatorController \x7b " ++
    s!"state: {c.state.name}, has_master: {c.master?.isSome}, worker: {worker}, " ++
    s!"devices: {c.shared.topology.size}" ++
    " \x7d"

/-! ## Changes from outside -/

def note (record : LogRecord) (c : Controller M) : Controller M :=
  { c with log := c.log.push record }

/-- Change what is shared, wherever it is. -/
def mapShared (f : Shared → Shared) (c : Controller M) : Controller M :=
  match c.holding with
  | .idle master shared => { c with holding := .idle master (f shared) }
  | .running w => { c with holding := .running { w with body.shared := f w.body.shared } }

/-- Change the session, wherever it is. -/
def mapMaster (f : M → M) (c : Controller M) : Controller M :=
  match c.holding with
  | .idle master shared => { c with holding := .idle (master.map f) shared }
  | .running w => { c with holding := .running { w with body.master := f w.body.master } }

def emit (e : LifecycleEvent) (c : Controller M) : Controller M :=
  c.mapShared fun s => { s with trace := s.trace.emitLifecycle e }

def command (device : Nat) (bytes : List UInt8) (c : Controller M) :
    Except Violation Unit × Controller M :=
  let outcome := c.shared.data.checkCommand device bytes
  (outcome, c.mapShared fun s => { s with data := (s.data.command device bytes).2 })

/-- One step of the worker, if there is one. -/
def stepWorker [MasterSession M] (answer : Worker.Answer Readings) (c : Controller M) :
    Controller M :=
  match c.holding with
  | .idle _ _ => c
  | .running w => { c with holding := .running (w.step answer) }

/-! ## Stopping -/

/-- Take back what a joined worker owned: outputs go to zero, the session is deactivated and held
again; a panicked worker gives no session back. -/
def settle [MasterSession M] (w : Worker (Exchange M)) (c : Controller M) :
    Except EngineFault RunSummary × Controller M :=
  let shared := { w.body.shared with data := w.body.shared.data.zeroOutputs }
  match w.join? with
  | .ok exit =>
    let c : Controller M :=
      { c with
        state := .idle
        holding := .idle (some (MasterSession.deactivate exit.body.master)) shared }
    let c := c.note ⟨.info, "Communicator stopped",
      [("cycles", .number exit.statistics.cycles.toNat),
        ("overruns", .number exit.statistics.overruns.toNat),
        ("reason", .text exit.reason.message)]⟩
    (.ok ⟨exit.statistics, exit.reason, shared.counters⟩,
      c.emit (.stopped exit.statistics.cycles exit.reason.message))
  | .error fault =>
    let c : Controller M := { c with state := .idle, holding := .idle none shared }
    let c := c.note ⟨.error, "Cycle worker did not exit cleanly",
      [("error", .text fault.message)]⟩
    (.error (.lifecycle .workerPanicked), c.emit .workerPanicked)

/-- End a run: raise the stop flag, let the worker finish, and take back what it owned. Without a
worker nothing happens. -/
def stop [MasterSession M] (answer : Nat → Worker.Answer Readings) (c : Controller M) :
    Except EngineFault (Option RunSummary) × Controller M :=
  match c.holding with
  | .idle _ _ => (.ok none, { c with state := .idle })
  | .running w =>
    let (outcome, c) := settle (w.requestStop.drain answer) { c with state := .stopping }
    (outcome.map some, c)

/-- Stop a worker that has ended by itself. -/
def reap [MasterSession M] (answer : Nat → Worker.Answer Readings) (c : Controller M) :
    Controller M :=
  if c.worker?.any (·.finished) then
    let c := c.note ⟨.debug, "Reaping finished cycle worker", []⟩
    match c.stop answer with
    | (.ok _, c) => c
    | (.error fault, c) =>
      c.note ⟨.warn, "Finished worker could not be reaped cleanly",
        [("error", .text fault.message)]⟩
  else c

/-- Give up a controller: a worker that is left is stopped. -/
def close [MasterSession M] (answer : Nat → Worker.Answer Readings) (c : Controller M) :
    Controller M :=
  match c.holding with
  | .idle _ _ => c
  | .running _ =>
    match c.stop answer with
    | (.ok _, c) => c
    | (.error fault, c) =>
      c.note ⟨.warn, "Communicator dropped with a failed worker",
        [("error", .text fault.message)]⟩

/-! ## Starting -/

/-- Hand an active session with a large enough domain to a new worker. -/
def launch [MasterSession M] (host : Host) (config : CycleConfig) (worker : Worker.Config)
    (master : M) (shared : Shared) (c : Controller M) : Except EngineFault Unit × Controller M :=
  let shared := { shared with counters := .zero }
  match Worker.launch host worker (Exchange.start master shared config) with
  | .ok w =>
    let c : Controller M := { c with state := .running, holding := .running w }
    let devices := shared.topology.size
    let c := c.note ⟨.info, "Communicator started",
      [("period_ns", .number config.period.toNat), ("policy", .text config.policy.label),
        ("devices", .number devices)]⟩
    (.ok (), c.emit (.started config.period config.policy.label devices))
  | .error refused =>
    let c : Controller M :=
      match refused.body with
      | some x =>
        { c with holding := .idle (some (MasterSession.deactivate x.master)) x.shared }
      | none => { c with holding := .idle none shared }
    let c := c.note ⟨.error, "Cycle worker launch failed",
      [("error", .text refused.fault.message)]⟩
    (.error (.worker refused.fault), c.emit (.setupRejected refused.fault.message))

/-- Start an active session, if its domain is large enough. -/
def startActive [MasterSession M] (host : Host) (config : CycleConfig) (worker : Worker.Config)
    (master : M) (shared : Shared) (c : Controller M) : Except EngineFault Unit × Controller M :=
  let required := shared.topology.requiredSize.toNat
  let actual := (MasterSession.domain master).length
  if actual < required then
    (.error (.lifecycle (.domainTooSmall required actual)),
      { c with holding := .idle (some (MasterSession.deactivate master)) shared })
  else launch host config worker master shared c

/-- Start a session: choose the reference clock, then activate. -/
def startSession [MasterSession M] (host : Host) (config : CycleConfig) (worker : Worker.Config)
    (master : M) (shared : Shared) (c : Controller M) : Except EngineFault Unit × Controller M :=
  match MasterSession.selectReference config.referenceDevice master with
  | (.error fault, master) =>
    let c : Controller M := { c with holding := .idle (some master) shared }
    (.error (.lifecycle (.referenceClockRejected config.referenceDevice.toNat)),
      c.note ⟨.warn, "Reference clock rejected",
        [("device", .number config.referenceDevice.toNat), ("error", .text fault.message)]⟩)
  | (.ok (), master) =>
    match MasterSession.activate master with
    | (.error fault, master) =>
      let c : Controller M := { c with holding := .idle (some master) shared }
      let c := c.note ⟨.error, "Master activation failed", [("error", .text fault.message)]⟩
      (.error (.lifecycle (.activationFailed fault.message)),
        c.emit (.activationFailed fault.message))
    | (.ok (), master) =>
      startActive host config worker master shared
        { c with log := c.log ++ MasterSession.activationRecords master }

/-- Start an idle controller: check the configuration, then take the session. -/
def startIdle [MasterSession M] (host : Host) (config : CycleConfig) (master : Option M)
    (shared : Shared) (c : Controller M) : Except EngineFault Unit × Controller M :=
  match config.validateWith shared.topology with
  | .error violation => (.error (.validation violation), c)
  | .ok () =>
    match config.workerConfig.configure with
    | .error fault => (.error (.worker fault), c)
    | .ok worker =>
      match master with
      | none => (.error (.lifecycle .masterUnavailable), c)
      | some master => startSession host config worker master shared c

/-- Start a run. A worker that has ended is stopped first; one that is alive refuses the start. -/
def start [MasterSession M] (host : Host) (answer : Nat → Worker.Answer Readings)
    (config : CycleConfig) (c : Controller M) : Except EngineFault Unit × Controller M :=
  let c := c.reap answer
  match c.state, c.holding with
  | .idle, .idle master shared => startIdle host config master shared c
  | _, _ => (.error (.lifecycle .alreadyRunning), c)

end Controller

end CyclicBus

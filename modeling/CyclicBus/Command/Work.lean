import CyclicBus.Bus.SimulatedMaster
import CyclicBus.Command.Arguments
import CyclicBus.Command.Failure
import CyclicBus.Config.Encode
import CyclicBus.Config.Source
import CyclicBus.Controller
import CyclicBus.Decimal.Fixed
import CyclicBus.Yaml.Layout

/-!
# The work of commands

What each command makes of its arguments and of the file it reads. `Command.plan` ends a command at
once or prepares a run; the cycles of a run are driven from outside, and `PreparedRun.outcome`
reports its end.
-/

namespace CyclicBus

/-- What a command leaves: an exit code, lines for its reader, and a complaint. -/
structure Outcome where
  exit : UInt8
  out : List String
  complaint : Option String
  deriving DecidableEq, Repr

namespace Outcome

def ofLines (out : List String) : Outcome := ⟨0, out, none⟩

def ofFailure (f : CommandFailure) : Outcome := ⟨f.fault.exitCode, [], some f.report⟩

/-- Arguments that cannot be used. -/
def ofUsage (f : Invocation.UsageFault) : Outcome := ⟨2, [], some ("error: " ++ f.text)⟩

end Outcome

structure PreparedRun where
  cycle : CycleConfig
  controller : Controller SimulatedMaster

/-- What is left to do for a command. -/
inductive Plan where
  | finished (outcome : Outcome)
  | run (run : PreparedRun)

namespace RunOptions

/-- The cycle section of a run: what the command line says goes first. -/
def override (o : RunOptions) (c : CycleConfig) : CycleConfig :=
  let c := if o.durationMs.isSome then { c with runDuration := o.durationMs } else c
  if o.unprivileged then c.withoutPrivileges else c

/-- Prepare a run on a simulated bus. It must have an end. -/
def prepare (o : RunOptions) (document : Document) (topology : Topology) :
    Except CommandFailure PreparedRun := do
  let cycle := o.override document.cycle
  let some duration := cycle.runDuration | throw (.ofFault .unboundedRun)
  let master := SimulatedMaster.ofDomainSize topology (document.effectiveSize topology).toNat
    o.referenceOffset o.drift
  let sink ← document.sink.mapError fun violation => .ofFault (.invalidConfiguration violation)
  let controller : Controller SimulatedMaster := .ofMaster master topology (.ofSink sink)
  return ⟨cycle, controller.note ⟨.info, "Starting simulated run",
    [("period_ns", .number cycle.period.toNat), ("duration_ms", .number duration.toNat)]⟩⟩

end RunOptions

namespace RunSummary

def report (s : RunSummary) : List String :=
  ["Run ended: " ++ s.reason.message, s.statistics.report, s.counters.report] ++
    if 0 < s.counters.cycles then
      ["degraded rate: " ++ Decimal.decimal 4 s.counters.degradedRate]
    else []

end RunSummary

/-- What is left of a run after it was started and stopped. -/
def PreparedRun.outcome : Except EngineFault (Option RunSummary) → Outcome
  | .ok none => .ofLines []
  | .ok (some summary) => .ofLines summary.report
  | .error fault => .ofFailure (.ofFault (.engine fault))

namespace Command

def path? : Command → Option String
  | run path _ => some path
  | validate path => some path
  | defaults => none

/-- A document that was checked, with its topology. -/
def load (path : String) (file : Except SystemFault ByteArray) :
    Except CommandFailure (Document × Topology) := do
  let document ← (Document.load path file).mapError fun fault => .ofFault (.engine fault)
  let topology ← document.validate.mapError fun violation =>
    ⟨some ("validating " ++ path), .invalidConfiguration violation⟩
  return (document, topology)

def validated (path : String) (document : Document) (topology : Topology) : String :=
  path ++ s!": ok ({topology.size} devices, domain {document.effectiveSize topology} bytes, " ++
    s!"period {document.cycle.period} ns, policy {document.cycle.policy.label})"

/-- What is left to do for a command, given the file that it reads. -/
def plan (file : Except SystemFault ByteArray) : Command → Plan
  | defaults => .finished (.ofLines (toNode CycleConfig.standard).lines)
  | validate path =>
    match load path file with
    | .ok (document, topology) => .finished (.ofLines [validated path document topology])
    | .error f => .finished (.ofFailure f)
  | run path options =>
    match load path file >>= fun (document, topology) => options.prepare document topology with
    | .ok prepared => .run prepared
    | .error f => .finished (.ofFailure f)

end Command

end CyclicBus

import CyclicBus.Trace.Event

/-!
# Log records

A record has a level, a message and named fields. `ofCycleEvent` and `ofLifecycleEvent` are the
records that a log sink writes.
-/

namespace CyclicBus

/-- The weight of a log record. -/
inductive LogRecord.Level where
  | error
  | warn
  | info
  | debug
  deriving DecidableEq, Repr

/-- The value of a field. -/
inductive LogRecord.Field where
  | number (n : Int)
  | flag (b : Bool)
  | text (s : String)
  deriving DecidableEq, Repr

/-- A line of log. -/
structure LogRecord where
  level : LogRecord.Level
  message : String
  fields : List (String × LogRecord.Field)
  deriving DecidableEq, Repr

namespace LogRecord

def Level.name : Level → String
  | error => "ERROR"
  | warn => "WARN"
  | info => "INFO"
  | debug => "DEBUG"

/-- Whether records of a level are shown: warnings always, and each further level for one more
verbosity. -/
def Level.isShown (verbosity : Nat) : Level → Bool
  | error => true
  | warn => true
  | info => 1 ≤ verbosity
  | debug => 2 ≤ verbosity

def Field.shown : Field → String
  | number n => toString n
  | flag b => toString b
  | text s => s

/-- A record in one line: level, message, fields. -/
def line (r : LogRecord) : String :=
  " ".intercalate (r.level.name :: r.message :: r.fields.map fun (name, value) =>
    name ++ "=" ++ value.shown)

/-- The lines of the records that are shown. -/
def shownLines (verbosity : Nat) (records : List LogRecord) : List String :=
  (records.filter fun r => r.level.isShown verbosity).map (·.line)

def word (n : UInt64) : Field := .number n.toNat

def ofCycleEvent : CycleEvent → LogRecord
  | .domainDegraded cycle workingCounter expected =>
    ⟨.warn, "Domain degraded",
      [("cycle", word cycle), ("working_counter", .number workingCounter.toNat),
        ("expected", .number expected.toNat)]⟩
  | .domainRecovered cycle workingCounter =>
    ⟨.info, "Domain recovered",
      [("cycle", word cycle), ("working_counter", .number workingCounter.toNat)]⟩
  | .masterHealthChanged cycle slaves alStates linkUp =>
    ⟨.info, "Master state changed",
      [("cycle", word cycle), ("slaves_responding", .number slaves.toNat),
        ("al_states", .number alStates.toNat), ("link_up", .flag linkUp)]⟩
  | .clockBackwardJump cycle hardware timeBase =>
    ⟨.warn, "Clock moved behind time base, using unadjusted time",
      [("cycle", word cycle), ("hardware_ns", word hardware),
        ("time_base_ns", .number timeBase.toInt)]⟩
  | .driftArmed cycle appTime firstDiff =>
    ⟨.info, "Drift filter armed",
      [("cycle", word cycle), ("app_time_ns", word appTime),
        ("first_diff_ns", .number firstDiff.toInt)]⟩
  | .driftSaturated cycle adjustment clamp =>
    ⟨.warn, "Drift adjustment clamped",
      [("cycle", word cycle), ("adjustment_ns", .number adjustment.toInt),
        ("clamp_ns", .number clamp.toInt)]⟩
  | .referenceUnavailable cycle =>
    ⟨.warn, "Reference clock read failed, drift update skipped", [("cycle", word cycle)]⟩
  | .deadlineOverrun cycle exec period =>
    ⟨.warn, "Cycle overran its period",
      [("cycle", word cycle), ("exec_ns", word exec), ("period_ns", word period)]⟩
  | .snapshotDropped cycle => ⟨.debug, "Snapshot dropped on contention", [("cycle", word cycle)]⟩
  | .timingWindow cycle cycles periodMax execMax latencyMax overruns =>
    ⟨.debug, "Cycle timing window",
      [("cycle", word cycle), ("cycles", word cycles), ("period_max_ns", word periodMax),
        ("exec_max_ns", word execMax), ("latency_max_ns", word latencyMax),
        ("overruns", word overruns)]⟩

def ofLifecycleEvent : LifecycleEvent → LogRecord
  | .started period policy devices =>
    ⟨.info, "Cyclic task started",
      [("period_ns", word period), ("policy", .text policy), ("devices", .number devices)]⟩
  | .stopped cycles reason =>
    ⟨.info, "Cyclic task stopped", [("cycles", word cycles), ("reason", .text reason)]⟩
  | .activationFailed reason => ⟨.error, "Master activation failed", [("reason", .text reason)]⟩
  | .setupRejected reason => ⟨.error, "Real-time setup rejected", [("reason", .text reason)]⟩
  | .workerPanicked => ⟨.error, "Cycle worker panicked", []⟩

/-- The record of a log sink that is put to use. -/
def sinkInUse : LogRecord := ⟨.debug, "Using structured-log observability sink", []⟩

end LogRecord

end CyclicBus

import CyclicBus.Bus.MasterSession
import CyclicBus.Clock.Rounding

/-!
# Clock synchronisation

The application clock is the hardware clock minus a time base. Where the master follows the
reference clock, a filter steers the time base: each cycle takes the difference between the
application time of the last cycle and the reference reading; after a window of such samples the
adjustment moves by the mean change of the difference and by the sign of its mean, within a clamp;
and every cycle moves the time base by the adjustment and by the sign of its own difference.

`observe` is what one synchronisation does to the clock, given what was read; `update` is the filter
step. Both are total and read nothing else.
-/

namespace CyclicBus

/-- Which clock follows which. -/
inductive SyncMode where
  | masterFollowsReference
  | referenceFollowsMaster
  deriving DecidableEq, Repr, Inhabited

/-- Parameters of the drift filter (nanoseconds). -/
structure DriftParams where
  period : UInt64
  window : UInt32
  clamp : Int64
  mode : SyncMode
  deriving DecidableEq, Repr

/-- The state of clock and filter (nanoseconds). `prevRawDiff` is the difference that the filter used
last, `adjustment` the change of the time base in each cycle. -/
structure ClockState where
  appTime : UInt64
  /-- What the application clock lags the hardware clock. -/
  timeBase : Int64
  rawDiff : Int32
  prevRawDiff : Int32
  diffTotal : Int64
  deltaTotal : Int64
  filterIndex : UInt32
  adjustment : Int64
  started : Bool
  startAppTime : UInt64
  deriving DecidableEq, Repr

/-- A hardware clock that lies behind the time base. -/
structure ClockAnomaly where
  hardware : UInt64
  timeBase : Int64
  deriving DecidableEq, Repr

structure SyncReport where
  appTime : UInt64
  anomaly : Option ClockAnomaly
  referenceUnavailable : Bool
  deriving DecidableEq, Repr

/-- What a filter step did. -/
inductive DriftUpdate where
  | inactive
  | skipped
  | unarmed
  | armed (firstDiff : Int64) (appTime : UInt64)
  | tracking
  | adjusted (adjustment : Int64) (saturated : Bool)
  deriving DecidableEq, Repr

/-- A synchronised clock. `fresh` tells that a difference was read and not used yet. -/
structure ClockSync where
  params : DriftParams
  state : ClockState
  fresh : Bool
  deriving DecidableEq, Repr

namespace ClockState

def zero : ClockState := ⟨0, 0, 0, 0, 0, 0, 0, 0, false, 0⟩

end ClockState

namespace ClockSync

def ofParams (params : DriftParams) : ClockSync := ⟨params, .zero, false⟩

/-- Forget everything but the parameters. -/
def reset (c : ClockSync) : ClockSync := .ofParams c.params

/-- Hardware time minus time base, held at the largest word; an anomaly if the time base is ahead of
the hardware clock. -/
def applicationTime (c : ClockSync) (hardware : UInt64) : Except ClockAnomaly UInt64 :=
  let base := c.state.timeBase.toInt
  if (hardware.toNat : Int) < base then .error ⟨hardware, c.state.timeBase⟩
  else .ok (.ofNatClamp (hardware.toNat - base).toNat)

/-- The application time, or the plain hardware time where there is an anomaly. -/
def timeAt (c : ClockSync) (hardware : UInt64) : UInt64 :=
  match c.applicationTime hardware with
  | .ok appTime => appTime
  | .error anomaly => anomaly.hardware

def anomalyAt (c : ClockSync) (hardware : UInt64) : Option ClockAnomaly :=
  match c.applicationTime hardware with
  | .ok _ => none
  | .error anomaly => some anomaly

/-- The clock after a synchronisation that read the hardware clock and, where the master follows the
reference, a reference reading or none. -/
def observe (c : ClockSync) (hardware : UInt64) (reading : Option UInt32) : ClockSync :=
  match c.params.mode, reading with
  | .masterFollowsReference, some reference =>
    { c with
      state :=
        { c.state with
          appTime := c.timeAt hardware
          rawDiff := Clock.lowDiff c.state.appTime reference }
      fresh := true }
  | .masterFollowsReference, none =>
    { c with state := { c.state with appTime := c.timeAt hardware }, fresh := false }
  | .referenceFollowsMaster, _ =>
    { c with state := { c.state with appTime := c.timeAt hardware } }

/-- Synchronise with a master. `hardware` is the clock as read for the application time, `now` as
read by the master for its reference clock. -/
def sync {M : Type} [MasterSession M] (hardware now : UInt64) (c : ClockSync) (master : M) :
    SyncReport × ClockSync × M :=
  let appTime := c.timeAt hardware
  let anomaly := c.anomalyAt hardware
  let master := MasterSession.setApplicationTime appTime master
  match c.params.mode with
  | .masterFollowsReference =>
    let (reading, master) := MasterSession.referenceTime now master
    let reading := reading.toOption
    (⟨appTime, anomaly, reading.isNone⟩, c.observe hardware reading,
      MasterSession.syncSlaves master)
  | .referenceFollowsMaster =>
    (⟨appTime, anomaly, false⟩, c.observe hardware none,
      MasterSession.syncSlaves (MasterSession.syncReference master))

/-- A number brought within a clamp on both sides. -/
def clampTo (clamp x : Int64) : Int64 := max (-clamp) (min clamp x)

def accumulate (s : ClockState) (diff delta : Int64) : ClockState :=
  { s with
    diffTotal := s.diffTotal.satAdd diff
    deltaTotal := s.deltaTotal.satAdd delta
    filterIndex := .ofNatClamp (s.filterIndex.toNat + 1) }

/-- Move the time base by the adjustment and by the sign of the difference. -/
def slew (s : ClockState) (diff : Int64) : ClockState :=
  { s with timeBase := s.timeBase.satAdd (s.adjustment.satAdd (Clock.sign diff)) }

/-- The number of samples in a window as a word, and at least one. -/
def divisor (p : DriftParams) : Int64 := max (.ofNat p.window.toNat) 1

section Steps

/-! The steps of the filter, with the division that the mean change is rounded by. -/

variable (div : Int64 → Int64 → Int64)

/-- The adjustment that the end of a window asks for, before the clamp. -/
def unclampedBy (p : DriftParams) (s : ClockState) : Int64 :=
  (s.adjustment.satAdd (div s.deltaTotal (divisor p))).satAdd
    (Clock.sign (s.diffTotal / divisor p))

/-- The end of a window: the adjustment moves, and the totals start again. -/
def closeWindowBy (p : DriftParams) (s : ClockState) : ClockState :=
  { s with
    adjustment := clampTo p.clamp.abs (unclampedBy div p s)
    diffTotal := 0
    deltaTotal := 0
    filterIndex := 0 }

/-- The filter step on a fresh difference. -/
def filterBy (p : DriftParams) (s : ClockState) : DriftUpdate × ClockState :=
  let raw := s.rawDiff.toInt64
  let delta := raw - s.prevRawDiff.toInt64
  let diff := Clock.centred raw p.period
  let s := { s with prevRawDiff := s.rawDiff }
  if !s.started then
    if diff = 0 then (.unarmed, s)
    else (.armed diff s.appTime, { s with started := true, startAppTime := s.appTime })
  else
    let s := accumulate s diff delta
    if p.window ≤ s.filterIndex then
      let closed := closeWindowBy div p s
      (.adjusted closed.adjustment (closed.adjustment ≠ unclampedBy div p s), slew closed diff)
    else (.tracking, slew s diff)

/-- The filter step: a difference is used once. -/
def updateBy (c : ClockSync) : DriftUpdate × ClockSync :=
  match c.params.mode with
  | .referenceFollowsMaster => (.inactive, c)
  | .masterFollowsReference =>
    if !c.fresh then (.skipped, c)
    else
      let (done, state) := filterBy div c.params c.state
      (done, { c with state, fresh := false })

end Steps

/-! A clock rounds to the nearest. -/

def unclamped (p : DriftParams) (s : ClockState) : Int64 := unclampedBy Clock.roundDiv p s

def closeWindow (p : DriftParams) (s : ClockState) : ClockState := closeWindowBy Clock.roundDiv p s

def filter (p : DriftParams) (s : ClockState) : DriftUpdate × ClockState :=
  filterBy Clock.roundDiv p s

def update (c : ClockSync) : DriftUpdate × ClockSync := c.updateBy Clock.roundDiv

end ClockSync

end CyclicBus

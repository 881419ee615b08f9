import CyclicBus.Bus.ScriptedMaster
import CyclicBus.Proofs.Config.Validated
import CyclicBus.Proofs.Exchange.PlainCycle

/-!
# The calls of a cycle

A cycle makes the calls of one word, `cycleWord`. Whether it polls the master's health is seen from
its number alone: the number and the count-down to the next poll add up to a multiple of the poll
interval. `Cycling` keeps that, and `calls_turns` reads off what any number of cycles write into a
journal, whatever is scripted and commanded between them.
-/

namespace CyclicBus

/-- The calls of a cycle that synchronises at `appTime`, with or without a poll. -/
def cycleWord (mode : SyncMode) (polls : Bool) (appTime : UInt64) : List MasterCall :=
  [.receive, .processDomain, .domainHealth] ++ (if polls then [.masterHealth] else []) ++
    [.queueDomain, .setApplicationTime appTime,
      match mode with
      | .masterFollowsReference => .referenceClockTime
      | .referenceFollowsMaster => .syncReferenceClock,
      .syncSlaveClocks, .send]

namespace CycleConfig

/-- The calls of the first cycles, with the times at which they synchronise: number `k` polls if `k`
is a multiple of the poll interval. -/
def cycleWords (config : CycleConfig) (times : List UInt64) : List MasterCall :=
  (times.mapIdx fun k appTime =>
    cycleWord config.syncMode (k % config.pollInterval.toNat = 0) appTime).flatten

theorem cycleWords_append (config : CycleConfig) (times : List UInt64) (appTime : UInt64) :
    config.cycleWords (times ++ [appTime]) = config.cycleWords times ++
      cycleWord config.syncMode (times.length % config.pollInterval.toNat = 0) appTime := by
  unfold cycleWords
  rw [List.mapIdx_append, List.flatten_append]
  simp

end CycleConfig

/-! ## Journals -/

namespace ScriptedMaster

/-- The same journal under another script. -/
def rescript (f : ScriptedMaster → ScriptedMaster) (m : ScriptedMaster) : ScriptedMaster :=
  { f m with journal := m.journal }

/-- The calls made so far, the first one first. -/
def calls (m : ScriptedMaster) : List MasterCall := m.journal.toList

@[simp] theorem calls_note (call : MasterCall) (m : ScriptedMaster) :
    (m.note call).calls = m.calls ++ [call] := Array.toList_push

@[simp] theorem calls_rescript (f : ScriptedMaster → ScriptedMaster) (m : ScriptedMaster) :
    (m.rescript f).calls = m.calls := rfl

end ScriptedMaster

theorem ClockSync.calls_sync (c : ClockSync) (hardware now : UInt64) (m : ScriptedMaster) :
    (c.sync hardware now m).2.2.calls = m.calls ++
      [.setApplicationTime (c.timeAt hardware),
        match c.params.mode with
        | .masterFollowsReference => .referenceClockTime
        | .referenceFollowsMaster => .syncReferenceClock,
        .syncSlaveClocks] := by
  unfold sync
  cases c.params.mode with
  | masterFollowsReference =>
    show (((m.note (.setApplicationTime _)).note .referenceClockTime).note .syncSlaveClocks).calls = _
    simp
  | referenceFollowsMaster =>
    show (((m.note (.setApplicationTime _)).note .syncReferenceClock).note .syncSlaveClocks).calls = _
    simp

namespace Exchange

variable (x : Exchange ScriptedMaster) (cycle : UInt64) (r : Readings)

theorem calls_looked :
    x.looked.master.calls = x.master.calls ++
      ([.domainHealth] ++ if x.pollIn = 0 then [.masterHealth] else []) := by
  unfold looked
  dsimp only
  show (if x.pollIn = 0 then _ else _ : Exchange ScriptedMaster).master.calls = _
  split
  · show ((x.master.note .domainHealth).note .masterHealth).calls = _
    simp
  · show (x.master.note .domainHealth).calls = _
    simp

theorem calls_prepared :
    (x.prepared r).master.calls = x.master.calls ++
      ([.receive, .processDomain, .domainHealth] ++
        (if x.pollIn = 0 then [.masterHealth] else []) ++ [.queueDomain]) := by
  let y := (x.call MasterSession.receive).call MasterSession.processDomain
  have hcalls : y.master.calls = x.master.calls ++ [.receive, .processDomain] := by
    show ((x.master.note .receive).note .processDomain).calls = _
    simp
  have hlooked := calls_looked y
  have hqueued : (x.prepared r).master.calls = y.looked.master.calls ++ [.queueDomain] :=
    ScriptedMaster.calls_note _ _
  rw [hqueued, hlooked, hcalls]
  show _ ++ (_ ++ if x.pollIn = 0 then _ else _) ++ _ = _
  simp

/-- **A cycle makes the calls of its word.** -/
theorem calls_execute :
    (x.execute cycle r).master.calls = x.master.calls ++
      cycleWord x.clock.params.mode (x.pollIn = 0) (x.clock.timeAt r.syncClock) := by
  have hsynced := (x.prepared r).clock.calls_sync r.syncClock r.referenceClock (x.prepared r).master
  have hsent : (x.sent r).master.calls = ((x.prepared r).synced r).master.calls ++ [.send] :=
    ScriptedMaster.calls_note _ _
  rw [(noted_execute x cycle r).master]
  show (x.sent r).master.calls = _
  rw [hsent, synced, hsynced, calls_prepared, clock_prepared]
  simp [cycleWord]

/-! ## Cycles in a row -/

/-- A run of cycles that synchronised at `times`. `before` are the calls made before it. -/
structure Cycling (config : CycleConfig) (before : List MasterCall) (times : List UInt64)
    (x : Exchange ScriptedMaster) : Prop where
  mode : x.clock.params.mode = config.syncMode
  interval : x.pollInterval = config.pollInterval
  soon : x.pollIn.toNat < config.pollInterval.toNat
  due : config.pollInterval.toNat ∣ times.length + x.pollIn.toNat
  calls : x.master.calls = before ++ config.cycleWords times

namespace Cycling

variable {config : CycleConfig} {before : List MasterCall} {times : List UInt64}
  {x : Exchange ScriptedMaster}

theorem start (valid : config.validate = .ok ()) (master : ScriptedMaster) (shared : Shared) :
    Cycling config master.calls [] (Exchange.start master shared config) :=
  ⟨rfl, rfl, CycleConfig.pollInterval_of_validate valid, Nat.dvd_zero _, (List.append_nil _).symm⟩

/-- The script may change, and all that is shared. -/
theorem rescript (h : Cycling config before times x) (f : ScriptedMaster → ScriptedMaster)
    (shared : Shared) :
    Cycling config before times { x with master := x.master.rescript f, shared } :=
  ⟨h.mode, h.interval, h.soon, h.due, h.calls⟩

theorem max_interval (h : Cycling config before times x) :
    max config.pollInterval.toNat 1 = config.pollInterval.toNat := by
  have hsoon := h.soon
  omega

theorem polling (h : Cycling config before times x) :
    Polling config.pollInterval times.length x := by
  refine ⟨h.interval, ?_, ?_⟩
  · rw [h.max_interval]
    exact h.soon
  · rw [h.max_interval]
    exact h.due

theorem pollIn_eq_zero_iff (h : Cycling config before times x) :
    x.pollIn = 0 ↔ times.length % config.pollInterval.toNat = 0 := by
  have hzero := h.polling.pollIn_eq_zero_iff
  rwa [h.max_interval] at hzero

theorem execute (h : Cycling config before times x) (cycle : UInt64) (r : Readings) :
    Cycling config before (times ++ [x.clock.timeAt r.syncClock]) (x.execute cycle r) := by
  obtain ⟨hinterval, hsoon, hdue⟩ := h.polling.execute cycle r
  rw [h.max_interval] at hsoon hdue
  refine ⟨?_, hinterval, hsoon, ?_, ?_⟩
  · rw [(noted_execute x cycle r).clock, params_plain]
    exact h.mode
  · rwa [List.length_append, List.length_singleton]
  · rw [calls_execute, h.calls, h.mode, config.cycleWords_append, List.append_assoc]
    simp only [h.pollIn_eq_zero_iff]

end Cycling

/-- A cycle, and what happens before it: the script changes, and whoever shares the data with the
exchange changes them. -/
structure Turn where
  script : ScriptedMaster → ScriptedMaster
  users : Shared → Shared
  cycle : UInt64
  readings : Readings

def turn (x : Exchange ScriptedMaster) (t : Turn) : Exchange ScriptedMaster :=
  execute t.cycle t.readings
    { x with master := x.master.rescript t.script, shared := t.users x.shared }

def turns (x : Exchange ScriptedMaster) (ts : List Turn) : Exchange ScriptedMaster := ts.foldl turn x

theorem Cycling.turns {config : CycleConfig} {before : List MasterCall} {times : List UInt64}
    {x : Exchange ScriptedMaster} (h : Cycling config before times x) (ts : List Turn) :
    ∃ later, later.length = ts.length ∧
      Cycling config before (times ++ later) (x.turns ts) := by
  induction ts generalizing times x with
  | nil => exact ⟨[], rfl, by rwa [List.append_nil]⟩
  | cons t ts ih =>
    obtain ⟨later, hlength, hrest⟩ :=
      ih ((h.rescript t.script (t.users x.shared)).execute t.cycle t.readings)
    refine ⟨x.clock.timeAt t.readings.syncClock :: later, congrArg (· + 1) hlength, ?_⟩
    rw [List.append_cons]
    exact hrest

/-- **Any number of cycles make the calls of their words**, whatever is scripted and commanded
between them. -/
theorem calls_turns {config : CycleConfig} (valid : config.validate = .ok ())
    (master : ScriptedMaster) (shared : Shared) (ts : List Turn) :
    ∃ times : List UInt64, times.length = ts.length ∧
      ((start master shared config).turns ts).master.calls =
        master.calls ++ config.cycleWords times := by
  obtain ⟨times, hlength, h⟩ := (Cycling.start valid master shared).turns ts
  exact ⟨times, hlength, h.calls⟩

end Exchange

end CyclicBus

import CyclicBus.Bus.ScriptedMaster
import CyclicBus.Bus.SimulatedMaster
import CyclicBus.Exchange

/-!
# An exchange on a virtual clock

An exchange whose clock stands still during a cycle and moves only when it is told to. Bytes can be
put into the domain as if they came with the next frame.
-/

namespace CyclicBus.Bench

/-- A master session that can be watched. -/
class WatchedMaster (M : Type) extends MasterSession M where
  journal : M → Option (Array MasterCall)
  clearJournal : M → M
  frames : M → Option UInt64
  sessions : M → Option (UInt64 × UInt64)

instance : WatchedMaster SimulatedMaster where
  journal _ := none
  clearJournal m := m
  frames m := some m.frames
  sessions m := some (m.activations, m.deactivations)

instance : WatchedMaster ScriptedMaster where
  journal m := some m.journal
  clearJournal m := { m with journal := #[] }
  frames _ := none
  sessions _ := none

variable {M : Type}

/-- Put bytes into the domain of a master, if they fit. -/
def write? [MasterSession M] (offset : UInt64) (bytes : List UInt8) (m : M) : Option M :=
  (ByteRange.splice? ⟨offset, .ofNat bytes.length⟩ bytes (MasterSession.domain m)).map
    fun memory => MasterSession.setDomain memory m

def rangeOf (samples : List UInt64) : Statistics.Range :=
  samples.foldl Statistics.Range.record .empty

structure ExchangeBench (M : Type) where
  exchange : Exchange M
  config : CycleConfig
  now : UInt64
  incoming : List (UInt64 × List UInt8)

namespace ExchangeBench

variable [WatchedMaster M]

/-- Put the incoming bytes into the domain. Those that do not fit are lost. -/
def deliver (b : ExchangeBench M) : ExchangeBench M :=
  let put (m : M) : UInt64 × List UInt8 → M
    | (offset, bytes) => (write? offset bytes m).getD m
  { b with exchange.master := b.incoming.foldl put b.exchange.master, incoming := [] }

def execute (cycle : UInt64) (b : ExchangeBench M) : ExchangeBench M :=
  let b := b.deliver
  { b with exchange := b.exchange.execute cycle (.still b.now) }

/-- Run cycles from a number on, each followed by an advance of the clock. -/
def executeMany (advance : UInt64) : Nat → UInt64 → ExchangeBench M → ExchangeBench M
  | 0, _, b => b
  | n + 1, cycle, b =>
    let b := b.execute cycle
    executeMany advance n (cycle + 1) { b with now := b.now + advance }

/-- The context that a worker would give to a cycle. -/
def context (cycle : UInt64) (b : ExchangeBench M) : CycleContext :=
  ⟨cycle, b.now, b.now, 0, b.config.period⟩

/-- End the run and start another one over the same shared data. -/
def restart (b : ExchangeBench M) : ExchangeBench M :=
  { b with exchange := .start b.exchange.master b.exchange.shared b.config }

/-- The calls of the session since the journal was cleared. -/
def calls (b : ExchangeBench M) : List MasterCall :=
  ((WatchedMaster.journal b.exchange.master).getD #[]).toList

def clearJournal (b : ExchangeBench M) : ExchangeBench M :=
  { b with exchange.master := WatchedMaster.clearJournal b.exchange.master }

end ExchangeBench

end CyclicBus.Bench

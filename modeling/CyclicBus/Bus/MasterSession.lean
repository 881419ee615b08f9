import CyclicBus.Bus.Health
import CyclicBus.Trace.Log

/-!
# Master sessions

What a run needs of the bus: a session with the master that owns the domain memory. Each call takes
the session and gives back the session after it, so that a session may keep a journal even of
questions. Calls whose answer depends on the time are given the clock.
-/

namespace CyclicBus

/-- A session with the master of a bus. -/
class MasterSession (M : Type) where
  selectReference : (device : UInt64) → M → Except MasterFault Unit × M
  activate : M → Except MasterFault Unit × M
  activationRecords : M → List LogRecord
  deactivate : M → M
  receive : M → M
  send : (now : UInt64) → M → M
  processDomain : M → M
  queueDomain : M → M
  domainHealth : M → DomainHealth × M
  masterHealth : M → MasterHealth × M
  setApplicationTime : UInt64 → M → M
  /-- The low word of the reference clock, as latched by the last sent frame. -/
  referenceTime : (now : UInt64) → M → Except MasterFault UInt32 × M
  syncReference : M → M
  syncSlaves : M → M
  domain : M → List UInt8
  /-- Put another memory of the same size in place of the domain. -/
  setDomain : List UInt8 → M → M

end CyclicBus

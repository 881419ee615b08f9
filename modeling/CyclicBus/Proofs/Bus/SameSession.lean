import CyclicBus.Clock.Sync
import Mathlib.Logic.Relation

/-!
# A session through its calls

`Follows m m'`: the session `m` has become `m'` by calls of a master session, and by nothing else.
So whoever hands a session back is seen to hand back the session that it was given.
-/

namespace CyclicBus

/-- One call of a master session. -/
inductive SessionCall {M : Type} [MasterSession M] : M → M → Prop where
  | selectReference (device : UInt64) (m : M) :
    SessionCall m (MasterSession.selectReference device m).2
  | activate (m : M) : SessionCall m (MasterSession.activate m).2
  | deactivate (m : M) : SessionCall m (MasterSession.deactivate m)
  | receive (m : M) : SessionCall m (MasterSession.receive m)
  | send (now : UInt64) (m : M) : SessionCall m (MasterSession.send now m)
  | processDomain (m : M) : SessionCall m (MasterSession.processDomain m)
  | queueDomain (m : M) : SessionCall m (MasterSession.queueDomain m)
  | domainHealth (m : M) : SessionCall m (MasterSession.domainHealth m).2
  | masterHealth (m : M) : SessionCall m (MasterSession.masterHealth m).2
  | setApplicationTime (time : UInt64) (m : M) :
    SessionCall m (MasterSession.setApplicationTime time m)
  | referenceTime (now : UInt64) (m : M) :
    SessionCall m (MasterSession.referenceTime now m).2
  | syncReference (m : M) : SessionCall m (MasterSession.syncReference m)
  | syncSlaves (m : M) : SessionCall m (MasterSession.syncSlaves m)
  | setDomain (memory : List UInt8) (m : M) : SessionCall m (MasterSession.setDomain memory m)

/-- The second is what became of the first by calls. -/
def Follows {M : Type} [MasterSession M] : M → M → Prop := Relation.ReflTransGen SessionCall

namespace Follows

variable {M : Type} [MasterSession M] {a b c : M}

theorem refl (a : M) : Follows a a := Relation.ReflTransGen.refl

theorem trans (h : Follows a b) (h' : Follows b c) : Follows a c :=
  Relation.ReflTransGen.trans h h'

theorem call (h : Follows a b) (h' : SessionCall b c) : Follows a c :=
  Relation.ReflTransGen.tail h h'

theorem of_call (h : SessionCall a b) : Follows a b := Relation.ReflTransGen.single h

end Follows

theorem ClockSync.follows_sync {M : Type} [MasterSession M] (hardware now : UInt64) (c : ClockSync)
    (m : M) : Follows m (c.sync hardware now m).2.2 := by
  have htime := Follows.of_call (.setApplicationTime (c.timeAt hardware) m)
  unfold sync
  split
  · exact (htime.call (.referenceTime now _)).call (.syncSlaves _)
  · exact (htime.call (.syncReference _)).call (.syncSlaves _)

end CyclicBus

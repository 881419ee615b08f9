import CyclicBus.Proofs.Bus.SameSession
import CyclicBus.Proofs.Exchange.Notes

/-!
# What a cycle leaves alone

A cycle is the part before its outputs, the output step, and the part after (`execute_eq`). Both
other parts only make calls of the session and leave everything alone that the output step reads:
`outputFrame_beforeOutputs`, `outputFrame_afterOutputs`.
-/

namespace CyclicBus

namespace Exchange

variable {M : Type} [MasterSession M]

/-- From the first state to the second the session was only called, and what the output step reads
is the same. -/
structure OutputFrame (x y : Exchange M) : Prop where
  master : Follows x.master y.master
  topology : y.shared.topology = x.shared.topology
  image : y.shared.data.image = x.shared.data.image
  outputLengths : y.shared.data.outputLengths = x.shared.data.outputLengths
  held : y.held = x.held

namespace OutputFrame

variable {x y z : Exchange M}

theorem refl (x : Exchange M) : OutputFrame x x := ⟨.refl _, rfl, rfl, rfl, rfl⟩

theorem trans (h : OutputFrame x y) (h' : OutputFrame y z) : OutputFrame x z where
  master := h.master.trans h'.master
  topology := h'.topology.trans h.topology
  image := h'.image.trans h.image
  outputLengths := h'.outputLengths.trans h.outputLengths
  held := h'.held.trans h.held

/-- The session may be called where nothing else happens. -/
theorem of_follows {m : M} (h : Follows x.master m) : OutputFrame x { x with master := m } :=
  ⟨h, rfl, rfl, rfl, rfl⟩

/-- Notes leave alone what a cycle works on. -/
theorem of_noted {cut : List CycleEvent} (h : Noted cut x y) : OutputFrame x y where
  master := h.master ▸ .refl _
  topology := congrArg Core.topology h.core
  image := congrArg Core.image h.core
  outputLengths := congrArg Core.outputLengths h.core
  held := congrArg Core.held h.core

end OutputFrame

/-! ## Parts of a cycle -/

variable (x : Exchange M) (cycle : UInt64) (r : Readings)

theorem outputFrame_countDown : OutputFrame x x.countDown := ⟨.refl _, rfl, rfl, rfl, rfl⟩

theorem outputFrame_poll :
    OutputFrame x
      (noteMaster cycle (MasterSession.masterHealth x.master).1
        { x with master := (MasterSession.masterHealth x.master).2, pollIn := x.pollInterval }) := by
  have hcall : OutputFrame x
      { x with master := (MasterSession.masterHealth x.master).2, pollIn := x.pollInterval } :=
    ⟨.of_call (.masterHealth _), rfl, rfl, rfl, rfl⟩
  exact hcall.trans (.of_noted (noted_noteMaster _ cycle _))

theorem outputFrame_checkHealth : OutputFrame x (x.checkHealth cycle) := by
  have hdomain : OutputFrame x
      (noteDomain cycle (MasterSession.domainHealth x.master).1
        { x with master := (MasterSession.domainHealth x.master).2 }) :=
    (OutputFrame.of_follows (.of_call (.domainHealth x.master))).trans
      (.of_noted (noted_noteDomain _ cycle _))
  unfold checkHealth
  dsimp only
  split
  · exact (hdomain.trans (outputFrame_poll _ cycle)).trans (outputFrame_countDown _)
  · exact hdomain.trans (outputFrame_countDown _)

theorem outputFrame_syncClocks : OutputFrame x (x.syncClocks cycle r) := by
  have hsync : OutputFrame x
      { x with
        clock := (x.clock.sync r.syncClock r.referenceClock x.master).2.1
        master := (x.clock.sync r.syncClock r.referenceClock x.master).2.2 } :=
    ⟨x.clock.follows_sync _ _ _, rfl, rfl, rfl, rfl⟩
  exact hsync.trans (.of_noted (noted_noteSync _ cycle _))

theorem outputFrame_stepDrift : OutputFrame x (x.stepDrift cycle) := by
  have hclock : OutputFrame x { x with clock := x.clock.update.2 } := ⟨.refl _, rfl, rfl, rfl, rfl⟩
  exact hclock.trans (.of_noted (noted_noteDrift _ cycle _))

/-- The part of a cycle before its outputs. -/
def beforeOutputs : Exchange M :=
  (((x.call MasterSession.receive).call MasterSession.processDomain).checkHealth cycle).publish
    cycle r

/-- The part of a cycle after its outputs. -/
def afterOutputs : Exchange M :=
  ((((x.call MasterSession.queueDomain).syncClocks cycle r).call
    (MasterSession.send r.sendClock)).stepDrift cycle).count .countCycle

theorem execute_eq :
    x.execute cycle r = ((x.beforeOutputs cycle r).applyOutputs r).afterOutputs cycle r := rfl

theorem outputFrame_beforeOutputs : OutputFrame x (x.beforeOutputs cycle r) :=
  ((OutputFrame.of_follows ((Follows.of_call (.receive _)).call (.processDomain _))).trans
    (outputFrame_checkHealth _ cycle)).trans (.of_noted (noted_publish _ cycle r))

theorem outputFrame_afterOutputs : OutputFrame x (x.afterOutputs cycle r) := by
  have hqueue : OutputFrame x (x.call MasterSession.queueDomain) :=
    .of_follows (.of_call (.queueDomain _))
  have hsync := hqueue.trans (outputFrame_syncClocks _ cycle r)
  have hsend := hsync.trans (.of_follows (.of_call (.send r.sendClock _)))
  exact (hsend.trans (outputFrame_stepDrift _ cycle)).trans ⟨.refl _, rfl, rfl, rfl, rfl⟩

/-- A cycle only makes calls of the session. -/
theorem follows_execute : Follows x.master (x.execute cycle r).master := by
  have hbefore := (outputFrame_beforeOutputs x cycle r).master
  have hafter := (outputFrame_afterOutputs ((x.beforeOutputs cycle r).applyOutputs r) cycle r).master
  exact (hbefore.call (.setDomain _ _)).trans hafter

end Exchange

end CyclicBus

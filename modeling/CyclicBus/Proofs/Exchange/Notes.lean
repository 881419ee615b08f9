import CyclicBus.Exchange
import CyclicBus.Proofs.ProcessData.LastWriter

/-!
# What a cycle takes note of

A cycle takes notes of what it finds: counters, edges, events, snapshots. `Noted cut x y`: nothing but
notes lies between two states, and `cut` are the events among them that report an adjustment that
the clamp cut. Every `note` of a cycle and its publication are of that kind.
-/

namespace CyclicBus

/-! ## Events of cut adjustments -/

/-- The event of an adjustment that the clamp cut. -/
def CycleEvent.isSaturation : CycleEvent → Bool
  | driftSaturated _ _ _ => true
  | _ => false

/-- The events that report the cut adjustment of a filter step. -/
def DriftUpdate.saturations (cycle : UInt64) (clamp : Int64) : DriftUpdate → List CycleEvent
  | adjusted adjustment true => [.driftSaturated cycle adjustment clamp]
  | _ => []

namespace Trace

/-- Give events to the handle, the first one first. -/
def emitCycles (t : Trace) (es : List CycleEvent) : Trace := es.foldl emitCycle t

/-- The second handle is the first after some events. `cut` are those that report a cut adjustment. -/
def Reports (cut : List CycleEvent) (t t' : Trace) : Prop :=
  ∃ es : List CycleEvent, es.filter CycleEvent.isSaturation = cut ∧ t' = t.emitCycles es

theorem Reports.trans {cut cut' : List CycleEvent} {t t' t'' : Trace} (h : t.Reports cut t')
    (h' : t'.Reports cut' t'') : t.Reports (cut ++ cut') t'' := by
  obtain ⟨es, rfl, rfl⟩ := h
  obtain ⟨es', rfl, rfl⟩ := h'
  exact ⟨es ++ es', List.filter_append .., List.foldl_append.symm⟩

end Trace

namespace Exchange

variable {M : Type}

/-! ## Notes -/

/-- What a cycle works on, as opposed to what it takes note of. -/
structure Core (M : Type) where
  master : M
  clock : ClockSync
  pollInterval : UInt32
  pollIn : UInt32
  topology : Topology
  image : OutputImage
  outputLengths : List Nat
  held : OutputImage

def core (x : Exchange M) : Core M where
  master := x.master
  clock := x.clock
  pollInterval := x.pollInterval
  pollIn := x.pollIn
  topology := x.shared.topology
  image := x.shared.data.image
  outputLengths := x.shared.data.outputLengths
  held := x.held

/-- From the first state to the second only notes were taken. `cut` are the events given to the trace
that report a cut adjustment. -/
structure Noted (cut : List CycleEvent) (x y : Exchange M) : Prop where
  core : y.core = x.core
  trace : x.shared.trace.Reports cut y.shared.trace

namespace Noted

variable {cut cut' : List CycleEvent} {x y z : Exchange M}

theorem trans (h : Noted cut x y) (h' : Noted cut' y z) : Noted (cut ++ cut') x z :=
  ⟨h'.core.trans h.core, h.trace.trans h'.trace⟩

theorem silent (hcore : y.core = x.core) (htrace : y.shared.trace = x.shared.trace) :
    Noted [] x y := ⟨hcore, [], rfl, htrace⟩

theorem single {e : CycleEvent} (hcore : y.core = x.core)
    (htrace : y.shared.trace = x.shared.trace.emitCycle e)
    (he : [e].filter CycleEvent.isSaturation = cut) : Noted cut x y := ⟨hcore, [e], he, htrace⟩

theorem master (h : Noted cut x y) : y.master = x.master := congrArg Core.master h.core

theorem clock (h : Noted cut x y) : y.clock = x.clock := congrArg Core.clock h.core

theorem pollInterval (h : Noted cut x y) : y.pollInterval = x.pollInterval :=
  congrArg Core.pollInterval h.core

theorem pollIn (h : Noted cut x y) : y.pollIn = x.pollIn := congrArg Core.pollIn h.core

/-- What only looks at the core and reports nothing may come before the notes as well as after. -/
theorem change {f : Exchange M → Exchange M} {g : Core M → Core M} (h : Noted cut x y)
    (hcore : ∀ x, (f x).core = g x.core) (htrace : ∀ x, (f x).shared.trace = x.shared.trace) :
    Noted cut (f x) (f y) := by
  refine ⟨?_, ?_⟩
  · rw [hcore, hcore, h.core]
  · rw [htrace, htrace]
    exact h.trace

theorem call (h : Noted cut x y) (f : M → M) : Noted cut (x.call f) (y.call f) :=
  h.change (g := fun c => { c with master := f c.master }) (fun _ => rfl) fun _ => rfl

end Noted

variable (x : Exchange M) (cycle : UInt64) (r : Readings)

theorem noted_count (f : RunCounters → RunCounters) : Noted [] x (x.count f) := .silent rfl rfl

theorem noted_noteDomain (health : DomainHealth) : Noted [] x (x.noteDomain cycle health) := by
  unfold noteDomain
  split
  · dsimp only
    split
    · exact .silent rfl rfl
    · exact .single rfl rfl rfl
  · split
    · exact .single rfl rfl rfl
    · exact .silent rfl rfl

theorem noted_noteMaster (health : MasterHealth) : Noted [] x (x.noteMaster cycle health) := by
  unfold noteMaster
  split
  · exact .silent rfl rfl
  · exact .single rfl rfl rfl

theorem noted_noteSync (report : SyncReport) : Noted [] x (x.noteSync cycle report) := by
  have hlost (y : Exchange M) : Noted [] y
      (if report.referenceUnavailable then
        if (y.count .countReferenceUnavailable).referenceLost then
          y.count .countReferenceUnavailable
        else
          { y.count .countReferenceUnavailable with referenceLost := true }.emit
            (.referenceUnavailable cycle)
      else { y with referenceLost := false }) := by
    split
    · split
      · exact .silent rfl rfl
      · exact .single rfl rfl rfl
    · exact .silent rfl rfl
  unfold noteSync
  cases report.anomaly with
  | none => exact hlost x
  | some anomaly =>
    have hanomaly : Noted [] x ((x.count .countClockAnomaly).emit
        (.clockBackwardJump cycle anomaly.hardware anomaly.timeBase)) := .single rfl rfl rfl
    exact hanomaly.trans (hlost _)

/-- Of the filter steps only a cut adjustment is reported as one. -/
theorem noted_noteDrift (update : DriftUpdate) :
    Noted (update.saturations cycle x.clock.params.clamp) x (x.noteDrift cycle update) := by
  cases update with
  | armed firstDiff appTime => exact .single rfl rfl rfl
  | adjusted adjustment saturated =>
    cases saturated
    · exact .silent rfl rfl
    · exact .single rfl rfl rfl
  | _ => exact .silent rfl rfl

theorem noted_publish [MasterSession M] : Noted [] x (x.publish cycle r) := by
  have hcore (s : Snapshot) :
      core { x with
        snapshot := s
        shared.data := x.shared.data.publish s r.latestFree r.subscribersFree } = x.core := by
    unfold core
    dsimp only
    rw [ProcessData.image_publish, ProcessData.outputLengths_publish]
  unfold publish
  dsimp only
  split
  · exact .silent (hcore _) rfl
  · exact .single (hcore _) rfl rfl

end Exchange

end CyclicBus

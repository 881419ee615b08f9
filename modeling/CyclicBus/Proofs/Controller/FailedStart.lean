import CyclicBus.Proofs.Controller.Custody

/-!
# Starts that fail

However a start fails, the controller is idle again with its session and the process data that the
start found (`Refused`). `attempts_then_start`: so a start does not see how many starts failed before
it.
-/

namespace CyclicBus

variable {M : Type} [MasterSession M]

namespace Controller

/-! ## After an ended worker -/

section Reaped

variable {c : Controller M}

/-- Joining an ended worker puts the outputs to zero, and leaves the other process data alone. -/
theorem shared_settle (w : Worker (Exchange M)) (c : Controller M) :
    (settle w c).2.shared.topology = w.body.shared.topology ∧
      (settle w c).2.shared.data = w.body.shared.data.zeroOutputs := by
  unfold settle
  dsimp only
  split
  all_goals
    dsimp only
    exact ⟨topology_emit _ _, data_emit _ _⟩

theorem shared_reap (answer : Nat → Worker.Answer Readings) (h : c.isRunning = false) :
    (c.reap answer).shared.topology = c.shared.topology ∧
      (c.reap answer).shared.data =
        if c.worker?.isSome then c.shared.data.zeroOutputs else c.shared.data := by
  cases hold : c.holding with
  | idle session shared =>
    have hworker := worker?_of_idle hold
    rw [reap_of_not_finished answer (by rw [hworker]; rfl), hworker]
    exact ⟨rfl, rfl⟩
  | running w =>
    have hworker := worker?_of_running hold
    have hfinished : w.finished = true := by simpa [isRunning, hworker] using h
    obtain ⟨before, after, heq⟩ := reap_eq_settle answer hold hfinished
    have hsettled :=
      shared_settle w.requestStop { c with state := .stopping, log := before }
    rw [heq, hworker, shared_of_running hold]
    exact hsettled

/-- The session that the next start finds. -/
theorem isSome_master?_reap (hc : c.Orderly) (h : c.isRunning = false)
    (answer : Nat → Worker.Answer Readings) :
    (c.reap answer).master?.isSome = c.session?.isSome := by
  obtain ⟨-, hworker, hkept, -⟩ := reap_of_not_isRunning answer hc h
  rw [master?_eq_session? hworker, hkept]

end Reaped

/-! ## Starts in a row -/

/-- A controller that some calls may have led to, with any changes from outside between them. -/
inductive Reached : Controller M → Prop where
  | fresh (master : M) (topology : Topology) (trace : Trace) :
      Reached (.ofMaster master topology trace)
  | call {c : Controller M} (h : Reached c) (x : ControllerCall) : Reached (c.call x)
  | mapMaster {c : Controller M} (h : Reached c) (f : M → M) : Reached (c.mapMaster f)
  | mapShared {c : Controller M} (h : Reached c) (f : Shared → Shared) : Reached (c.mapShared f)

section Views

omit [MasterSession M]

variable (c : Controller M) (f : M → M)

theorem state_mapMaster : (c.mapMaster f).state = c.state := by
  unfold mapMaster
  cases c.holding <;> rfl

theorem shared_mapMaster : (c.mapMaster f).shared = c.shared := by
  unfold mapMaster shared
  cases c.holding <;> rfl

theorem isSome_worker?_mapMaster : (c.mapMaster f).worker?.isSome = c.worker?.isSome := by
  unfold mapMaster worker?
  cases c.holding <;> rfl

theorem isRunning_mapMaster : (c.mapMaster f).isRunning = c.isRunning := by
  unfold mapMaster isRunning worker?
  cases c.holding <;> rfl

theorem session?_mapMaster : (c.mapMaster f).session? = c.session?.map f := by
  unfold mapMaster session?
  cases hold : c.holding with
  | idle master shared => rfl
  | running w =>
    show (if w.hasPanicked then none else some (f w.body.master)) = _
    dsimp only
    cases w.hasPanicked <;> rfl

theorem Orderly.mapMaster {c : Controller M} (h : c.Orderly) (f : M → M) :
    (c.mapMaster f).Orderly := by
  unfold Orderly
  rw [state_mapMaster, isSome_worker?_mapMaster]
  exact h

end Views

theorem Reached.calls {r : ControllerRun M} (h : r.controller.Reached) (xs : List ControllerCall) :
    (r.calls xs).controller.Reached := by
  induction xs generalizing r with
  | nil => exact h
  | cons x xs ih => exact ih (r := r.call x) (h.call x)

theorem Reached.orderly {c : Controller M} (h : Reached c) : c.Orderly := by
  induction h with
  | fresh master topology trace => rfl
  | call _ x ih => exact (callKeeps ih x).orderly
  | mapMaster _ f ih => exact ih.mapMaster f
  | mapShared _ f ih => exact ih.mapShared f

end Controller

/-- A start, and what happens to the session before it. -/
structure Attempt (M : Type) where
  adjust : M → M
  host : Host
  answer : Nat → Worker.Answer Readings
  config : CycleConfig

namespace Controller

def attempt (c : Controller M) (a : Attempt M) : Except EngineFault Unit × Controller M :=
  (c.mapMaster a.adjust).start a.host a.answer a.config

def attempts (c : Controller M) (as : List (Attempt M)) : Controller M :=
  as.foldl (fun c a => (c.attempt a).2) c

/-- None of these starts succeeds. -/
def Fails (c : Controller M) : List (Attempt M) → Prop
  | [] => True
  | a :: as => (c.attempt a).1 ≠ .ok () ∧ (c.attempt a).2.Fails as

/-- No worker is alive. Whether there is a session, and the process data once a worker that has ended
was joined. -/
structure Rests (held : Bool) (topology : Topology) (data : ProcessData) (c : Controller M) :
    Prop where
  orderly : c.Orderly
  ended : c.isRunning = false
  session : c.session?.isSome = held
  reaped : ∀ answer, (c.reap answer).shared.topology = topology ∧
    (c.reap answer).shared.data = data

namespace Rests

variable {held : Bool} {topology : Topology} {data : ProcessData} {c : Controller M}

theorem of_orderly (hc : c.Orderly) (h : c.isRunning = false)
    (answer : Nat → Worker.Answer Readings) :
    c.Rests c.session?.isSome (c.reap answer).shared.topology (c.reap answer).shared.data := by
  refine ⟨hc, h, rfl, fun again => ?_⟩
  obtain ⟨htopology, hdata⟩ := shared_reap answer h
  obtain ⟨htopology', hdata'⟩ := shared_reap again h
  exact ⟨htopology'.trans htopology.symm, hdata'.trans hdata.symm⟩

theorem mapMaster (h : c.Rests held topology data) (f : M → M) :
    (c.mapMaster f).Rests held topology data := by
  have hended : (c.mapMaster f).isRunning = false := (isRunning_mapMaster c f).trans h.ended
  have hsession : (c.mapMaster f).session?.isSome = held := by
    rw [session?_mapMaster, Option.isSome_map, h.session]
  refine ⟨h.orderly.mapMaster f, hended, hsession, fun answer => ?_⟩
  obtain ⟨htopology, hdata⟩ := shared_reap answer hended
  rw [htopology, hdata, isSome_worker?_mapMaster, shared_mapMaster]
  obtain ⟨htopology', hdata'⟩ := shared_reap answer h.ended
  exact ⟨htopology'.symm.trans (h.reaped answer).1, hdata'.symm.trans (h.reaped answer).2⟩

/-- A refused start leaves no worker to join, so that the next one finds what this one left. -/
theorem attempt (h : c.Rests held topology data) {a : Attempt M}
    (hfails : (c.attempt a).1 ≠ .ok ()) : (c.attempt a).2.Rests held topology data := by
  have hadjusted := h.mapMaster a.adjust
  have hends := ends_start a.host a.config a.answer hadjusted.orderly hadjusted.ended
  cases hout : (c.attempt a).1 with
  | ok => exact absurd hout hfails
  | error fault =>
    have hrefused := hends.refused fault hout
    obtain ⟨htopology, hdata⟩ := hadjusted.reaped a.answer
    have hworker : (c.attempt a).2.worker? = none := hrefused.worker
    refine ⟨hrefused.orderly, ?_, ?_, fun answer => ?_⟩
    · rw [isRunning, hworker]
      rfl
    · have hkept := hrefused.isSome_master?
      rw [isSome_master?_reap hadjusted.orderly hadjusted.ended, hadjusted.session] at hkept
      rw [← master?_eq_session? hworker]
      exact hkept
    · rw [reap_of_not_finished answer (by rw [hworker]; rfl)]
      exact ⟨hrefused.topology.trans htopology, hrefused.data.trans hdata⟩

theorem attempts (h : c.Rests held topology data) {as : List (Attempt M)} (hfails : c.Fails as) :
    (c.attempts as).Rests held topology data := by
  induction as generalizing c with
  | nil => exact h
  | cons a as ih => exact ih (h.attempt hfails.1) hfails.2

end Rests

end Controller

/-- How a start ends that was attempted from `found`, where `before` was left by the last run. -/
structure StartsAfresh (before found : Controller M) (host : Host) (config : CycleConfig)
    (out : Except EngineFault Unit × Controller M) : Prop where
  topology : found.shared.topology = before.shared.topology
  data : found.shared.data = before.shared.data
  session : found.master?.isSome = before.master?.isSome
  refused : ∀ fault, out.1 = .error fault →
    Refused host config fault found.master? found.shared out.2
  launched : out.1 = .ok () →
    Launched host config found.master? before.shared.topology before.shared.data out.2

/-- **Starts that fail leave no trace in the next one.** Without a live worker, and after any number
of starts that failed, a start that fails leaves the controller idle, the process data as they were,
and the session in it, deactivated once where it had been activated; a start that succeeds begins on
the process data of before and on zero counters. -/
theorem attempts_then_start {c : Controller M} (reached : c.Reached) (ended : c.isRunning = false)
    (as : List (Attempt M)) (failed : c.Fails as) (host : Host)
    (answer : Nat → Worker.Answer Readings) (config : CycleConfig) :
    StartsAfresh (c.reap answer) ((c.attempts as).reap answer) host config
      ((c.attempts as).start host answer config) := by
  have hrests := (Controller.Rests.of_orderly reached.orderly ended answer).attempts failed
  obtain ⟨htopology, hdata⟩ := hrests.reaped answer
  have hends := Controller.ends_start host config answer hrests.orderly hrests.ended
  refine ⟨htopology, hdata, ?_, hends.refused, fun hok => ?_⟩
  · rw [Controller.isSome_master?_reap hrests.orderly hrests.ended, hrests.session,
      Controller.isSome_master?_reap reached.orderly ended]
  · have hlaunched := hends.launched hok
    rw [htopology, hdata] at hlaunched
    exact hlaunched

/-- Starts that fail in turn: an invalid period, a rejected selection and a failed activation of the
session, a host without privileges, and one without threads. -/
def refusedInTurn : List (Attempt ScriptedMaster) :=
  let answer (_ : Nat) : Worker.Answer Readings := ⟨1000, true, false, .still 1000⟩
  let threadless : Host := { Host.withoutPrivileges with spawn := some .notPermitted }
  [⟨id, .withoutPrivileges, answer, .unprivileged 0⟩,
    ⟨fun m => { m with selectionFault := some .noReferenceClock }, .withoutPrivileges, answer,
      .unprivileged 1000⟩,
    ⟨fun m => { m with selectionFault := none, activationFault := some .linkDown },
      .withoutPrivileges, answer, .unprivileged 1000⟩,
    ⟨fun m => { m with activationFault := none }, .withoutPrivileges, answer, .standard⟩,
    ⟨id, threadless, answer, .unprivileged 1000⟩]

/-- A run with outputs `01 02` that reaches its bound, and was not joined. -/
def endedRun : Controller ScriptedMaster :=
  let answer (now : UInt64) : Worker.Answer Readings := ⟨now, true, false, .still now⟩
  let start := ControllerCall.start .withoutPrivileges (fun _ => answer 1000)
    { CycleConfig.unprivileged 1000 with runDuration := some 1 }
  ((ControllerRun.fresh (ScriptedMaster.ofDomainSize 8) .pair (.ofSink .null)).calls
    ([start, .command 0 [1, 2]] ++ List.replicate 6 (.work (answer 1000)) ++
      List.replicate 3 (.work (answer 2000000)))).controller

/-- The first of the attempts joins the run. The one whose activation failed does not deactivate. -/
theorem attempts_then_start_of_endedRun :
    let answer (_ : Nat) : Worker.Answer Readings := ⟨1000, true, false, .still 1000⟩
    let config := CycleConfig.unprivileged 1000
    let c := endedRun.attempts refusedInTurn
    endedRun.isRunning = false ∧ endedRun.cyclesCompleted = 1 ∧ endedRun.Fails refusedInTurn ∧
      StartsAfresh (endedRun.reap answer) (c.reap answer) .withoutPrivileges config
        (c.start .withoutPrivileges answer config) ∧
      (c.start .withoutPrivileges answer config).1 = .ok () ∧
      c.shared.data.image = ⟨[[0, 0], [0, 0]], 2⟩ ∧
      c.master?.map (fun m => (m.journal.toList.filter
        fun x => x == .activate || x == .deactivate)) =
        some [.activate, .deactivate, .activate, .activate, .deactivate, .activate,
          .deactivate] := by
  intro answer config c
  have ended : endedRun.isRunning = false := by decide +kernel
  have failed : endedRun.Fails refusedInTurn :=
    ⟨by decide +kernel, by decide +kernel, by decide +kernel, by decide +kernel,
      by decide +kernel, trivial⟩
  exact ⟨ended, by decide +kernel, failed,
    attempts_then_start (.calls (.fresh _ _ _) _) ended refusedInTurn failed .withoutPrivileges
      answer config,
    by decide +kernel, by decide +kernel, by decide +kernel⟩

end CyclicBus

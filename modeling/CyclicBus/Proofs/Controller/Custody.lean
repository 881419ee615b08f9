import CyclicBus.Bus.ScriptedMaster
import CyclicBus.Proofs.Controller.Stages
import CyclicBus.Proofs.ProcessData.LastWriter

/-!
# Custody of the session

Who holds the master session while a controller is started and stopped in any order.
`calls_inOrder`: the controller holds it while idle and the worker while one was not joined; it is
lost where a worker panicked and only there, and then for good. A stop always ends idle with zero
outputs, and a live worker is not disturbed by a start.
-/

namespace CyclicBus

/-- The second session, if there is one, is what became of the first. -/
def Inherits {M : Type} [MasterSession M] (before after : Option M) : Prop :=
  ∀ m' ∈ after, ∃ m ∈ before, Follows m m'

namespace Inherits

variable {M : Type} [MasterSession M] {a b c : Option M}

theorem refl (a : Option M) : Inherits a a := fun m h => ⟨m, h, .refl m⟩

theorem trans (h : Inherits a b) (h' : Inherits b c) : Inherits a c := by
  intro m'' hc
  obtain ⟨m', hb, hlast⟩ := h' m'' hc
  obtain ⟨m, ha, hfirst⟩ := h m' hb
  exact ⟨m, ha, hfirst.trans hlast⟩

theorem of_follows {m m' : M} (h : Follows m m') : Inherits (some m) (some m') := by
  rintro _ ⟨⟩
  exact ⟨m, rfl, h⟩

theorem none (a : Option M) : Inherits a .none := fun _ h => nomatch h

end Inherits

section Given

variable {M : Type} [MasterSession M] {config : CycleConfig} {m selected m' : M}

theorem Follows.of_activate {selection activation : Except MasterFault Unit}
    (hselect : MasterSession.selectReference config.referenceDevice m = (selection, selected))
    (hactivate : MasterSession.activate selected = (activation, m')) : Follows m m' := by
  have hselected := Follows.of_call (.selectReference config.referenceDevice m)
  have hactivated := Follows.of_call (.activate selected)
  rw [hselect] at hselected
  rw [hactivate] at hactivated
  exact hselected.trans hactivated

theorem Activated.follows (h : Activated config m m') : Follows m m' := by
  obtain ⟨selected, hselect, hactivate⟩ := h
  exact .of_activate hselect hactivate

theorem GivenBack.follows {host : Host} {t : Topology} {fault : EngineFault}
    (h : GivenBack host config t fault m m') : Follows m m' := by
  cases h with
  | invalid => exact .refl m
  | rejected selection =>
    have hselected := Follows.of_call (.selectReference config.referenceDevice m)
    rw [selection] at hselected
    exact hselected
  | inactive selection activation => exact .of_activate selection activation
  | small active => exact active.follows.call (.deactivate _)
  | unlaunched active => exact active.follows.call (.deactivate _)

end Given

namespace Controller

variable {M : Type}

/-! ## Stopping -/

variable (c : Controller M) [MasterSession M]

/-- What a stop of a worker leaves. -/
structure Stopped (w : Worker (Exchange M)) (c : Controller M) : Prop where
  state : c.state = .idle
  worker : c.worker? = none
  zero : c.shared.data.image.isZero = true
  kept : c.session?.isSome = !w.hasPanicked
  inherits : Inherits (some w.body.master) c.session?

theorem Stopped.note {w : Worker (Exchange M)} {c : Controller M} (h : Stopped w c)
    (record : LogRecord) : Stopped w (c.note record) :=
  ⟨h.state, h.worker, h.zero, h.kept, h.inherits⟩

theorem Stopped.emit {w : Worker (Exchange M)} {c : Controller M} (h : Stopped w c)
    (e : LifecycleEvent) : Stopped w (c.emit e) where
  state := (state_emit c e).trans h.state
  worker := by
    rw [c.worker?_emit, h.worker]
    rfl
  zero := by
    rw [data_emit]
    exact h.zero
  kept := by
    rw [session?_emit]
    exact h.kept
  inherits := by
    rw [session?_emit]
    exact h.inherits

/-- A worker that has ended is joined: it hands its session back, or has panicked. -/
theorem settle_cases {w : Worker (Exchange M)} (h : w.finished = true) :
    ((w.hasPanicked = false ∧ ∃ summary, (settle w c).1 = .ok summary) ∨
      (w.hasPanicked = true ∧ (settle w c).1 = .error (.lifecycle .workerPanicked))) ∧
      Stopped w (settle w c).2 := by
  unfold settle
  rcases Worker.join?_of_finished h with ⟨hp, reason, hjoin⟩ | ⟨hp, hjoin⟩
  · rw [hjoin]
    dsimp only
    refine ⟨.inl ⟨hp, _, rfl⟩, ?_⟩
    apply Stopped.emit
    apply Stopped.note
    exact ⟨rfl, rfl, OutputImage.isZero_zero _, by rw [hp]; rfl,
      .of_follows (.of_call (.deactivate _))⟩
  · rw [hjoin]
    dsimp only
    refine ⟨.inr ⟨hp, rfl⟩, ?_⟩
    apply Stopped.emit
    apply Stopped.note
    exact ⟨rfl, rfl, OutputImage.isZero_zero _, by rw [hp]; rfl, .none _⟩

theorem stop_of_running {w : Worker (Exchange M)} (h : c.holding = .running w)
    (answer : Nat → Worker.Answer Readings) :
    let w' := w.requestStop.drain answer
    ((w'.hasPanicked = false ∧ ∃ summary, (c.stop answer).1 = .ok (some summary)) ∨
      (w'.hasPanicked = true ∧ (c.stop answer).1 = .error (.lifecycle .workerPanicked))) ∧
      Stopped w' (c.stop answer).2 := by
  unfold stop
  rw [h]
  obtain ⟨hout, hstopped⟩ :=
    settle_cases { c with state := .stopping } (w.finished_drain answer)
  refine ⟨?_, hstopped⟩
  rcases hout with ⟨hp, summary, hok⟩ | ⟨hp, herror⟩
  · exact .inl ⟨hp, summary, congrArg (Except.map some) hok⟩
  · exact .inr ⟨hp, congrArg (Except.map some) herror⟩

theorem stop_of_idle {c : Controller M} {master : Option M} {shared : Shared}
    (h : c.holding = .idle master shared) (hstate : c.state = .idle) (answer : Nat → Worker.Answer Readings) :
    c.stop answer = (.ok none, c) := by
  obtain ⟨state, holding, log⟩ := c
  cases h
  cases hstate
  rfl

/-- What some steps of a worker leave of the session: all of it, unless the worker panicked. -/
theorem session?_of_steps {c : Controller M} {w w' : Worker (Exchange M)} {after : Option M}
    (hold : c.holding = .running w) (hlater : w.hasPanicked = true → w'.hasPanicked = true)
    (hfollows : Follows w.body.master w'.body.master) (hkept : after.isSome = !w'.hasPanicked)
    (hinherits : Inherits (some w'.body.master) after) :
    after.isSome = (c.session?.isSome && !w'.hasPanicked) ∧ Inherits c.session? after := by
  rw [session?_of_running hold, hkept]
  -- a worker that had panicked before has no session left to lose
  cases hp : w.hasPanicked with
  | false => exact ⟨rfl, (Inherits.of_follows hfollows).trans hinherits⟩
  | true =>
    rw [hlater hp] at hkept ⊢
    rw [Option.isNone_iff_eq_none.1 (Option.isSome_eq_false_iff.1 hkept)]
    exact ⟨rfl, .none _⟩

/-! ## Starting -/

/-- What a start leaves that found a session, or none: a refusal without a worker, or a new worker.
The session is still there, with the controller or with the worker. -/
structure StartedFrom (master : Option M) (outcome : Except EngineFault Unit) (c : Controller M) :
    Prop where
  outcome : ((∃ fault, outcome = .error fault) ∧ c.worker?.isSome = false) ∨
    (outcome = .ok () ∧ c.worker?.isSome = true ∧ master.isSome = true)
  orderly : c.Orderly
  kept : c.session?.isSome = master.isSome
  inherits : Inherits master c.session?

theorem StartedFrom.of_ends {host : Host} {config : CycleConfig} {session : Option M}
    {shared : Shared} {outcome : Except EngineFault Unit} {c : Controller M}
    (h : Ends host config session shared outcome c) : StartedFrom session outcome c := by
  cases outcome with
  | error fault =>
    have hrefused := h.refused fault rfl
    have hmaster := master?_eq_session? hrefused.worker
    refine ⟨.inl ⟨⟨fault, rfl⟩, by rw [hrefused.worker]; rfl⟩, hrefused.orderly, ?_, ?_⟩
    · rw [← hmaster]
      exact hrefused.isSome_master?
    · rw [← hmaster]
      rcases hrefused.session with ⟨-, hnone, -⟩ | ⟨m, m', rfl, hsome, hgiven⟩
      · rw [hnone]
        exact .none _
      · rw [hsome]
        exact .of_follows hgiven.follows
  | ok =>
    obtain ⟨hstate, -, m, m', trace, rfl, hprepared, hworker⟩ := h.launched rfl
    have hsession := session?_of_running (holding_of_worker?_eq_some hworker)
    refine ⟨.inr ⟨rfl, by rw [hworker]; rfl, rfl⟩, ?_, by rw [hsession]; rfl, ?_⟩
    · unfold Orderly
      rw [hworker]
      exact hstate
    · rw [hsession]
      exact .of_follows hprepared.active.follows

variable {c : Controller M} (host : Host) (config : CycleConfig)

/-! ## A start after what came before -/

variable (answer : Nat → Worker.Answer Readings)

/-- A worker that has ended is settled as it is; besides, something is written to the log. -/
theorem reap_eq_settle {w : Worker (Exchange M)} (h : c.holding = .running w)
    (hw : w.finished = true) :
    ∃ before after, c.reap answer =
      { (settle w.requestStop { c with state := .stopping, log := before }).2 with
        log := after } := by
  have hfinished : c.worker?.any (·.finished) = true := by
    rw [worker?_of_running h]
    exact hw
  have hstop (record : LogRecord) : (c.note record).stop answer =
      let settled := settle w.requestStop { c with state := .stopping, log := c.log.push record }
      (settled.1.map some, settled.2) := by
    rw [← Worker.drain_of_finished hw answer]
    unfold stop note
    dsimp only
    rw [h]
  unfold reap
  rw [if_pos hfinished]
  dsimp only
  rw [hstop]
  dsimp only
  cases (settle w.requestStop { c with state := .stopping, log := c.log.push _ }).1 with
  | ok summary => exact ⟨_, _, rfl⟩
  | error fault => exact ⟨_, _, rfl⟩

/-- A worker that has ended is joined first. -/
theorem reap_of_finished {w : Worker (Exchange M)} (h : c.holding = .running w)
    (hw : w.finished = true) : Stopped w (c.reap answer) := by
  obtain ⟨before, after, heq⟩ := reap_eq_settle answer h hw
  obtain ⟨-, hstopped⟩ :=
    settle_cases { c with state := .stopping, log := before } (w := w.requestStop) hw
  rw [heq]
  exact ⟨hstopped.state, hstopped.worker, hstopped.zero, hstopped.kept, hstopped.inherits⟩

/-- Without an ended worker there is nothing to join. -/
theorem reap_of_not_finished (h : c.worker?.any (·.finished) = false) : c.reap answer = c := by
  unfold reap
  rw [h]
  rfl

/-- A live worker refuses a start, which changes nothing. -/
theorem start_of_isRunning (h : c.isRunning = true) :
    c.start host answer config = (.error (.lifecycle .alreadyRunning), c) := by
  unfold isRunning at h
  have hreap : c.reap answer = c := by
    refine reap_of_not_finished answer ?_
    cases hw : c.worker? with
    | none => rfl
    | some w => simpa [hw] using h
  unfold start
  rw [hreap]
  cases hold : c.holding with
  | idle master shared =>
    rw [worker?_of_idle hold] at h
    cases h
  | running w =>
    dsimp only
    rw [hold]
    cases c.state <;> rfl

/-- Without a live worker, what a start finds first is made idle and keeps the session. -/
theorem reap_of_not_isRunning (hc : c.Orderly) (h : c.isRunning = false) :
    (c.reap answer).state = .idle ∧ (c.reap answer).worker? = none ∧
      (c.reap answer).session?.isSome = c.session?.isSome ∧
      Inherits c.session? (c.reap answer).session? := by
  cases hold : c.holding with
  | idle master shared =>
    have hworker := worker?_of_idle hold
    rw [reap_of_not_finished answer (by rw [hworker]; rfl)]
    exact ⟨by rw [hc, hworker]; rfl, hworker, rfl, .refl _⟩
  | running w =>
    have hw : w.finished = true := by simpa [isRunning, worker?_of_running hold] using h
    have hstopped := reap_of_finished answer hold hw
    obtain ⟨hkept, hinherits⟩ := session?_of_steps hold id (.refl _) hstopped.kept
      hstopped.inherits
    refine ⟨hstopped.state, hstopped.worker, ?_, hinherits⟩
    rw [hkept, session?_of_running hold]
    cases w.hasPanicked <;> rfl

/-- A start without a live worker is one from idle, once an ended worker was joined. -/
theorem ends_start (hc : c.Orderly) (h : c.isRunning = false) :
    Ends host config (c.reap answer).master? (c.reap answer).shared (c.start host answer config).1
      (c.start host answer config).2 := by
  obtain ⟨hstate, hworker, -⟩ := reap_of_not_isRunning answer hc h
  obtain ⟨shared, hold⟩ := holding_of_worker? hworker
  have hidle := ends_startIdle hstate host config hold
  rw [master?_eq_session? hworker, shared_of_idle hold]
  unfold start
  dsimp only
  rw [hstate, hold]
  exact hidle

theorem start_of_not_isRunning (hc : c.Orderly) (h : c.isRunning = false) :
    StartedFrom c.session? (c.start host answer config).1 (c.start host answer config).2 := by
  obtain ⟨-, hworker, hkept, hinherits⟩ := reap_of_not_isRunning answer hc h
  have hstarted := StartedFrom.of_ends (ends_start host config answer hc h)
  rw [master?_eq_session? hworker] at hstarted
  exact ⟨hkept ▸ hstarted.outcome, hstarted.orderly, hstarted.kept.trans hkept,
    hinherits.trans hstarted.inherits⟩

end Controller

/-! ## Runs -/

/-- A call of a controller, or one step of its worker. -/
inductive ControllerCall where
  | start (host : Host) (answer : Nat → Worker.Answer Readings) (config : CycleConfig)
  | stop (answer : Nat → Worker.Answer Readings)
  | command (device : Nat) (bytes : List UInt8)
  | work (answer : Worker.Answer Readings)

namespace Controller

variable {M : Type} [MasterSession M]

def call (c : Controller M) : ControllerCall → Controller M
  | .start host answer config => (c.start host answer config).2
  | .stop answer => (c.stop answer).2
  | .command device bytes => (c.command device bytes).2
  | .work answer => c.stepWorker answer

/-- Whether the worker panics in a step, or in the steps that a stop waits for. -/
def panics (c : Controller M) : ControllerCall → Bool
  | .stop answer => c.worker?.any fun w => (w.requestStop.drain answer).hasPanicked
  | .work answer => c.worker?.any fun w => (w.step answer).hasPanicked
  | _ => false

/-- What one call keeps. -/
@[mk_iff]
structure CallKeeps (c : Controller M) (x : ControllerCall) : Prop where
  orderly : (c.call x).Orderly
  held : (c.call x).session?.isSome = (c.session?.isSome && !c.panics x)
  inherits : Inherits c.session? (c.call x).session?

theorem callKeeps_start {c : Controller M} (hc : c.Orderly) (host : Host)
    (answer : Nat → Worker.Answer Readings) (config : CycleConfig) :
    c.CallKeeps (.start host answer config) := by
  cases h : c.isRunning with
  | true =>
    have hsame : c.call (.start host answer config) = c :=
      congrArg Prod.snd (start_of_isRunning host config answer h)
    rw [callKeeps_iff, hsame]
    exact ⟨hc, (Bool.and_true _).symm, .refl _⟩
  | false =>
    have hstart := start_of_not_isRunning host config answer hc h
    exact ⟨hstart.orderly, hstart.kept.trans (Bool.and_true _).symm, hstart.inherits⟩

theorem callKeeps_stop {c : Controller M} (hc : c.Orderly)
    (answer : Nat → Worker.Answer Readings) : c.CallKeeps (.stop answer) := by
  cases hold : c.holding with
  | idle master shared =>
    have hworker := worker?_of_idle hold
    have hstate : c.state = .idle := by
      rw [hc, hworker]
      rfl
    have hsame : c.call (.stop answer) = c := congrArg Prod.snd (stop_of_idle hold hstate answer)
    rw [callKeeps_iff, hsame, panics, hworker]
    exact ⟨hc, (Bool.and_true _).symm, .refl _⟩
  | running w =>
    have hworker := worker?_of_running hold
    obtain ⟨-, hstopped⟩ := stop_of_running c hold answer
    obtain ⟨hkept, hinherits⟩ := session?_of_steps hold (Worker.hasPanicked_drain · answer)
      (w.requestStop.follows_steps _) hstopped.kept hstopped.inherits
    refine ⟨?_, ?_, hinherits⟩
    · show (c.stop answer).2.state = _
      rw [hstopped.state, call, hstopped.worker]
      rfl
    · rw [panics, hworker]
      exact hkept

theorem callKeeps_command {c : Controller M} (hc : c.Orderly) (device : Nat)
    (bytes : List UInt8) : c.CallKeeps (.command device bytes) := by
  have hsame : (c.call (.command device bytes)).session? = c.session? := session?_mapShared c _
  rw [callKeeps_iff, hsame]
  exact ⟨hc.mapShared _, (Bool.and_true _).symm, .refl _⟩

theorem callKeeps_work {c : Controller M} (hc : c.Orderly) (answer : Worker.Answer Readings) :
    c.CallKeeps (.work answer) := by
  cases hold : c.holding with
  | idle master shared =>
    have hsame : c.call (.work answer) = c := by
      unfold call stepWorker
      rw [hold]
    have hworker := worker?_of_idle hold
    rw [callKeeps_iff, hsame, panics, hworker]
    exact ⟨hc, (Bool.and_true _).symm, .refl _⟩
  | running w =>
    have hcall : c.call (.work answer) = { c with holding := .running (w.step answer) } := by
      unfold call stepWorker
      rw [hold]
    have hworker := worker?_of_running hold
    have hlost (w : Worker (Exchange M)) :
        (if w.hasPanicked then none else some w.body.master).isSome = !w.hasPanicked ∧
          Inherits (some w.body.master) (if w.hasPanicked then none else some w.body.master) := by
      cases w.hasPanicked
      · exact ⟨rfl, .refl _⟩
      · exact ⟨rfl, .none _⟩
    obtain ⟨hkept, hinherits⟩ := session?_of_steps hold
      (fun h => (Worker.hasPanicked_step_iff w answer).2 (.inl h)) (w.follows_step answer)
      (hlost _).1 (hlost _).2
    rw [callKeeps_iff, hcall, panics, hworker]
    exact ⟨hc.trans (by rw [hworker]; rfl), hkept, hinherits⟩

/-- Every call keeps a controller orderly, and the session unless a worker panics. -/
theorem callKeeps {c : Controller M} (hc : c.Orderly) (x : ControllerCall) : c.CallKeeps x := by
  cases x with
  | start host answer config => exact callKeeps_start hc host answer config
  | stop answer => exact callKeeps_stop hc answer
  | command device bytes => exact callKeeps_command hc device bytes
  | work answer => exact callKeeps_work hc answer

/-- Without a session no start succeeds. -/
theorem start_of_lost {c : Controller M} (hc : c.Orderly) (h : c.session? = none) (host : Host)
    (answer : Nat → Worker.Answer Readings) (config : CycleConfig) :
    ∃ fault, (c.start host answer config).1 = .error fault := by
  cases hrunning : c.isRunning with
  | true =>
    rw [start_of_isRunning host config answer hrunning]
    exact ⟨_, rfl⟩
  | false =>
    rcases (start_of_not_isRunning host config answer hc hrunning).outcome with
      ⟨hrefused, -⟩ | ⟨-, -, hmaster⟩
    · exact hrefused
    · rw [h] at hmaster
      cases hmaster

end Controller

/-- A controller, and whether one of its workers has panicked. -/
structure ControllerRun (M : Type) where
  controller : Controller M
  panicked : Bool

namespace ControllerRun

variable {M : Type} [MasterSession M]

def fresh (master : M) (topology : Topology) (trace : Trace) : ControllerRun M :=
  ⟨.ofMaster master topology trace, false⟩

def call (r : ControllerRun M) (x : ControllerCall) : ControllerRun M :=
  ⟨r.controller.call x, r.panicked || r.controller.panics x⟩

def calls (r : ControllerRun M) (xs : List ControllerCall) : ControllerRun M := xs.foldl call r

theorem panicked_calls {r : ControllerRun M} (h : r.panicked = true) (xs : List ControllerCall) :
    (r.calls xs).panicked = true := by
  induction xs generalizing r with
  | nil => exact h
  | cons x xs ih =>
    refine ih (r := r.call x) ?_
    show (r.panicked || r.controller.panics x) = true
    rw [h]
    rfl

end ControllerRun

/-- What holds of a run that began with a session: it is there until a worker panics. -/
structure CustodyInv {M : Type} [MasterSession M] (master : M) (r : ControllerRun M) : Prop where
  orderly : r.controller.Orderly
  held : r.controller.session?.isSome = !r.panicked
  inherits : Inherits (some master) r.controller.session?

namespace CustodyInv

variable {M : Type} [MasterSession M] {master : M} {r : ControllerRun M}

theorem fresh (master : M) (topology : Topology) (trace : Trace) :
    CustodyInv master (.fresh master topology trace) := ⟨rfl, rfl, .refl _⟩

theorem call (inv : CustodyInv master r) (x : ControllerCall) : CustodyInv master (r.call x) := by
  have hkeeps := Controller.callKeeps inv.orderly x
  refine ⟨hkeeps.orderly, ?_, inv.inherits.trans hkeeps.inherits⟩
  show (r.controller.call x).session?.isSome = !(r.panicked || r.controller.panics x)
  rw [hkeeps.held, inv.held, Bool.not_or]

theorem calls (inv : CustodyInv master r) (xs : List ControllerCall) :
    CustodyInv master (r.calls xs) := by
  induction xs generalizing r with
  | nil => exact inv
  | cons x xs ih => exact ih (inv.call x)

end CustodyInv

/-! ## Every run -/

/-- Neither the controller nor a worker holds a session. -/
def Controller.Lost {M : Type} (c : Controller M) : Prop :=
  c.master? = none ∧ ∀ w, c.worker? = some w → w.hasPanicked = true

/-- The controller holds the session, or a worker that was not joined does, or a worker panicked and
it is lost. -/
def Custody {M : Type} [MasterSession M] (master : M) (r : ControllerRun M) : Prop :=
  (r.panicked = false ∧ r.controller.worker? = none ∧
      ∃ m, r.controller.master? = some m ∧ Follows master m) ∨
    (r.panicked = false ∧ r.controller.master? = none ∧
      ∃ w, r.controller.worker? = some w ∧ w.hasPanicked = false ∧ Follows master w.body.master) ∨
    (r.panicked = true ∧ r.controller.Lost)

/-- How a controller keeps its session and its outputs after some calls. -/
structure InOrder {M : Type} [MasterSession M] (master : M) (r : ControllerRun M) : Prop where
  idle_iff : r.controller.state = .idle ↔ r.controller.worker? = none
  running_iff : r.controller.state = .running ↔ r.controller.worker?.isSome = true
  custody : Custody master r
  /-- Once a worker has panicked, the session is lost for good. -/
  lost : r.panicked = true → ∀ xs host answer config, (r.calls xs).controller.Lost ∧
      ∃ fault, ((r.calls xs).controller.start host answer config).1 = .error fault
  /-- A stop ends idle with zero outputs, and another one finds nothing to do. -/
  stopped : r.controller.state ≠ .idle → ∀ answer,
    ((∃ summary, (r.controller.stop answer).1 = .ok (some summary)) ∨
      (r.controller.stop answer).1 = .error (.lifecycle .workerPanicked)) ∧
      (r.controller.stop answer).2.state = .idle ∧
      (r.controller.stop answer).2.isRunning = false ∧
      (r.controller.stop answer).2.shared.data.image.isZero = true ∧
      ∀ again, (r.controller.stop answer).2.stop again = (.ok none, (r.controller.stop answer).2)
  /-- A live worker refuses a start, which leaves everything as it is. -/
  live : r.controller.isRunning = true → ∀ host answer config,
    r.controller.start host answer config =
      (.error (.lifecycle .alreadyRunning), r.controller)

namespace CustodyInv

variable {M : Type} [MasterSession M] {master : M} {r : ControllerRun M}
  (inv : CustodyInv master r)

include inv

theorem custody_of_idle {session : Option M} {shared : Shared}
    (hold : r.controller.holding = .idle session shared) : Custody master r := by
  have hworker := Controller.worker?_of_idle hold
  have hsession : r.controller.session? = session := by
    unfold Controller.session?
    rw [hold]
  have hmaster : r.controller.master? = session := by
    unfold Controller.master?
    rw [hold]
  have hheld := inv.held
  rw [hsession] at hheld
  cases hp : r.panicked with
  | false =>
    rw [hp] at hheld
    obtain ⟨m, hm⟩ := Option.isSome_iff_exists.1 hheld
    obtain ⟨_, ⟨⟩, hfollows⟩ := inv.inherits m (hsession.trans hm)
    exact .inl ⟨hp, hworker, m, hmaster.trans hm, hfollows⟩
  | true =>
    rw [hp] at hheld
    have hnone := Option.isNone_iff_eq_none.1 (Option.isSome_eq_false_iff.1 hheld)
    refine .inr (.inr ⟨hp, hmaster.trans hnone, fun w hw => ?_⟩)
    cases hworker.symm.trans hw

theorem custody_of_running {w : Worker (Exchange M)}
    (hold : r.controller.holding = .running w) : Custody master r := by
  have hworker := Controller.worker?_of_running hold
  have hsession := Controller.session?_of_running hold
  have hmaster : r.controller.master? = none := by
    unfold Controller.master?
    rw [hold]
  have hheld := inv.held
  rw [hsession] at hheld
  cases hw : w.hasPanicked with
  | false =>
    rw [hw] at hheld hsession
    obtain ⟨_, ⟨⟩, hfollows⟩ := inv.inherits w.body.master hsession
    exact .inr (.inl ⟨by simpa using hheld, hmaster, w, hworker, hw, hfollows⟩)
  | true =>
    rw [hw] at hheld
    refine .inr (.inr ⟨by simpa using hheld, hmaster, fun w' hw' => ?_⟩)
    cases hworker.symm.trans hw'
    exact hw

theorem custody : Custody master r := by
  cases hold : r.controller.holding with
  | idle session shared => exact inv.custody_of_idle hold
  | running w => exact inv.custody_of_running hold

/-- A controller that is not idle has a worker to join. -/
theorem stop_of_not_idle (hstate : r.controller.state ≠ .idle)
    (answer : Nat → Worker.Answer Readings) :
    ((∃ summary, (r.controller.stop answer).1 = .ok (some summary)) ∨
      (r.controller.stop answer).1 = .error (.lifecycle .workerPanicked)) ∧
      ∃ w, Controller.Stopped w (r.controller.stop answer).2 := by
  cases hold : r.controller.holding with
  | idle session shared =>
    refine absurd ?_ hstate
    rw [inv.orderly, Controller.worker?_of_idle hold]
    rfl
  | running w =>
    obtain ⟨hout, hstopped⟩ := Controller.stop_of_running r.controller hold answer
    refine ⟨?_, _, hstopped⟩
    rcases hout with ⟨-, hsummary⟩ | ⟨-, herror⟩
    · exact .inl hsummary
    · exact .inr herror

end CustodyInv

/-- **A controller keeps its session in order**, over any starts, stops and commands and whatever its
workers do meanwhile. -/
theorem calls_inOrder {M : Type} [MasterSession M] (master : M) (topology : Topology)
    (trace : Trace) (xs : List ControllerCall) :
    InOrder master ((ControllerRun.fresh master topology trace).calls xs) := by
  have inv : CustodyInv master ((ControllerRun.fresh master topology trace).calls xs) :=
    (CustodyInv.fresh master topology trace).calls xs
  generalize (ControllerRun.fresh master topology trace).calls xs = r at inv
  have hstate := inv.orderly
  refine ⟨?_, ?_, inv.custody, ?_, ?_, ?_⟩
  · rw [hstate]
    cases r.controller.worker? <;> simp
  · rw [hstate]
    cases r.controller.worker? <;> simp
  · intro hp later host answer config
    have hlater := inv.calls later
    have hpanicked := ControllerRun.panicked_calls hp later
    have hlost : (r.calls later).controller.session? = none := by
      simpa [hpanicked] using hlater.held
    refine ⟨?_, Controller.start_of_lost hlater.orderly hlost host answer config⟩
    rcases hlater.custody with ⟨hwhole, -⟩ | ⟨hwhole, -⟩ | ⟨-, hlost⟩
    · cases hpanicked.symm.trans hwhole
    · cases hpanicked.symm.trans hwhole
    · exact hlost
  · intro hidle answer
    obtain ⟨hout, w, hstopped⟩ := inv.stop_of_not_idle hidle answer
    obtain ⟨shared, hold⟩ := Controller.holding_of_worker? hstopped.worker
    refine ⟨hout, hstopped.state, ?_, hstopped.zero, Controller.stop_of_idle hold hstopped.state⟩
    rw [Controller.isRunning, hstopped.worker]
    rfl
  · intro hrunning host answer config
    exact Controller.start_of_isRunning host config answer hrunning

/-- A worker that is started, commanded, and panics in its first cycle. -/
def panickingStart : List ControllerCall :=
  let answer (panics : Bool) : Worker.Answer Readings := ⟨1000, true, panics, .still 1000⟩
  [.start .withoutPrivileges (fun _ => answer false) (.unprivileged 1000), .command 0 [1, 2]] ++
    List.replicate 6 (.work (answer true))

theorem calls_inOrder_of_panickingStart :
    let master := ScriptedMaster.ofDomainSize 8
    let r := (ControllerRun.fresh master .pair (.ofSink .null)).calls panickingStart
    InOrder master r ∧ r.panicked = true ∧ r.controller.state = .running ∧
      r.controller.isRunning = false ∧ r.controller.shared.data.image.devices = [[1, 2], [0, 0]] :=
  ⟨calls_inOrder _ _ _ _, by decide +kernel, by decide +kernel, by decide +kernel,
    by decide +kernel⟩

end CyclicBus

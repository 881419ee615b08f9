import CyclicBus.Controller
import CyclicBus.Proofs.Config.Validated
import CyclicBus.Proofs.Worker.Stopping

/-!
# The stages of a start

A start takes the session in stages, and each of them may refuse it. `Ends` says all that a start
from idle may do, with what each stage has found: it is refused, and the controller is idle again
with the process data as they were and with its session, which is deactivated exactly where it had
been activated; or a worker is launched on them. `ends_startIdle` goes through the stages once for
all that is known of starts.
-/

namespace CyclicBus

variable {M : Type}

/-! ## Views -/

namespace Controller

/-- The session, wherever it is. A worker that panicked has lost it. -/
def session? (c : Controller M) : Option M :=
  match c.holding with
  | .idle master _ => master
  | .running w => if w.hasPanicked then none else some w.body.master

/-- The state shows whether there is a worker to join, and is never between the two. -/
def Orderly (c : Controller M) : Prop := c.state = if c.worker?.isSome then .running else .idle

section Holding

variable {c : Controller M} {master : Option M} {shared : Shared} {w : Worker (Exchange M)}

theorem worker?_of_idle (h : c.holding = .idle master shared) : c.worker? = none := by
  unfold worker?
  rw [h]

theorem master?_of_idle (h : c.holding = .idle master shared) : c.master? = master := by
  unfold master?
  rw [h]

theorem shared_of_idle (h : c.holding = .idle master shared) : c.shared = shared := by
  unfold Controller.shared
  rw [h]

theorem worker?_of_running (h : c.holding = .running w) : c.worker? = some w := by
  unfold worker?
  rw [h]

theorem shared_of_running (h : c.holding = .running w) : c.shared = w.body.shared := by
  unfold Controller.shared
  rw [h]

theorem session?_of_running (h : c.holding = .running w) :
    c.session? = if w.hasPanicked then none else some w.body.master := by
  unfold session?
  rw [h]

theorem holding_of_worker? (h : c.worker? = none) :
    ∃ shared, c.holding = .idle c.session? shared := by
  unfold session?
  cases hold : c.holding with
  | idle master shared => exact ⟨shared, rfl⟩
  | running w => cases h.symm.trans (worker?_of_running hold)

theorem holding_of_worker?_eq_some (h : c.worker? = some w) : c.holding = .running w := by
  cases hold : c.holding with
  | idle master shared => cases h.symm.trans (worker?_of_idle hold)
  | running w' =>
    cases h.symm.trans (worker?_of_running hold)
    rfl

theorem master?_eq_session? (h : c.worker? = none) : c.master? = c.session? := by
  obtain ⟨shared, hold⟩ := holding_of_worker? h
  exact master?_of_idle hold

end Holding

variable (c : Controller M) (f : Shared → Shared) (e : LifecycleEvent)

theorem worker?_emit :
    (c.emit e).worker? = c.worker?.map fun w =>
      { w with body.shared.trace := w.body.shared.trace.emitLifecycle e } := by
  unfold emit mapShared worker?
  cases c.holding <;> rfl

theorem master?_mapShared : (c.mapShared f).master? = c.master? := by
  unfold mapShared master?
  cases c.holding <;> rfl

@[simp] theorem session?_mapShared : (c.mapShared f).session? = c.session? := by
  unfold mapShared session?
  cases c.holding <;> rfl

@[simp] theorem session?_emit : (c.emit e).session? = c.session? := session?_mapShared c _

@[simp] theorem state_mapShared : (c.mapShared f).state = c.state := by
  unfold mapShared
  cases c.holding <;> rfl

@[simp] theorem state_emit : (c.emit e).state = c.state := state_mapShared c _

@[simp] theorem isSome_worker?_mapShared :
    (c.mapShared f).worker?.isSome = c.worker?.isSome := by
  unfold mapShared worker?
  cases c.holding <;> rfl

theorem topology_emit : (c.emit e).shared.topology = c.shared.topology := by
  unfold emit mapShared shared
  cases c.holding <;> rfl

theorem data_emit : (c.emit e).shared.data = c.shared.data := by
  unfold emit mapShared shared
  cases c.holding <;> rfl

theorem Orderly.mapShared {c : Controller M} (h : c.Orderly) (f : Shared → Shared) :
    (c.mapShared f).Orderly := by
  unfold Orderly
  rw [state_mapShared, isSome_worker?_mapShared]
  exact h

end Controller

/-! ## What the host answers -/

/-- What a host answers to the launch of a worker: whether it has a thread, then the setup. -/
def Host.grant (host : Host) (setup : ThreadSetup) : Except WorkerFault Unit :=
  match host.spawn with
  | some cause => .error (.spawn cause)
  | none => host.apply setup

theorem Worker.launch_eq_grant {B R : Type} [CycleBody B R] (host : Host) (config : Config)
    (body : B) :
    launch host config body =
      match host.grant config.setup with
      | .error fault => .error ⟨fault, some body⟩
      | .ok () => .ok (.ready config body) := by
  rw [launch_eq]
  unfold Host.grant
  cases host.spawn <;> cases host.apply config.setup <;> rfl

/-! ## How a start ends -/

variable [MasterSession M]

/-- A session that was selected and activated for a run. -/
def Activated (config : CycleConfig) (m m' : M) : Prop :=
  ∃ selected, MasterSession.selectReference config.referenceDevice m = (.ok (), selected) ∧
    MasterSession.activate selected = (.ok (), m')

/-- The session is active for a run, with a large enough domain. -/
structure Prepared (config : CycleConfig) (t : Topology) (m m' : M) : Prop where
  valid : config.validateWith t = .ok ()
  active : Activated config m m'
  holds : t.requiredSize.toNat ≤ (MasterSession.domain m').length

/-- What became of a session in a start that failed. -/
inductive GivenBack (host : Host) (config : CycleConfig) (t : Topology) :
    EngineFault → M → M → Prop where
  /-- Refused before the session was touched. -/
  | invalid {v : Violation} (m : M) (refused : config.validateWith t = .error v) :
      GivenBack host config t (.validation v) m m
  | rejected {cause : MasterFault} {m m' : M}
      (selection :
        MasterSession.selectReference config.referenceDevice m = (.error cause, m')) :
      GivenBack host config t
        (.lifecycle (.referenceClockRejected config.referenceDevice.toNat)) m m'
  | inactive {cause : MasterFault} {m selected m' : M}
      (selection :
        MasterSession.selectReference config.referenceDevice m = (.ok (), selected))
      (activation : MasterSession.activate selected = (.error cause, m')) :
      GivenBack host config t (.lifecycle (.activationFailed cause.message)) m m'
  | small {m m' : M} (active : Activated config m m')
      (short : (MasterSession.domain m').length < t.requiredSize.toNat) :
      GivenBack host config t
        (.lifecycle (.domainTooSmall t.requiredSize.toNat (MasterSession.domain m').length)) m
        (MasterSession.deactivate m')
  | unlaunched {fault : WorkerFault} {m m' : M} (active : Activated config m m')
      (refused : host.grant config.threadSetup = .error fault) :
      GivenBack host config t (.worker fault) m (MasterSession.deactivate m')

/-- What a failed start leaves that found `session` and `shared`. -/
structure Refused (host : Host) (config : CycleConfig) (fault : EngineFault) (session : Option M)
    (shared : Shared) (c : Controller M) : Prop where
  state : c.state = .idle
  worker : c.worker? = none
  topology : c.shared.topology = shared.topology
  /-- Outputs with their generation, the latest snapshot, and the subscribers. -/
  data : c.shared.data = shared.data
  session : (session = none ∧ c.master? = none ∧
      (fault = .lifecycle .masterUnavailable ∨
        ∃ v, fault = .validation v ∧ config.validateWith shared.topology = .error v)) ∨
    ∃ m m', session = some m ∧ c.master? = some m' ∧
      GivenBack host config shared.topology fault m m'

/-- What a start leaves that succeeded: a worker at the beginning of a run, on zero counters. -/
structure Launched (host : Host) (config : CycleConfig) (session : Option M) (topology : Topology)
    (data : ProcessData) (c : Controller M) : Prop where
  state : c.state = .running
  granted : host.grant config.threadSetup = .ok ()
  worker : ∃ m m' trace, session = some m ∧ Prepared config topology m m' ∧
    c.worker? = some (.ready config.workerConfig
      (Exchange.start m' ⟨topology, data, .zero, trace⟩ config))

/-- How a start ends that found `session` and `shared`. -/
structure Ends (host : Host) (config : CycleConfig) (session : Option M) (shared : Shared)
    (outcome : Except EngineFault Unit) (c : Controller M) : Prop where
  refused : ∀ fault, outcome = .error fault → Refused host config fault session shared c
  launched : outcome = .ok () → Launched host config session shared.topology shared.data c

variable {host : Host} {config : CycleConfig} {fault : EngineFault} {session : Option M}
  {shared : Shared} {c : Controller M}

namespace Refused

theorem orderly (h : Refused host config fault session shared c) : c.Orderly := by
  unfold Controller.Orderly
  rw [h.worker]
  exact h.state

theorem isSome_master? (h : Refused host config fault session shared c) :
    c.master?.isSome = session.isSome := by
  rcases h.session with ⟨rfl, hmaster, -⟩ | ⟨m, m', rfl, hmaster, -⟩
  · rw [hmaster]
  · rw [hmaster, Option.isSome_some, Option.isSome_some]

theorem note (h : Refused host config fault session shared c) (record : LogRecord) :
    Refused host config fault session shared (c.note record) :=
  ⟨h.state, h.worker, h.topology, h.data, h.session⟩

theorem emit (h : Refused host config fault session shared c) (e : LifecycleEvent) :
    Refused host config fault session shared (c.emit e) where
  state := (c.state_emit e).trans h.state
  worker := by
    rw [c.worker?_emit, h.worker]
    rfl
  topology := (c.topology_emit e).trans h.topology
  data := (c.data_emit e).trans h.data
  session := by
    have hmaster : (c.emit e).master? = c.master? := c.master?_mapShared _
    rw [hmaster]
    exact h.session

theorem held {m m' : M} (hstate : c.state = .idle)
    (hgiven : GivenBack host config shared.topology fault m m') (counters : RunCounters) :
    Refused host config fault (some m) shared
      { c with holding := .idle (some m') { shared with counters } } :=
  ⟨hstate, rfl, rfl, rfl, .inr ⟨m, m', rfl, rfl, hgiven⟩⟩

end Refused

theorem Launched.emit {topology : Topology} {data : ProcessData}
    (h : Launched host config session topology data c) (e : LifecycleEvent) :
    Launched host config session topology data (c.emit e) := by
  obtain ⟨hstate, hgranted, m, m', trace, hsession, hprepared, hworker⟩ := h
  refine ⟨(c.state_emit e).trans hstate, hgranted, m, m', trace.emitLifecycle e, hsession,
    hprepared, ?_⟩
  rw [c.worker?_emit, hworker]
  rfl

/-- A stage that fails ends the start. -/
theorem Ends.of_refused (h : Refused host config fault session shared c) :
    Ends host config session shared (.error fault) c := by
  refine ⟨?_, nofun⟩
  rintro _ ⟨⟩
  exact h

/-! ## One stage after the other -/

namespace Controller

variable (hstate : c.state = .idle) (valid : config.validateWith shared.topology = .ok ())
  {m m' : M}

include hstate

theorem ends_launch (prepared : Prepared config shared.topology m m') :
    Ends host config (some m) shared (launch host config config.workerConfig m' shared c).1
      (launch host config config.workerConfig m' shared c).2 := by
  unfold launch
  dsimp only
  rw [Worker.launch_eq_grant]
  cases hgrant : host.grant config.threadSetup with
  | error fault =>
    have hgiven : Refused host config (.worker fault) (some m) shared _ :=
      .held hstate (.unlaunched prepared.active hgrant) .zero
    rw [show host.grant config.workerConfig.setup = _ from hgrant]
    exact .of_refused ((hgiven.note _).emit _)
  | ok =>
    rw [show host.grant config.workerConfig.setup = _ from hgrant]
    refine ⟨nofun, fun _ => ?_⟩
    dsimp only
    apply Launched.emit
    exact ⟨rfl, hgrant, m, m', shared.trace, rfl, prepared, rfl⟩

include valid

theorem ends_startActive (active : Activated config m m') :
    Ends host config (some m) shared (startActive host config config.workerConfig m' shared c).1
      (startActive host config config.workerConfig m' shared c).2 := by
  unfold startActive
  dsimp only
  split
  · rename_i short
    exact .of_refused (.held hstate (.small active short) shared.counters)
  · rename_i long
    exact ends_launch hstate ⟨valid, active, Nat.le_of_not_lt long⟩

theorem ends_startSession (m : M) :
    Ends host config (some m) shared (startSession host config config.workerConfig m shared c).1
      (startSession host config config.workerConfig m shared c).2 := by
  unfold startSession
  split
  · rename_i cause selected hselect
    have hheld : Refused host config _ (some m) shared _ :=
      .held hstate (.rejected hselect) shared.counters
    exact .of_refused (hheld.note _)
  · rename_i selected hselect
    split
    · rename_i cause m' hactivate
      have hheld : Refused host config _ (some m) shared _ :=
        .held hstate (.inactive hselect hactivate) shared.counters
      exact .of_refused ((hheld.note _).emit _)
    · rename_i m' hactivate
      exact ends_startActive (c := { c with log := c.log ++ MasterSession.activationRecords m' })
        hstate valid ⟨selected, hselect, hactivate⟩

omit valid

theorem ends_startIdle (host : Host) (config : CycleConfig)
    (hold : c.holding = .idle session shared) :
    Ends host config session shared (startIdle host config session shared c).1
      (startIdle host config session shared c).2 := by
  have hmaster := master?_of_idle hold
  have hshared := shared_of_idle hold
  have hkept (fault : EngineFault) (hsession) : Refused host config fault session shared c :=
    ⟨hstate, worker?_of_idle hold, by rw [hshared], by rw [hshared], hsession⟩
  unfold startIdle
  cases hvalid : config.validateWith shared.topology with
  | error v =>
    refine .of_refused (hkept _ ?_)
    cases session with
    | none => exact .inl ⟨rfl, hmaster, .inr ⟨v, rfl, hvalid⟩⟩
    | some m => exact .inr ⟨m, m, rfl, hmaster, .invalid m hvalid⟩
  | ok =>
    rw [CycleConfig.configure_workerConfig (CycleConfig.validate_of_validateWith hvalid)]
    cases session with
    | none => exact .of_refused (hkept _ (.inl ⟨rfl, hmaster, .inl rfl⟩))
    | some m => exact ends_startSession hstate hvalid m

end Controller

end CyclicBus

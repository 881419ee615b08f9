import CyclicBus.Command.Work
import CyclicBus.Proofs.Bus.DomainBytes
import CyclicBus.Proofs.Controller.Custody

/-!
# Accepted documents

A document is checked once, and a start on its simulated bus checks again: the configuration, the
worker that it asks for, the reference device, the domain. `start_of_accepted`: none of these says
anything new, also after what the command line overrides, so that only the host may refuse.
-/

namespace CyclicBus

/-! ## What is accepted -/

/-- An accepted document has a cycle section that its topology passes, and a domain that holds every
range. -/
theorem Document.of_validate {d : Document} {t : Topology} (h : d.validate = .ok t) :
    d.cycle.validateWith t = .ok () ∧ t.requiredSize.toNat ≤ (d.effectiveSize t).toNat := by
  obtain ⟨-, hcycle, hsize, -⟩ := (d.validate_eq_ok_iff t).1 h
  refine ⟨hcycle, ?_⟩
  unfold checkSize at hsize
  unfold effectiveSize
  cases hdeclared : d.domainSize with
  | none => exact Nat.le_refl _
  | some size =>
    rw [hdeclared] at hsize
    exact Topology.requiredSize_le hsize

/-- A run that is given a bound is given a positive one. -/
def RunOptions.Bounded (o : RunOptions) : Prop := o.durationMs ≠ some 0

instance (o : RunOptions) : Decidable o.Bounded := inferInstanceAs (Decidable (_ ≠ _))

namespace CycleConfig.Valid

variable {c : CycleConfig}

/-- What needs no privileges needs no check. -/
theorem withoutPrivileges (h : c.Valid) : c.withoutPrivileges.Valid :=
  ⟨h.period, h.window, h.polls, h.duration, rfl⟩

theorem override (h : c.Valid) {o : RunOptions} (bounded : o.Bounded) : (o.override c).Valid := by
  have hbounded :
      (if o.durationMs.isSome then { c with runDuration := o.durationMs } else c).Valid := by
    split
    · exact ⟨h.period, h.window, h.polls, bounded, h.setup⟩
    · exact h
  unfold RunOptions.override
  dsimp only
  split
  · exact hbounded.withoutPrivileges
  · exact hbounded

end CycleConfig.Valid

namespace RunOptions

variable (o : RunOptions) (c : CycleConfig)

theorem referenceDevice_override : (o.override c).referenceDevice = c.referenceDevice := by
  unfold override CycleConfig.withoutPrivileges
  cases o.unprivileged <;> cases o.durationMs.isSome <;> rfl

theorem threadSetup_override (h : o.unprivileged = true) :
    (o.override c).threadSetup = { ThreadSetup.inherited with clock := c.clock } := by
  unfold override
  dsimp only
  rw [if_pos h]
  cases o.durationMs.isSome <;> rfl

theorem validateWith_override {o : RunOptions} {c : CycleConfig} {t : Topology}
    (h : c.validateWith t = .ok ()) (bounded : o.Bounded) :
    (o.override c).validateWith t = .ok () := by
  obtain ⟨hvalid, hreference⟩ := CycleConfig.validateWith_eq_ok_iff.1 h
  rw [CycleConfig.validateWith_eq_ok_iff, referenceDevice_override]
  exact ⟨hvalid.override bounded, hreference⟩

end RunOptions

/-! ## What the host answers -/

namespace Host

/-- A refusal of the host. -/
inductive Refusal : WorkerFault → Prop where
  | spawn (cause : SystemFault) : Refusal (.spawn cause)
  | setup (stage : SetupStage) (cause : SystemFault) : Refusal (.setup stage cause)

/-- Whatever these requests fail with is a refusal. -/
def MayRefuse (requests : Except WorkerFault Unit) : Prop :=
  ∀ fault, requests = .error fault → Refusal fault

namespace MayRefuse

theorem ok : MayRefuse (.ok ()) := nofun

theorem stage (s : SetupStage) (cause : Option SystemFault) : MayRefuse (Host.stage s cause) := by
  cases cause with
  | none => exact .ok
  | some cause =>
    rintro _ ⟨⟩
    exact .setup s cause

theorem seq {x y : Except WorkerFault Unit} (hx : MayRefuse x) (hy : MayRefuse y) :
    MayRefuse (do x; y) := by
  cases x with
  | error fault => exact hx
  | ok => exact hy

theorem applyPolicy (h : Host) (p : Policy) : MayRefuse (h.applyPolicy p) := by
  cases p with
  | inherit => exact .ok
  | fixedPriority priority => exact .stage _ _
  | deadline runtime limit period => exact .stage _ _

theorem apply (h : Host) (setup : ThreadSetup) : MayRefuse (h.apply setup) := by
  have hpolicy := applyPolicy h setup.policy
  unfold Host.apply
  cases setup.lockMemory <;> cases setup.processors.isEmpty
  · exact (stage _ _).seq hpolicy
  · exact hpolicy
  · exact (stage _ _).seq ((stage _ _).seq hpolicy)
  · exact (stage _ _).seq hpolicy

theorem grant (h : Host) (setup : ThreadSetup) : MayRefuse (h.grant setup) := by
  unfold Host.grant
  split
  · rintro _ ⟨⟩
    exact .spawn _
  · exact apply h setup

end MayRefuse

/-- A worker that asks for nothing is launched where there are threads. -/
theorem grant_of_inherited {h : Host} (hspawn : h.spawn = none) (clock : ClockSource) :
    h.grant { ThreadSetup.inherited with clock } = .ok () := by
  unfold grant
  rw [hspawn]
  rfl

end Host

/-! ## The simulated bus -/

/-- With a session that no stage refuses, a start ends as the host answers. -/
theorem Ends.outcome_eq {M : Type} [MasterSession M] {host : Host} {config : CycleConfig} {m m' : M}
    {shared : Shared} {outcome : Except EngineFault Unit} {c : Controller M}
    (h : Ends host config (some m) shared outcome c)
    (prepared : Prepared config shared.topology m m') :
    outcome = (host.grant config.threadSetup).mapError .worker := by
  obtain ⟨valid, ⟨selected, hselect, hactivate⟩, holds⟩ := prepared
  cases outcome with
  | ok =>
    rw [(h.launched rfl).granted]
    rfl
  | error fault =>
    rcases (h.refused fault rfl).session with ⟨hnone, -⟩ | ⟨_, m'', ⟨⟩, -, hgiven⟩
    · cases hnone
    · cases hgiven with
      | invalid _ refused => cases valid.symm.trans refused
      | rejected selection => cases hselect.symm.trans selection
      | inactive selection activation =>
        cases hselect.symm.trans selection
        cases hactivate.symm.trans activation
      | small active short =>
        obtain ⟨_, selection, activation⟩ := active
        cases hselect.symm.trans selection
        cases hactivate.symm.trans activation
        exact absurd short (Nat.not_lt.2 holds)
      | unlaunched active refused =>
        rw [refused]
        rfl

/-- A simulated bus without faults is activated with any reference device of its topology. -/
theorem SimulatedMaster.activated_ofDomainSize {config : CycleConfig} {t : Topology}
    (reference : config.referenceDevice.toNat < t.size) (size : Nat) (offset drift : Int64) :
    ∃ m' : SimulatedMaster, Activated config (.ofDomainSize t size offset drift) m' ∧
      (MasterSession.domain m').length = size := by
  let selected : SimulatedMaster :=
    { ofDomainSize t size offset drift with reference := some config.referenceDevice }
  refine ⟨{ selected with active := true, activations := 1 }, ⟨selected, ?_, rfl⟩, ?_⟩
  · show (if t.size ≤ config.referenceDevice.toNat then _ else _) = _
    rw [if_neg (Nat.not_le.2 reference)]
  · exact List.length_replicate

/-! ## Every accepted document -/

/-- The simulated bus of a document. -/
def RunOptions.master (o : RunOptions) (d : Document) (t : Topology) : SimulatedMaster :=
  .ofDomainSize t (d.effectiveSize t).toNat o.referenceOffset o.drift

/-- A prepared run is on the simulated bus of its document. -/
theorem RunOptions.of_prepare {o : RunOptions} {d : Document} {t : Topology} {run : PreparedRun}
    (h : o.prepare d t = .ok run) :
    ∃ sink record, run =
      ⟨o.override d.cycle, (Controller.ofMaster (o.master d t) t (.ofSink sink)).note record⟩ := by
  unfold prepare at h
  dsimp only at h
  split at h
  · obtain ⟨sink, -, ⟨⟩⟩ := (bind_eq_ok_iff _ _ _).1 h
    exact ⟨sink, _, rfl⟩
  · cases h

/-- **What was accepted once is not refused later.** On the simulated bus of an accepted document, and
with any options, a start fails only where the host has no thread or refuses the setup, so that an
unprivileged one does not fail where there are threads. A prepared run starts likewise. -/
theorem start_of_accepted {d : Document} {t : Topology} (accepted : d.validate = .ok t)
    {o : RunOptions} (bounded : o.Bounded) (host : Host) (answer : Nat → Worker.Answer Readings)
    (trace : Trace) :
    let config := o.override d.cycle
    let outcome := ((Controller.ofMaster (o.master d t) t trace).start host answer config).1
    outcome = (host.grant config.threadSetup).mapError .worker ∧
      (∀ fault, outcome = .error fault →
        ∃ refusal, fault = .worker refusal ∧ Host.Refusal refusal) ∧
      (o.unprivileged = true → host.spawn = none → outcome = .ok ()) ∧
      ∀ run, o.prepare d t = .ok run →
        (run.controller.start host answer run.cycle).1 = outcome := by
  intro config outcome
  obtain ⟨hcycle, hsize⟩ := Document.of_validate accepted
  have hvalid : config.validateWith t = .ok () := RunOptions.validateWith_override hcycle bounded
  obtain ⟨m', hactive, hlength⟩ := SimulatedMaster.activated_ofDomainSize
    (CycleConfig.validateWith_eq_ok_iff.1 hvalid).2 (d.effectiveSize t).toNat o.referenceOffset
    o.drift
  -- the log of a controller has no part in a start
  have hstart (trace : Trace) (log : Array LogRecord) :
      (Controller.start host answer config
        { Controller.ofMaster (o.master d t) t trace with log }).1 =
        (host.grant config.threadSetup).mapError .worker := by
    have hends := Controller.ends_start
      (c := { Controller.ofMaster (o.master d t) t trace with log }) host config answer rfl rfl
    exact hends.outcome_eq ⟨hvalid, hactive, hlength ▸ hsize⟩
  have houtcome : outcome = (host.grant config.threadSetup).mapError .worker := hstart trace #[]
  refine ⟨houtcome, fun fault hfault => ?_, fun hunprivileged hspawn => ?_, fun run hrun => ?_⟩
  · rw [houtcome] at hfault
    cases hgrant : host.grant config.threadSetup with
    | ok =>
      rw [hgrant] at hfault
      cases hfault
    | error refusal =>
      rw [hgrant] at hfault
      cases hfault
      exact ⟨refusal, rfl, Host.MayRefuse.grant _ _ _ hgrant⟩
  · rw [houtcome, o.threadSetup_override d.cycle hunprivileged, Host.grant_of_inherited hspawn]
    rfl
  · obtain ⟨sink, record, rfl⟩ := RunOptions.of_prepare hrun
    exact (hstart (.ofSink sink) _).trans houtcome.symm

/-- A document that asks for a fixed priority and locked memory. -/
def privilegedPair : Document where
  cycle := .standard
  devices := Topology.pair.devices
  sinkName := Document.standardSink
  domainSize := some 8

/-- A host that grants nothing but threads refuses this document its locked memory, and runs it
unprivileged. -/
theorem start_of_accepted_of_privilegedPair :
    let answer (_ : Nat) : Worker.Answer Readings := ⟨0, true, false, .still 0⟩
    let t := Topology.pair
    let d := privilegedPair
    let o : RunOptions := ⟨some 5, true, -7, 20⟩
    let config := o.override d.cycle
    let trace := Trace.ofSink .null
    let outcome (o : RunOptions) :=
      ((Controller.ofMaster (o.master d t) t trace).start .withoutPrivileges answer
        (o.override d.cycle)).1
    d.validate = .ok t ∧ o.Bounded ∧
      (outcome o = (Host.withoutPrivileges.grant config.threadSetup).mapError .worker ∧
        (∀ fault, outcome o = .error fault →
          ∃ refusal, fault = .worker refusal ∧ Host.Refusal refusal) ∧
        (o.unprivileged = true → Host.withoutPrivileges.spawn = none → outcome o = .ok ()) ∧
        ∀ run, o.prepare d t = .ok run →
          (run.controller.start .withoutPrivileges answer run.cycle).1 = outcome o) ∧
      outcome o = .ok () ∧ (o.prepare d t).toOption.isSome = true ∧
      outcome { o with unprivileged := false } =
        .error (.worker (.setup .memoryLock .notPermitted)) := by
  intro answer t d o config trace outcome
  have accepted : d.validate = .ok t := rfl
  have bounded : o.Bounded := by decide +kernel
  exact ⟨accepted, bounded, start_of_accepted accepted bounded .withoutPrivileges answer trace,
    by decide +kernel, by decide +kernel, by decide +kernel⟩

end CyclicBus

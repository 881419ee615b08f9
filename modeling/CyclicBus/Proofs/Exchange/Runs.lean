import CyclicBus.Proofs.Exchange.Sights
import CyclicBus.Proofs.Worker.BodyCalls

/-!
# Runs of a pipeline

A run of a pipeline is a list of happenings: the calls of its worker, with any interventions between
them. Its `sights` are what its cycles find, and `told` are the events that it gives to the trace,
both in order (`trace_happenings`). `isSome_polled_sights`: which cycles poll the master's health is
seen from their place in the run alone.
-/

namespace CyclicBus

/-- What others do to a pipeline between its calls: faults of the bus and their repair, and uses of
the process data. -/
structure Intervention (M : Type) where
  master : M → M
  data : ProcessData → ProcessData

/-- What happens to a pipeline. -/
abbrev PipelineHappening (M : Type) := Happening (Intervention M) Readings

namespace Exchange

variable {M : Type}

def intervene (i : Intervention M) (x : Exchange M) : Exchange M :=
  { x with master := i.master x.master, shared.data := i.data x.shared.data }

variable [MasterSession M]

def happen (x : Exchange M) (h : PipelineHappening M) : Exchange M := h.on intervene x

def happenings (x : Exchange M) (hs : List (PipelineHappening M)) : Exchange M := hs.foldl happen x

/-- What is found, if a cycle happens. -/
def found? (x : Exchange M) : PipelineHappening M → Option Sight
  | .call (.cycle context r) => some (x.sight context.cycle r)
  | _ => none

def events (x : Exchange M) : PipelineHappening M → List CycleEvent
  | .call (.cycle context r) =>
    x.notebook.events x.clock.params.clamp (x.sight context.cycle r)
  | .call (.overrun context exec) => [.deadlineOverrun context.cycle exec context.period]
  | .call (.window context w) =>
    [.timingWindow context.cycle w.exec.samples w.period.greatest w.exec.greatest
      w.latency.greatest w.overruns]
  | .outside _ => []

/-- What the cycles of a run find, in order. -/
def sights (x : Exchange M) : List (PipelineHappening M) → List Sight
  | [] => []
  | h :: hs => (x.found? h).toList ++ (x.happen h).sights hs

/-- The events of a run, in order. -/
def told (x : Exchange M) : List (PipelineHappening M) → List CycleEvent
  | [] => []
  | h :: hs => x.events h ++ (x.happen h).told hs

theorem trace_happen (x : Exchange M) (h : PipelineHappening M) :
    (x.happen h).shared.trace = x.shared.trace.emitCycles (x.events h) := by
  match h with
  | .call (.cycle context r) =>
    have htrace := congrArg Notebook.trace (notebook_execute x context.cycle r)
    exact htrace.trans (Notebook.trace_enter _ _ _)
  | .call (.overrun context exec) => rfl
  | .call (.window context w) => rfl
  | .outside i => rfl

/-- The trace of a run is told the events of the run. -/
theorem trace_happenings (x : Exchange M) (hs : List (PipelineHappening M)) :
    (x.happenings hs).shared.trace = x.shared.trace.emitCycles (x.told hs) := by
  induction hs generalizing x with
  | nil => rfl
  | cons h hs ih =>
    show ((x.happen h).happenings hs).shared.trace = _
    rw [ih, trace_happen, told, Trace.emitCycles_append]

/-! ## Cycles and asides -/

/-- Induction over a run: at its end, at a cycle, and at anything else, which is no sight. -/
theorem run_induction {P : Exchange M → List (PipelineHappening M) → Prop} (nil : ∀ x, P x [])
    (cycle : ∀ x context r hs, P (x.execute context.cycle r) hs →
      P x (.call (.cycle context r) :: hs))
    (aside : ∀ x h hs, x.found? h = none → P (x.happen h) hs → P x (h :: hs)) (x : Exchange M)
    (hs : List (PipelineHappening M)) : P x hs := by
  induction hs generalizing x with
  | nil => exact nil x
  | cons h hs ih =>
    match h with
    | .call (.cycle context r) => exact cycle x context r hs (ih _)
    | .call (.overrun context exec) => exact aside x _ hs rfl (ih _)
    | .call (.window context w) => exact aside x _ hs rfl (ih _)
    | .outside i => exact aside x _ hs rfl (ih _)

theorem sights_cycle (x : Exchange M) (context : CycleContext) (r : Readings)
    (hs : List (PipelineHappening M)) :
    x.sights (.call (.cycle context r) :: hs) =
      x.sight context.cycle r :: (x.execute context.cycle r).sights hs := rfl

theorem sights_aside {x : Exchange M} {h : PipelineHappening M} (aside : x.found? h = none)
    (hs : List (PipelineHappening M)) : x.sights (h :: hs) = (x.happen h).sights hs := by
  rw [sights, aside]
  rfl

/-- Aside from the cycles only overruns and windows are reported. -/
theorem filter_events_aside {x : Exchange M} {h : PipelineHappening M} (aside : x.found? h = none)
    {o : CycleEvent.Subject} (hoverrun : o ≠ .overrun) (hwindow : o ≠ .window) :
    (x.events h).filter (·.subject = o) = [] := by
  match h with
  | .call (.cycle context r) => cases aside
  | .call (.overrun context exec) => simp [events, CycleEvent.subject, hoverrun.symm]
  | .call (.window context w) => simp [events, CycleEvent.subject, hwindow.symm]
  | .outside i => rfl

theorem length_sights (x : Exchange M) (hs : List (PipelineHappening M)) :
    (x.sights hs).length = hs.countP Happening.isCycle := by
  induction x, hs using run_induction with
  | nil x => rfl
  | cycle x context r hs ih =>
    rw [sights_cycle, List.length_cons, ih, List.countP_cons_of_pos rfl]
  | aside x h hs aside ih =>
    rw [sights_aside aside, ih, List.countP_cons_of_neg]
    match h with
    | .call (.cycle context r) => cases aside
    | .call (.overrun context exec) => exact Bool.false_ne_true
    | .call (.window context w) => exact Bool.false_ne_true
    | .outside i => exact Bool.false_ne_true

/-! ## Polls -/

theorem Polling.aside {interval : UInt32} {n : Nat} {x : Exchange M} (hp : Polling interval n x)
    {h : PipelineHappening M} (aside : x.found? h = none) : Polling interval n (x.happen h) := by
  match h with
  | .call (.cycle context r) => cases aside
  | .call (.overrun context exec) => exact ⟨hp.every, hp.soon, hp.due⟩
  | .call (.window context w) => exact ⟨hp.every, hp.soon, hp.due⟩
  | .outside i => exact ⟨hp.every, hp.soon, hp.due⟩

/-- **The cycles that poll** are those whose number is a multiple of the interval. -/
theorem isSome_polled_sights {interval : UInt32} {n : Nat} {x : Exchange M}
    (hp : Polling interval n x) (hs : List (PipelineHappening M)) {k : Nat} {s : Sight}
    (hk : (x.sights hs)[k]? = some s) :
    s.polled.isSome ↔ (n + k) % max interval.toNat 1 = 0 := by
  induction x, hs using run_induction generalizing n k with
  | nil x => simp [sights] at hk
  | aside x h hs aside ih =>
    rw [sights_aside aside] at hk
    exact ih (hp.aside aside) hk
  | cycle x context r hs ih =>
    rw [sights_cycle] at hk
    cases k with
    | zero =>
      cases hk
      rw [Nat.add_zero, ← hp.pollIn_eq_zero_iff]
      unfold sight
      split <;> simp_all
    | succ k =>
      have hrest := ih (hp.execute context.cycle r) hk
      rwa [Nat.add_assoc, Nat.add_comm 1 k] at hrest

end Exchange

/-! ## A run -/

/-- Two cycles with a bus fault between them that lasts for one of them and for the overrun that it
brings. -/
def flapping : List (PipelineHappening ScriptedMaster) :=
  [.call (.cycle ⟨0, 1000, 1000, 0, 1000⟩ (.still 1000)),
    .outside ⟨fun m => { m with domainHealth := .none, fallback := none }, id⟩,
    .call (.cycle ⟨1, 2000, 2000, 0, 1000⟩ (.still 2000)),
    .call (.overrun ⟨1, 2000, 2000, 0, 1000⟩ 1500),
    .outside ⟨fun m => { m with domainHealth := .complete 1, masterHealth := .down }, id⟩,
    .call (.cycle ⟨2, 3000, 3000, 0, 1000⟩ (.still 3500))]

end CyclicBus

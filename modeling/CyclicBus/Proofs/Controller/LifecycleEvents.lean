import CyclicBus.Proofs.Controller.FailedStart
import CyclicBus.Proofs.Exchange.Runs
import CyclicBus.Proofs.Worker.Laps

/-!
# Life cycle events

What a controller writes into its trace while it is started, stopped and given up in any order, and
whatever its workers do meanwhile. Each call has its `CallOutcome`s, where a start that finds an
ended worker stops it first, and each outcome has one event or none. `lifecycle_bracketed`: the
events are those of the outcomes, in order, and they are bracketed, so that a run that was started
is closed once before anything else begins.
-/

namespace CyclicBus

/-! ## Brackets -/

namespace LifecycleEvent

def isStarted : LifecycleEvent → Bool
  | started _ _ _ => true
  | _ => false

/-- The end of a run that was started. -/
def isClosing : LifecycleEvent → Bool
  | stopped _ _ => true
  | workerPanicked => true
  | _ => false

def isActivationFailed : LifecycleEvent → Bool
  | activationFailed _ => true
  | _ => false

def isSetupRejected : LifecycleEvent → Bool
  | setupRejected _ => true
  | _ => false

/-- The cycles and the reason of a run that was stopped. -/
def stopped? : LifecycleEvent → Option (UInt64 × String)
  | stopped cycles reason => some (cycles, reason)
  | _ => none

/-- Whether a run is open after an event, if the event may happen: a start, failed or not, needs
that none is open, and an end that one is. -/
def next : Bool → LifecycleEvent → Option Bool
  | false, started _ _ _ => some true
  | false, activationFailed _ => some false
  | false, setupRejected _ => some false
  | true, stopped _ _ => some false
  | true, workerPanicked => some false
  | _, _ => none

theorem next_true {e : LifecycleEvent} {opened : Bool} (h : next true e = some opened) :
    isClosing e = true ∧ opened = false := by
  cases e <;> simp_all [next, isClosing]

theorem next_false {e : LifecycleEvent} {opened : Bool} (h : next false e = some opened) :
    isClosing e = false ∧ opened = isStarted e := by
  cases e <;> simp_all [next, isClosing, isStarted]

theorem scan_cons {e : LifecycleEvent} {es : List LifecycleEvent} {opened opened' : Bool}
    (h : (e :: es).foldlM next opened = some opened') :
    ∃ between, next opened e = some between ∧ es.foldlM next between = some opened' := by
  rw [List.foldlM_cons] at h
  exact Option.bind_eq_some_iff.1 h

theorem scan_append {es es' : List LifecycleEvent} {opened opened' : Bool}
    (h : (es ++ es').foldlM next opened = some opened') :
    ∃ between, es.foldlM next opened = some between ∧ es'.foldlM next between = some opened' := by
  rw [List.foldlM_append] at h
  exact Option.bind_eq_some_iff.1 h

variable {es before after : List LifecycleEvent} {opened : Bool}

/-- Each start is followed by one end, but for the last one if it is open. -/
theorem closed_of_scan (h : es.foldlM next false = some opened) {period : UInt64} {policy : String}
    {devices : Nat} (heq : es = before ++ .started period policy devices :: after) :
    (after.takeWhile isClosing).length = 1 ∨ after = [] ∧ opened = true := by
  rw [heq] at h
  obtain ⟨idle, -, hstart⟩ := scan_append h
  obtain ⟨running, hnext, hafter⟩ := scan_cons hstart
  cases idle with
  | true => cases hnext
  | false =>
    obtain ⟨-, rfl⟩ := next_false hnext
    rcases after with _ | ⟨e, rest⟩
    · exact .inr ⟨rfl, (Option.some.inj hafter).symm⟩
    · -- the first event after a start is an end, and the second one is not
      left
      obtain ⟨_, hend, hrest⟩ := scan_cons hafter
      obtain ⟨hclosing, rfl⟩ := next_true hend
      rw [List.takeWhile_cons, hclosing]
      rcases rest with _ | ⟨e', rest⟩
      · rfl
      · obtain ⟨_, hnext', -⟩ := scan_cons hrest
        simp [(next_false hnext').1]

/-- A run is open where the last event is a start. -/
theorem open_iff_of_scan (h : es.foldlM next false = some opened) :
    opened = true ↔
      ∃ before period policy devices, es = before ++ [.started period policy devices] := by
  rcases List.eq_nil_or_concat es with rfl | ⟨before, e, rfl⟩
  · cases h
    simp
  · rw [List.concat_eq_append] at h ⊢
    obtain ⟨running, -, hlast⟩ := scan_append h
    obtain ⟨_, hnext, hopened⟩ := scan_cons hlast
    obtain rfl := Option.some.inj hopened
    cases running with
    | true =>
      obtain ⟨hclosing, rfl⟩ := next_true hnext
      cases e <;> simp_all [isClosing]
    | false =>
      obtain ⟨-, rfl⟩ := next_false hnext
      cases e <;> simp [isStarted]

end LifecycleEvent

/-! ## Outcomes and their events -/

/-- What a call of a controller came to. -/
inductive CallOutcome where
  /-- A start of a run with that many devices. -/
  | start (config : CycleConfig) (devices : Nat) (outcome : Except EngineFault Unit)
  /-- The stop of a worker, or one that finds none. -/
  | stop (outcome : Except EngineFault (Option RunSummary))

namespace CallOutcome

/-- The events of an outcome. Of the starts that fail, those are silent that fail neither to
activate the session nor to launch a worker. -/
def events : CallOutcome → List LifecycleEvent
  | start config devices (.ok ()) => [.started config.period config.policy.label devices]
  | start _ _ (.error (.lifecycle (.activationFailed reason))) => [.activationFailed reason]
  | start _ _ (.error (.worker fault)) => [.setupRejected fault.message]
  | start _ _ (.error _) => []
  | stop (.ok (some summary)) => [.stopped summary.statistics.cycles summary.reason.message]
  | stop (.ok none) => []
  | stop (.error _) => [.workerPanicked]

/-- A start that succeeded. -/
def launched : CallOutcome → Bool
  | start _ _ (.ok ()) => true
  | _ => false

/-- A start that failed as the session refused to be activated. -/
def unactivated : CallOutcome → Bool
  | start _ _ (.error (.lifecycle (.activationFailed _))) => true
  | _ => false

/-- A start that failed as no worker could be launched. -/
def unlaunched : CallOutcome → Bool
  | start _ _ (.error (.worker _)) => true
  | _ => false

def summary? : CallOutcome → Option RunSummary
  | stop (.ok summary) => summary
  | _ => none

theorem countP_events {p : LifecycleEvent → Bool} {q : CallOutcome → Bool}
    (h : ∀ o : CallOutcome, o.events.countP p = if q o then 1 else 0) (os : List CallOutcome) :
    (os.flatMap events).countP p = os.countP q := by
  induction os with
  | nil => rfl
  | cons o os ih =>
    rw [List.flatMap_cons, List.countP_append, h, ih, List.countP_cons, Nat.add_comm]

theorem stopped_events (os : List CallOutcome) :
    (os.flatMap events).filterMap LifecycleEvent.stopped? =
      (os.filterMap summary?).map fun s => (s.statistics.cycles, s.reason.message) := by
  have hone (o : CallOutcome) : o.events.filterMap LifecycleEvent.stopped? =
      (o.summary?.map fun s => (s.statistics.cycles, s.reason.message)).toList := by
    unfold events summary?
    split <;> rfl
  induction os with
  | nil => rfl
  | cons o os ih =>
    rw [List.flatMap_cons, List.filterMap_append, ih, hone, List.filterMap_cons]
    cases o.summary? <;> rfl

theorem scan_start (config : CycleConfig) (devices : Nat) (outcome : Except EngineFault Unit) :
    (start config devices outcome).events.foldlM LifecycleEvent.next false =
      some (start config devices outcome).launched := by
  unfold events launched
  split <;> simp_all [LifecycleEvent.next]

end CallOutcome

/-! ## Kept events -/

namespace Trace

/-- A handle on a sink that keeps events, with the life cycle events that it has kept. -/
def Keeps (es : List LifecycleEvent) (t : Trace) : Prop :=
  ∃ m c l, t = ofSink (.recording m c l) ∧ l.toList = es

namespace Keeps

variable {es : List LifecycleEvent} {t : Trace} (h : t.Keeps es)

include h

theorem lifecycleEvents : t.sink.lifecycleEvents.toList = es := by
  obtain ⟨m, c, l, rfl, rfl⟩ := h
  rfl

theorem emitLifecycle (e : LifecycleEvent) : (t.emitLifecycle e).Keeps (es ++ [e]) := by
  obtain ⟨m, c, l, rfl, rfl⟩ := h
  exact ⟨m.countLifecycle, c, l.push e, rfl, Array.toList_push⟩

/-- What cycles report is kept elsewhere. -/
theorem emitCycles (reported : List CycleEvent) : (t.emitCycles reported).Keeps es := by
  induction reported generalizing t with
  | nil => exact h
  | cons e reported ih =>
    obtain ⟨m, c, l, rfl, rfl⟩ := h
    exact ih ⟨m.countCycle e, c.push e, l, rfl, rfl⟩

end Keeps

end Trace

variable {M : Type} [MasterSession M] {es : List LifecycleEvent}

namespace Worker

theorem keeps_calls {x : Exchange M} (h : x.shared.trace.Keeps es)
    (calls : List (BodyCall Readings)) : (calls.foldl BodyCall.on x).shared.trace.Keeps es := by
  induction calls generalizing x with
  | nil => exact h
  | cons call calls ih =>
    refine ih (x := call.on x) ?_
    rw [show call.on x = x.happen (.call call) from rfl, Exchange.trace_happen]
    exact h.emitCycles _

/-- A worker does not report on the life of its run. -/
theorem keeps_step {w : Worker (Exchange M)} (h : w.body.shared.trace.Keeps es)
    (answer : Answer Readings) : (w.step answer).body.shared.trace.Keeps es := by
  rw [body_step]
  exact keeps_calls h _

theorem keeps_steps {w : Worker (Exchange M)} (h : w.body.shared.trace.Keeps es)
    (answers : List (Answer Readings)) : (w.steps answers).body.shared.trace.Keeps es := by
  induction answers generalizing w with
  | nil => exact h
  | cons answer answers ih => exact ih (keeps_step h answer)

end Worker

namespace Controller

omit [MasterSession M] in
theorem trace_emit (c : Controller M) (e : LifecycleEvent) :
    (c.emit e).shared.trace = c.shared.trace.emitLifecycle e := by
  unfold emit mapShared shared
  cases c.holding <;> rfl

/-! ## The events of a start -/

/-- A start that found `shared` gives its events to the trace. -/
def Tells (config : CycleConfig) (shared : Shared)
    (out : Except EngineFault Unit × Controller M) : Prop :=
  ∀ es, shared.trace.Keeps es →
    out.2.shared.trace.Keeps (es ++ (CallOutcome.start config shared.topology.size out.1).events)

omit [MasterSession M] in
theorem Tells.of_silent {config : CycleConfig} {shared : Shared} {fault : EngineFault}
    {c : Controller M}
    (silent : (CallOutcome.start config shared.topology.size (.error fault)).events = [])
    (htrace : c.shared.trace = shared.trace) : Tells config shared (.error fault, c) := by
  intro es h
  rw [silent, List.append_nil, htrace]
  exact h

section Stages

variable (host : Host) (config : CycleConfig) (shared : Shared) (c : Controller M)

theorem tells_launch (m : M) :
    Tells config shared (launch host config config.workerConfig m shared c) := by
  intro es h
  unfold launch
  dsimp only
  rw [Worker.launch_eq_grant]
  cases host.grant config.workerConfig.setup with
  | error fault =>
    dsimp only
    rw [trace_emit]
    exact h.emitLifecycle _
  | ok =>
    dsimp only
    rw [trace_emit]
    exact h.emitLifecycle _

theorem tells_startActive (m : M) :
    Tells config shared (startActive host config config.workerConfig m shared c) := by
  unfold startActive
  dsimp only
  split
  · exact .of_silent rfl rfl
  · exact tells_launch host config shared c m

theorem tells_startSession (m : M) :
    Tells config shared (startSession host config config.workerConfig m shared c) := by
  unfold startSession
  split
  · exact .of_silent rfl rfl
  · split
    · intro es h
      dsimp only
      rw [trace_emit]
      exact h.emitLifecycle _
    · exact tells_startActive host config shared _ _

theorem tells_startIdle {session : Option M} (hold : c.holding = .idle session shared) :
    Tells config shared (startIdle host config session shared c) := by
  have htrace : c.shared.trace = shared.trace := by rw [shared_of_idle hold]
  unfold startIdle
  cases hvalid : config.validateWith shared.topology with
  | error violation => exact .of_silent rfl htrace
  | ok =>
    rw [CycleConfig.configure_workerConfig (CycleConfig.validate_of_validateWith hvalid)]
    cases session with
    | none => exact .of_silent rfl htrace
    | some m => exact tells_startSession host config shared c m

end Stages

end Controller

/-! ## Runs -/

/-- A call of a controller, a change of its session from outside, or its end. -/
inductive LifecycleStep (M : Type) where
  | call (x : ControllerCall)
  | adjust (f : M → M)
  | close (answer : Nat → Worker.Answer Readings)

namespace Controller

/-- The stop that a start begins with, if it finds an ended worker. -/
def reaped (c : Controller M) (answer : Nat → Worker.Answer Readings) : List CallOutcome :=
  if c.worker?.any (·.finished) then [.stop (c.stop answer).1] else []

/-- What a step comes to. -/
def outcomes (c : Controller M) : LifecycleStep M → List CallOutcome
  | .call (.start host answer config) =>
    c.reaped answer ++
      [.start config c.shared.topology.size (c.start host answer config).1]
  | .call (.stop answer) => [.stop (c.stop answer).1]
  | .call (.command _ _) => []
  | .call (.work _) => []
  | .adjust _ => []
  | .close answer => if c.worker?.isSome then [.stop (c.stop answer).1] else []

/-- The controller after a step. -/
def take (c : Controller M) : LifecycleStep M → Controller M
  | .call x => c.call x
  | .adjust f => c.mapMaster f
  | .close answer => c.close answer

def takes (c : Controller M) (steps : List (LifecycleStep M)) : Controller M := steps.foldl take c

/-- What the steps of a run come to, in order. -/
def history (c : Controller M) : List (LifecycleStep M) → List CallOutcome
  | [] => []
  | step :: steps => c.outcomes step ++ (c.take step).history steps

omit [MasterSession M] in
/-- A controller whose trace has kept these events. A run is open while a worker was not joined. -/
structure Logged (es : List LifecycleEvent) (c : Controller M) : Prop where
  orderly : c.Orderly
  trace : c.shared.trace.Keeps es
  scan : es.foldlM LifecycleEvent.next false = some c.worker?.isSome

/-! ## Stopping -/

/-- What comes of joining a worker does not depend on who joins it. -/
theorem fst_settle (w : Worker (Exchange M)) (c c' : Controller M) :
    (settle w c).1 = (settle w c').1 := by
  unfold settle
  dsimp only
  cases w.join? <;> rfl

/-- A worker that is joined closes its run. -/
theorem logged_settle {w : Worker (Exchange M)} (hw : w.finished = true)
    (h : w.body.shared.trace.Keeps es)
    (hscan : es.foldlM LifecycleEvent.next false = some true) (c : Controller M) :
    Logged (es ++ (CallOutcome.stop ((settle w c).1.map some)).events) (settle w c).2 := by
  obtain ⟨-, hstopped⟩ := settle_cases c hw
  have hclosed (e : LifecycleEvent) (he : LifecycleEvent.next true e = some false) :
      (es ++ [e]).foldlM LifecycleEvent.next false = some (settle w c).2.worker?.isSome := by
    rw [List.foldlM_append, hscan, hstopped.worker]
    exact (bind_pure _).trans he
  refine ⟨?_, ?_, ?_⟩
  · unfold Orderly
    rw [hstopped.worker]
    exact hstopped.state
  · unfold settle
    rcases Worker.join?_of_finished hw with ⟨-, reason, hjoin⟩ | ⟨-, hjoin⟩
    · rw [hjoin]
      dsimp only
      rw [trace_emit]
      exact h.emitLifecycle _
    · rw [hjoin]
      dsimp only
      rw [trace_emit]
      exact h.emitLifecycle _
  · rcases (settle_cases c hw).1 with ⟨-, summary, hout⟩ | ⟨-, hout⟩
    · rw [hout]
      exact hclosed _ rfl
    · rw [hout]
      exact hclosed _ rfl

namespace Logged

variable {c : Controller M} (h : Logged es c)

include h

omit [MasterSession M] in
/-- While a worker was not joined, its run is open. -/
theorem running {w : Worker (Exchange M)} (hold : c.holding = .running w) :
    w.body.shared.trace.Keeps es ∧ es.foldlM LifecycleEvent.next false = some true := by
  have htrace := h.trace
  have hscan := h.scan
  rw [shared_of_running hold] at htrace
  rw [worker?_of_running hold] at hscan
  exact ⟨htrace, hscan⟩

theorem stop (answer : Nat → Worker.Answer Readings) :
    Logged (es ++ (CallOutcome.stop (c.stop answer).1).events) (c.stop answer).2 := by
  cases hold : c.holding with
  | idle master shared =>
    have hstate : c.state = .idle := by
      rw [h.orderly, worker?_of_idle hold]
      rfl
    rw [stop_of_idle hold hstate, CallOutcome.events, List.append_nil]
    exact h
  | running w =>
    obtain ⟨htrace, hscan⟩ := h.running hold
    have hsettled := logged_settle (w.finished_drain answer)
      (Worker.keeps_steps (w := w.requestStop) htrace _) hscan { c with state := .stopping }
    unfold Controller.stop
    rw [hold]
    exact hsettled

/-- A start leaves an ended worker stopped. -/
theorem reap (answer : Nat → Worker.Answer Readings) :
    Logged (es ++ (c.reaped answer).flatMap CallOutcome.events) (c.reap answer) := by
  unfold reaped
  cases hw : c.worker?.any (·.finished) with
  | false =>
    rw [reap_of_not_finished answer hw, if_neg Bool.false_ne_true, List.flatMap_nil,
      List.append_nil]
    exact h
  | true =>
    obtain ⟨w, hworker, hfinished⟩ := (Option.any_eq_true _ _).1 hw
    have hold := holding_of_worker?_eq_some hworker
    obtain ⟨htrace, hscan⟩ := h.running hold
    obtain ⟨before, after, heq⟩ := reap_eq_settle answer hold hfinished
    have hsettled := logged_settle (w := w.requestStop) hfinished htrace hscan
      { c with state := .stopping, log := before }
    have hout : (c.stop answer).1 =
        (settle w.requestStop { c with state := .stopping, log := before }).1.map some := by
      unfold Controller.stop
      rw [hold]
      dsimp only
      rw [Worker.drain_of_finished hfinished, fst_settle]
    rw [if_pos rfl, List.flatMap_singleton, hout, heq]
    exact ⟨hsettled.orderly, hsettled.trace, hsettled.scan⟩

theorem close (answer : Nat → Worker.Answer Readings) :
    Logged (es ++ (c.outcomes (.close answer)).flatMap CallOutcome.events) (c.close answer) := by
  rw [outcomes]
  unfold Controller.close
  cases hold : c.holding with
  | idle master shared =>
    rw [worker?_of_idle hold]
    simpa using h
  | running w =>
    have hstop := h.stop answer
    rw [worker?_of_running hold, Option.isSome_some, if_pos rfl, List.flatMap_singleton]
    dsimp only
    split
    · rename_i summary c' heq
      rwa [heq] at hstop ⊢
    · rename_i fault c' heq
      rw [heq] at hstop ⊢
      exact ⟨hstop.orderly, hstop.trace, hstop.scan⟩

/-! ## Every step -/

theorem start (host : Host) (answer : Nat → Worker.Answer Readings) (config : CycleConfig) :
    Logged
      (es ++ (c.outcomes (.call (.start host answer config))).flatMap CallOutcome.events)
      (c.start host answer config).2 := by
  rw [outcomes, List.flatMap_append, ← List.append_assoc, List.flatMap_singleton]
  cases hrunning : c.isRunning with
  | true =>
    have hlive : c.worker?.any (·.finished) = false := by
      unfold isRunning at hrunning
      cases hw : c.worker? with
      | none => rfl
      | some w => simpa [hw] using hrunning
    rw [start_of_isRunning host config answer hrunning, reaped, hlive]
    simpa [CallOutcome.events] using h
  | false =>
    have hreaped := h.reap answer
    obtain ⟨hstate, hworker, -⟩ := reap_of_not_isRunning answer h.orderly hrunning
    obtain ⟨shared, hold⟩ := holding_of_worker? hworker
    have hstarted := start_of_not_isRunning host config answer h.orderly hrunning
    have htells : Tells config (c.reap answer).shared (c.start host answer config) := by
      have hidle := tells_startIdle host config shared (c.reap answer) hold
      rw [shared_of_idle hold]
      unfold Controller.start
      dsimp only
      rw [hstate, hold]
      exact hidle
    rw [← (shared_reap answer hrunning).1]
    refine ⟨hstarted.orderly, htells _ hreaped.trace, ?_⟩
    rw [List.foldlM_append, hreaped.scan, hworker]
    refine (CallOutcome.scan_start _ _ _).trans ?_
    rcases hstarted.outcome with ⟨⟨fault, hout⟩, hnone⟩ | ⟨hout, hsome, -⟩
    · rw [hout, hnone]
      rfl
    · rw [hout, hsome]
      rfl

theorem work (answer : Worker.Answer Readings) : Logged es (c.stepWorker answer) := by
  have horderly := (callKeeps_work h.orderly answer).orderly
  cases hold : c.holding with
  | idle master shared =>
    have hsame : c.stepWorker answer = c := by
      unfold stepWorker
      rw [hold]
    rw [hsame]
    exact h
  | running w =>
    obtain ⟨htrace, hscan⟩ := h.running hold
    have hstep : c.stepWorker answer = { c with holding := .running (w.step answer) } := by
      unfold stepWorker
      rw [hold]
    refine ⟨horderly, ?_, ?_⟩
    · rw [hstep]
      exact Worker.keeps_step htrace answer
    · rw [hstep]
      exact hscan

theorem take (step : LifecycleStep M) :
    Logged (es ++ (c.outcomes step).flatMap CallOutcome.events) (c.take step) := by
  match step with
  | .call (.start host answer config) => exact h.start host answer config
  | .call (.stop answer) =>
    have hstop := h.stop answer
    rw [outcomes, List.flatMap_singleton]
    exact hstop
  | .call (.command device bytes) =>
    rw [outcomes, List.flatMap_nil, List.append_nil]
    refine ⟨h.orderly.mapShared _, ?_, ?_⟩
    · show (c.mapShared _).shared.trace.Keeps es
      have htrace := h.trace
      unfold mapShared Controller.shared at *
      cases hold : c.holding <;> rw [hold] at htrace <;> exact htrace
    · show _ = some (c.mapShared _).worker?.isSome
      rw [isSome_worker?_mapShared]
      exact h.scan
  | .call (.work answer) =>
    rw [outcomes, List.flatMap_nil, List.append_nil]
    exact h.work answer
  | .adjust f =>
    rw [outcomes, List.flatMap_nil, List.append_nil]
    refine ⟨h.orderly.mapMaster f, ?_, ?_⟩
    · show (c.mapMaster f).shared.trace.Keeps es
      rw [shared_mapMaster]
      exact h.trace
    · show _ = some (c.mapMaster f).worker?.isSome
      rw [isSome_worker?_mapMaster]
      exact h.scan
  | .close answer => exact h.close answer

theorem takes (steps : List (LifecycleStep M)) :
    Logged (es ++ (c.history steps).flatMap CallOutcome.events) (c.takes steps) := by
  induction steps generalizing c es with
  | nil => rwa [history, List.flatMap_nil, List.append_nil]
  | cons step steps ih =>
    rw [history, List.flatMap_append, ← List.append_assoc]
    exact ih (h.take step)

end Logged

omit [MasterSession M] in
theorem Logged.opened {c : Controller M} (h : Logged es c) :
    c.worker?.isSome = decide (c.state ≠ .idle) := by
  rw [h.orderly]
  cases c.worker?.isSome <;> rfl

end Controller

/-! ## Every run -/

/-- How the life cycle events of a controller are bracketed whose calls came to `outcomes`. -/
structure WellBracketed (c : Controller M) (outcomes : List CallOutcome)
    (es : List LifecycleEvent) : Prop where
  /-- Each outcome has its own events, and no others are there. -/
  events : es = outcomes.flatMap CallOutcome.events
  /-- Nothing begins while a run is open, and nothing else ends. -/
  scan : es.foldlM LifecycleEvent.next false = some (decide (c.state ≠ .idle))
  /-- Of the events between a start and the next one, failed or not, exactly one is an end. Only the
  last run may have none yet. -/
  closed : ∀ before period policy devices after,
    es = before ++ .started period policy devices :: after →
    (after.takeWhile LifecycleEvent.isClosing).length = 1 ∨ after = [] ∧ c.state ≠ .idle
  open_iff : c.state ≠ .idle ↔
    ∃ before period policy devices, es = before ++ [.started period policy devices]
  started : es.countP LifecycleEvent.isStarted = outcomes.countP CallOutcome.launched
  activationFailed :
    es.countP LifecycleEvent.isActivationFailed = outcomes.countP CallOutcome.unactivated
  setupRejected :
    es.countP LifecycleEvent.isSetupRejected = outcomes.countP CallOutcome.unlaunched
  /-- Each stop shows the cycles and the reason of its summary. -/
  stopped : es.filterMap LifecycleEvent.stopped? =
    (outcomes.filterMap CallOutcome.summary?).map fun s => (s.statistics.cycles, s.reason.message)

/-- **The life cycle events are well bracketed**, over any starts, stops and commands, any changes
of the session from outside, and whatever the workers do, until the controller is given up. -/
theorem lifecycle_bracketed (master : M) (topology : Topology) (steps : List (LifecycleStep M)) :
    let fresh := Controller.ofMaster master topology (.ofSink .newRecording)
    let c := fresh.takes steps
    WellBracketed c (fresh.history steps) c.shared.trace.sink.lifecycleEvents.toList := by
  intro fresh c
  have hfresh : fresh.Logged [] := ⟨rfl, ⟨_, _, _, rfl, rfl⟩, rfl⟩
  have hlogged : c.Logged ((fresh.history steps).flatMap CallOutcome.events) := hfresh.takes steps
  rw [hlogged.trace.lifecycleEvents]
  have hscan := hlogged.scan
  rw [hlogged.opened] at hscan
  refine ⟨rfl, hscan, fun before period policy devices after heq => ?_, ?_, ?_, ?_, ?_, ?_⟩
  · have hclosed := LifecycleEvent.closed_of_scan hscan heq
    rwa [decide_eq_true_iff] at hclosed
  · have hopen := LifecycleEvent.open_iff_of_scan hscan
    rwa [decide_eq_true_iff] at hopen
  · refine CallOutcome.countP_events (fun o => ?_) _
    unfold CallOutcome.events CallOutcome.launched
    split <;> rfl
  · refine CallOutcome.countP_events (fun o => ?_) _
    unfold CallOutcome.events CallOutcome.unactivated
    split <;> simp_all [LifecycleEvent.isActivationFailed]
  · refine CallOutcome.countP_events (fun o => ?_) _
    unfold CallOutcome.events CallOutcome.unlaunched
    split <;> simp_all [LifecycleEvent.isSetupRejected]
  · exact CallOutcome.stopped_events _

/-- A start that fails to activate the session, one that succeeds, and one that finds it running; a
start without privileges once the run has reached its bound; a run that panics, and the end of the
controller. -/
def eventful : List (LifecycleStep ScriptedMaster) :=
  let answer (now : UInt64) (panics : Bool) : Worker.Answer Readings :=
    ⟨now, true, panics, .still now⟩
  let start (config : CycleConfig) : LifecycleStep ScriptedMaster :=
    .call (.start .withoutPrivileges (fun _ => answer 1000 false) config)
  let brief := { CycleConfig.unprivileged 1000 with runDuration := some 1 }
  [.adjust fun m => { m with activationFault := some .linkDown }, start brief,
      .adjust fun m => { m with activationFault := none }, start brief, start brief] ++
    List.replicate 6 (.call (.work (answer 1000 false))) ++
    List.replicate 3 (.call (.work (answer 2000000 false))) ++
    [start .standard, start (.unprivileged 1000)] ++
    List.replicate 6 (.call (.work (answer 1000 true))) ++ [.close fun _ => answer 1000 false]

theorem lifecycle_bracketed_of_eventful :
    let fresh := Controller.ofMaster (ScriptedMaster.ofDomainSize 8) .pair (.ofSink .newRecording)
    let c := fresh.takes eventful
    WellBracketed c (fresh.history eventful) c.shared.trace.sink.lifecycleEvents.toList ∧
      c.state = .idle ∧ (fresh.history eventful).length = 7 ∧
      c.shared.trace.sink.lifecycleEvents.toList =
        [.activationFailed "Master link down", .started 1000 "inherit" 2,
          .stopped 1 "run duration elapsed",
          .setupRejected "Failed to apply memory lock: Operation not permitted (os error 1)",
          .started 1000 "inherit" 2, .workerPanicked] :=
  ⟨lifecycle_bracketed _ _ _, by decide +kernel, by decide +kernel, by decide +kernel⟩

end CyclicBus

import CyclicBus.Proofs.Exchange.PlainCycle

/-!
# What a cycle finds and writes down

A `Sight` is what one cycle finds, and a `Notebook` is what a pipeline has written down: the edges
that it remembers, the counters and the trace. `notebook_execute`: a cycle writes down what
`Notebook.enter` says, which looks at the sight and at what was written down before, and at nothing
else.
-/

namespace CyclicBus

/-- What a cycle finds. -/
structure Sight where
  cycle : UInt64
  domain : DomainHealth
  /-- The master's health, if the cycle polls it. -/
  polled : Option MasterHealth
  /-- The latest snapshot is free to be replaced. -/
  latestFree : Bool
  anomaly : Option ClockAnomaly
  /-- The reference clock was asked and gave no reading. -/
  readFailed : Bool
  drift : DriftUpdate

/-- What a pipeline has written down. -/
structure Notebook where
  degraded : Bool
  referenceLost : Bool
  polled : Option MasterHealth
  counters : RunCounters
  trace : Trace

/-! ## The events of a sight -/

/-- What an event is about. -/
inductive CycleEvent.Subject where
  | domain
  | master
  | snapshot
  | clock
  | reference
  | arming
  | saturation
  | overrun
  | window
  deriving DecidableEq, Repr

def CycleEvent.subject : CycleEvent → Subject
  | domainDegraded _ _ _ => .domain
  | domainRecovered _ _ => .domain
  | masterHealthChanged _ _ _ _ => .master
  | snapshotDropped _ => .snapshot
  | clockBackwardJump _ _ _ => .clock
  | referenceUnavailable _ => .reference
  | driftArmed _ _ _ => .arming
  | driftSaturated _ _ _ => .saturation
  | deadlineOverrun _ _ _ => .overrun
  | timingWindow _ _ _ _ _ _ => .window

/-- The event of the filter's start. -/
def DriftUpdate.armings (cycle : UInt64) : DriftUpdate → List CycleEvent
  | armed firstDiff appTime => [.driftArmed cycle appTime firstDiff]
  | _ => []

namespace Sight

/-- The event of a domain whose status is not what it was. -/
def domainEdge (before : Bool) (s : Sight) : List CycleEvent :=
  if s.domain.isDegraded = before then []
  else if s.domain.isDegraded then
    [.domainDegraded s.cycle s.domain.workingCounter s.domain.expected]
  else [.domainRecovered s.cycle s.domain.workingCounter]

/-- The event of a poll that does not find what the last one found. -/
def healthChange (before : Option MasterHealth) (s : Sight) : List CycleEvent :=
  match s.polled with
  | none => []
  | some health =>
    if before = some health then []
    else [.masterHealthChanged s.cycle health.slaves health.alStates health.linkUp]

/-- The event of a snapshot that could not be published. -/
def drop (s : Sight) : List CycleEvent := if s.latestFree then [] else [.snapshotDropped s.cycle]

/-- The event of a hardware clock behind the time base. -/
def backwardJump (s : Sight) : List CycleEvent :=
  match s.anomaly with
  | none => []
  | some anomaly => [.clockBackwardJump s.cycle anomaly.hardware anomaly.timeBase]

/-- The event of the first failed reading in a row. -/
def loss (before : Bool) (s : Sight) : List CycleEvent :=
  if s.readFailed && !before then [.referenceUnavailable s.cycle] else []

end Sight

/-! ## Entries of a notebook -/

namespace Trace

variable (t : Trace)

@[simp] theorem emitCycles_nil : t.emitCycles [] = t := rfl

@[simp] theorem emitCycles_cons (e : CycleEvent) (es : List CycleEvent) :
    t.emitCycles (e :: es) = (t.emitCycle e).emitCycles es := rfl

theorem emitCycles_append (es es' : List CycleEvent) :
    t.emitCycles (es ++ es') = (t.emitCycles es).emitCycles es' := List.foldl_append

/-- A recording sink keeps the events that it is told, and counts them. -/
theorem emitCycles_recording (metrics : SinkMetrics) (past : Array CycleEvent)
    (lifecycle : Array LifecycleEvent) (es : List CycleEvent) :
    (ofSink (.recording metrics past lifecycle)).emitCycles es =
      ofSink (.recording (es.foldl SinkMetrics.countCycle metrics) (past ++ es.toArray)
        lifecycle) := by
  induction es generalizing metrics past with
  | nil => rw [emitCycles_nil, List.foldl_nil, Array.append_empty]
  | cons e es ih =>
    show (ofSink (.recording (metrics.countCycle e) (past.push e) lifecycle)).emitCycles es = _
    rw [ih, List.foldl_cons, Array.push_eq_append, Array.append_assoc, ← List.toArray_cons]

end Trace

namespace Notebook

variable (clamp : Int64) (n : Notebook) (s : Sight)

def enterDomain : Notebook :=
  { n with
    degraded := s.domain.isDegraded
    counters.degradedCycles := n.counters.degradedCycles + .ofNat s.domain.isDegraded.toNat
    trace := n.trace.emitCycles (s.domainEdge n.degraded) }

def enterPoll : Notebook :=
  { n with
    polled := s.polled.or n.polled
    counters.masterHealthChanges :=
      n.counters.masterHealthChanges + .ofNat (s.healthChange n.polled).length
    trace := n.trace.emitCycles (s.healthChange n.polled) }

variable {n s} in
theorem enterPoll_of_none (h : s.polled = none) : n.enterPoll s = n := by
  simp [enterPoll, Sight.healthChange, h]

def enterDrop : Notebook := { n with trace := n.trace.emitCycles s.drop }

def enterSync : Notebook :=
  { n with
    referenceLost := s.readFailed
    counters.clockAnomalies := n.counters.clockAnomalies + .ofNat s.backwardJump.length
    counters.referenceUnavailable := n.counters.referenceUnavailable + .ofNat s.readFailed.toNat
    trace := n.trace.emitCycles (s.backwardJump ++ s.loss n.referenceLost) }

def enterDrift : Notebook :=
  { n with
    counters.driftSaturations :=
      n.counters.driftSaturations + .ofNat (s.drift.saturations s.cycle clamp).length
    trace := n.trace.emitCycles
      (s.drift.armings s.cycle ++ s.drift.saturations s.cycle clamp) }

/-- A cycle enters what it finds in the order of its stages. -/
def enter : Notebook :=
  let n := ((((n.enterDomain s).enterPoll s).enterDrop s).enterSync s).enterDrift clamp s
  { n with counters := n.counters.countCycle }

/-- The events of a cycle about one subject. -/
def about : CycleEvent.Subject → List CycleEvent
  | .domain => s.domainEdge n.degraded
  | .master => s.healthChange n.polled
  | .snapshot => s.drop
  | .clock => s.backwardJump
  | .reference => s.loss n.referenceLost
  | .arming => s.drift.armings s.cycle
  | .saturation => s.drift.saturations s.cycle clamp
  | .overrun => []
  | .window => []

/-- The events of a cycle, in the order in which they are reported. -/
def events : List CycleEvent :=
  [.domain, .master, .snapshot, .clock, .reference, .arming, .saturation].flatMap (n.about clamp s)

theorem trace_enter : (n.enter clamp s).trace = n.trace.emitCycles (n.events clamp s) := by
  simp only [events, List.flatMap_cons, List.flatMap_nil, about, Trace.emitCycles_append]
  simp only [enter, enterDomain, enterPoll, enterDrop, enterSync, enterDrift,
    Trace.emitCycles_append, Trace.emitCycles_nil]

/-- A cycle reports at most one event about a subject. -/
theorem about_cases (o : CycleEvent.Subject) :
    n.about clamp s o = [] ∨ ∃ e, e.subject = o ∧ n.about clamp s o = [e] := by
  cases o with
  | domain =>
    simp only [about, Sight.domainEdge]
    split
    · exact .inl rfl
    · split
      · exact .inr ⟨_, rfl, rfl⟩
      · exact .inr ⟨_, rfl, rfl⟩
  | master =>
    simp only [about, Sight.healthChange]
    split
    · exact .inl rfl
    · split
      · exact .inl rfl
      · exact .inr ⟨_, rfl, rfl⟩
  | snapshot =>
    simp only [about, Sight.drop]
    split
    · exact .inl rfl
    · exact .inr ⟨_, rfl, rfl⟩
  | clock =>
    simp only [about, Sight.backwardJump]
    split
    · exact .inl rfl
    · exact .inr ⟨_, rfl, rfl⟩
  | reference =>
    simp only [about, Sight.loss]
    split
    · exact .inr ⟨_, rfl, rfl⟩
    · exact .inl rfl
  | arming =>
    simp only [about, DriftUpdate.armings]
    split
    · exact .inr ⟨_, rfl, rfl⟩
    · exact .inl rfl
  | saturation =>
    simp only [about, DriftUpdate.saturations]
    split
    · exact .inr ⟨_, rfl, rfl⟩
    · exact .inl rfl
  | overrun => exact .inl rfl
  | window => exact .inl rfl

theorem length_about_le (o : CycleEvent.Subject) : (n.about clamp s o).length ≤ 1 := by
  obtain h | ⟨e, -, h⟩ := n.about_cases clamp s o <;> simp [h]

theorem filter_about (o o' : CycleEvent.Subject) :
    (n.about clamp s o).filter (·.subject = o') = if o = o' then n.about clamp s o else [] := by
  obtain h | ⟨e, he, h⟩ := n.about_cases clamp s o <;> rw [h]
  · split <;> rfl
  · by_cases heq : o = o' <;> simp [he, heq]

/-- The subject of an event tells where in a cycle it comes from. -/
theorem filter_events (o : CycleEvent.Subject) :
    (n.events clamp s).filter (·.subject = o) = n.about clamp s o := by
  rw [events, List.filter_flatMap]
  simp only [filter_about]
  cases o <;> simp [List.flatMap_cons, about]

end Notebook

namespace Exchange

variable {M : Type}

def notebook (x : Exchange M) : Notebook :=
  ⟨x.degraded, x.referenceLost, x.polled, x.shared.counters, x.shared.trace⟩

/-! ## Notes one by one -/

section Notes

variable (x : Exchange M) (s : Sight)

theorem notebook_noteDomain :
    (x.noteDomain s.cycle s.domain).notebook = x.notebook.enterDomain s := by
  unfold noteDomain Notebook.enterDomain Sight.domainEdge
  cases s.domain.isDegraded <;> cases hx : x.degraded <;>
    simp [notebook, hx, count, emit, RunCounters.countDegraded]

theorem notebook_noteMaster {health : MasterHealth} (h : s.polled = some health) :
    (x.noteMaster s.cycle health).notebook = x.notebook.enterPoll s := by
  unfold noteMaster Notebook.enterPoll Sight.healthChange
  by_cases hx : x.polled = some health <;>
    simp [notebook, h, hx, count, emit, RunCounters.countHealthChange]

theorem notebook_publish [MasterSession M] (r : Readings) (h : s.latestFree = r.latestFree) :
    (x.publish s.cycle r).notebook = x.notebook.enterDrop s := by
  unfold publish Notebook.enterDrop Sight.drop
  rw [h]
  cases r.latestFree <;> rfl

theorem notebook_noteSync (appTime : UInt64) :
    (x.noteSync s.cycle ⟨appTime, s.anomaly, s.readFailed⟩).notebook = x.notebook.enterSync s := by
  unfold noteSync Notebook.enterSync Sight.backwardJump Sight.loss
  cases s.anomaly <;> cases s.readFailed <;> cases hx : x.referenceLost <;>
    simp [notebook, hx, count, emit, RunCounters.countClockAnomaly,
      RunCounters.countReferenceUnavailable]

theorem notebook_noteDrift :
    (x.noteDrift s.cycle s.drift).notebook = x.notebook.enterDrift x.clock.params.clamp s := by
  unfold noteDrift Notebook.enterDrift
  cases s.drift with
  | adjusted adjustment saturated =>
    cases saturated <;>
      simp [notebook, DriftUpdate.armings, DriftUpdate.saturations, count, emit,
        RunCounters.countSaturation]
  | _ => simp [notebook, DriftUpdate.armings, DriftUpdate.saturations, emit]

end Notes

/-! ## A cycle -/

variable [MasterSession M] (x : Exchange M) (cycle : UInt64) (r : Readings)

/-- The session once the frames of a cycle are evaluated. -/
def processed : M := MasterSession.processDomain (MasterSession.receive x.master)

def sight : Sight where
  cycle
  domain := (MasterSession.domainHealth x.processed).1
  polled :=
    if x.pollIn = 0 then
      some (MasterSession.masterHealth (MasterSession.domainHealth x.processed).2).1
    else none
  latestFree := r.latestFree
  anomaly := x.clock.anomalyAt r.syncClock
  readFailed :=
    decide (x.clock.params.mode = .masterFollowsReference) && (x.clock.readingOf (x.found r)).isNone
  drift := (x.sent r).clock.update.1

theorem notebook_checkHealth :
    (((x.call MasterSession.receive).call MasterSession.processDomain).checkHealth cycle).notebook =
      (x.notebook.enterDomain (x.sight cycle r)).enterPoll (x.sight cycle r) := by
  let s := x.sight cycle r
  let y : Exchange M := { x with master := (MasterSession.domainHealth x.processed).2 }
  let z := y.noteDomain cycle s.domain
  have hz : Noted [] y z := noted_noteDomain y cycle _
  have hdomain : z.notebook = x.notebook.enterDomain s := notebook_noteDomain y s
  unfold checkHealth
  dsimp only
  -- the countdown is looked at once the domain is noted, which leaves it alone
  show (if z.pollIn = 0 then _ else _ : Exchange M).notebook = _
  rw [hz.pollIn]
  split
  · rename_i hpoll
    have hpolled : s.polled = some (MasterSession.masterHealth z.master).1 := by
      rw [hz.master]
      exact if_pos hpoll
    rw [← hdomain]
    exact notebook_noteMaster { z with
      master := (MasterSession.masterHealth z.master).2, pollIn := z.pollInterval } s hpolled
  · rename_i hpoll
    have hpolled : s.polled = none := if_neg hpoll
    rw [Notebook.enterPoll_of_none hpolled]
    exact hdomain

theorem notebook_beforeOutputs :
    (x.beforeOutputs cycle r).notebook =
      ((x.notebook.enterDomain (x.sight cycle r)).enterPoll (x.sight cycle r)).enterDrop
        (x.sight cycle r) := by
  rw [← notebook_checkHealth x cycle r]
  exact notebook_publish _ (x.sight cycle r) r rfl

/-- **What a cycle writes down** is settled by what was written down before it and what it finds. -/
theorem notebook_execute :
    (x.execute cycle r).notebook = x.notebook.enter x.clock.params.clamp (x.sight cycle r) := by
  let s := x.sight cycle r
  -- `q` has written its outputs, and `t` has sent its frame: neither is noted
  let q := ((x.beforeOutputs cycle r).applyOutputs r).call MasterSession.queueDomain
  let t := (q.syncClocks cycle r).call (MasterSession.send r.sendClock)
  have hprepared : Noted [] (x.prepared r) q := noted_prepared x cycle r
  have hsent : Noted [] (x.sent r) t :=
    ((hprepared.synced r).trans (noted_syncClocks q cycle r)).call _
  have hsync : t.notebook = q.notebook.enterSync s := by
    have hreport : (q.clock.sync r.syncClock r.referenceClock q.master).1 =
        ⟨q.clock.timeAt r.syncClock, s.anomaly, s.readFailed⟩ := by
      rw [hprepared.clock, hprepared.master, clock_prepared]
      exact x.clock.fst_sync (x.found r)
    show (noteSync cycle (q.clock.sync r.syncClock r.referenceClock q.master).1 _).notebook = _
    rw [hreport]
    exact notebook_noteSync _ s _
  have hdrift : (t.stepDrift cycle).notebook = t.notebook.enterDrift x.clock.params.clamp s := by
    have hdone : t.clock.update.1 = s.drift := by rw [hsent.clock]; rfl
    have hclamp : t.clock.update.2.params.clamp = x.clock.params.clamp := by
      rw [hsent.clock]
      exact congrArg DriftParams.clamp (params_plain x r)
    show (noteDrift cycle t.clock.update.1 _).notebook = _
    rw [hdone, ← hclamp]
    exact notebook_noteDrift { t with clock := t.clock.update.2 } s
  have hcount : (x.execute cycle r).notebook =
      { (t.stepDrift cycle).notebook with
        counters := (t.stepDrift cycle).notebook.counters.countCycle } := rfl
  have hbefore : q.notebook = _ := notebook_beforeOutputs x cycle r
  rw [hcount, hdrift, hsync, hbefore]
  rfl

end Exchange

end CyclicBus

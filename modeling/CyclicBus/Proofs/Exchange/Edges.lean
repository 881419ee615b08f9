import Mathlib.Data.List.Destutter
import CyclicBus.Proofs.Exchange.Runs
import CyclicBus.Proofs.ProcessData.LastWriter

/-!
# Edges

A pipeline reports health and reference faults at their edges. A `Detector` remembers a value and
reports in each cycle that it looks at whether the value is another one; there are three, for the
domain, for the master and for the reference clock. `Detector.filter_told`: whatever else happens in
a run, the events of a detector are what it reports beside each cycle, compared with the one before
it. So nothing is lost and nothing repeated, and `reportsEdges_told` reads the values themselves off
the log again.
-/

namespace CyclicBus

/-! ## What an event says -/

namespace CycleEvent

/-- The status of the domain, if the event reports it. -/
def domainStatus? : CycleEvent → Option Bool
  | domainDegraded _ _ _ => some true
  | domainRecovered _ _ => some false
  | _ => none

/-- The health of the master, if the event reports it. -/
def masterHealth? : CycleEvent → Option MasterHealth
  | masterHealthChanged _ slaves alStates linkUp => some ⟨slaves, alStates, linkUp⟩
  | _ => none

theorem domainStatus?_of_subject {e : CycleEvent} (h : e.subject ≠ .domain) :
    e.domainStatus? = none := by
  cases e <;> first | rfl | exact absurd rfl h

theorem masterHealth?_of_subject {e : CycleEvent} (h : e.subject ≠ .master) :
    e.masterHealth? = none := by
  cases e <;> first | rfl | exact absurd rfl h

end CycleEvent

/-! ## Values side by side -/

section

variable {β : Type}

/-- What is reported beside each sight, given the value before it. -/
def edges (value : Sight → β) (report : β → Sight → List CycleEvent) (first : β)
    (seen : List Sight) : List CycleEvent :=
  (List.zipWith report (first :: seen.map value) seen).flatten

variable (value : Sight → β) (report : β → Sight → List CycleEvent) (first : β)

@[simp] theorem edges_nil : edges value report first [] = [] := rfl

@[simp] theorem edges_cons (s : Sight) (seen : List Sight) :
    edges value report first (s :: seen) =
      report first s ++ edges value report (value s) seen := rfl

/-- Where a report is the value as far as it is new, all of them are the values without their
repetitions. -/
theorem edges_destutter [DecidableEq β] (read : CycleEvent → Option β) {seen : List Sight}
    (h : ∀ before, ∀ s ∈ seen,
      (report before s).filterMap read = if before = value s then [] else [value s]) :
    first :: (edges value report first seen).filterMap read =
      (seen.map value).destutter' (· ≠ ·) first := by
  induction seen generalizing first with
  | nil => rfl
  | cons s seen ih =>
    have hrest := ih (value s) fun before s' hs' => h before s' (List.mem_cons_of_mem s hs')
    rw [edges_cons, List.filterMap_append, h first s List.mem_cons_self, List.map_cons]
    by_cases heq : first = value s
    · rw [if_pos heq, List.destutter'_cons_neg _ (not_not_intro heq), List.nil_append, heq, hrest]
    · rw [if_neg heq, List.destutter'_cons_pos _ heq, List.singleton_append, hrest]

theorem getLast?_none_cons (values : List β) :
    (none :: values.map some).getLast? = some values.getLast? := by
  rw [List.getLast?_cons, List.getLast?_map]
  cases values.getLast? <;> rfl

theorem getLast?_destutter' [DecidableEq β] (values : List β) (first : β) :
    (values.destutter' (· ≠ ·) first).getLast? = (first :: values).getLast? := by
  induction values generalizing first with
  | nil => rfl
  | cons v values ih =>
    rw [List.getLast?_cons_cons, ← ih v]
    by_cases heq : first = v
    · rw [List.destutter'_cons_neg _ (not_not_intro heq), heq]
    · rw [List.destutter'_cons_pos _ heq]
      have hne := List.destutter'_ne_nil values (· ≠ ·) (a := v)
      obtain ⟨w, rest, hcons⟩ := List.exists_cons_of_ne_nil hne
      rw [hcons, List.getLast?_cons_cons]

end

/-! ## Detectors -/

/-- A detector: it remembers a value, and reports a sight that gives another one. -/
structure Detector (β : Type) where
  subject : CycleEvent.Subject
  memory : Notebook → β
  looks : Sight → Bool
  value : Sight → β
  report : β → Sight → List CycleEvent
  about_eq : ∀ clamp n s,
    Notebook.about clamp n s subject = if looks s then report (memory n) s else []
  memory_enter : ∀ clamp n s,
    memory (Notebook.enter clamp n s) = if looks s then value s else memory n
  memory_note : ∀ n counters trace, memory { n with counters, trace } = memory n
  ofCycle : subject ≠ .overrun ∧ subject ≠ .window

namespace Detector

open Exchange

def domain : Detector Bool where
  subject := .domain
  memory := Notebook.degraded
  looks _ := true
  value s := s.domain.isDegraded
  report := Sight.domainEdge
  about_eq _ _ _ := rfl
  memory_enter _ _ _ := rfl
  memory_note _ _ _ := rfl
  ofCycle := by decide

def master : Detector (Option MasterHealth) where
  subject := .master
  memory := Notebook.polled
  looks s := s.polled.isSome
  value := Sight.polled
  report := Sight.healthChange
  about_eq _ _ s := by
    simp only [Notebook.about, Sight.healthChange]
    cases s.polled <;> rfl
  memory_enter _ n s := by
    show s.polled.or n.polled = _
    cases s.polled <;> rfl
  memory_note _ _ _ := rfl
  ofCycle := by decide

def reference : Detector Bool where
  subject := .reference
  memory := Notebook.referenceLost
  looks _ := true
  value := Sight.readFailed
  report := Sight.loss
  about_eq _ _ _ := rfl
  memory_enter _ _ _ := rfl
  memory_note _ _ _ := rfl
  ofCycle := by decide

variable {β M : Type} [MasterSession M] (d : Detector β)

theorem memory_aside {x : Exchange M} {h : PipelineHappening M} (aside : x.found? h = none) :
    d.memory (x.happen h).notebook = d.memory x.notebook := by
  match h with
  | .call (.cycle context r) => cases aside
  | .call (.overrun context exec) => exact d.memory_note x.notebook _ _
  | .call (.window context w) => exact d.memory_note x.notebook x.shared.counters _
  | .outside i => rfl

/-- **The events of a detector** are what it reports beside each cycle that it looks at. -/
theorem filter_told (x : Exchange M) (hs : List (PipelineHappening M)) :
    (x.told hs).filter (·.subject = d.subject) =
      edges d.value d.report (d.memory x.notebook) ((x.sights hs).filter d.looks) := by
  induction x, hs using run_induction with
  | nil x => rfl
  | aside x h hs aside ih =>
    rw [sights_aside aside, told, List.filter_append,
      filter_events_aside aside d.ofCycle.1 d.ofCycle.2, List.nil_append, ih, d.memory_aside aside]
  | cycle x context r hs ih =>
    -- what the next report is compared with
    have hmemory := d.memory_enter x.clock.params.clamp x.notebook (x.sight context.cycle r)
    rw [← notebook_execute] at hmemory
    rw [sights_cycle, told, List.filter_append]
    show (Notebook.events _ _ _).filter _ ++ ((x.execute context.cycle r).told hs).filter _ = _
    rw [Notebook.filter_events, d.about_eq, ih, hmemory]
    cases hlooks : d.looks (x.sight context.cycle r)
    · rw [List.filter_cons_of_neg (by simp [hlooks])]
      rfl
    · rw [List.filter_cons_of_pos hlooks]
      rfl

end Detector

/-! ## Reading a log -/

/-- What reads only events about a subject reads the same off those events alone. -/
theorem filterMap_filter_subject {β : Type} {read : CycleEvent → Option β} {o : CycleEvent.Subject}
    (h : ∀ e, e.subject ≠ o → read e = none) (log : List CycleEvent) :
    (log.filter (·.subject = o)).filterMap read = log.filterMap read := by
  rw [List.filterMap_filter]
  congr 1
  funext e
  by_cases he : e.subject = o <;> simp [he, h]

theorem filterMap_domainEdge (before : Bool) (s : Sight) :
    (s.domainEdge before).filterMap CycleEvent.domainStatus? =
      if before = s.domain.isDegraded then [] else [s.domain.isDegraded] := by
  unfold Sight.domainEdge
  cases before <;> cases s.domain.isDegraded <;> rfl

theorem filterMap_healthChange (before : Option MasterHealth) {s : Sight}
    (h : s.polled.isSome) :
    (s.healthChange before).filterMap (fun e => e.masterHealth?.map some) =
      if before = s.polled then [] else [s.polled] := by
  obtain ⟨health, hpolled⟩ := Option.isSome_iff_exists.1 h
  simp only [Sight.healthChange, hpolled]
  split <;> rfl

/-- The status in a cycle, given the one before it: what the log says beside the cycle's number. -/
def statusIn (log : List CycleEvent) (before : Bool) (cycle : UInt64) : Bool :=
  (((log.filter (·.cycle = cycle)).filterMap CycleEvent.domainStatus?).head?).getD before

theorem cycle_of_mem_domainEdge {before : Bool} {s : Sight} {e : CycleEvent}
    (h : e ∈ s.domainEdge before) : e.cycle = s.cycle := by
  unfold Sight.domainEdge at h
  split at h
  · cases h
  · split at h <;> rw [List.mem_singleton.1 h] <;> rfl

theorem cycle_of_mem_edges {first : Bool} {seen : List Sight} {e : CycleEvent}
    (h : e ∈ edges (·.domain.isDegraded) Sight.domainEdge first seen) :
    e.cycle ∈ seen.map Sight.cycle := by
  induction seen generalizing first with
  | nil => cases h
  | cons s seen ih =>
    rw [edges_cons, List.mem_append] at h
    obtain h | h := h
    · rw [cycle_of_mem_domainEdge h]
      exact List.mem_cons_self
    · exact List.mem_cons_of_mem _ (ih h)

/-- The status of one cycle after the other, read off a log. `past` are the events of cycles with
other numbers. -/
theorem scanl_statusIn {log : List CycleEvent} (past : List CycleEvent) {first : Bool}
    {seen : List Sight}
    (hnodup : (seen.map Sight.cycle).Nodup) (hpast : ∀ e ∈ past, e.cycle ∉ seen.map Sight.cycle)
    (hlog : log.filter (·.subject = .domain) =
      past ++ edges (·.domain.isDegraded) Sight.domainEdge first seen) :
    (seen.map Sight.cycle).scanl (statusIn log) first =
      first :: seen.map (·.domain.isDegraded) := by
  induction seen generalizing first past with
  | nil => rfl
  | cons s seen ih =>
    rw [List.map_cons, List.nodup_cons] at hnodup
    obtain ⟨hnew, hnodup⟩ := hnodup
    -- of the events with this number only those of this cycle are about the domain
    have hnone : past.filter (·.cycle = s.cycle) = [] :=
      List.filter_eq_nil_iff.2 fun e he heq => hpast e he (by simp [of_decide_eq_true heq])
    have hown : (s.domainEdge first).filter (·.cycle = s.cycle) = s.domainEdge first :=
      List.filter_eq_self.2 fun e he => decide_eq_true (cycle_of_mem_domainEdge he)
    have hlater : (edges (·.domain.isDegraded) Sight.domainEdge s.domain.isDegraded seen).filter
        (·.cycle = s.cycle) = [] :=
      List.filter_eq_nil_iff.2 fun e he heq =>
        hnew (of_decide_eq_true heq ▸ cycle_of_mem_edges he)
    have hstatus : statusIn log first s.cycle = s.domain.isDegraded := by
      unfold statusIn
      rw [← filterMap_filter_subject (fun e => CycleEvent.domainStatus?_of_subject),
        List.filter_filter, List.filter_congr fun e _ => Bool.and_comm _ _, ← List.filter_filter,
        hlog, edges_cons, List.filter_append, List.filter_append, hnone, hown, hlater,
        List.nil_append, List.append_nil, filterMap_domainEdge]
      split
      · assumption
      · rfl
    -- for the cycles behind this one its events are past
    rw [edges_cons, ← List.append_assoc] at hlog
    have hrest := ih _ hnodup (fun e he => ?_) hlog
    · rw [List.map_cons, List.scanl_cons, hstatus, hrest, List.map_cons]
    · obtain he | he := List.mem_append.1 he
      · exact fun hmem => hpast e he (List.mem_cons_of_mem _ hmem)
      · rwa [cycle_of_mem_domainEdge he]

/-! ## Logs of runs -/

/-- A log reports the edges of what was seen, and what was seen can be read off it again. -/
structure ReportsEdges (interval : UInt32) (seen : List Sight) (log : List CycleEvent) : Prop where
  /-- One event in each cycle whose status is not that of the cycle before. -/
  domain : log.filter (·.subject = .domain) =
    edges (·.domain.isDegraded) Sight.domainEdge false seen
  /-- Degradations and recoveries take turns. -/
  alternate : (false :: log.filterMap CycleEvent.domainStatus?).IsChain (· ≠ ·)
  /-- The master's health is polled in the cycles whose number is a multiple of the interval. -/
  polls : ∀ (k : Nat) (s : Sight), seen[k]? = some s →
    (s.polled.isSome ↔ k % max interval.toNat 1 = 0)
  /-- One event at the first poll, and at each that does not find what the poll before it found. -/
  master : log.filter (·.subject = .master) =
    edges Sight.polled Sight.healthChange none (seen.filter (·.polled.isSome))
  /-- One event in each cycle that fails to read the reference after one that did not fail. -/
  reference : log.filter (·.subject = .reference) = edges Sight.readFailed Sight.loss false seen
  lastStatus : ((log.filterMap CycleEvent.domainStatus?).getLast?).getD false =
    ((seen.map (·.domain.isDegraded)).getLast?).getD false
  lastPoll : (log.filterMap CycleEvent.masterHealth?).getLast? =
    (seen.filterMap Sight.polled).getLast?
  /-- The status of every cycle, where the cycles have different numbers. -/
  replay : (seen.map Sight.cycle).Nodup →
    (seen.map Sight.cycle).scanl (statusIn log) false = false :: seen.map (·.domain.isDegraded)

theorem map_polled_filter (seen : List Sight) :
    (seen.filter (·.polled.isSome)).map Sight.polled =
      (seen.filterMap Sight.polled).map some := by
  induction seen with
  | nil => rfl
  | cons s seen ih =>
    cases hpolled : s.polled with
    | none =>
      rw [List.filter_cons_of_neg (by simp [hpolled]), List.filterMap_cons_none hpolled, ih]
    | some health =>
      rw [List.filter_cons_of_pos (by simp [hpolled]), List.filterMap_cons_some hpolled,
        List.map_cons, List.map_cons, hpolled, ih]

section

variable {seen : List Sight} {log : List CycleEvent}

/-- The statuses on a log are those that were seen, without repetitions. -/
theorem statuses_eq_destutter (h : log.filter (·.subject = .domain) =
      edges (·.domain.isDegraded) Sight.domainEdge false seen) :
    false :: log.filterMap CycleEvent.domainStatus? =
      (seen.map (·.domain.isDegraded)).destutter' (· ≠ ·) false := by
  rw [← filterMap_filter_subject fun e => CycleEvent.domainStatus?_of_subject, h]
  exact edges_destutter _ _ _ _ fun before s _ => filterMap_domainEdge before s

/-- The healths on a log are those that were polled, without repetitions. -/
theorem healths_eq_destutter (h : log.filter (·.subject = .master) =
      edges Sight.polled Sight.healthChange none (seen.filter (·.polled.isSome))) :
    none :: (log.filterMap CycleEvent.masterHealth?).map some =
      ((seen.filterMap Sight.polled).map some).destutter' (· ≠ ·) none := by
  have hread (e : CycleEvent) (he : e.subject ≠ .master) : e.masterHealth?.map some = none := by
    rw [CycleEvent.masterHealth?_of_subject he]
    rfl
  rw [← map_polled_filter, List.map_filterMap, ← filterMap_filter_subject hread, h]
  refine edges_destutter _ _ _ _ fun before s hs => filterMap_healthChange before ?_
  exact (List.mem_filter.1 hs).2

end

namespace Exchange

variable {M : Type} [MasterSession M]

/-- The events of a run report the edges of what its cycles find. -/
theorem reportsEdges_told (master : M) (shared : Shared) (config : CycleConfig)
    (hs : List (PipelineHappening M)) :
    ReportsEdges config.pollInterval ((start master shared config).sights hs)
      ((start master shared config).told hs) := by
  let x := start master shared config
  have hdomain : _ = edges (·.domain.isDegraded) Sight.domainEdge false _ :=
    (Detector.domain.filter_told x hs).trans (by rw [Detector.domain, List.filter_true]; rfl)
  have hmaster : _ = edges Sight.polled Sight.healthChange none _ :=
    Detector.master.filter_told x hs
  have hreference : _ = edges Sight.readFailed Sight.loss false _ :=
    (Detector.reference.filter_told x hs).trans (by rw [Detector.reference, List.filter_true]; rfl)
  have hstatuses := statuses_eq_destutter hdomain
  have hhealths := healths_eq_destutter hmaster
  refine
    { domain := hdomain
      master := hmaster
      reference := hreference
      alternate := ?_
      polls := fun k s hk => ?_
      lastStatus := ?_
      lastPoll := ?_
      replay := fun hnodup => scanl_statusIn [] hnodup nofun hdomain }
  · rw [hstatuses]
    exact List.isChain_destutter' _ _ _
  · rw [isSome_polled_sights (Polling.start master shared config) hs hk, Nat.zero_add]
  · have hlast := congrArg List.getLast? hstatuses
    rw [getLast?_destutter'] at hlast
    simpa [List.getLast?_cons] using hlast
  · have hlast := congrArg List.getLast? hhealths
    rw [getLast?_destutter', getLast?_none_cons, getLast?_none_cons] at hlast
    exact Option.some.inj hlast

/-- **A log of edges.** Whatever a recording sink is told in a run, it is told the edges of the
domain's status, of the polled health and of failed readings, each of them once; and the status of
every cycle and the last health that was polled can be read off what it keeps. -/
theorem reportsEdges_recorded (master : M) (topology : Topology) (data : ProcessData)
    (counters : RunCounters) (metrics : SinkMetrics) (past : Array CycleEvent)
    (lifecycle : Array LifecycleEvent) (config : CycleConfig) (hs : List (PipelineHappening M)) :
    let x := start master
      ⟨topology, data, counters, .ofSink (.recording metrics past lifecycle)⟩ config
    ∃ log : List CycleEvent,
      (x.happenings hs).shared.trace.sink.cycleEvents = past ++ log.toArray ∧
        ReportsEdges config.pollInterval (x.sights hs) log := by
  intro x
  have htrace : (x.happenings hs).shared.trace = _ :=
    (trace_happenings x hs).trans (Trace.emitCycles_recording metrics past lifecycle _)
  refine ⟨x.told hs, ?_, reportsEdges_told master _ config hs⟩
  rw [htrace]
  rfl

/-- A fault of bus and reference is reported when it begins and, for the domain, when it ends. -/
theorem reportsEdges_recorded_of_flapping :
    let config := { CycleConfig.unprivileged 1000 with healthInterval := some 2 }
    let x := start (ScriptedMaster.ofDomainSize 8)
      ⟨.pair, .ofTopology .pair, .zero, .ofSink (.recording .zero #[] #[])⟩ config
    let kept := (x.happenings flapping).shared.trace.sink.cycleEvents
    (∃ log : List CycleEvent, kept = #[] ++ log.toArray ∧
        ReportsEdges config.pollInterval (x.sights flapping) log) ∧
      kept = #[.masterHealthChanged 0 1 8 true, .domainDegraded 1 0 0, .referenceUnavailable 1,
        .deadlineOverrun 1 1500 1000, .domainRecovered 2 1, .masterHealthChanged 2 0 0 false] ∧
      ((x.sights flapping).map Sight.cycle).Nodup ∧
      ([0, 1, 2] : List UInt64).scanl (statusIn kept.toList) false = [false, false, true, false] :=
  ⟨reportsEdges_recorded _ _ _ _ _ _ _ _ _, by decide +kernel, by decide +kernel,
    by decide +kernel⟩

end Exchange

end CyclicBus

import Mathlib.Logic.Basic
import CyclicBus.Trace.Sink

/-!
# Sink metrics

Metrics are six words, read one by one (`SinkMetrics.read`). Each event that a sink takes moves a
word by at most one (`read_count`), so each word is the number of events that it counts
(`read_takeAll`), and a merge adds word by word (`read_merge`). `metrics_takeAll`: the metrics of
events in a row are the merge of their metrics, in any order, and they account for every event.
-/

namespace CyclicBus

/-! ## Events -/

/-- Something that a sink is given. -/
inductive TraceEvent where
  | cycle (e : CycleEvent)
  | lifecycle (e : LifecycleEvent)
  deriving DecidableEq, Repr

/-- Whether a cycle event is of no interest to its class: the arming of the drift filter is no clock
anomaly, and a timing window is no overrun. -/
def CycleEvent.isRoutine : CycleEvent → Bool
  | driftArmed _ _ _ => true
  | timingWindow _ _ _ _ _ _ => true
  | _ => false

/-- Whether a cycle event makes a sink unhealthy. -/
def CycleEvent.isFault : CycleEvent → Bool
  | clockBackwardJump _ _ _ => true
  | driftSaturated _ _ _ => true
  | referenceUnavailable _ => true
  | deadlineOverrun _ _ _ => true
  | _ => false

/-- One of the words of which metrics consist. -/
inductive SinkMetrics.Word where
  | cycleEvents
  | lifecycleEvents
  | ofClass (k : CycleEvent.Category)

namespace TraceEvent

/-- Whether a cycle event is of no interest to its class. -/
def isRoutine : TraceEvent → Bool
  | cycle e => e.isRoutine
  | lifecycle _ => false

/-- Whether an event is counted in a word. -/
def isCounted (w : SinkMetrics.Word) (e : TraceEvent) : Bool :=
  match w, e with
  | .cycleEvents, cycle _ => true
  | .lifecycleEvents, lifecycle _ => true
  | .ofClass k, cycle e => !e.isRoutine && e.category == k
  | _, _ => false

/-- Whether an event makes a sink unhealthy. -/
def isFault : TraceEvent → Bool
  | cycle e => e.isFault
  | lifecycle _ => false

/-- A fault is an event that the class of the clock or that of timing counts. -/
theorem isFault_eq (e : TraceEvent) :
    e.isFault = (e.isCounted (.ofClass .clock) || e.isCounted (.ofClass .timing)) := by
  cases e with
  | lifecycle e => rfl
  | cycle e => cases e <;> rfl

/-- A cycle event is counted in its class or routine. -/
theorem countP_cycleEvents (es : List TraceEvent) :
    es.countP (isCounted .cycleEvents) =
      es.countP (isCounted (.ofClass .health)) + es.countP (isCounted (.ofClass .clock)) +
        es.countP (isCounted (.ofClass .timing)) + es.countP (isCounted (.ofClass .buffer)) +
        es.countP isRoutine := by
  have hone (e : TraceEvent) : [e].countP (isCounted .cycleEvents) =
      [e].countP (isCounted (.ofClass .health)) + [e].countP (isCounted (.ofClass .clock)) +
        [e].countP (isCounted (.ofClass .timing)) + [e].countP (isCounted (.ofClass .buffer)) +
        [e].countP isRoutine := by
    cases e with
    | lifecycle e => rfl
    | cycle e => cases e <;> rfl
  induction es with
  | nil => rfl
  | cons e es ih =>
    have he := hone e
    rw [← List.singleton_append]
    simp only [List.countP_append]
    omega

end TraceEvent

/-! ## Merging -/

namespace SinkMetrics

/-- One word of metrics. -/
def read (m : SinkMetrics) : Word → UInt64
  | .cycleEvents => m.cycleEvents
  | .lifecycleEvents => m.lifecycleEvents
  | .ofClass .health => m.healthEvents
  | .ofClass .clock => m.clockAnomalies
  | .ofClass .timing => m.deadlineOverruns
  | .ofClass .buffer => m.snapshotsDropped

variable {m n : SinkMetrics}

theorem ext_read (h : ∀ w, m.read w = n.read w) : m = n := by
  cases m
  cases n
  simp only [mk.injEq]
  exact ⟨h .cycleEvents, h .lifecycleEvents, h (.ofClass .health), h (.ofClass .clock),
    h (.ofClass .timing), h (.ofClass .buffer)⟩

@[simp] theorem read_zero (w : Word) : zero.read w = 0 := by
  rcases w with _ | _ | ⟨_ | _ | _ | _⟩ <;> rfl

@[simp] theorem read_merge (m n : SinkMetrics) (w : Word) :
    (m.merge n).read w = (m.read w).satAdd (n.read w) := by
  rcases w with _ | _ | ⟨_ | _ | _ | _⟩ <;> rfl

theorem merge_assoc (l m n : SinkMetrics) : (l.merge m).merge n = l.merge (m.merge n) :=
  ext_read fun w => by simp only [read_merge, UInt64.satAdd_assoc]

theorem merge_comm (m n : SinkMetrics) : m.merge n = n.merge m :=
  ext_read fun w => by rw [read_merge, read_merge, UInt64.satAdd_comm]

theorem merge_zero (m : SinkMetrics) : m.merge zero = m :=
  ext_read fun w => by rw [read_merge, read_zero, UInt64.satAdd_zero]

/-! ## Counting -/

def count (m : SinkMetrics) : TraceEvent → SinkMetrics
  | .cycle e => m.countCycle e
  | .lifecycle _ => m.countLifecycle

/-- An event moves the words in which it is counted by one, and no other word. -/
theorem read_count (m : SinkMetrics) (e : TraceEvent) (w : Word) :
    (m.count e).read w = if e.isCounted w then m.read w + 1 else m.read w := by
  rcases w with _ | _ | ⟨_ | _ | _ | _⟩ <;> cases e with
  | lifecycle e => rfl
  | cycle e => cases e <;> rfl

/-- A sink is healthy as long as no word that counts anomalies moved. -/
theorem isHealthy_iff (m : SinkMetrics) :
    m.isHealthy = true ↔
      (m.read (.ofClass .clock)).toNat = 0 ∧ (m.read (.ofClass .timing)).toNat = 0 := by
  unfold isHealthy
  rw [Bool.and_eq_true, beq_iff_eq, beq_iff_eq, ← UInt64.toNat_inj, ← UInt64.toNat_inj]
  rfl

/-- What metrics say about the events that were counted. -/
structure Account (m : SinkMetrics) (es : List TraceEvent) : Prop where
  exact : ∀ w, (m.read w).toNat = es.countP (·.isCounted w)
  total : m.cycleEvents.toNat =
    m.healthEvents.toNat + m.clockAnomalies.toNat + m.deadlineOverruns.toNat +
      m.snapshotsDropped.toNat + es.countP (·.isRoutine)
  healthy : m.isHealthy = true ↔ ∀ e ∈ es, e.isFault = false

/-- Exact counts account for every event. -/
theorem account_of_exact {es : List TraceEvent}
    (exact : ∀ w, (m.read w).toNat = es.countP (·.isCounted w)) : m.Account es := by
  refine ⟨exact, ?_, ?_⟩
  · have htotal := TraceEvent.countP_cycleEvents es
    rw [← exact, ← exact, ← exact, ← exact, ← exact] at htotal
    exact htotal
  · rw [isHealthy_iff, exact, exact, List.countP_eq_zero, List.countP_eq_zero, ← forall₂_and]
    refine forall₂_congr fun e _ => ?_
    rw [e.isFault_eq, Bool.or_eq_false_iff, Bool.not_eq_true, Bool.not_eq_true]

end SinkMetrics

/-! ## A sink that is given events -/

namespace Sink

def take (s : Sink) : TraceEvent → Sink
  | .cycle e => s.emitCycle e
  | .lifecycle e => s.emitLifecycle e

def takeAll (s : Sink) (es : List TraceEvent) : Sink := es.foldl take s

variable {s : Sink}

theorem take_null (e : TraceEvent) : null.take e = null := by
  cases e <;> rfl

theorem takeAll_null (es : List TraceEvent) : null.takeAll es = null := by
  induction es with
  | nil => rfl
  | cons e es ih =>
    show (null.take e).takeAll es = null
    rw [take_null, ih]

theorem eq_null_of_isEnabled (h : s.isEnabled = false) : s = null := by
  cases s with
  | null => rfl
  | log m r => cases h
  | recording m c l => cases h

theorem isEnabled_take (s : Sink) (e : TraceEvent) : (s.take e).isEnabled = s.isEnabled := by
  cases s <;> cases e <;> rfl

theorem metrics_take (h : s.isEnabled = true) (e : TraceEvent) :
    (s.take e).metrics = s.metrics.count e := by
  cases s with
  | log m r => cases e <;> rfl
  | null => cases h
  | recording m c l => cases e <;> rfl

/-- Each word gains the number of events that it counts. -/
theorem read_takeAll (h : s.isEnabled = true) (es : List TraceEvent) (w : SinkMetrics.Word) :
    (s.takeAll es).metrics.read w = s.metrics.read w + .ofNat (es.countP (·.isCounted w)) := by
  induction es generalizing s with
  | nil => exact (UInt64.add_zero _).symm
  | cons e es ih =>
    show ((s.take e).takeAll es).metrics.read w = _
    rw [ih ((isEnabled_take s e).trans h), metrics_take h, SinkMetrics.read_count, List.countP_cons]
    split
    · rw [UInt64.ofNat_add, UInt64.add_assoc, UInt64.add_comm 1]
      rfl
    · rfl

/-- A fresh sink that takes events at all counts them. -/
theorem read_takeAll_fresh (h : s.isEnabled = true) (fresh : s.metrics = .zero)
    (es : List TraceEvent) (w : SinkMetrics.Word) :
    (s.takeAll es).metrics.read w = .ofNat (es.countP (·.isCounted w)) := by
  rw [read_takeAll h, fresh, SinkMetrics.read_zero, UInt64.zero_add]

theorem account_takeAll (h : s.isEnabled = true) (fresh : s.metrics = .zero)
    {es : List TraceEvent} (short : es.length < UInt64.size) :
    (s.takeAll es).metrics.Account es := by
  refine SinkMetrics.account_of_exact fun w => ?_
  rw [read_takeAll_fresh h fresh]
  exact UInt64.toNat_ofNat_of_lt' (Nat.lt_of_le_of_lt List.countP_le_length short)

theorem metrics_takeAll_append (fresh : s.metrics = .zero) {es fs : List TraceEvent}
    (short : es.length + fs.length < UInt64.size) :
    (s.takeAll (es ++ fs)).metrics = (s.takeAll es).metrics.merge (s.takeAll fs).metrics := by
  cases henabled : s.isEnabled with
  | false =>
    obtain rfl := eq_null_of_isEnabled henabled
    rw [takeAll_null, takeAll_null, takeAll_null]
    exact (SinkMetrics.merge_zero _).symm
  | true =>
    refine SinkMetrics.ext_read fun w => ?_
    have hle : es.countP (·.isCounted w) + fs.countP (·.isCounted w) ≤ es.length + fs.length :=
      Nat.add_le_add List.countP_le_length List.countP_le_length
    rw [SinkMetrics.read_merge, read_takeAll_fresh henabled fresh,
      read_takeAll_fresh henabled fresh, read_takeAll_fresh henabled fresh, List.countP_append,
      UInt64.satAdd_ofNat (Nat.lt_of_le_of_lt hle short)]

theorem metrics_takeAll_perm {es fs : List TraceEvent} (h : es.Perm fs) :
    (s.takeAll es).metrics = (s.takeAll fs).metrics := by
  cases henabled : s.isEnabled with
  | false =>
    obtain rfl := eq_null_of_isEnabled henabled
    rw [takeAll_null, takeAll_null]
  | true =>
    refine SinkMetrics.ext_read fun w => ?_
    rw [read_takeAll henabled, read_takeAll henabled, h.countP_eq]

end Sink

/-! ## Metrics as a homomorphism -/

/-- **Metrics turn events in a row into a merge.** Merging is a commutative monoid; the metrics of a
fresh sink do not depend on the order of the events. If it takes events at all, they account for
every one of them, and else they stay at zero. -/
theorem metrics_takeAll :
    ((∀ l m n : SinkMetrics, (l.merge m).merge n = l.merge (m.merge n)) ∧
      (∀ m n : SinkMetrics, m.merge n = n.merge m) ∧
      ∀ m : SinkMetrics, m.merge .zero = m ∧ SinkMetrics.zero.merge m = m) ∧
    ∀ s : Sink, s.metrics = .zero →
      (∀ es fs : List TraceEvent, es.length + fs.length < UInt64.size →
        (s.takeAll (es ++ fs)).metrics = (s.takeAll es).metrics.merge (s.takeAll fs).metrics) ∧
      (∀ es fs : List TraceEvent, es.Perm fs → (s.takeAll es).metrics = (s.takeAll fs).metrics) ∧
      (s.isEnabled = true → ∀ es : List TraceEvent, es.length < UInt64.size →
        (s.takeAll es).metrics.Account es) ∧
      (s.isEnabled = false → ∀ es : List TraceEvent, (s.takeAll es).metrics = .zero) := by
  refine ⟨⟨SinkMetrics.merge_assoc, SinkMetrics.merge_comm, fun m => ⟨m.merge_zero, ?_⟩⟩,
    fun s fresh => ⟨fun es fs short => Sink.metrics_takeAll_append fresh short,
      fun es fs h => Sink.metrics_takeAll_perm h,
      fun h es short => Sink.account_takeAll h fresh short, fun h es => ?_⟩⟩
  · rw [SinkMetrics.merge_comm, SinkMetrics.merge_zero]
  · rw [Sink.eq_null_of_isEnabled h, Sink.takeAll_null]
    rfl

/-- A start on a bus that is not well yet. -/
def roughStart : List TraceEvent :=
  [.lifecycle (.started 1000000 "inherit" 2), .cycle (.domainDegraded 1 0 2),
    .cycle (.masterHealthChanged 2 2 8 true), .cycle (.referenceUnavailable 3),
    .cycle (.driftArmed 4 5 100)]

/-- What followed it. -/
def settled : List TraceEvent :=
  [.cycle (.domainRecovered 5 2), .cycle (.snapshotDropped 6),
    .cycle (.timingWindow 8 8 1000100 50000 2000 0), .lifecycle (.stopped 8 "requested")]

/-- The metrics of a recording sink of a whole run, and of a log sink of its second part. -/
theorem metrics_takeAll_of_settled :
    (Sink.newRecording.takeAll (roughStart ++ settled)).metrics =
        (Sink.newRecording.takeAll roughStart).metrics.merge
          (Sink.newRecording.takeAll settled).metrics ∧
      (Sink.newRecording.takeAll (roughStart ++ settled)).metrics =
        (Sink.newRecording.takeAll (settled ++ roughStart)).metrics ∧
      (Sink.newRecording.takeAll (roughStart ++ settled)).metrics.Account (roughStart ++ settled) ∧
      (Sink.newLog.takeAll settled).metrics.Account settled ∧
      (Sink.newRecording.takeAll (roughStart ++ settled)).metrics = ⟨7, 2, 3, 1, 0, 1⟩ ∧
      (Sink.newRecording.takeAll (roughStart ++ settled)).metrics.isHealthy = false ∧
      (Sink.newLog.takeAll settled).metrics.isHealthy = true ∧
      (Sink.null.takeAll roughStart).metrics = .zero := by
  obtain ⟨happend, hperm, haccount, -⟩ := metrics_takeAll.2 .newRecording rfl
  obtain ⟨-, -, hlog, -⟩ := metrics_takeAll.2 .newLog rfl
  obtain ⟨-, -, -, hnull⟩ := metrics_takeAll.2 .null rfl
  exact ⟨happend roughStart settled (by decide), hperm _ _ List.perm_append_comm,
    haccount rfl _ (by decide), hlog rfl _ (by decide), by decide +kernel, by decide +kernel,
    by decide +kernel, hnull rfl roughStart⟩

end CyclicBus

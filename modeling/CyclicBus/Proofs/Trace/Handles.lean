import CyclicBus.Proofs.Trace.SinkMetrics

/-!
# Handles on one sink

A `History` lists calls on a handle of a recording sink and on its copies, the latest call first. The
calls alone say how a handle is switched (`isOn`), hence which events they deliver (`delivered`). One
call at a time, the sink is led to hold those delivered since it was last cleared, and to have
counted all of them (`sink_tracing`). A switch matters to the handle and to its later copies only
(`deliveredBy_setEnabled`).
-/

namespace CyclicBus

/-! ## Calls -/

/-- A call on the handles of one sink. -/
inductive HandleCall where
  | clone (i : Nat)
  | setEnabled (i : Nat) (b : Bool)
  | emit (i : Nat) (e : TraceEvent)
  | clear
  deriving DecidableEq, Repr

namespace TraceEvent

def cycle? : TraceEvent → Option CycleEvent
  | cycle e => some e
  | lifecycle _ => none

def lifecycle? : TraceEvent → Option LifecycleEvent
  | cycle _ => none
  | lifecycle e => some e

end TraceEvent

namespace Tracing

def call (t : Tracing) : HandleCall → Tracing
  | .clone i => t.clone i
  | .setEnabled i b => t.setEnabled i b
  | .emit i (.cycle e) => t.emitCycle i e
  | .emit i (.lifecycle e) => t.emitLifecycle i e
  | .clear => t.clear

variable (t : Tracing) (i j : Nat)

theorem enabled_clone : ((t.clone j).handle i).enabled =
    if i = t.handles.size then (t.handle j).enabled else (t.handle i).enabled := by
  show (t.handles.push (t.handles.getD j false)).getD i false = _
  rw [Array.getD_eq_getD_getElem?, Array.getElem?_push]
  split
  · rfl
  · rw [← Array.getD_eq_getD_getElem?]
    rfl

theorem enabled_setEnabled (b : Bool) : ((t.setEnabled j b).handle i).enabled =
    if i = j ∧ i < t.handles.size then b else (t.handle i).enabled := by
  show (t.handles.setIfInBounds j b).getD i false =
    if i = j ∧ i < t.handles.size then b else t.handles.getD i false
  rw [Array.getD_eq_getD_getElem?, Array.getElem?_setIfInBounds, Array.getD_eq_getD_getElem?]
  by_cases hij : i = j
  · subst hij
    by_cases hi : i < t.handles.size <;> simp [hi]
  · rw [if_neg (Ne.symm hij), if_neg fun h => hij h.1]

theorem enabled_of_size_le {t : Tracing} {i : Nat} (hi : t.handles.size ≤ i) :
    (t.handle i).enabled = false := by
  show t.handles.getD i false = false
  rw [Array.getD_eq_getD_getElem?, Array.getElem?_eq_none hi]
  rfl

theorem handles_emit (e : TraceEvent) : (t.call (.emit i e)).handles = t.handles := by
  cases e <;> rfl

theorem sink_emit (e : TraceEvent) :
    (t.call (.emit i e)).sink = if (t.handle i).enabled then t.sink.take e else t.sink := by
  cases e with
  | cycle e =>
    show ((t.handle i).emitCycle e).sink = _
    unfold Trace.emitCycle
    split <;> rfl
  | lifecycle e =>
    show ((t.handle i).emitLifecycle e).sink = _
    unfold Trace.emitLifecycle
    split <;> rfl

end Tracing

/-- Calls on one handle of a recording sink and on the copies of it, the latest call first. -/
abbrev History := List HandleCall

namespace History

/-- The handles and the sink to which calls lead. -/
def tracing : History → Tracing
  | [] => .ofSink .newRecording
  | c :: h => (tracing h).call c

/-! ## Switches -/

/-- The number of handles: one more for each copy. -/
def made : History → Nat
  | [] => 1
  | .clone _ :: h => made h + 1
  | _ :: h => made h

/-- Whether a handle is on. It is as it was last set; if that was never done, then as its source was
when it was copied; and the first one is on. -/
def isOn : History → Nat → Bool
  | [], i => i == 0
  | .clone j :: h, i => if i = made h then isOn h j else isOn h i
  | .setEnabled j b :: h, i => if i = j ∧ i < made h then b else isOn h i
  | _ :: h, i => isOn h i

theorem size_handles (h : History) : h.tracing.handles.size = h.made := by
  induction h with
  | nil => rfl
  | cons c h ih =>
    cases c with
    | clone i => exact (Array.size_push _).trans (congrArg (· + 1) ih)
    | setEnabled i b => exact Array.size_setIfInBounds.trans ih
    | emit i e => exact (congrArg Array.size (Tracing.handles_emit _ _ _)).trans ih
    | clear => exact ih

/-- The switches of the handles are those that the calls set. -/
theorem enabled_handle (h : History) (i : Nat) : (h.tracing.handle i).enabled = h.isOn i := by
  induction h generalizing i with
  | nil => cases i <;> rfl
  | cons c h ih =>
    cases c with
    | clone j =>
      rw [tracing, Tracing.call, Tracing.enabled_clone, size_handles, ih, ih]
      rfl
    | setEnabled j b =>
      rw [tracing, Tracing.call, Tracing.enabled_setEnabled, size_handles, ih]
      rfl
    | emit j e =>
      show ((tracing h).call (.emit j e)).handles.getD i false = isOn h i
      rw [Tracing.handles_emit]
      exact ih i
    | clear => exact ih i

/-- Handles that were not made yet are off. -/
theorem isOn_of_made_le {h : History} {i : Nat} (hi : h.made ≤ i) : h.isOn i = false := by
  rw [← enabled_handle, Tracing.enabled_of_size_le]
  rwa [size_handles]

/-! ## Deliveries -/

/-- What a call delivers after others, and through which handle. -/
def delivery (h : History) : HandleCall → Option (Nat × TraceEvent)
  | .emit i e => if h.isOn i then some (i, e) else none
  | _ => none

/-- What recent calls deliver after old ones, in the order of the calls. -/
def delivered (old : History) : History → List (Nat × TraceEvent)
  | [] => []
  | c :: recent => delivered old recent ++ (delivery (recent ++ old) c).toList

/-- What recent calls deliver through one handle. -/
def deliveredBy (old recent : History) (i : Nat) : List TraceEvent :=
  ((delivered old recent).filter (·.1 = i)).map (·.2)

/-- The events that a history delivers. -/
def events (h : History) : List TraceEvent := (delivered [] h).map (·.2)

/-- The events delivered since the last clear. -/
def kept (h : History) : List TraceEvent :=
  (delivered (h.dropWhile (· ≠ .clear)) (h.takeWhile (· ≠ .clear))).map (·.2)

theorem map_delivered_cons (old recent : History) (c : HandleCall) :
    (delivered old (c :: recent)).map (·.2) =
      (delivered old recent).map (·.2) ++ ((delivery (recent ++ old) c).map (·.2)).toList := by
  rw [delivered, List.map_append]
  cases delivery (recent ++ old) c <;> rfl

theorem events_cons (c : HandleCall) (h : History) :
    events (c :: h) = h.events ++ ((delivery h c).map (·.2)).toList := by
  unfold events
  rw [map_delivered_cons, List.append_nil]

theorem kept_clear (h : History) : kept (.clear :: h) = [] := by
  unfold kept
  rw [List.takeWhile_cons_of_neg (by decide)]
  rfl

theorem kept_cons {c : HandleCall} (hc : c ≠ .clear) (h : History) :
    kept (c :: h) = h.kept ++ ((delivery h c).map (·.2)).toList := by
  unfold kept
  rw [List.takeWhile_cons_of_pos (by simpa using hc), List.dropWhile_cons_of_pos (by simpa using hc),
    map_delivered_cons, List.takeWhile_append_dropWhile]

end History

/-! ## The sink -/

namespace Sink

theorem isEnabled_takeAll (s : Sink) (es : List TraceEvent) :
    (s.takeAll es).isEnabled = s.isEnabled := by
  induction es generalizing s with
  | nil => rfl
  | cons e es ih => exact (ih (s.take e)).trans (isEnabled_take s e)

theorem metrics_takeAll_concat {s : Sink} (h : s.isEnabled = true) (es : List TraceEvent)
    (e : TraceEvent) : (s.takeAll (es ++ [e])).metrics = (s.takeAll es).metrics.count e := by
  rw [← metrics_take ((isEnabled_takeAll s es).trans h), takeAll, List.foldl_append]
  rfl

/-- A recording sink with some counts that keeps some events. -/
def keeping (m : SinkMetrics) (es : List TraceEvent) : Sink :=
  .recording m (es.filterMap TraceEvent.cycle?).toArray (es.filterMap TraceEvent.lifecycle?).toArray

theorem take_keeping (m : SinkMetrics) (es : List TraceEvent) (e : TraceEvent) :
    (keeping m es).take e = keeping (m.count e) (es ++ [e]) := by
  cases e <;> simp [keeping, take, emitCycle, emitLifecycle, SinkMetrics.count, TraceEvent.cycle?,
    TraceEvent.lifecycle?]

end Sink

namespace History

/-- The sink keeps what was delivered since the last clear, and has counted all that was ever
delivered: copies and switches leave the sink alone, and a clear leaves the counts. -/
theorem sink_tracing (h : History) :
    h.tracing.sink = .keeping (Sink.newRecording.takeAll h.events).metrics h.kept := by
  induction h with
  | nil => rfl
  | cons c h ih =>
    cases c with
    | clone | setEnabled =>
      rw [events_cons, kept_cons (by simp)]
      simp only [delivery, Option.map_none, Option.toList_none, List.append_nil]
      exact ih
    | emit i e =>
      rw [tracing, Tracing.sink_emit, enabled_handle, ih, events_cons, kept_cons (by simp)]
      cases hon : isOn h i with
      | true =>
        simp only [delivery, hon, if_true, Option.map_some, Option.toList_some]
        rw [Sink.take_keeping, Sink.metrics_takeAll_concat rfl]
      | false => simp [delivery, hon]
    | clear =>
      rw [events_cons, kept_clear]
      show (tracing h).sink.clear = _
      rw [ih]
      simp [delivery, Sink.keeping, Sink.clear]

/-! ## Copies -/

/-- The handle, of those that old calls made, from which a handle descends by recent copies. -/
def origin (old : History) : History → Nat → Nat
  | [], i => i
  | .clone j :: recent, i =>
    if i = made (recent ++ old) then origin old recent j else origin old recent i
  | _ :: recent, i => origin old recent i

theorem made_le_append (old recent : History) : old.made ≤ made (recent ++ old) := by
  induction recent with
  | nil => exact Nat.le_refl _
  | cons c recent ih =>
    cases c with
    | clone => exact Nat.le_succ_of_le ih
    | setEnabled | emit | clear => exact ih

/-- A handle that is there already descends from itself. -/
theorem origin_of_lt {old : History} {i : Nat} (hi : i < old.made) (recent : History) :
    origin old recent i = i := by
  induction recent with
  | nil => rfl
  | cons c recent ih =>
    cases c with
    | clone j =>
      have hne : i ≠ made (recent ++ old) := by
        have := made_le_append old recent
        omega
      exact (if_neg hne).trans ih
    | setEnabled | emit | clear => exact ih

theorem deliveredBy_of_silent {old recent : History} {c : HandleCall}
    (hc : delivery (recent ++ old) c = none) (i : Nat) :
    deliveredBy old (c :: recent) i = deliveredBy old recent i := by
  unfold deliveredBy
  rw [delivered, hc, Option.toList_none, List.append_nil]

theorem deliveredBy_emit (old recent : History) (i j : Nat) (e : TraceEvent) :
    deliveredBy old (.emit j e :: recent) i =
      deliveredBy old recent i ++ if j = i ∧ isOn (recent ++ old) i then [e] else [] := by
  unfold deliveredBy
  rw [delivered, delivery, List.filter_append, List.map_append]
  rcases eq_or_ne j i with rfl | hj
  · cases isOn (recent ++ old) j <;> simp
  · cases isOn (recent ++ old) j <;> simp [hj]

/-- Handles that were not made yet deliver nothing. -/
theorem deliveredBy_of_made_le {old recent : History} {i : Nat} (hi : made (recent ++ old) ≤ i) :
    deliveredBy old recent i = [] := by
  induction recent with
  | nil => rfl
  | cons c recent ih =>
    cases c with
    | clone => exact (deliveredBy_of_silent rfl i).trans (ih (Nat.le_of_succ_le hi))
    | setEnabled | clear => exact (deliveredBy_of_silent rfl i).trans (ih hi)
    | emit j e =>
      have hoff : isOn (recent ++ old) i = false := isOn_of_made_le hi
      rw [deliveredBy_emit, ih hi, hoff]
      simp

variable {old recent : History} {i j : Nat} (b : Bool)

/-- Setting a switch makes no handle. -/
theorem made_append_setEnabled :
    made (recent ++ .setEnabled i b :: old) = made (recent ++ old) := by
  induction recent with
  | nil => rfl
  | cons c recent ih =>
    cases c with
    | clone => exact congrArg (· + 1) ih
    | setEnabled | emit | clear => exact ih

/-- A switch that is set stays as it would be for a handle that does not descend from its own. -/
theorem isOn_append_setEnabled (h : origin old recent j ≠ i) :
    isOn (recent ++ .setEnabled i b :: old) j = isOn (recent ++ old) j := by
  induction recent generalizing j with
  | nil => exact if_neg fun hj => h hj.1
  | cons c recent ih =>
    cases c with
    | clone k =>
      show (if j = made (recent ++ .setEnabled i b :: old) then
          isOn (recent ++ .setEnabled i b :: old) k
        else isOn (recent ++ .setEnabled i b :: old) j) =
        if j = made (recent ++ old) then isOn (recent ++ old) k else isOn (recent ++ old) j
      rw [made_append_setEnabled]
      -- a copy made here has the switch, and the origin, of its source
      rw [origin] at h
      split
      · rw [if_pos ‹_›] at h
        exact ih h
      · rw [if_neg ‹_›] at h
        exact ih h
    | setEnabled k d =>
      show (if j = k ∧ j < made (recent ++ .setEnabled i b :: old) then d
        else isOn (recent ++ .setEnabled i b :: old) j) =
        if j = k ∧ j < made (recent ++ old) then d else isOn (recent ++ old) j
      rw [made_append_setEnabled, ih h]
    | emit | clear => exact ih h

/-- Setting the switch of a handle changes nothing of what others deliver, up to the copies that are
made from it later. -/
theorem deliveredBy_setEnabled (h : origin old recent j ≠ i) :
    deliveredBy (.setEnabled i b :: old) recent j = deliveredBy old recent j := by
  induction recent with
  | nil => rfl
  | cons c recent ih =>
    cases c with
    | clone k =>
      rw [deliveredBy_of_silent rfl, deliveredBy_of_silent rfl]
      rcases eq_or_ne j (made (recent ++ old)) with hj | hj
      · -- the copy is only made now: it has delivered nothing, whoever its source is
        rw [deliveredBy_of_made_le (Nat.le_of_eq hj.symm),
          deliveredBy_of_made_le (Nat.le_of_eq ((made_append_setEnabled b).trans hj.symm))]
      · rw [origin, if_neg hj] at h
        exact ih h
    | emit k e =>
      have hon : isOn (recent ++ .setEnabled i b :: old) j = isOn (recent ++ old) j :=
        isOn_append_setEnabled b h
      rw [deliveredBy_emit, deliveredBy_emit, ih h, hon]
    | setEnabled | clear =>
      rw [deliveredBy_of_silent rfl, deliveredBy_of_silent rfl]
      exact ih h

/-! ## What handles and their sink come to -/

/-- What handles and their sink come to by calls: the switches are those that were set; the sink
keeps the events delivered since it was last cleared, and counts all events delivered. -/
structure Faithful (h : History) : Prop where
  handles : h.tracing.handles.size = h.made
  enabled : ∀ i, (h.tracing.handle i).isEnabled = h.isOn i
  cycleEvents : h.tracing.sink.cycleEvents = (h.kept.filterMap TraceEvent.cycle?).toArray
  lifecycleEvents :
    h.tracing.sink.lifecycleEvents = (h.kept.filterMap TraceEvent.lifecycle?).toArray
  counts : ∀ w, h.tracing.sink.metrics.read w = .ofNat (h.events.countP (·.isCounted w))
  account : h.events.length < UInt64.size → h.tracing.sink.metrics.Account h.events

theorem faithful (h : History) : h.Faithful := by
  have hmetrics : h.tracing.sink.metrics = (Sink.newRecording.takeAll h.events).metrics := by
    rw [sink_tracing]
    rfl
  exact {
    handles := h.size_handles
    enabled := fun i => by
      have hsink : h.tracing.sink.isEnabled = true := by
        rw [sink_tracing]
        rfl
      show ((h.tracing.handle i).enabled && h.tracing.sink.isEnabled) = h.isOn i
      rw [enabled_handle, hsink, Bool.and_true]
    cycleEvents := by
      rw [sink_tracing]
      rfl
    lifecycleEvents := by
      rw [sink_tracing]
      rfl
    counts := fun w => by
      rw [hmetrics]
      exact Sink.read_takeAll_fresh rfl rfl _ w
    account := fun short => by
      rw [hmetrics]
      exact Sink.account_takeAll rfl rfl short }

end History

/-- **Handles feed one sink.** After any calls the recording sink keeps just the events delivered
since it was last cleared, by handles that were on when they were given them, in that order; and its
metrics count every event delivered, which clearing does not change. A copy starts with the switch
of its source. To set the switch of a handle changes nothing of what any other delivers, whatever
calls follow, where copies made of that handle later on do not count as others. -/
theorem handles_feed_sink (h : History) :
    h.Faithful ∧
      (History.tracing (.clear :: h)).sink.metrics = h.tracing.sink.metrics ∧
      (∀ i, ((History.tracing (.clone i :: h)).handle h.made).isEnabled =
        (h.tracing.handle i).isEnabled) ∧
      ∀ i b recent j,
        (History.origin h recent j ≠ i →
          History.deliveredBy (.setEnabled i b :: h) recent j = History.deliveredBy h recent j) ∧
        (j < h.made → History.origin h recent j = j) := by
  refine ⟨h.faithful, ?_, fun i => ?_, fun i b recent j =>
    ⟨History.deliveredBy_setEnabled b, fun hj => History.origin_of_lt hj recent⟩⟩
  · show h.tracing.sink.clear.metrics = h.tracing.sink.metrics
    rw [History.sink_tracing]
    rfl
  · rw [(History.faithful _).enabled, h.faithful.enabled]
    exact if_pos rfl

/-- An event, and a copy of the handle that it was given to. -/
def History.shared : History :=
  [.emit 0 (.cycle (.snapshotDropped 1)), .clone 0].reverse

/-- Events for both handles, and, after a clear, for a second copy of the first handle as well,
which is set to be on before the last event. -/
def History.cleared : History :=
  [.emit 0 (.lifecycle .workerPanicked), .emit 1 (.cycle (.referenceUnavailable 2)), .clear,
    .clone 0, .emit 2 (.cycle (.snapshotDropped 3)), .emit 1 (.lifecycle (.stopped 3 "requested")),
    .setEnabled 2 true, .emit 2 (.cycle (.snapshotDropped 4))].reverse

/-- Both, and in between the first handle is switched off. -/
def History.handover : History := cleared ++ .setEnabled 0 false :: shared

/-- Four of six events are delivered, and two of them kept. The first copy delivers what it would
have delivered anyway; the second, which was made later, is off at first. -/
theorem handles_feed_sink_of_handover :
    History.handover.Faithful ∧
      History.handover.tracing.sink.metrics.Account History.handover.events ∧
      History.handover.tracing.sink.cycleEvents = #[.snapshotDropped 4] ∧
      History.handover.tracing.sink.lifecycleEvents = #[.stopped 3 "requested"] ∧
      History.handover.tracing.sink.metrics = ⟨3, 1, 0, 1, 0, 2⟩ ∧
      History.origin .shared .cleared 1 = 1 ∧ History.origin .shared .cleared 2 = 0 ∧
      History.deliveredBy (.setEnabled 0 false :: History.shared) History.cleared 1 =
        History.deliveredBy History.shared History.cleared 1 ∧
      History.deliveredBy History.shared History.cleared 1 =
        [.cycle (.referenceUnavailable 2), .lifecycle (.stopped 3 "requested")] ∧
      History.deliveredBy (.setEnabled 0 false :: History.shared) History.cleared 2 =
        [.cycle (.snapshotDropped 4)] ∧
      History.deliveredBy History.shared History.cleared 2 =
        [.cycle (.snapshotDropped 3), .cycle (.snapshotDropped 4)] := by
  obtain ⟨hfaithful, -⟩ := handles_feed_sink History.handover
  obtain ⟨-, -, -, hswitch⟩ := handles_feed_sink History.shared
  obtain ⟨hsame, horigin⟩ := hswitch 0 false History.cleared 1
  exact ⟨hfaithful, hfaithful.account (by decide +kernel), by decide +kernel, by decide +kernel,
    by decide +kernel, horigin (by decide), by decide +kernel, hsame (by decide +kernel),
    by decide +kernel, by decide +kernel, by decide +kernel⟩

end CyclicBus

import CyclicBus.Timing.Statistics
import Mathlib.Algebra.BigOperators.Group.List.Basic
import Mathlib.Algebra.Group.Prod
import Mathlib.Data.List.DropRight
import Mathlib.Data.UInt

/-!
# What the statistics of a run summarise

The statistics keep no history, only ranges and counts that each call brings up to date.
`summarised_calls`: after any calls they are those of the history, for the whole run and for the
window since it was drained last; and the windows that were drained, taken together with the current
one, are the whole run.
-/

namespace CyclicBus.Statistics

/-! ## Calls and their history -/

/-- What is recorded of a cycle. -/
structure Entry where
  wakeup : UInt64
  latency : UInt64
  exec : UInt64
  deriving DecidableEq, Repr

/-- A call of the statistics. -/
inductive Call where
  | record (e : Entry)
  | drain
  | query (fraction : Float)

/-- What a call answers: whether the cycle overran, the window drained, or a latency. -/
inductive Answer where
  | late (overran : Bool)
  | window (w : Window)
  | latency (l : UInt64)
  deriving DecidableEq, Repr

namespace Call

/-- What a call records. -/
def entry? : Call → Option Entry
  | record e => some e
  | _ => none

def drains : Call → Bool
  | drain => true
  | _ => false

def queries : Call → Bool
  | query _ => true
  | _ => false

end Call

namespace Answer

/-- The answer to a record. -/
def late? : Answer → Option Bool
  | late overran => some overran
  | _ => none

/-- A window that was drained. -/
def window? : Answer → Option Window
  | window w => some w
  | _ => none

end Answer

def call (s : Statistics) : Call → Answer × Statistics
  | .record e => (.late (s.overran e.exec), s.record e.wakeup e.latency e.exec)
  | .drain => (.window s.window, s.drain)
  | .query fraction => (.latency (s.query fraction).1, (s.query fraction).2)

def after (s : Statistics) (cs : List Call) : Statistics := cs.foldl (fun s c => (s.call c).2) s

def answers (s : Statistics) : List Call → List Answer
  | [] => []
  | c :: cs => (s.call c).1 :: (s.call c).2.answers cs

theorem after_concat (s : Statistics) (cs : List Call) (c : Call) :
    s.after (cs ++ [c]) = ((s.after cs).call c).2 := by
  simp [after]

theorem answers_concat (s : Statistics) (cs : List Call) (c : Call) :
    s.answers (cs ++ [c]) = s.answers cs ++ [((s.after cs).call c).1] := by
  induction cs generalizing s with
  | nil => rfl
  | cons d cs ih => exact congrArg ((s.call d).1 :: ·) (ih (s.call d).2)

/-- What the records answered. -/
def lates (as : List Answer) : List Bool := as.filterMap Answer.late?

/-- The windows that were drained. -/
def drained (as : List Answer) : List Window := as.filterMap Answer.window?

/-- What some calls recorded. -/
def entries (cs : List Call) : List Entry := cs.filterMap Call.entry?

/-- The calls since the window was drained last. -/
def sinceDrain (cs : List Call) : List Call := cs.rtakeWhile fun c => !c.drains

/-- The calls up to the last one that drained the window. -/
def untilDrain (cs : List Call) : List Call := cs.rdropWhile fun c => !c.drains

/-- The wakeups that the periods of the current window lie between: those in the window, and the one
before it. -/
def windowWakeups (cs : List Call) : List UInt64 :=
  ((entries (untilDrain cs)).getLast?.toList ++ entries (sinceDrain cs)).map (·.wakeup)

/-- The distances between times in a row, zero where time runs backwards. -/
def distances (times : List UInt64) : List UInt64 :=
  times.zipWith (fun t u => u.satSub t) times.tail

theorem lates_concat (as : List Answer) (a : Answer) :
    lates (as ++ [a]) = lates as ++ a.late?.toList := by
  cases a <;> simp [lates, Answer.late?]

theorem drained_concat (as : List Answer) (a : Answer) :
    drained (as ++ [a]) = drained as ++ a.window?.toList := by
  cases a <;> simp [drained, Answer.window?]

theorem entries_concat (cs : List Call) (c : Call) :
    entries (cs ++ [c]) = entries cs ++ c.entry?.toList := by
  cases c <;> simp [entries, Call.entry?]

theorem entries_concat_of_none {c : Call} (hc : c.entry? = none) (cs : List Call) :
    entries (cs ++ [c]) = entries cs := by
  rw [entries_concat, hc, Option.toList_none, List.append_nil]

theorem entries_split (cs : List Call) :
    entries cs = entries (untilDrain cs) ++ entries (sinceDrain cs) := by
  rw [entries, entries, entries, ← List.filterMap_append, untilDrain, sinceDrain,
    List.rdropWhile_append_rtakeWhile]

theorem sinceDrain_concat {c : Call} (hc : c.drains = false) (cs : List Call) :
    sinceDrain (cs ++ [c]) = sinceDrain cs ++ [c] :=
  List.rtakeWhile_concat_pos _ _ _ (by simp [hc])

theorem untilDrain_concat {c : Call} (hc : c.drains = false) (cs : List Call) :
    untilDrain (cs ++ [c]) = untilDrain cs :=
  List.rdropWhile_concat_pos _ _ _ (by simp [hc])

theorem sinceDrain_concat_drain (cs : List Call) : sinceDrain (cs ++ [.drain]) = [] :=
  List.rtakeWhile_concat_neg _ _ _ (by simp [Call.drains])

theorem untilDrain_concat_drain (cs : List Call) :
    untilDrain (cs ++ [.drain]) = cs ++ [.drain] :=
  List.rdropWhile_concat_neg _ _ _ (by simp [Call.drains])

theorem windowWakeups_concat_record (cs : List Call) (e : Entry) :
    windowWakeups (cs ++ [.record e]) = windowWakeups cs ++ [e.wakeup] := by
  rw [windowWakeups, sinceDrain_concat rfl, untilDrain_concat rfl, entries_concat,
    ← List.append_assoc, List.map_append]
  rfl

theorem windowWakeups_concat_drain (cs : List Call) :
    windowWakeups (cs ++ [.drain]) = ((entries cs).map (·.wakeup)).getLast?.toList := by
  rw [windowWakeups, sinceDrain_concat_drain, untilDrain_concat_drain, entries_concat_of_none rfl]
  show ((entries cs).getLast?.toList ++ []).map Entry.wakeup = _
  rw [List.append_nil, List.getLast?_map]
  cases (entries cs).getLast? <;> rfl

theorem windowWakeups_concat_query (cs : List Call) (fraction : Float) :
    windowWakeups (cs ++ [.query fraction]) = windowWakeups cs := by
  rw [windowWakeups, sinceDrain_concat rfl, untilDrain_concat rfl, entries_concat_of_none rfl]
  rfl

/-- The last wakeup of a run is the last one that bounds a period of its window. -/
theorem getLast?_windowWakeups (cs : List Call) :
    (windowWakeups cs).getLast? = ((entries cs).map (·.wakeup)).getLast? := by
  rw [windowWakeups, entries_split cs, List.getLast?_map, List.getLast?_map, List.getLast?_append,
    List.getLast?_append]
  cases (entries (untilDrain cs)).getLast? <;> rfl

theorem length_windowWakeups_le (cs : List Call) :
    (windowWakeups cs).length ≤ (entries cs).length := by
  rw [windowWakeups, entries_split cs, List.length_map, List.length_append, List.length_append]
  cases huntil : entries (untilDrain cs) with
  | nil => simp
  | cons e es =>
    rw [List.length_cons]
    cases (e :: es).getLast? <;> simp

/-! ### Distances -/

theorem length_distances (times : List UInt64) :
    (distances times).length = times.length - 1 := by
  rw [distances, List.length_zipWith, List.length_tail]
  omega

theorem distances_concat (times : List UInt64) (t : UInt64) :
    distances (times ++ [t]) = distances times ++ (times.getLast?.map t.satSub).toList := by
  induction times with
  | nil => rfl
  | cons u times ih =>
    cases times with
    | nil => rfl
    | cons v times =>
      simp only [distances, List.cons_append, List.tail_cons, List.zipWith_cons_cons,
        List.getLast?_cons_cons] at ih ⊢
      rw [ih]

/-- A counter that goes up with each member that has a property counts them. -/
theorem toNat_counted {α : Type} {p : α → Bool} {n : UInt64} {l : List α}
    (h : n.toNat = l.countP p) (room : l.length + 1 < UInt64.size) (a : α) :
    (if p a then n.satAdd 1 else n).toNat = (l ++ [a]).countP p := by
  have hle := List.countP_le_length (p := p) (l := l)
  rw [List.countP_append, List.countP_singleton, ← h]
  split
  · exact UInt64.toNat_satAdd_one (by omega)
  · rfl

/-! ## Ranges of a history -/

/-- A range shows some durations: how many they are, and the least and the greatest. -/
structure Range.Shows (ds : List UInt64) (r : Range) : Prop where
  samples : r.samples.toNat = ds.length
  least : r.least = ds.min?.getD .top
  greatest : r.greatest = ds.max?.getD 0

namespace Range.Shows

theorem empty : Range.empty.Shows [] := ⟨rfl, rfl, rfl⟩

theorem foldl_min_top (ds : List UInt64) : ds.foldl min .top = ds.min?.getD .top := by
  cases ds with
  | nil => rfl
  | cons d ds =>
    have htop : min .top d = d := by
      have hlt := d.toNat_lt_size
      rw [← UInt64.toNat_inj, UInt64.toNat_min, UInt64.toNat_top]
      omega
    rw [List.foldl_cons, htop]
    rfl

theorem foldl_max_zero (ds : List UInt64) : ds.foldl max 0 = ds.max?.getD 0 := by
  cases ds with
  | nil => rfl
  | cons d ds =>
    have hzero : max 0 d = d := by
      rw [← UInt64.toNat_inj, UInt64.toNat_max]
      exact Nat.max_eq_right (Nat.zero_le _)
    rw [List.foldl_cons, hzero]
    rfl

theorem record {ds : List UInt64} {r : Range} (h : r.Shows ds)
    (room : ds.length + 1 < UInt64.size) (d : UInt64) : (r.record d).Shows (ds ++ [d]) where
  samples := by
    show (r.samples.satAdd 1).toNat = _
    rw [UInt64.toNat_satAdd_one (by rwa [h.samples]), h.samples, List.length_append,
      List.length_singleton]
  least := by
    show min r.least d = _
    rw [h.least, ← foldl_min_top, ← foldl_min_top, List.foldl_append]
    rfl
  greatest := by
    show max r.greatest d = _
    rw [h.greatest, ← foldl_max_zero, ← foldl_max_zero, List.foldl_append]
    rfl

end Range.Shows

/-! ## Windows of a history -/

/-- A window shows some cycles: the distances between times, the executions and latencies of the
cycles, and how many executions took longer than a limit. -/
structure Window.Shows (limit : UInt64) (times : List UInt64) (es : List Entry) (w : Window) :
    Prop where
  period : w.period.Shows (distances times)
  exec : w.exec.Shows (es.map (·.exec))
  latency : w.latency.Shows (es.map (·.latency))
  overruns : w.overruns.toNat = es.countP (limit < ·.exec)

/-- How many periods, executions, latencies and overruns a window holds. -/
def Window.counts (w : Window) : ℕ × ℕ × ℕ × ℕ :=
  (w.period.samples.toNat, w.exec.samples.toNat, w.latency.samples.toNat, w.overruns.toNat)

namespace Window.Shows

variable {limit : UInt64} {times : List UInt64} {es : List Entry} {w : Window}

/-- A window before its first cycle, with at most one time before it. -/
theorem empty (limit : UInt64) (time : Option UInt64) :
    Window.empty.Shows limit time.toList [] := by
  refine ⟨?_, .empty, .empty, rfl⟩
  cases time <;> exact .empty

theorem record (h : w.Shows limit times es) (htimes : times.length < UInt64.size)
    (room : es.length + 1 < UInt64.size) (e : Entry) :
    (w.record (times.getLast?.map e.wakeup.satSub) e.exec e.latency (limit < e.exec)).Shows limit
      (times ++ [e.wakeup]) (es ++ [e]) where
  period := by
    rw [distances_concat]
    cases hlast : times.getLast? with
    | none =>
      rw [Option.map_none, Option.toList_none, List.append_nil]
      exact h.period
    | some t =>
      have hpos : 0 < times.length :=
        List.length_pos_iff.2 fun hnil => by rw [hnil] at hlast; cases hlast
      exact h.period.record (by rw [length_distances]; omega) _
  exec := by
    rw [List.map_append]
    exact h.exec.record (by rwa [List.length_map]) _
  latency := by
    rw [List.map_append]
    exact h.latency.record (by rwa [List.length_map]) _
  overruns := toNat_counted h.overruns room e

/-- The counts of a window are those of what it shows. -/
theorem counts_eq (h : w.Shows limit times es) :
    w.counts = (times.length - 1, es.length, es.length, es.countP (limit < ·.exec)) := by
  rw [Window.counts, h.period.samples, h.exec.samples, h.latency.samples, h.overruns,
    length_distances, List.length_map, List.length_map]

end Window.Shows

/-! ## Windows taken together -/

theorem Range.merge_empty (r : Range) : r.merge .empty = r := by
  have hleast := r.least.toNat_lt_size
  rw [Range.merge, Range.empty, UInt64.satAdd_zero]
  congr 1
  · rw [← UInt64.toNat_inj, UInt64.toNat_min, UInt64.toNat_top]
    omega
  · rw [← UInt64.toNat_inj, UInt64.toNat_max]
    exact Nat.max_eq_left (Nat.zero_le _)

theorem Range.merge_record (r s : Range) (d : UInt64) :
    r.merge (s.record d) = (r.merge s).record d := by
  rw [Range.merge, Range.record, Range.record, Range.merge, UInt64.satAdd_assoc]
  congr 1 <;> simp only [← UInt64.toNat_inj, UInt64.toNat_min, UInt64.toNat_max] <;> omega

theorem Window.merge_empty (v : Window) : v.merge .empty = v := by
  simp [Window.merge, Window.empty, Range.merge_empty]

theorem Window.merge_record (v w : Window) (period : Option UInt64) (exec latency : UInt64)
    (overran : Bool) :
    v.merge (w.record period exec latency overran) =
      (v.merge w).record period exec latency overran := by
  cases period <;> cases overran <;>
    simp [Window.merge, Window.record, Range.merge_record, UInt64.satAdd_assoc]

/-! ## Every history -/

/-- What the statistics hold, given all cycles, those in the window, the times that the periods of
the window lie between, what the records answered, and the windows drained. An execution may take as
long as the limit. -/
structure Summarised (limit : UInt64) (all recent : List Entry) (times : List UInt64)
    (flags : List Bool) (ws : List Window) (s : Statistics) : Prop where
  period : s.period = limit
  lastWakeup : s.lastWakeup = (all.map (·.wakeup)).getLast?
  cycles : s.cycles.toNat = all.length
  overruns : s.overruns.toNat = all.countP (limit < ·.exec)
  late : flags = all.map fun e => decide (limit < e.exec)
  total : s.total.Shows limit (all.map (·.wakeup)) all
  window : s.window.Shows limit times recent
  /-- The windows drained and the current one are the whole run. -/
  merged : s.total = (ws.foldl Window.merge .empty).merge s.window
  /-- No count is lost between two windows. -/
  shared : (ws.map Window.counts).sum + s.window.counts = s.total.counts

namespace Summarised

variable {limit : UInt64} {all recent : List Entry} {times : List UInt64} {flags : List Bool}
  {ws : List Window} {s : Statistics}

theorem start (limit : UInt64) (capacity : Nat) :
    Summarised limit [] [] [] [] [] (fresh limit capacity) where
  period := rfl
  lastWakeup := rfl
  cycles := rfl
  overruns := rfl
  late := rfl
  total := .empty limit none
  window := .empty limit none
  merged := rfl
  shared := rfl

theorem query (h : Summarised limit all recent times flags ws s) (fraction : Float) :
    Summarised limit all recent times flags ws (s.query fraction).2 :=
  ⟨h.period, h.lastWakeup, h.cycles, h.overruns, h.late, h.total, h.window, h.merged, h.shared⟩

/-- A drained window takes its place among the others; the next one has no cycle yet, but a time to
count its first period from. -/
theorem drain (h : Summarised limit all recent times flags ws s) (time : Option UInt64) :
    Summarised limit all [] time.toList flags (ws ++ [s.window]) s.drain where
  period := h.period
  lastWakeup := h.lastWakeup
  cycles := h.cycles
  overruns := h.overruns
  late := h.late
  total := h.total
  window := .empty limit time
  merged := by
    rw [List.foldl_append]
    exact h.merged.trans (Window.merge_empty _).symm
  shared := by
    rw [List.map_append, List.sum_append]
    exact h.shared

/-- One more cycle, in the whole run and in the window alike. -/
theorem record (h : Summarised limit all recent times flags ws s)
    (few : all.length + 1 < UInt64.size) (hrecent : recent.length ≤ all.length)
    (htimes : times.length ≤ all.length)
    (hlast : times.getLast? = (all.map (·.wakeup)).getLast?) (e : Entry) :
    Summarised limit (all ++ [e]) (recent ++ [e]) (times ++ [e.wakeup])
      (flags ++ [s.overran e.exec]) ws (s.record e.wakeup e.latency e.exec) := by
  have hnext : (s.record e.wakeup e.latency e.exec).window =
      s.window.record (times.getLast?.map e.wakeup.satSub) e.exec e.latency (limit < e.exec) := by
    rw [hlast, ← h.lastWakeup, ← h.period]
    rfl
  have hall : (s.record e.wakeup e.latency e.exec).total =
      s.total.record (times.getLast?.map e.wakeup.satSub) e.exec e.latency (limit < e.exec) := by
    rw [hlast, ← h.lastWakeup, ← h.period]
    rfl
  have hwindow := h.window.record (by omega) (by omega) e
  have htotal := h.total.record (by rw [List.length_map]; omega) few e
  rw [← hlast] at htotal
  rw [← hnext] at hwindow
  rw [← hall] at htotal
  refine ⟨h.period, ?_, ?_, ?_, ?_, ?_, hwindow, ?_, ?_⟩
  · rw [List.map_append, List.map_singleton, List.getLast?_concat]
    rfl
  · show (s.cycles.satAdd 1).toNat = _
    rw [UInt64.toNat_satAdd_one (by rwa [h.cycles]), h.cycles, List.length_append,
      List.length_singleton]
  · rw [← toNat_counted h.overruns few e, ← h.period]
    rfl
  · rw [List.map_append, ← h.late, ← h.period]
    rfl
  · rw [List.map_append]
    exact htotal
  · rw [hall, hnext, Window.merge_record, ← h.merged]
  · -- the window has a first time where the run has one, so both gain a period or neither does
    have hempty : times.length = 0 ↔ all.length = 0 := by
      rw [List.length_eq_zero_iff, List.length_eq_zero_iff, ← List.getLast?_eq_none_iff, hlast,
        List.getLast?_eq_none_iff, List.map_eq_nil_iff]
    have hbefore := h.shared
    rw [h.window.counts_eq, h.total.counts_eq] at hbefore
    rw [hwindow.counts_eq, htotal.counts_eq]
    generalize (ws.map Window.counts).sum = kept at hbefore ⊢
    obtain ⟨periods, execs, latencies, overruns⟩ := kept
    simp only [Prod.mk_add_mk, Prod.mk.injEq, List.length_append, List.length_map,
      List.length_singleton, List.countP_append] at hbefore ⊢
    omega

/-- What one call does to the summary of those before it. -/
theorem call {cs : List Call} {as : List Answer}
    (h : Summarised limit (entries cs) (entries (sinceDrain cs)) (windowWakeups cs) (lates as)
      (drained as) s)
    (c : Call) (few : (entries (cs ++ [c])).length < UInt64.size) :
    Summarised limit (entries (cs ++ [c])) (entries (sinceDrain (cs ++ [c])))
      (windowWakeups (cs ++ [c])) (lates (as ++ [(s.call c).1])) (drained (as ++ [(s.call c).1]))
      (s.call c).2 := by
  rw [entries_concat, List.length_append] at few
  have hle : (entries (sinceDrain cs)).length ≤ (entries cs).length := by
    rw [entries_split cs, List.length_append]
    omega
  rw [lates_concat, drained_concat, entries_concat]
  cases c with
  | record e =>
    have hnext := h.record few hle (length_windowWakeups_le cs) (getLast?_windowWakeups cs) e
    rw [windowWakeups_concat_record, sinceDrain_concat rfl, entries_concat]
    simpa [Statistics.call, Call.entry?, Answer.late?, Answer.window?] using hnext
  | drain =>
    have hnext := h.drain ((entries cs).map (·.wakeup)).getLast?
    have hrecent : entries (sinceDrain (cs ++ [.drain])) = [] := by
      rw [sinceDrain_concat_drain]
      rfl
    rw [windowWakeups_concat_drain, hrecent]
    simpa [Statistics.call, Call.entry?, Answer.late?, Answer.window?] using hnext
  | query fraction =>
    have hnext := h.query fraction
    rw [windowWakeups_concat_query, sinceDrain_concat rfl, entries_concat]
    simpa [Statistics.call, Call.entry?, Answer.late?, Answer.window?] using hnext

end Summarised

/-- **The statistics are those of the history.** After any calls of fresh statistics, fewer than
`2 ^ 64` of them records. -/
theorem summarised_calls (limit : UInt64) (capacity : Nat) (cs : List Call)
    (few : (entries cs).length < UInt64.size) :
    Summarised limit (entries cs) (entries (sinceDrain cs)) (windowWakeups cs)
      (lates ((fresh limit capacity).answers cs)) (drained ((fresh limit capacity).answers cs))
      ((fresh limit capacity).after cs) := by
  induction cs using List.reverseRecOn with
  | nil => exact .start limit capacity
  | append_singleton cs c ih =>
    have hle : (entries cs).length ≤ (entries (cs ++ [c])).length := by
      rw [entries_concat, List.length_append]
      omega
    rw [answers_concat, after_concat]
    exact (ih (by omega)).call c few

/-- Two cycles, then a window of two: one overruns, and the clock steps back before the other. -/
def twoWindows : List Call :=
  [.record ⟨0, 1, 10⟩, .record ⟨1000, 2, 20⟩, .drain, .record ⟨2000, 3, 1500⟩, .query 0.5,
    .record ⟨1900, 7, 30⟩]

theorem summarised_calls_of_twoWindows :
    let s := (fresh 1000 3).after twoWindows
    let as := (fresh 1000 3).answers twoWindows
    (entries twoWindows).length < UInt64.size ∧
      Summarised 1000 (entries twoWindows) (entries (sinceDrain twoWindows))
        (windowWakeups twoWindows) (lates as) (drained as) s ∧
      windowWakeups twoWindows = [1000, 2000, 1900] ∧ lates as = [false, false, true, false] ∧
      s.window.period = ⟨0, 1000, 2⟩ ∧ s.total.period = ⟨0, 1000, 3⟩ ∧
      s.total.exec = ⟨10, 1500, 4⟩ ∧ s.window.overruns = 1 :=
  ⟨by decide, summarised_calls 1000 3 twoWindows (by decide), by decide +kernel, by decide +kernel,
    by decide +kernel, by decide +kernel, by decide +kernel, by decide +kernel⟩

end CyclicBus.Statistics

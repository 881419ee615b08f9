import CyclicBus.Proofs.Timing.Fractions
import CyclicBus.Proofs.Timing.WindowSummary
import Mathlib.Data.List.Rotate

/-!
# The latencies kept

A ring keeps the last latencies in places that have nothing to do with their order in time, and a
query orders a copy of them. `percentiles_calls`: after any calls the ring holds the latencies of
the last records, as many as it has room for; a query answers the latency of the rank that it
selects; and queries change nothing that another call answers.
-/

namespace CyclicBus.Statistics

/-! ## The ring through its history -/

/-- Putting a member in the place of the first one shown, and showing from the next place on, drops
the first and appends the new one. -/
theorem rotate_set_succ {α : Type} {l : List α} {k : Nat} (hk : k < l.length) (a : α) :
    (l.set k a).rotate (k + 1) = (l.rotate k).tail ++ [a] := by
  have hset : k < (l.set k a).length := by rwa [List.length_set]
  have htake : (l.set k a).take (k + 1) = l.take k ++ [a] := by
    rw [List.take_succ_eq_append_getElem hset, List.getElem_set_self, List.take_set,
      List.set_eq_of_length_le (by rw [List.length_take]; omega)]
  rw [List.rotate_eq_drop_append_take hset, List.rotate_eq_drop_append_take (Nat.le_of_lt hk),
    List.drop_set_of_lt (Nat.lt_succ_self k), htake, List.drop_eq_getElem_cons hk,
    List.cons_append, List.tail_cons, List.append_assoc]

/-- The last members of a list, one more and one less. -/
theorem tail_rtake {α : Type} {l : List α} {n : Nat} (h : n + 1 ≤ l.length) :
    (l.rtake (n + 1)).tail = l.rtake n := by
  rw [List.rtake, List.rtake, List.tail_drop]
  congr 1
  omega

theorem length_rtake {α : Type} (l : List α) (n : Nat) : (l.rtake n).length = min l.length n := by
  rw [List.rtake, List.length_drop]
  omega

/-- A ring that holds the last of some latencies: they are shown in time order from the oldest on,
which is the first one until the ring is full. -/
structure Ring.Keeps (latencies : List UInt64) (r : Ring) : Prop where
  shown : r.samples.toList.rotate r.oldest = latencies.rtake r.capacity
  oldest : r.oldest = 0 ∨ r.oldest < r.capacity ∧ r.samples.size = r.capacity

namespace Ring

variable {r : Ring} {latencies : List UInt64}

/-! ### What a push does -/

theorem capacity_push (r : Ring) (x : UInt64) : (r.push x).capacity = r.capacity := by
  obtain ⟨capacity, samples, oldest, scratch⟩ := r
  unfold push
  dsimp only
  split_ifs <;> rfl

theorem push_of_no_capacity (h : r.capacity = 0) (x : UInt64) : r.push x = r := by
  obtain ⟨capacity, samples, oldest, scratch⟩ := r
  exact if_pos h

/-- While there is room, a latency goes to the end. -/
theorem push_of_room (h : r.samples.size < r.capacity) (x : UInt64) :
    r.push x = { r with samples := r.samples.push x } := by
  obtain ⟨capacity, samples, oldest, scratch⟩ := r
  exact (if_neg (Nat.ne_of_gt (Nat.zero_lt_of_lt h))).trans (if_pos h)

/-- A full ring gives up its oldest latency. -/
theorem push_of_full (hfull : r.samples.size = r.capacity) (h : r.oldest < r.samples.size)
    (x : UInt64) :
    r.push x =
      { r with
        samples := r.samples.set r.oldest x
        oldest := (r.oldest + 1) % r.capacity } := by
  obtain ⟨capacity, samples, oldest, scratch⟩ := r
  dsimp only at hfull h
  have hsome : capacity ≠ 0 := by omega
  have hroom : ¬ samples.size < capacity := by omega
  unfold push
  dsimp only
  rw [if_neg hsome, if_neg hroom, dif_pos h]

namespace Keeps

theorem ofCapacity (capacity : Nat) : (Ring.ofCapacity capacity).Keeps [] :=
  ⟨(List.rtake_nil _).symm, .inl rfl⟩

theorem size_eq (h : r.Keeps latencies) :
    r.samples.size = min latencies.length r.capacity := by
  rw [← length_rtake, ← h.shown, List.length_rotate, Array.length_toList]

/-- In whatever places, the ring holds the last latencies. -/
theorem perm (h : r.Keeps latencies) : r.samples.toList.Perm (latencies.rtake r.capacity) := by
  rw [← h.shown]
  exact (List.rotate_perm _ _).symm

theorem push (h : r.Keeps latencies) (x : UInt64) : (r.push x).Keeps (latencies ++ [x]) := by
  have hsize := h.size_eq
  rcases Nat.eq_zero_or_pos r.capacity with hzero | hpos
  · rw [push_of_no_capacity hzero]
    refine ⟨?_, h.oldest⟩
    rw [h.shown, hzero, List.rtake_zero, List.rtake_zero]
  rcases Nat.lt_or_ge r.samples.size r.capacity with hroom | hfull
  · -- nothing was given up so far, so the places are in time order
    have hfirst : r.oldest = 0 := h.oldest.resolve_right fun hfull => by omega
    have hshown := h.shown
    rw [push_of_room hroom]
    refine ⟨?_, .inl hfirst⟩
    rw [hfirst, List.rotate_zero, List.rtake, Nat.sub_eq_zero_of_le (by omega), List.drop_zero]
      at hshown
    show (r.samples.push x).toList.rotate r.oldest = (latencies ++ [x]).rtake r.capacity
    rw [hfirst, List.rotate_zero, Array.toList_push, hshown, List.rtake, List.length_append,
      List.length_singleton, Nat.sub_eq_zero_of_le (by omega), List.drop_zero]
  · obtain ⟨room, hcapacity⟩ := Nat.exists_eq_add_one.2 hpos
    have hplace : r.oldest < r.samples.size := by
      rcases h.oldest with hfirst | ⟨hlt, -⟩ <;> omega
    rw [push_of_full (by omega) hplace]
    refine ⟨?_, ?_⟩
    · show (r.samples.set r.oldest x).toList.rotate ((r.oldest + 1) % r.capacity) =
        (latencies ++ [x]).rtake r.capacity
      have hlength : (r.samples.toList.set r.oldest x).length = r.capacity := by
        rw [List.length_set, Array.length_toList]
        omega
      have hturn : (r.samples.toList.set r.oldest x).rotate ((r.oldest + 1) % r.capacity) =
          (r.samples.toList.set r.oldest x).rotate (r.oldest + 1) := by
        rw [← hlength, List.rotate_mod]
      rw [Array.toList_set, hturn, rotate_set_succ (by simpa using hplace), h.shown, hcapacity,
        tail_rtake (by omega), List.rtake_concat_succ]
    · refine .inr ⟨Nat.mod_lt _ hpos, ?_⟩
      show (r.samples.set r.oldest x).size = r.capacity
      rw [Array.size_set]
      omega

end Keeps

end Ring

/-! ## Ranks -/

/-- The latency of rank `i`, counted from 0 in increasing order: at most `i` of them are below it,
and more than `i` are no greater. -/
structure Ranked (i : Nat) (x : UInt64) (xs : List UInt64) : Prop where
  mem : x ∈ xs
  below : xs.countP (· < x) ≤ i
  upTo : i < xs.countP (· ≤ x)

namespace Ranked

variable {i j : Nat} {x y : UInt64} {xs ys : List UInt64}

theorem perm (h : Ranked i x xs) (hp : xs.Perm ys) : Ranked i x ys :=
  ⟨hp.mem_iff.1 h.mem, hp.countP_eq _ ▸ h.below, hp.countP_eq _ ▸ h.upTo⟩

/-- A greater rank has no smaller latency. -/
theorem le_of_le (hx : Ranked i x xs) (hy : Ranked j y xs) (hij : i ≤ j) : x ≤ y := by
  by_contra hlt
  rw [UInt64.not_le] at hlt
  have hcount : xs.countP (· ≤ y) ≤ xs.countP (· < x) :=
    List.countP_mono_left fun z _ hz =>
      decide_eq_true (UInt64.lt_of_le_of_lt (of_decide_eq_true hz) hlt)
  have := hx.below
  have := hy.upTo
  omega

/-- Rank 0 is the least. -/
theorem le_of_mem (h : Ranked 0 x xs) (hy : y ∈ xs) : x ≤ y := by
  have hnone := List.countP_eq_zero.1 (Nat.le_zero.1 h.below) y hy
  exact UInt64.not_lt.1 fun hlt => hnone (decide_eq_true hlt)

/-- The last rank is the greatest. -/
theorem le_last_of_mem (h : Ranked (xs.length - 1) x xs) (hy : y ∈ xs) : y ≤ x := by
  have hle := List.countP_le_length (p := fun z => decide (z ≤ x)) (l := xs)
  have hupTo := h.upTo
  have hall := List.countP_eq_length.1 (Nat.le_antisymm hle (by omega)) y hy
  exact of_decide_eq_true hall

end Ranked

/-- In a list in increasing order a property of the small ones holds of the first so many. -/
theorem sat_getElem_iff {p : UInt64 → Bool} {xs : List UInt64} (hsorted : xs.Pairwise (· ≤ ·))
    (hdown : ∀ x y, x ≤ y → p y = true → p x = true) {i : Nat} (hi : i < xs.length) :
    p xs[i] = true ↔ i < xs.countP p := by
  induction xs generalizing i with
  | nil => cases hi
  | cons x xs ih =>
    obtain ⟨hle, hrest⟩ := List.pairwise_cons.1 hsorted
    cases hx : p x with
    | false =>
      have hnone : ∀ y ∈ xs, ¬ p y = true := fun y hy hpy =>
        Bool.false_ne_true (hx.symm.trans (hdown x y (hle y hy) hpy))
      rw [List.countP_cons_of_neg (by simp [hx]), List.countP_eq_zero.2 hnone]
      cases i with
      | zero => simp [hx]
      | succ i => simpa using hnone _ (List.getElem_mem _)
    | true =>
      rw [List.countP_cons_of_pos hx]
      cases i with
      | zero => simp [hx]
      | succ i =>
        rw [List.getElem_cons_succ, ih hrest]
        omega

/-- The place in increasing order is the rank. -/
theorem ranked_getElem {xs : List UInt64} (hsorted : xs.Pairwise (· ≤ ·)) {i : Nat}
    (hi : i < xs.length) : Ranked i xs[i] xs where
  mem := List.getElem_mem hi
  below := by
    refine Nat.le_of_not_lt fun hlt => ?_
    have hdown : ∀ x y, x ≤ y → decide (y < xs[i]) = true → decide (x < xs[i]) = true :=
      fun x y hxy hy => decide_eq_true (UInt64.lt_of_le_of_lt hxy (of_decide_eq_true hy))
    have hself := (sat_getElem_iff hsorted hdown hi).2 hlt
    exact UInt64.lt_irrefl _ (of_decide_eq_true hself)
  upTo := by
    have hdown : ∀ x y, x ≤ y → decide (y ≤ xs[i]) = true → decide (x ≤ xs[i]) = true :=
      fun x y hxy hy => decide_eq_true (UInt64.le_trans hxy (of_decide_eq_true hy))
    exact (sat_getElem_iff hsorted hdown hi).1 (decide_eq_true (UInt64.le_refl _))

/-! ## Queries -/

namespace Ring

variable {r : Ring}

theorem sorted_perm (r : Ring) : r.sorted.Perm r.samples.toList := List.mergeSort_perm _ _

theorem pairwise_sorted (r : Ring) : r.sorted.Pairwise (· ≤ ·) := by
  have htrans : ∀ x y z : UInt64,
      decide (x ≤ y) = true → decide (y ≤ z) = true → decide (x ≤ z) = true :=
    fun x y z hxy hyz =>
      decide_eq_true (UInt64.le_trans (of_decide_eq_true hxy) (of_decide_eq_true hyz))
  have htotal : ∀ x y : UInt64, (decide (x ≤ y) || decide (y ≤ x)) = true := by
    intro x y
    rw [Bool.or_eq_true, decide_eq_true_iff, decide_eq_true_iff]
    exact UInt64.le_total x y
  exact (List.pairwise_mergeSort htrans htotal r.samples.toList).imp of_decide_eq_true

theorem length_sorted (r : Ring) : r.sorted.length = r.samples.size := by
  rw [r.sorted_perm.length_eq, Array.length_toList]

theorem query_of_empty (h : r.samples.size = 0) (fraction : Float) : r.query fraction = (0, r) :=
  if_pos (by simpa [Array.isEmpty] using h)

theorem query_of_one_le {fraction : Float} (h : 1 ≤ fraction) :
    r.query fraction = r.query 1 := by
  unfold query selected
  rw [held_of_one_le h]
  rfl

/-- A query answers the latency of the rank that it selects. -/
theorem ranked_query (h : 0 < r.samples.size) (fraction : Float) :
    Ranked (selected r.samples.size fraction) (r.query fraction).1 r.samples.toList := by
  have hselected : selected r.samples.size fraction < r.sorted.length := by
    rw [length_sorted]
    exact selected_lt h fraction
  have hanswer : (r.query fraction).1 = r.sorted[selected r.samples.size fraction] := by
    have hsome : ¬ r.samples.isEmpty = true := by
      rw [Array.isEmpty_iff_size_eq_zero]
      omega
    unfold query
    rw [if_neg hsome]
    simp [length_sorted, List.getElem?_eq_getElem hselected]
  rw [hanswer]
  exact (ranked_getElem r.pairwise_sorted hselected).perm r.sorted_perm

end Ring

/-! ## Queries leave no trace -/

/-- A ring without the copy of the last query. -/
def Ring.tidy (r : Ring) : Ring := { r with scratch := #[] }

/-- The statistics without the copy of the last query. -/
def tidy (s : Statistics) : Statistics := { s with ring := s.ring.tidy }

namespace Ring

theorem tidy_push (r : Ring) (x : UInt64) : (r.push x).tidy = r.tidy.push x := by
  obtain ⟨capacity, samples, oldest, scratch⟩ := r
  unfold push tidy
  dsimp only
  split_ifs <;> rfl

/-- A query changes nothing but the copy. -/
theorem tidy_query (r : Ring) (fraction : Float) : (r.query fraction).2.tidy = r.tidy := by
  unfold query
  split <;> rfl

/-- The copy of the last query plays no part in the next one. -/
theorem query_tidy (r : Ring) (fraction : Float) :
    (r.tidy.query fraction).1 = (r.query fraction).1 := by
  unfold query
  show (if r.samples.isEmpty = true then _ else _ : UInt64 × Ring).1 = _
  split <;> rfl

theorem Keeps.query {r : Ring} {latencies : List UInt64} (h : r.Keeps latencies)
    (fraction : Float) : (r.query fraction).2.Keeps latencies := by
  unfold Ring.query
  split
  · exact h
  · exact ⟨h.shown, h.oldest⟩

theorem capacity_query (r : Ring) (fraction : Float) :
    (r.query fraction).2.capacity = r.capacity := by
  unfold query
  split <;> rfl

end Ring

section Traces

variable {s t : Statistics}

/-- Statistics that differ in the copy alone answer alike, and do so for good. -/
theorem call_of_tidy_eq (h : s.tidy = t.tidy) (c : Call) :
    (s.call c).1 = (t.call c).1 ∧ (s.call c).2.tidy = (t.call c).2.tidy := by
  obtain ⟨period, cycles, overruns, total, window, last, ring⟩ := s
  obtain ⟨period', cycles', overruns', total', window', last', ring'⟩ := t
  simp only [tidy, Statistics.mk.injEq] at h
  obtain ⟨rfl, rfl, rfl, rfl, rfl, rfl, hring⟩ := h
  cases c with
  | record e => simp [call, overran, record, tidy, Ring.tidy_push, hring]
  | drain => simp [call, drain, tidy, hring]
  | query fraction =>
    have hanswer : (ring.query fraction).1 = (ring'.query fraction).1 := by
      rw [← Ring.query_tidy, hring, Ring.query_tidy]
    simp [call, query, tidy, Ring.tidy_query, hring, hanswer]

theorem tidy_query (s : Statistics) (fraction : Float) : (s.query fraction).2.tidy = s.tidy := by
  show { s with ring := (s.ring.query fraction).2.tidy } = { s with ring := s.ring.tidy }
  rw [Ring.tidy_query]

def Answer.isLatency : Answer → Bool
  | latency _ => true
  | _ => false

/-- Calls without the queries among them. -/
def withoutQueries (cs : List Call) : List Call := cs.filter fun c => !c.queries

/-- Without queries the other calls answer the same, and leave the same behind. -/
theorem answers_withoutQueries (h : s.tidy = t.tidy) (cs : List Call) :
    t.answers (withoutQueries cs) = (s.answers cs).filter (fun a => !a.isLatency) ∧
      (t.after (withoutQueries cs)).tidy = (s.after cs).tidy := by
  induction cs generalizing s t with
  | nil => exact ⟨rfl, h.symm⟩
  | cons c cs ih =>
    obtain ⟨hanswer, hnext⟩ := call_of_tidy_eq h c
    cases c with
    | record e =>
      obtain ⟨hanswers, hafter⟩ := ih hnext
      exact ⟨congrArg₂ List.cons hanswer.symm hanswers, hafter⟩
    | drain =>
      obtain ⟨hanswers, hafter⟩ := ih hnext
      exact ⟨congrArg₂ List.cons hanswer.symm hanswers, hafter⟩
    | query fraction => exact ih ((tidy_query s fraction).trans h)

end Traces

/-! ## Every history -/

theorem keeps_after (limit : UInt64) (capacity : Nat) (cs : List Call) :
    ((fresh limit capacity).after cs).ring.capacity = capacity ∧
      ((fresh limit capacity).after cs).ring.Keeps ((entries cs).map (·.latency)) := by
  induction cs using List.reverseRecOn with
  | nil => exact ⟨rfl, .ofCapacity capacity⟩
  | append_singleton cs c ih =>
    obtain ⟨hcapacity, hkeeps⟩ := ih
    rw [after_concat]
    cases c with
    | record e =>
      rw [entries_concat, List.map_append]
      exact ⟨(Ring.capacity_push _ _).trans hcapacity, hkeeps.push e.latency⟩
    | drain =>
      rw [entries_concat_of_none rfl]
      exact ⟨hcapacity, hkeeps⟩
    | query fraction =>
      rw [entries_concat_of_none rfl]
      exact ⟨(Ring.capacity_query _ _).trans hcapacity, hkeeps.query fraction⟩

/-- What a ring that has room for so many keeps of some latencies, and what queries answer. Every
fraction above one is answered as one is, and that is the greatest as long as their number is no
more than one too small as a double. A ring for more would take 16 bytes a place from the start,
which is beyond what a 57-bit address reaches. -/
structure Percentiles (latencies : List UInt64) (capacity : Nat) (s : Statistics) : Prop where
  kept : s.ring.samples.toList.Perm (latencies.rtake capacity)
  size : s.ring.samples.size = min latencies.length capacity
  none : s.ring.samples.size = 0 → ∀ fraction, s.percentile fraction = 0
  ranked : 0 < s.ring.samples.size → ∀ fraction,
    Ring.selected s.ring.samples.size fraction < s.ring.samples.size ∧
      Ranked (Ring.selected s.ring.samples.size fraction) (s.percentile fraction)
        s.ring.samples.toList
  least : ∀ fraction, fraction ≤ 0 → ∀ x ∈ s.ring.samples.toList, s.percentile fraction ≤ x
  greatest : s.ring.samples.size ≤ 2 ^ 54 + 1 → ∀ fraction, 1 ≤ fraction →
    ∀ x ∈ s.ring.samples.toList, x ≤ s.percentile fraction
  capped : ∀ fraction, 1 ≤ fraction → s.percentile fraction = s.percentile 1
  monotone : ∀ low high,
    Ring.selected s.ring.samples.size low ≤ Ring.selected s.ring.samples.size high →
      s.percentile low ≤ s.percentile high

namespace Percentiles

variable {s : Statistics}

theorem of_keeps {latencies : List UInt64} (h : s.ring.Keeps latencies) :
    Percentiles latencies s.ring.capacity s := by
  have hnone (hsize : s.ring.samples.size = 0) (fraction : Float) : s.percentile fraction = 0 := by
    rw [percentile, query, Ring.query_of_empty hsize]
  have hranked (hsize : 0 < s.ring.samples.size) (fraction : Float) :
      Ranked (Ring.selected s.ring.samples.size fraction) (s.percentile fraction)
        s.ring.samples.toList := Ring.ranked_query hsize fraction
  have hpos {x : UInt64} (hx : x ∈ s.ring.samples.toList) : 0 < s.ring.samples.size := by
    rw [← Array.length_toList]
    exact List.length_pos_of_mem hx
  refine ⟨h.perm, h.size_eq, hnone, fun hsize fraction =>
    ⟨Ring.selected_lt hsize fraction, hranked hsize fraction⟩, ?_, ?_, fun fraction hone => ?_, ?_⟩
  · intro fraction hzero x hx
    have hrank := hranked (hpos hx) fraction
    rw [Ring.selected_of_le_zero hzero] at hrank
    exact hrank.le_of_mem hx
  · intro hcount fraction hone x hx
    have hrank := hranked (hpos hx) fraction
    rw [Ring.selected_of_one_le hone hcount, ← Array.length_toList] at hrank
    exact hrank.le_last_of_mem hx
  · show (s.ring.query fraction).1 = (s.ring.query 1).1
    rw [Ring.query_of_one_le hone]
  · intro low high hle
    rcases Nat.eq_zero_or_pos s.ring.samples.size with hsize | hsize
    · rw [hnone hsize, hnone hsize]
      exact UInt64.le_refl _
    · exact (hranked hsize low).le_of_le (hranked hsize high) hle

end Percentiles

/-- **A query answers the latency of the rank that it selects, among the last ones.** After any
calls of fresh statistics; and without the queries among them all else is the same. -/
theorem percentiles_calls (limit : UInt64) (capacity : Nat) (cs : List Call) :
    let s := (fresh limit capacity).after cs
    let t := (fresh limit capacity).after (withoutQueries cs)
    Percentiles ((entries cs).map (·.latency)) capacity s ∧
      (fresh limit capacity).answers (withoutQueries cs) =
        ((fresh limit capacity).answers cs).filter (fun a => !a.isLatency) ∧
      t.tidy = s.tidy ∧ ∀ fraction, t.percentile fraction = s.percentile fraction := by
  obtain ⟨hcapacity, hkeeps⟩ := keeps_after limit capacity cs
  obtain ⟨hanswers, htidy⟩ := answers_withoutQueries (s := fresh limit capacity) rfl cs
  have hpercentiles := Percentiles.of_keeps hkeeps
  rw [hcapacity] at hpercentiles
  refine ⟨hpercentiles, hanswers, htidy, fun fraction => ?_⟩
  exact Answer.latency.inj (call_of_tidy_eq htidy (.query fraction)).1

/-- Five latencies in a ring for three: the first two are gone, and the answers at zero and at one
enclose the rest. -/
theorem percentiles_of_five :
    let s := (fresh 1000 3).after ([5, 1, 4, 2, 3].map fun latency => .record ⟨0, latency, 0⟩)
    s.ring.samples = #[2, 3, 4] ∧ s.ring.samples.size ≤ 2 ^ 54 + 1 ∧
      ∀ x ∈ s.ring.samples.toList, s.percentile 0 ≤ x ∧ x ≤ s.percentile 1 := by
  intro s
  have hsamples : s.ring.samples = #[2, 3, 4] := by decide +kernel
  have hcount : s.ring.samples.size ≤ 2 ^ 54 + 1 := by
    rw [hsamples]
    decide
  have h := (percentiles_calls 1000 3
    ([5, 1, 4, 2, 3].map fun latency => .record ⟨0, latency, 0⟩)).1
  refine ⟨hsamples, hcount, fun x hx => ⟨?_, ?_⟩⟩
  · exact h.least 0 (by decide +kernel) x hx
  · exact h.greatest hcount 1 (by decide +kernel) x hx

end CyclicBus.Statistics

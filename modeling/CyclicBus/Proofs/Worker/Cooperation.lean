import CyclicBus.Proofs.Worker.Cycles

/-!
# A worker and its stop flag

Others raise the stop flag of a worker at any moment, and its owner joins it. `cooperative_of_calm`
says what comes of that in a run without panics and failed sleeps: how much may still begin once the
flag is up (`length_begun_le`), that each cycle that began is in the statistics when the worker has
ended (`pending_append_begun`, `books_moves`), which reason the worker ends with
(`ended_stopped_iff`), and what the joins answer (`answers_cases`).
-/

namespace CyclicBus.Worker

variable {B C R : Type}

/-! ## What may still begin -/

/-- The cycles that may begin from a phase on, once the stop flag is up. -/
def Phase.mayBegin : Phase → Nat
  | .limit => 1
  | .sleep => 1
  | .run _ => 1
  | _ => 0

theorem Phase.mayBegin_le (p : Phase) : p.mayBegin ≤ 1 := by
  cases p <;> simp [mayBegin]

section Flag

variable [CycleBody B R] (act : C → B → B) {w : Worker B}

theorem stopRequested_move (h : w.stopRequested = true) (m : Move C R) :
    (w.move act m).stopRequested = true := by
  cases m with
  | step answer => exact (stopRequested_step w answer).trans h
  | stop => rfl
  | outside change => exact h

/-- With the flag up, a cycle that begins is one that might. -/
theorem length_begins_add_mayBegin_le (h : w.stopRequested = true) (m : Move C R) :
    (w.begins m).length + (w.move act m).phase.mayBegin ≤ w.phase.mayBegin := by
  cases m with
  | stop => exact Nat.le_of_eq (Nat.zero_add _)
  | outside change => exact Nat.le_of_eq (Nat.zero_add _)
  | step answer =>
    show _ + (w.step answer).phase.mayBegin ≤ _
    unfold begins step
    cases hp : w.phase with
    | check => simp [h, Phase.mayBegin]
    | limit =>
      rw [List.length_nil, Nat.zero_add]
      exact Phase.mayBegin_le _
    | sleep =>
      rw [List.length_nil, Nat.zero_add]
      exact Phase.mayBegin_le _
    | run context =>
      dsimp only
      split <;> exact Nat.le_refl 1
    | settle context started =>
      dsimp only
      rw [phase_settle]
      exact Nat.le_refl 0
    | _ => simp [hp, Phase.mayBegin]

theorem length_begun_le (h : w.stopRequested = true) (ms : List (Move C R)) :
    (w.begun act ms).length ≤ w.phase.mayBegin := by
  induction ms generalizing w with
  | nil => exact Nat.zero_le _
  | cons m ms ih =>
    have hmove := length_begins_add_mayBegin_le act h m
    have hrest := ih (stopRequested_move act h m)
    rw [begun, List.length_append]
    omega

/-- With the flag up, each step of the worker brings its end nearer. -/
theorem toEnd_moves (h : w.stopRequested = true) (ms : List (Move C R)) :
    (w.moves act ms).phase.toEnd ≤ w.phase.toEnd - (ms.filterMap Move.now?).length := by
  induction ms generalizing w with
  | nil => exact Nat.le_refl _
  | cons m ms ih =>
    have hrest := ih (stopRequested_move act h m)
    cases m with
    | step answer =>
      have hstep := toEnd_step w answer h
      show ((w.step answer).moves act ms).phase.toEnd ≤ _
      change ((w.step answer).moves act ms).phase.toEnd ≤ (w.step answer).phase.toEnd - _ at hrest
      have hcount : ((Move.step answer :: ms).filterMap Move.now?).length =
          (ms.filterMap Move.now?).length + 1 := rfl
      omega
    | stop => exact hrest
    | outside change => exact hrest

/-! ## Asking again -/

def Move.isStop : Move C R → Bool
  | .stop => true
  | _ => false

omit [CycleBody B R] in
theorem requestStop_of_stopRequested (h : w.stopRequested = true) : w.requestStop = w := by
  unfold requestStop
  rw [← h]

/-- Asking again changes nothing: not the worker, and not what happens. -/
theorem moves_filter_isStop (h : w.stopRequested = true) (ms : List (Move C R)) :
    w.moves act (ms.filter (!·.isStop)) = w.moves act ms ∧
      w.history act (ms.filter (!·.isStop)) = w.history act ms := by
  induction ms generalizing w with
  | nil => exact ⟨rfl, rfl⟩
  | cons m ms ih =>
    obtain ⟨hmoves, hhistory⟩ := ih (stopRequested_move act h m)
    cases hm : m.isStop with
    | true =>
      have hstop : m = .stop := by
        cases m <;> first | rfl | cases hm
      subst hstop
      have hsame : w.move act (C := C) .stop = w := requestStop_of_stopRequested h
      rw [List.filter_cons_of_neg (by simp [hm])]
      rw [hsame] at hmoves hhistory
      refine ⟨hmoves.trans ?_, hhistory.trans ?_⟩
      · show _ = (w.move act .stop).moves act ms
        rw [hsame]
      · show _ = (w.move act .stop).history act ms
        rw [hsame]
    | false =>
      rw [List.filter_cons_of_pos (by simp [hm])]
      refine ⟨hmoves, ?_⟩
      rw [history, history, hhistory]

end Flag

/-! ## What is entered -/

/-- A cycle that is settled, and how long it took. -/
structure Entry where
  context : CycleContext
  exec : UInt64
  deriving DecidableEq

/-- Enter a cycle into the statistics, and into the window that it may close. -/
def Entry.enter (books : Statistics × Fill) (e : Entry) : Statistics × Fill :=
  let statistics := books.1.record e.context.actual e.context.latency e.exec
  (if books.2.closes then statistics.drain else statistics, books.2.tick)

/-- The cycle that a move settles, if it settles one. -/
def settles (w : Worker B) : Move C R → List Entry
  | .step answer =>
    match w.phase with
    | .settle context started => [⟨context, answer.now.satSub started⟩]
    | _ => []
  | _ => []

/-- The cycle that has begun and is still to be settled. -/
def pending (w : Worker B) : List CycleContext :=
  match w.phase with
  | .settle context _ => [context]
  | _ => []

/-- What is written down of the cycles. -/
def books (w : Worker B) : Statistics × Fill := (w.statistics, w.fill)

theorem cycles_foldl_enter (es : List Entry) (b : Statistics × Fill) :
    (es.foldl Entry.enter b).1.cycles.toNat =
      min (b.1.cycles.toNat + es.length) (UInt64.size - 1) := by
  induction es generalizing b with
  | nil =>
    have hlt := b.1.cycles.toNat_lt_size
    show b.1.cycles.toNat = min (b.1.cycles.toNat + 0) _
    omega
  | cons e es ih =>
    have hcycles : (e.enter b).1.cycles.toNat = min (b.1.cycles.toNat + 1) (UInt64.size - 1) := by
      have hone := UInt64.toNat_satAdd b.1.cycles 1
      unfold Entry.enter
      dsimp only
      split <;> exact hone
    rw [List.foldl_cons, ih, hcycles, List.length_cons]
    omega

section Books

variable [CycleBody B R] (act : C → B → B)

/-- The cycles that are settled in a run, in order. -/
def settled (w : Worker B) : List (Move C R) → List Entry
  | [] => []
  | m :: ms => w.settles m ++ (w.move act m).settled ms

theorem books_move (w : Worker B) (m : Move C R) :
    (w.move act m).books = (w.settles m).foldl Entry.enter w.books := by
  cases m with
  | stop => rfl
  | outside change => rfl
  | step answer =>
    show (w.step answer).books = _
    unfold settles step
    cases w.phase with
    | settle context started =>
      dsimp only
      rw [settle_eq]
      rfl
    | sleep => cases answer.slept <;> rfl
    | run context => cases answer.panics <;> rfl
    | _ => rfl

/-- The books of a worker hold the cycles that were settled. -/
theorem books_moves (w : Worker B) (ms : List (Move C R)) :
    (w.moves act ms).books = (w.settled act ms).foldl Entry.enter w.books := by
  induction ms generalizing w with
  | nil => rfl
  | cons m ms ih =>
    show ((w.move act m).moves act ms).books = _
    rw [ih, books_move, settled, List.foldl_append]

/-- A cycle that begins is pending until it is settled. -/
theorem pending_append_begins (w : Worker B) {m : Move C R} (calm : m.Calm) :
    w.pending ++ w.begins m = (w.settles m).map (·.context) ++ (w.move act m).pending := by
  cases m with
  | stop => exact List.append_nil _
  | outside change => exact List.append_nil _
  | step answer =>
    show _ = _ ++ (w.step answer).pending
    unfold pending begins settles step
    cases hp : w.phase with
    | sleep =>
      dsimp only
      rw [if_pos calm.1]
      rfl
    | run context =>
      dsimp only
      rw [calm.2]
      rfl
    | settle context started =>
      dsimp only
      rw [phase_settle]
      rfl
    | check => cases w.stopRequested <;> rfl
    | limit => cases w.endsAt.any (· ≤ answer.now) <;> rfl
    | _ => simp [hp]

theorem pending_append_begun (w : Worker B) {ms : List (Move C R)} (calm : ∀ m ∈ ms, m.Calm) :
    w.pending ++ w.begun act ms =
      (w.settled act ms).map (·.context) ++ (w.moves act ms).pending := by
  induction ms generalizing w with
  | nil => exact List.append_nil _
  | cons m ms ih =>
    have hmove := pending_append_begins act w (calm m List.mem_cons_self)
    have hrest := ih (w.move act m) fun m' hm => calm m' (List.mem_cons_of_mem m hm)
    show _ = _ ++ ((w.move act m).moves act ms).pending
    rw [begun, ← List.append_assoc, hmove, List.append_assoc, hrest, settled, List.map_append,
      List.append_assoc]

end Books

/-! ## Why a worker ends -/

/-- A worker with a bound has a configured run duration, and so has one that ended with it; no other
reason to end comes up but the stop flag. -/
structure EndsInOrder (config : Config) (w : Worker B) : Prop where
  config_eq : w.config = config
  bound : w.endsAt.isSome = true → config.runDuration.isSome = true
  reason : ∀ reason, w.phase = .ended reason →
    reason = .stopped ∨ reason = .durationElapsed ∧ w.endsAt.isSome = true

/-- The worker looks at its stop flag and finds it raised. -/
def sees (w : Worker B) : Move C R → Bool
  | .step _ => w.phase = .check && w.stopRequested
  | _ => false

section Reasons

variable [CycleBody B R] (act : C → B → B)

/-- The worker found its stop flag raised in a run. -/
def hasSeen (w : Worker B) : List (Move C R) → Bool
  | [] => false
  | m :: ms => w.sees m || (w.move act m).hasSeen ms

/-- A worker ends as stopped where it sees the flag, whatever its bound. -/
theorem ended_stopped_move_iff (w : Worker B) (m : Move C R) :
    (w.move act m).phase = .ended .stopped ↔ w.phase = .ended .stopped ∨ w.sees m = true := by
  cases m with
  | stop => simp [move, requestStop, sees]
  | outside change => simp [move, sees]
  | step answer =>
    show (w.step answer).phase = _ ↔ _
    unfold sees step
    cases hp : w.phase with
    | check => cases w.stopRequested <;> simp
    | limit => cases w.endsAt.any (· ≤ answer.now) <;> simp
    | sleep =>
      by_cases hfailed : sleepFailureBound ≤ w.sleepFailures + 1 <;> cases answer.slept <;>
        simp [hfailed]
    | run context => cases answer.panics <;> simp
    | settle context started => simp [phase_settle]
    | _ => simp [hp]

theorem ended_stopped_iff (w : Worker B) (ms : List (Move C R)) :
    (w.moves act ms).phase = .ended .stopped ↔
      w.phase = .ended .stopped ∨ w.hasSeen act ms = true := by
  induction ms generalizing w with
  | nil => simp [moves, hasSeen]
  | cons m ms ih =>
    show ((w.move act m).moves act ms).phase = _ ↔ _
    rw [ih, ended_stopped_move_iff, hasSeen, Bool.or_eq_true, or_assoc]

theorem hasSeen_append (w : Worker B) (ms ms' : List (Move C R)) :
    w.hasSeen act (ms ++ ms') = (w.hasSeen act ms || (w.moves act ms).hasSeen act ms') := by
  induction ms generalizing w with
  | nil => rfl
  | cons m ms ih =>
    rw [List.cons_append, hasSeen, hasSeen, ih, Bool.or_assoc]
    rfl

theorem EndsInOrder.step {config : Config} {w : Worker B} (h : EndsInOrder config w)
    {answer : Answer R} (slept : answer.slept = true) : EndsInOrder config (w.step answer) := by
  obtain ⟨hconfig, hbound, hreason⟩ := h
  unfold Worker.step
  cases hp : w.phase with
  | anchor => exact ⟨hconfig, hbound, nofun⟩
  | bound =>
    refine ⟨hconfig, fun h => ?_, nofun⟩
    rwa [Option.isSome_map, hconfig] at h
  | check =>
    refine ⟨hconfig, hbound, fun reason h => ?_⟩
    dsimp only at h
    split at h
    · cases h
      exact .inl rfl
    · cases h
  | limit =>
    refine ⟨hconfig, hbound, fun reason h => ?_⟩
    dsimp only at h
    split at h
    next helapsed =>
      cases h
      refine .inr ⟨rfl, ?_⟩
      show w.endsAt.isSome = true
      cases hends : w.endsAt with
      | none =>
        rw [hends] at helapsed
        cases helapsed
      | some ends => rfl
    next => cases h
  | sleep =>
    dsimp only
    rw [if_pos slept]
    exact ⟨hconfig, hbound, nofun⟩
  | run context =>
    dsimp only
    split <;> exact ⟨hconfig, hbound, nofun⟩
  | settle context started =>
    dsimp only
    rw [settle_eq]
    exact ⟨hconfig, hbound, nofun⟩
  | ended reason => exact ⟨hconfig, hbound, hreason⟩
  | panicked => exact ⟨hconfig, hbound, hreason⟩

theorem EndsInOrder.moves {config : Config} {w : Worker B} (h : EndsInOrder config w)
    {ms : List (Move C R)} (rested : ∀ m ∈ ms, m.Rested) :
    EndsInOrder config (w.moves act ms) := by
  induction ms generalizing w with
  | nil => exact h
  | cons m ms ih =>
    refine ih ?_ fun m' hm => rested m' (List.mem_cons_of_mem m hm)
    cases m with
    | step answer => exact h.step (rested _ List.mem_cons_self)
    | stop => exact ⟨h.config_eq, h.bound, h.reason⟩
    | outside change => exact ⟨h.config_eq, h.bound, h.reason⟩

theorem hasPanicked_move (w : Worker B) {m : Move C R} (calm : m.Calm) :
    (w.move act m).hasPanicked = w.hasPanicked := by
  cases m with
  | stop => rfl
  | outside change => rfl
  | step answer => exact hasPanicked_step_of_not_panics w calm.2

end Reasons

/-! ## Joining -/

/-- What happens around a handle: something to its worker, or its owner asks to join it. -/
inductive Event (C R : Type) where
  | move (m : Move C R)
  | join

def Event.move? : Event C R → Option (Move C R)
  | move m => some m
  | join => none

def Event.isJoin : Event C R → Bool
  | join => true
  | move _ => false

section Joins

variable [CycleBody B R] (act : C → B → B)

/-- What the joins answer that need not wait, in order. -/
def Handle.answers (h : Handle B) : List (Event C R) → List (Except WorkerFault (Exit B))
  | [] => []
  | .move m :: es => Handle.answers ⟨h.thread.map (Worker.move act · m)⟩ es
  | .join :: es =>
    match h.join? with
    | some (answer, h) => answer :: h.answers es
    | none => h.answers es

/-- A handle whose thread was joined has nothing to give. -/
theorem Handle.answers_of_joined (es : List (Event C R)) :
    Handle.answers act (⟨none⟩ : Handle B) es =
      List.replicate (es.countP Event.isJoin) (.error .lost) := by
  induction es with
  | nil => rfl
  | cons e es ih =>
    cases e with
    | move m => exact ih
    | join =>
      rw [List.countP_cons_of_pos rfl, List.replicate_succ, ← ih]
      rfl

/-- **One join gives the worker back**: the first one that finds the thread ended. Those before
wait, and those after find nothing. -/
theorem answers_cases (w : Worker B) (es : List (Event C R)) :
    (Handle.answers act ⟨some w⟩ es = [] ∧ ∀ before after, es = before ++ .join :: after →
        (w.moves act (before.filterMap Event.move?)).finished = false) ∨
      ∃ before after, es = before ++ .join :: after ∧
        (w.moves act (before.filterMap Event.move?)).finished = true ∧
        Handle.answers act ⟨some w⟩ es = (w.moves act (before.filterMap Event.move?)).join? ::
          List.replicate (after.countP Event.isJoin) (.error .lost) := by
  induction es generalizing w with
  | nil => exact .inl ⟨rfl, fun before after h => by cases before <;> cases h⟩
  | cons e es ih =>
    cases e with
    | move m =>
      rcases ih (w.move act m) with ⟨hnone, halive⟩ | ⟨before, after, rfl, hended, hanswers⟩
      · refine .inl ⟨hnone, fun before after h => ?_⟩
        cases before with
        | nil => cases h
        | cons e' before =>
          obtain ⟨rfl, htail⟩ := List.cons.inj h
          exact halive before after htail
      · exact .inr ⟨.move m :: before, after, rfl, hended, hanswers⟩
    | join =>
      cases hended : w.finished with
      | true =>
        refine .inr ⟨[], es, rfl, hended, ?_⟩
        have hjoin : Handle.join? ⟨some w⟩ = some (w.join?, ⟨none⟩) := if_pos hended
        rw [Handle.answers, hjoin, ← Handle.answers_of_joined act es]
        rfl
      | false =>
        have hjoin : Handle.join? ⟨some w⟩ = none := if_neg (by simp [hended])
        rw [Handle.answers, hjoin]
        rcases ih w with ⟨hnone, halive⟩ | ⟨before, after, rfl, hlater, hanswers⟩
        · refine .inl ⟨hnone, fun before after h => ?_⟩
          cases before with
          | nil => exact hended
          | cons e' before =>
            obtain ⟨rfl, htail⟩ := List.cons.inj h
            exact halive before after htail
        · exact .inr ⟨.join :: before, after, rfl, hlater, hanswers⟩

end Joins

/-! ## Cooperation -/

variable [CycleBody B R] (act : C → B → B)

/-- What a worker owes those who ask it to stop, over some moves from its start on. -/
structure Cooperative (w : Worker B) (ms : List (Move C R)) : Prop where
  /-- Once the flag is up, one more cycle begins at most, -/
  soon : ∀ before after, ms = before ++ .stop :: after →
    ((w.moves act before).requestStop.begun act after).length ≤ 1
  /-- and the worker ends as soon as it has had some steps. -/
  ends : ∀ before after, ms = before ++ .stop :: after →
    stepsToStop ≤ (after.filterMap Move.now?).length → (w.moves act ms).finished = true
  /-- When the worker has ended, every cycle that began has returned, -/
  returned : (w.moves act ms).finished = true →
    (w.history act ms).filterMap Happening.cycle? = w.begun act ms
  /-- and was settled, -/
  settled : (w.moves act ms).finished = true →
    (w.settled act ms).map (·.context) = w.begun act ms
  /-- and the statistics are those of the cycles that were settled. -/
  recorded : (w.moves act ms).books = (w.settled act ms).foldl Entry.enter w.books
  counted : (w.moves act ms).finished = true → (w.moves act ms).statistics.cycles.toNat =
    min (w.begun act ms).length (UInt64.size - 1)
  body : (w.moves act ms).body = (w.history act ms).foldl (Happening.on act) w.body
  /-- The reason is the flag, if the worker saw it up, and else the configured run duration. -/
  reason : ∀ reason, (w.moves act ms).phase = .ended reason →
    reason = .stopped ∧ w.hasSeen act ms = true ∨
      reason = .durationElapsed ∧ w.hasSeen act ms = false ∧ w.config.runDuration.isSome = true
  /-- A flag that is up at a check ends the worker, whether the run duration has elapsed or not. -/
  first : ∀ before answer after, ms = before ++ .step answer :: after →
    (w.moves act before).phase = .check → (w.moves act before).stopRequested = true →
      (w.moves act ms).phase = .ended .stopped
  /-- Raising the flag again changes nothing. -/
  again : ∀ before after, ms = before ++ .stop :: after →
    let once := before ++ .stop :: after.filter (!·.isStop)
    w.moves act once = w.moves act ms ∧ w.history act once = w.history act ms

/-- What the owner of a worker gets: body, statistics and reason once, from the first join that
finds the worker ended. A join before that waits, and one after it finds nothing. -/
def ReturnsOnce (w : Worker B) (es : List (Event C R)) : Prop :=
  (Handle.answers act ⟨some w⟩ es = [] ∧ ∀ before after, es = before ++ .join :: after →
      (w.moves act (before.filterMap Event.move?)).finished = false) ∨
    ∃ before after reason, es = before ++ .join :: after ∧
      let v := w.moves act (before.filterMap Event.move?)
      v.phase = .ended reason ∧
        Handle.answers act ⟨some w⟩ es = .ok ⟨v.body, v.statistics, reason⟩ ::
          List.replicate (after.countP Event.isJoin) (.error .lost)

theorem moves_append (w : Worker B) (ms ms' : List (Move C R)) :
    w.moves act (ms ++ ms') = (w.moves act ms).moves act ms' :=
  List.foldl_append

theorem history_append (w : Worker B) (ms ms' : List (Move C R)) :
    w.history act (ms ++ ms') = w.history act ms ++ (w.moves act ms).history act ms' := by
  induction ms generalizing w with
  | nil => rfl
  | cons m ms ih =>
    rw [List.cons_append, history, history, ih, List.append_assoc]
    rfl

theorem hasPanicked_moves (w : Worker B) {ms : List (Move C R)} (calm : ∀ m ∈ ms, m.Calm) :
    (w.moves act ms).hasPanicked = w.hasPanicked := by
  induction ms generalizing w with
  | nil => rfl
  | cons m ms ih =>
    rw [← hasPanicked_move act w (calm m List.mem_cons_self)]
    exact ih _ fun m' hm => calm m' (List.mem_cons_of_mem m hm)

theorem pending_of_finished {w : Worker B} (h : w.finished = true) : w.pending = [] := by
  unfold finished at h
  unfold pending
  cases hp : w.phase <;> simp [hp] at h ⊢

theorem ended_of_finished {w : Worker B} (h : w.finished = true) (whole : w.hasPanicked = false) :
    ∃ reason, w.phase = .ended reason := by
  unfold finished at h
  unfold hasPanicked at whole
  cases hp : w.phase <;> simp [hp] at h whole ⊢

theorem returnsOnce_of_calm (config : Config) (body : B) (es : List (Event C R))
    (calm : ∀ m ∈ es.filterMap Event.move?, m.Calm) :
    ReturnsOnce act (ready config body) es := by
  rcases answers_cases act (ready config body) es with
    hwaits | ⟨before, after, rfl, hended, hanswers⟩
  · exact .inl hwaits
  · have hcalm : ∀ m ∈ before.filterMap Event.move?, m.Calm := by
      intro m hm
      apply calm
      rw [List.filterMap_append]
      exact List.mem_append_left _ hm
    obtain ⟨reason, hreason⟩ := ended_of_finished hended (hasPanicked_moves act _ hcalm)
    refine .inr ⟨before, after, reason, rfl, hreason, ?_⟩
    rw [hanswers, join?, hreason]

/-! ### What each moment comes to -/

/-- Raising the flag ends the worker within so many steps. -/
theorem finished_of_requestStop (w : Worker B) {ms : List (Move C R)}
    (hsteps : stepsToStop ≤ (ms.filterMap Move.now?).length) :
    (w.requestStop.moves act ms).finished = true := by
  have hend := toEnd_moves act (w := w.requestStop) rfl ms
  have hle := w.requestStop.phase.toEnd_le
  rw [finished_iff_toEnd]
  omega

/-- A worker that looks at a raised flag ends as stopped. -/
theorem stopped_of_check {w : Worker B} (hcheck : w.phase = .check)
    (hflag : w.stopRequested = true) (answer : Answer R) (ms : List (Move C R)) :
    (w.moves act (.step answer :: ms)).phase = .ended .stopped := by
  have hsees : w.sees (C := C) (.step answer) = true := by
    unfold sees
    rw [hcheck, hflag]
    rfl
  rw [ended_stopped_iff, hasSeen, hsees, Bool.true_or]
  exact .inr rfl

/-- Why a worker ended: it saw its flag up, or else its configured run duration had elapsed. -/
theorem reason_of_ended (config : Config) (body : B) {ms : List (Move C R)}
    (rested : ∀ m ∈ ms, m.Rested) {reason : ExitReason}
    (h : ((ready config body).moves act ms).phase = .ended reason) :
    reason = .stopped ∧ (ready config body).hasSeen act ms = true ∨
      reason = .durationElapsed ∧ (ready config body).hasSeen act ms = false ∧
        config.runDuration.isSome = true := by
  have horder : EndsInOrder config (ready config body) := ⟨rfl, nofun, nofun⟩
  have hends := horder.moves act rested
  have hseen : ((ready config body).moves act ms).phase = .ended .stopped ↔
      (ready config body).hasSeen act ms = true := by
    rw [ended_stopped_iff]
    exact or_iff_right nofun
  rcases hends.reason reason h with rfl | ⟨rfl, hbound⟩
  · exact .inl ⟨rfl, hseen.1 h⟩
  · refine .inr ⟨rfl, ?_, hends.bound hbound⟩
    cases hflag : (ready config body).hasSeen act ms with
    | false => rfl
    | true =>
      rw [hseen.2 hflag] at h
      cases h

theorem settled_of_finished (config : Config) (body : B) {ms : List (Move C R)}
    (calm : ∀ m ∈ ms, m.Calm) (ended : ((ready config body).moves act ms).finished = true) :
    ((ready config body).settled act ms).map (·.context) = (ready config body).begun act ms := by
  have hpending := pending_append_begun act (ready config body) calm
  rw [pending_of_finished ended, List.append_nil] at hpending
  exact hpending.symm

theorem cooperative_of_ready (config : Config) (body : B) (ms : List (Move C R))
    (calm : ∀ m ∈ ms, m.Calm) : Cooperative act (ready config body) ms := by
  let w : Worker B := ready config body
  have hbooks := books_moves act w ms
  have hsettled := settled_of_finished act config body calm
  refine
    { soon := fun before after _ => ?_
      ends := fun before after hms hsteps => ?_
      returned := fun _ => cycles_history_of_calm act w calm
      settled := hsettled
      recorded := hbooks
      counted := fun hended => ?_
      body := body_moves act w ms
      reason := fun _ => reason_of_ended act config body fun m hm => (calm m hm).rested
      first := fun before answer after hms hcheck hflag => ?_
      again := fun before after hms => ?_ }
  · have hbegun := length_begun_le act (w := (w.moves act before).requestStop) rfl after
    exact Nat.le_trans hbegun (Phase.mayBegin_le _)
  · rw [hms, moves_append]
    exact finished_of_requestStop act (w.moves act before) hsteps
  · have hcycles := cycles_foldl_enter (w.settled act ms) w.books
    have hlength := congrArg List.length (hsettled hended)
    rw [← hbooks] at hcycles
    rw [List.length_map] at hlength
    rw [← hlength]
    exact hcycles.trans (by rw [show w.books.1.cycles.toNat = 0 from rfl, Nat.zero_add])
  · rw [hms, moves_append]
    exact stopped_of_check act hcheck hflag answer after
  · subst hms
    obtain ⟨hmoves, hhistory⟩ :=
      moves_filter_isStop act (w := (w.moves act before).requestStop) rfl after
    dsimp only
    rw [moves_append, moves_append, history_append, history_append]
    refine ⟨hmoves, congrArg (w.history act before ++ ·) ?_⟩
    exact hhistory

/-- **A worker cooperates** with those who stop and join it: in every interleaving of their requests
with its steps, as long as no sleep fails and no cycle panics. -/
theorem cooperative_of_calm (config : Config) (body : B) (es : List (Event C R))
    (calm : ∀ m ∈ es.filterMap Event.move?, m.Calm) :
    Cooperative act (ready config body) (es.filterMap Event.move?) ∧
      ReturnsOnce act (ready config body) es :=
  ⟨cooperative_of_ready act config body _ calm, returnsOnce_of_calm act config body es calm⟩

def stepOf (now : UInt64) : Event Empty Unit := .move (calmAt now)

/-- The flag goes up in the wait for the second wakeup, and once more in the cycle; the run duration
has elapsed too when the worker looks at the flag. The owner joins before and after that, and
again. -/
def stopInWait : List (Event Empty Unit) :=
  [stepOf 0, stepOf 0, stepOf 0, stepOf 0, stepOf 1000, stepOf 1000, stepOf 1200,
    stepOf 1200, stepOf 1200, .move .stop, .join, stepOf 2000, stepOf 2010, .move .stop,
    stepOf 2300, stepOf 2300, .join, .join]

theorem cooperative_of_calm_of_stopInWait :
    let w := ready { Config.ofPeriod 1000 with runDuration := some 1500 } CallLog.empty
    let ms := stopInWait.filterMap Event.move?
    (∀ m ∈ ms, m.Calm) ∧ Cooperative nofun w ms ∧ ReturnsOnce nofun w stopInWait ∧
      (w.moves nofun ms).phase = .ended .stopped ∧
      (w.begun nofun ms).map (·.cycle) = [0, 1] ∧
      (Handle.answers nofun ⟨some w⟩ stopInWait).length = 2 := by
  have calm : ∀ m ∈ stopInWait.filterMap Event.move?, m.Calm := by decide
  obtain ⟨hcooperative, honce⟩ := cooperative_of_calm nofun
    { Config.ofPeriod 1000 with runDuration := some 1500 } CallLog.empty stopInWait calm
  exact ⟨calm, hcooperative, honce, by decide +kernel, by decide +kernel, by decide +kernel⟩

end CyclicBus.Worker

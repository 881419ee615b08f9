import CyclicBus.Proofs.Clock.Windows

/-!
# Readings of the reference clock

Which reading a filter step uses, under any calls of a clock. A run is written down call by call
(`ClockNote`); a reading is `Pending` from the synchronisation that got it to the next
synchronisation or to the step that uses it. `calls_useReadings`: a step does something just if a
reading is pending, and what the filter has become depends on the differences fed to it alone.
-/

namespace CyclicBus

/-! ## Notes of calls -/

/-- What one call of a clock showed. -/
inductive ClockNote where
  /-- The application time that was set, and what the reference clock said. -/
  | synced (appTime : UInt64) (reading : Option UInt32)
  /-- The difference that the clock held, and what the filter did. -/
  | stepped (rawDiff : Int32) (done : DriftUpdate)

namespace ClockNote

/-- The application time after some calls. -/
def appTime (start : UInt64) (notes : List ClockNote) : UInt64 :=
  notes.foldl (fun t n => match n with | synced now _ => now | stepped .. => t) start

/-- The differences that were fed to the filter. -/
def fed (notes : List ClockNote) : List Int32 :=
  notes.filterMap fun
    | synced .. => none
    | stepped rawDiff done => if done = .skipped then none else some rawDiff

/-- The differences that the readings made, each with the application time before it. -/
def offered (start : UInt64) : List ClockNote → List Int32
  | [] => []
  | synced now (some reference) :: notes => Clock.lowDiff start reference :: offered now notes
  | synced now none :: notes => offered now notes
  | stepped .. :: notes => offered start notes

/-- The last synchronisation got a reading, and no step has used it. -/
def Pending (notes : List ClockNote) (diff : Int32) : Prop :=
  ∃ before now reference after, notes = before ++ synced now (some reference) :: after ∧
    (∀ n ∈ after, ∃ rawDiff, n = stepped rawDiff .skipped) ∧
    diff = Clock.lowDiff (appTime 0 before) reference

/-- Whether the last synchronisation got no reading. -/
def failed (notes : List ClockNote) : Bool :=
  notes.foldl (fun b n => match n with | synced _ reading => reading.isNone | stepped .. => b) false

section Append

variable (notes : List ClockNote) (start now : UInt64) (rawDiff : Int32)

theorem appTime_append_synced (reading : Option UInt32) :
    appTime start (notes ++ [synced now reading]) = now := by
  unfold appTime
  rw [List.foldl_concat]

theorem appTime_append_stepped (done : DriftUpdate) :
    appTime start (notes ++ [stepped rawDiff done]) = appTime start notes := by
  unfold appTime
  rw [List.foldl_concat]

theorem failed_append_synced (reading : Option UInt32) :
    failed (notes ++ [synced now reading]) = reading.isNone := by
  unfold failed
  rw [List.foldl_concat]

theorem fed_append_synced (reading : Option UInt32) :
    fed (notes ++ [synced now reading]) = fed notes := by
  unfold fed
  rw [List.filterMap_append]
  exact List.append_nil _

theorem fed_append_stepped (done : DriftUpdate) :
    fed (notes ++ [stepped rawDiff done]) =
      fed notes ++ if done = .skipped then [] else [rawDiff] := by
  unfold fed
  rw [List.filterMap_append]
  split <;> simp_all

theorem offered_append (after : List ClockNote) :
    offered start (notes ++ after) =
      offered start notes ++ offered (appTime start notes) after := by
  induction notes generalizing start with
  | nil => rfl
  | cons n before ih =>
    cases n with
    | synced now reading =>
      cases reading with
      | none => exact ih now
      | some reference => exact congrArg (Clock.lowDiff start reference :: ·) (ih now)
    | stepped rawDiff done => exact ih start

theorem offered_append_failure :
    offered start (notes ++ [synced now none]) = offered start notes := by
  rw [offered_append]
  exact List.append_nil _

theorem offered_append_reading (reference : UInt32) :
    offered start (notes ++ [synced now (some reference)]) =
      offered start notes ++ [Clock.lowDiff (appTime start notes) reference] :=
  offered_append notes start _

theorem offered_append_stepped (done : DriftUpdate) :
    offered start (notes ++ [stepped rawDiff done]) = offered start notes := by
  rw [offered_append]
  exact List.append_nil _

end Append

theorem not_pending_nil (diff : Int32) : ¬ Pending [] diff := by
  rintro ⟨before, now, reference, after, h, -⟩
  simp at h

/-- Where a list is split at a member, its last member is that one or comes after it. -/
theorem append_singleton_eq_append_cons {α : Type} {xs before after : List α} {x a : α}
    (h : xs ++ [x] = before ++ a :: after) :
    (xs = before ∧ x = a ∧ after = []) ∨
      ∃ rest, after = rest ++ [x] ∧ xs = before ++ a :: rest := by
  rcases List.eq_nil_or_concat after with rfl | ⟨rest, y, rfl⟩
  · obtain ⟨rfl, hx⟩ := List.append_inj' h rfl
    exact .inl ⟨rfl, List.head_eq_of_cons_eq hx, rfl⟩
  · rw [List.concat_eq_append, ← List.cons_append, ← List.append_assoc] at h
    obtain ⟨rfl, hx⟩ := List.append_inj' h rfl
    cases hx
    exact .inr ⟨rest, List.concat_eq_append, rfl⟩

/-- After a synchronisation just its own reading is pending. -/
theorem pending_append_synced (notes : List ClockNote) (now : UInt64) (reading : Option UInt32)
    (diff : Int32) :
    Pending (notes ++ [synced now reading]) diff ↔
      ∃ reference, reading = some reference ∧ diff = Clock.lowDiff (appTime 0 notes) reference := by
  constructor
  · rintro ⟨before, now', reference, after, h, hafter, rfl⟩
    rcases append_singleton_eq_append_cons h with ⟨rfl, hn, -⟩ | ⟨rest, rfl, -⟩
    · cases hn
      exact ⟨reference, rfl, rfl⟩
    · obtain ⟨rawDiff, hn⟩ := hafter _ (List.mem_append_right rest List.mem_cons_self)
      cases hn
  · rintro ⟨reference, rfl, rfl⟩
    exact ⟨notes, now, reference, [], rfl, nofun, rfl⟩

/-- After a step a reading is pending if it was so before and the step was skipped. -/
theorem pending_append_stepped (notes : List ClockNote) (rawDiff : Int32) (done : DriftUpdate)
    (diff : Int32) :
    Pending (notes ++ [stepped rawDiff done]) diff ↔ done = .skipped ∧ Pending notes diff := by
  constructor
  · rintro ⟨before, now, reference, after, h, hafter, rfl⟩
    rcases append_singleton_eq_append_cons h with ⟨-, hn, -⟩ | ⟨rest, rfl, rfl⟩
    · cases hn
    · obtain ⟨_, hn⟩ := hafter _ (List.mem_append_right rest List.mem_cons_self)
      cases hn
      exact ⟨rfl, before, now, reference, rest, rfl,
        fun n hn => hafter n (List.mem_append_left _ hn), rfl⟩
  · rintro ⟨rfl, before, now, reference, after, rfl, hafter, rfl⟩
    refine ⟨before, now, reference, after ++ [stepped rawDiff .skipped],
      List.append_assoc _ _ _, ?_, rfl⟩
    intro n hn
    rcases List.mem_append.1 hn with hn | hn
    · exact hafter n hn
    · exact ⟨rawDiff, List.mem_singleton.1 hn⟩

end ClockNote

/-- A clock with notes of its calls, oldest first. -/
structure ClockTrace where
  clock : ClockSync
  notes : List ClockNote

namespace ClockTrace

variable {M : Type} [MasterSession M]

def start (params : DriftParams) : ClockTrace := ⟨.ofParams params, []⟩

def call (r : ClockTrace) : ClockCall M → ClockTrace
  | .sync x =>
    ⟨r.clock.synced x,
      r.notes ++ [.synced (r.clock.sync x.hardware x.now x.master).1.appTime (r.clock.readingOf x)]⟩
  | .update =>
    ⟨r.clock.update.2, r.notes ++ [.stepped r.clock.state.rawDiff r.clock.update.1]⟩

def calls (r : ClockTrace) (cs : List (ClockCall M)) : ClockTrace := cs.foldl call r

/-- Calls without the filter steps that come after a synchronisation without a reading. -/
def withoutFailed (r : ClockTrace) : List (ClockCall M) → List (ClockCall M)
  | [] => []
  | .sync x :: cs => .sync x :: withoutFailed (r.call (.sync x)) cs
  | .update :: cs =>
    if ClockNote.failed r.notes then withoutFailed (r.call (M := M) .update) cs
    else .update :: withoutFailed (r.call (M := M) .update) cs

/-- Some steps that were skipped are left out of the calls. -/
inductive Thinned : ClockTrace → List (ClockCall M) → List (ClockCall M) → Prop where
  | nil {r : ClockTrace} : Thinned r [] []
  | keep {r : ClockTrace} {c : ClockCall M} {cs cs' : List (ClockCall M)} :
    Thinned (r.call c) cs cs' → Thinned r (c :: cs) (c :: cs')
  | leave {r : ClockTrace} {cs cs' : List (ClockCall M)} :
    r.clock.update.1 = .skipped → Thinned (r.call (M := M) .update) cs cs' →
      Thinned r (.update :: cs) cs'

end ClockTrace

/-! ## The filter part of a state -/

/-- A state without its application times and the difference it holds. -/
def ClockState.filterPart (s : ClockState) : ClockState :=
  { s with appTime := 0, rawDiff := 0, startAppTime := 0 }

namespace ClockSync

/-- The filter after it was fed some differences in a row. -/
def replay (p : DriftParams) (diffs : List Int32) : ClockState :=
  diffs.foldl (fun s rawDiff => (filter p { s with rawDiff }).2) .zero

theorem filter_ne_skipped (p : DriftParams) (s : ClockState) : (filter p s).1 ≠ .skipped := by
  rcases hs : s.started with _ | _
  · rw [filter_of_not_started hs]
    split <;> nofun
  · rw [filter_of_started hs]
    split <;> nofun

/-- What a filter step makes of the filter part depends on that part and the difference alone. -/
theorem filterPart_filter (p : DriftParams) (s : ClockState) :
    (filter p s).2.filterPart =
      (filter p { s.filterPart with rawDiff := s.rawDiff }).2.filterPart := by
  rcases hs : s.started with _ | _
  · rw [filter_of_not_started hs, filter_of_not_started (by exact hs)]
    show _ = (if diffOf p s = 0 then _ else _ : DriftUpdate × ClockState).2.filterPart
    split <;> rfl
  · rw [filter_of_started hs, filter_of_started (by exact hs)]
    show _ = (if p.window ≤ (sampled p s).filterIndex then _ else _ :
      DriftUpdate × ClockState).2.filterPart
    split <;> rfl

theorem filterPart_filter_congr (p : DriftParams) {s t : ClockState}
    (h : s.filterPart = t.filterPart) :
    (filter p s).2.filterPart = (filter p { t with rawDiff := s.rawDiff }).2.filterPart := by
  rw [filterPart_filter p s, h, filterPart_filter p { t with rawDiff := s.rawDiff }]
  rfl

/-- A step that is skipped changes nothing. -/
theorem update_of_skipped {c : ClockSync} (h : c.update.1 = .skipped) : c.update.2 = c := by
  unfold update updateBy at h ⊢
  split at h
  · cases h
  · split at h
    · rename_i hstale
      rw [if_pos hstale]
    · exact absurd h (filter_ne_skipped _ _)

end ClockSync

/-! ## What the notes say of the clock -/

/-- A clock that follows the reference, against the notes of its calls. -/
structure ReadingInv (params : DriftParams) (r : ClockTrace) : Prop where
  params_eq : r.clock.params = params
  appTime : r.clock.state.appTime = ClockNote.appTime 0 r.notes
  pending : ∀ diff, ClockNote.Pending r.notes diff ↔
    r.clock.fresh = true ∧ r.clock.state.rawDiff = diff
  failed : ClockNote.failed r.notes = true → r.clock.fresh = false
  /-- What was fed to the filter, and what it is still to be fed, was offered in this order. -/
  once : (ClockNote.fed r.notes ++ if r.clock.fresh then [r.clock.state.rawDiff] else []).Sublist
    (ClockNote.offered 0 r.notes)
  replayed : r.clock.state.filterPart =
    (ClockSync.replay params (ClockNote.fed r.notes)).filterPart

namespace ReadingInv

open ClockSync ClockNote

variable {M : Type} [MasterSession M] {params : DriftParams} {r : ClockTrace}
  (mode : params.mode = .masterFollowsReference)

theorem start : ReadingInv params (.start params) where
  params_eq := rfl
  appTime := rfl
  pending diff := ⟨fun h => absurd h (not_pending_nil diff), nofun⟩
  failed := nofun
  once := List.Sublist.refl _
  replayed := rfl

theorem mode_eq (inv : ReadingInv params r) (mode : params.mode = .masterFollowsReference) :
    r.clock.params.mode = .masterFollowsReference := by
  rw [inv.params_eq]
  exact mode

include mode in
theorem sync (inv : ReadingInv params r) (x : Surroundings M) :
    ReadingInv params (r.call (.sync x)) := by
  have hmode := inv.mode_eq mode
  have honce : (fed r.notes).Sublist (offered 0 r.notes) :=
    (List.sublist_append_left _ _).trans inv.once
  unfold ClockTrace.call
  dsimp only
  rw [fst_sync]
  cases hr : r.clock.readingOf x with
  | none =>
    rw [synced_of_failure hmode hr]
    refine ⟨inv.params_eq, (appTime_append_synced ..).symm, fun diff => ?_, fun _ => rfl, ?_,
      ?_⟩ <;> dsimp only
    · rw [pending_append_synced]
      exact ⟨nofun, nofun⟩
    · rw [fed_append_synced, offered_append_failure, if_neg Bool.false_ne_true, List.append_nil]
      exact honce
    · rw [fed_append_synced]
      exact inv.replayed
  | some reference =>
    rw [synced_of_reading hmode hr]
    refine ⟨inv.params_eq, (appTime_append_synced ..).symm, fun diff => ?_, ?_, ?_, ?_⟩ <;>
      dsimp only
    · rw [pending_append_synced, ← inv.appTime]
      constructor
      · rintro ⟨_, ⟨⟩, rfl⟩
        exact ⟨rfl, rfl⟩
      · rintro ⟨-, rfl⟩
        exact ⟨reference, rfl, rfl⟩
    · rw [failed_append_synced]
      exact nofun
    · rw [fed_append_synced, offered_append_reading, ← inv.appTime]
      exact honce.append (List.Sublist.refl _)
    · rw [fed_append_synced]
      exact inv.replayed

include mode in
theorem update (inv : ReadingInv params r) : ReadingInv params (r.call (M := M) .update) := by
  have hmode := inv.mode_eq mode
  have honce := inv.once
  unfold ClockTrace.call
  dsimp only
  rcases hf : r.clock.fresh with _ | _
  · rw [update_of_stale hmode hf]
    refine ⟨inv.params_eq, inv.appTime.trans (appTime_append_stepped ..).symm, fun diff => ?_,
      fun _ => hf, ?_, ?_⟩ <;> dsimp only
    · rw [pending_append_stepped, inv.pending]
      exact and_iff_right rfl
    · rw [fed_append_stepped, offered_append_stepped, if_pos rfl, List.append_nil]
      exact honce
    · rw [fed_append_stepped, if_pos rfl, List.append_nil]
      exact inv.replayed
  · have hused := filter_ne_skipped r.clock.params r.clock.state
    rw [hf, if_pos rfl] at honce
    rw [update_of_fresh hmode hf]
    refine ⟨inv.params_eq, ?_, fun diff => ?_, fun _ => rfl, ?_, ?_⟩ <;> dsimp only
    · rw [appTime_append_stepped, appTime_filter]
      exact inv.appTime
    · rw [pending_append_stepped]
      exact ⟨fun h => absurd h.1 hused, nofun⟩
    · rw [fed_append_stepped, offered_append_stepped, if_neg hused, if_neg Bool.false_ne_true,
        List.append_nil]
      exact honce
    · rw [fed_append_stepped, if_neg hused, replay, List.foldl_concat, ← replay, inv.params_eq]
      exact filterPart_filter_congr params inv.replayed

include mode in
theorem call (inv : ReadingInv params r) (c : ClockCall M) : ReadingInv params (r.call c) := by
  cases c with
  | sync x => exact inv.sync mode x
  | update => exact inv.update mode

include mode in
theorem calls (inv : ReadingInv params r) (cs : List (ClockCall M)) :
    ReadingInv params (r.calls cs) := by
  induction cs generalizing r with
  | nil => exact inv
  | cons c cs ih => exact ih (inv.call mode c)

/-! ### The next step -/

include mode in
theorem skipped_iff (inv : ReadingInv params r) :
    r.clock.update.1 = .skipped ↔ r.clock.fresh = false := by
  have hmode := inv.mode_eq mode
  rcases hf : r.clock.fresh with _ | _
  · rw [update_of_stale hmode hf]
    exact iff_of_true rfl rfl
  · rw [update_of_fresh hmode hf]
    exact iff_of_false (filter_ne_skipped _ _) nofun

include mode in
theorem used_iff (inv : ReadingInv params r) :
    r.clock.update.1 ≠ .skipped ↔ ∃ diff, Pending r.notes diff := by
  rw [ne_eq, inv.skipped_iff mode, Bool.not_eq_false]
  constructor
  · intro hf
    exact ⟨_, (inv.pending _).2 ⟨hf, rfl⟩⟩
  · rintro ⟨diff, h⟩
    exact ((inv.pending diff).1 h).1

include mode in
/-- A step with a reading pending is the filter step on its difference. -/
theorem update_of_pending (inv : ReadingInv params r) {diff : Int32} (h : Pending r.notes diff) :
    let next := filter params { r.clock.state with rawDiff := diff }
    r.clock.update = (next.1, { r.clock with state := next.2, fresh := false }) := by
  obtain ⟨hf, rfl⟩ := (inv.pending diff).1 h
  rw [update_of_fresh (inv.mode_eq mode) hf, ← inv.params_eq]

include mode in
/-- The steps after a synchronisation without a reading are all skipped. -/
theorem thinned_withoutFailed (inv : ReadingInv params r) (cs : List (ClockCall M)) :
    ClockTrace.Thinned r cs (r.withoutFailed cs) := by
  induction cs generalizing r with
  | nil => exact .nil
  | cons c cs ih =>
    have hrest := ih (inv.call mode c)
    cases c with
    | sync x => exact .keep hrest
    | update =>
      unfold ClockTrace.withoutFailed
      split
      · rename_i hfailed
        exact .leave ((inv.skipped_iff mode).2 (inv.failed hfailed)) hrest
      · exact .keep hrest

end ReadingInv

namespace ClockTrace

open ClockSync ClockNote

variable {M : Type} [MasterSession M] {r r' : ClockTrace}

theorem call_congr (hclock : r'.clock = r.clock) (hfed : fed r'.notes = fed r.notes)
    (c : ClockCall M) :
    (r'.call c).clock = (r.call c).clock ∧ fed (r'.call c).notes = fed (r.call c).notes := by
  cases c with
  | sync x =>
    unfold call
    dsimp only
    rw [hclock, fed_append_synced, fed_append_synced]
    exact ⟨rfl, hfed⟩
  | update =>
    unfold call
    dsimp only
    rw [hclock, fed_append_stepped, fed_append_stepped, hfed]
    exact ⟨rfl, rfl⟩

/-- Steps that are skipped can be left out: the clock is the same after all, and so is what the
filter was fed. -/
theorem Thinned.calls_eq {cs cs' : List (ClockCall M)} (h : Thinned r cs cs') :
    (r.calls cs').clock = (r.calls cs).clock ∧
      fed (r.calls cs').notes = fed (r.calls cs).notes := by
  -- without a skipped step the notes are others, so the second run is any that agrees so far
  suffices hall : ∀ r' : ClockTrace, r'.clock = r.clock → fed r'.notes = fed r.notes →
      (r'.calls cs').clock = (r.calls cs).clock ∧
        fed (r'.calls cs').notes = fed (r.calls cs).notes by exact hall r rfl rfl
  induction h with
  | nil => exact fun r' hclock hfed => ⟨hclock, hfed⟩
  | @keep r c _ _ _ ih =>
    intro r' hclock hfed
    obtain ⟨hclock', hfed'⟩ := call_congr hclock hfed c
    exact ih _ hclock' hfed'
  | @leave r _ _ hskipped _ ih =>
    intro r' hclock hfed
    have hkept : fed (r.notes ++ [.stepped r.clock.state.rawDiff r.clock.update.1]) =
        fed r.notes := by
      rw [fed_append_stepped, if_pos hskipped, List.append_nil]
    exact ih r' (hclock.trans (update_of_skipped hskipped).symm) (hfed.trans hkept.symm)

/-- Where the reference follows the master, a call changes nothing but the application time. -/
theorem call_of_referenceFollowsMaster (mode : r.clock.params.mode = .referenceFollowsMaster)
    (c : ClockCall M) :
    (r.call c).clock =
      { r.clock with
        state := { r.clock.state with appTime := (r.call c).clock.state.appTime } } := by
  cases c with
  | sync x =>
    unfold call ClockSync.synced ClockSync.sync ClockSync.observe
    rw [mode]
  | update =>
    unfold call ClockSync.update ClockSync.updateBy
    rw [mode]

theorem params_calls (r : ClockTrace) (cs : List (ClockCall M)) :
    (r.calls cs).clock.params = r.clock.params := by
  induction cs generalizing r with
  | nil => rfl
  | cons c cs ih =>
    refine (ih (r.call c)).trans ?_
    cases c with
    | sync x => exact r.clock.params_synced x
    | update => exact r.clock.params_update

end ClockTrace

/-! ## Every run -/

/-- What a clock that follows the reference does with its readings. All but the last two fields are
about the next call. -/
structure UsesReadings (M : Type) [MasterSession M] (params : DriftParams) (r : ClockTrace) :
    Prop where
  used : r.clock.update.1 ≠ .skipped ↔ ∃ diff, ClockNote.Pending r.notes diff
  update : ∀ diff, ClockNote.Pending r.notes diff →
    let next := ClockSync.filter params { r.clock.state with rawDiff := diff }
    r.clock.update = (next.1, { r.clock with state := next.2, fresh := false })
  skipped : r.clock.update.1 = .skipped → r.clock.update.2 = r.clock
  failed : ∀ x : Surroundings M, r.clock.readingOf x = none →
    r.clock.synced x =
      { r.clock with
        state :=
          { r.clock.state with appTime := (r.clock.sync x.hardware x.now x.master).1.appTime }
        fresh := false }
  /-- No reading was used twice, nor before one that was used earlier. -/
  once : (ClockNote.fed r.notes).Sublist (ClockNote.offered 0 r.notes)
  /-- The filter has become what the differences fed to it make of it. -/
  replayed : r.clock.state.filterPart =
    (ClockSync.replay params (ClockNote.fed r.notes)).filterPart

theorem ReadingInv.usesReadings (M : Type) [MasterSession M] {params : DriftParams} {r : ClockTrace}
    (inv : ReadingInv params r) (mode : params.mode = .masterFollowsReference) :
    UsesReadings M params r where
  used := inv.used_iff mode
  update _ := inv.update_of_pending mode
  skipped := ClockSync.update_of_skipped
  failed x hr := by
    rw [ClockSync.synced_of_failure (inv.mode_eq mode) hr, ClockSync.fst_sync]
  once := (List.sublist_append_left _ _).trans inv.once
  replayed := inv.replayed

/-- **Every reading is used at most once.** After any synchronisations and filter steps, in any
order, of a clock that follows the reference: a step uses the reading that is pending, and is
skipped where there is none, as all steps after a failed reading are. To leave such steps out makes
no difference, and two runs that feed the filter the same differences bring it to the same state.
Where the reference follows the master, there is nothing to use. -/
theorem calls_useReadings (M : Type) [MasterSession M] (params : DriftParams) :
    (params.mode = .masterFollowsReference →
      (∀ cs : List (ClockCall M), UsesReadings M params ((ClockTrace.start params).calls cs) ∧
        ClockTrace.Thinned (.start params) cs (ClockTrace.withoutFailed (.start params) cs)) ∧
      (∀ cs cs' : List (ClockCall M), ClockTrace.Thinned (.start params) cs cs' →
        ((ClockTrace.start params).calls cs').clock = ((ClockTrace.start params).calls cs).clock ∧
          ClockNote.fed ((ClockTrace.start params).calls cs').notes =
            ClockNote.fed ((ClockTrace.start params).calls cs).notes) ∧
      ∀ cs cs' : List (ClockCall M),
        ClockNote.fed ((ClockTrace.start params).calls cs').notes =
            ClockNote.fed ((ClockTrace.start params).calls cs).notes →
          ((ClockTrace.start params).calls cs').clock.state.filterPart =
            ((ClockTrace.start params).calls cs).clock.state.filterPart) ∧
    (params.mode = .referenceFollowsMaster → ∀ (cs : List (ClockCall M)) (c : ClockCall M),
      let r := (ClockTrace.start params).calls cs
      (r.call c).clock =
        { r.clock with
          state := { r.clock.state with appTime := (r.call c).clock.state.appTime } }) := by
  constructor
  · intro mode
    have inv (cs : List (ClockCall M)) : ReadingInv params ((ClockTrace.start params).calls cs) :=
      ReadingInv.start.calls mode cs
    refine ⟨fun cs => ⟨(inv cs).usesReadings M mode,
      ReadingInv.start.thinned_withoutFailed mode cs⟩, fun cs cs' h => h.calls_eq, ?_⟩
    intro cs cs' hfed
    rw [(inv cs').replayed, (inv cs).replayed, hfed]
  · intro mode cs c
    exact ClockTrace.call_of_referenceFollowsMaster (by rw [ClockTrace.params_calls]; exact mode) c

/-- Of the second cycle, which has no reading, both steps are left out. -/
theorem calls_useReadings_at_rollover :
    let params := CycleConfig.pairwise.driftParams
    let cs := ClockCall.twice rollover
    let cs' := ClockTrace.withoutFailed (.start params) cs
    let still := { params with mode := .referenceFollowsMaster }
    params.mode = .masterFollowsReference ∧
      UsesReadings ScriptedMaster params ((ClockTrace.start params).calls cs) ∧
      ClockTrace.Thinned (.start params) cs cs' ∧ cs.length = 15 ∧ cs'.length = 13 ∧
      ((ClockTrace.start params).calls cs').clock = ((ClockTrace.start params).calls cs).clock ∧
      ((ClockTrace.start params).calls cs').clock.state.filterPart =
        ((ClockTrace.start params).calls cs).clock.state.filterPart ∧
      ClockNote.fed ((ClockTrace.start params).calls cs).notes = [6, 100, 104, 103] ∧
      still.mode = .referenceFollowsMaster ∧
      ∀ c : ClockCall ScriptedMaster,
        let r := (ClockTrace.start still).calls cs
        (r.call c).clock =
          { r.clock with
            state := { r.clock.state with appTime := (r.call c).clock.state.appTime } } := by
  intro params cs cs' still
  have hfollows := (calls_useReadings ScriptedMaster params).1 rfl
  obtain ⟨huses, hthin⟩ := hfollows.1 cs
  have hsame := hfollows.2.1 cs cs' hthin
  exact ⟨rfl, huses, hthin, rfl, by decide +kernel, hsame.1, hfollows.2.2 cs cs' hsame.2,
    by decide +kernel, rfl, (calls_useReadings ScriptedMaster still).2 rfl cs⟩

end CyclicBus

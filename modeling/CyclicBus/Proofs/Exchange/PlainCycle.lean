import CyclicBus.Proofs.Clock.FilterInvariant
import CyclicBus.Proofs.Exchange.OutputFrame

/-!
# A cycle without its notes

`plain` is a cycle that takes no notes: it calls the session, counts down to the next poll, brings
the outputs up to date, synchronises the clock and steps its filter. `noted_execute`: a cycle is its
plain form and notes, and of the notes only a cut adjustment is reported as one.
-/

namespace CyclicBus

namespace Exchange

variable {M : Type} [MasterSession M] (x : Exchange M) (cycle : UInt64) (r : Readings)

/-! ## The plain cycle -/

/-- A look at the health. -/
def looked : Exchange M :=
  let x := x.call fun m => (MasterSession.domainHealth m).2
  if x.pollIn = 0 then
    countDown { x.call fun m => (MasterSession.masterHealth m).2 with pollIn := x.pollInterval }
  else x.countDown

/-- The part of a plain cycle before its synchronisation. -/
def prepared : Exchange M :=
  ((((x.call MasterSession.receive).call MasterSession.processDomain).looked).applyOutputs r).call
    MasterSession.queueDomain

/-- A synchronisation of the clocks. -/
def synced : Exchange M :=
  { x with
    clock := (x.clock.sync r.syncClock r.referenceClock x.master).2.1
    master := (x.clock.sync r.syncClock r.referenceClock x.master).2.2 }

/-- A filter step. -/
def stepped (x : Exchange M) : Exchange M := { x with clock := x.clock.update.2 }

/-- The part of a plain cycle before the filter steps. -/
def sent : Exchange M := ((x.prepared r).synced r).call (MasterSession.send r.sendClock)

/-- A cycle that takes no notes. -/
def plain : Exchange M := (x.sent r).stepped

/-! ## Parameters, count-down and trace -/

theorem clock_looked : x.looked.clock = x.clock := by
  unfold looked
  dsimp only
  split <;> rfl

theorem clock_prepared : (x.prepared r).clock = x.clock :=
  clock_looked ((x.call MasterSession.receive).call MasterSession.processDomain)

/-- What the synchronisation of a cycle finds. -/
def found : Surroundings M := ⟨r.syncClock, r.referenceClock, (x.prepared r).master⟩

theorem clock_sent : (x.sent r).clock = x.clock.synced (x.found r) := by
  rw [← clock_prepared x r]
  rfl

theorem params_plain : (x.plain r).clock.params = x.clock.params := by
  show (x.sent r).clock.update.2.params = _
  rw [ClockSync.params_update, ← clock_prepared x r]
  exact ClockSync.params_sync _ _ _ _

theorem pollInterval_looked : x.looked.pollInterval = x.pollInterval := by
  unfold looked
  dsimp only
  split <;> rfl

/-- The count-down starts again where a poll is due. -/
theorem pollIn_looked :
    x.looked.pollIn =
      .ofNat ((if x.pollIn = 0 then x.pollInterval else x.pollIn).toNat - 1) := by
  unfold looked
  dsimp only
  show (if x.pollIn = 0 then _ else _ : Exchange M).pollIn = _
  split <;> rfl

theorem pollInterval_plain : (x.plain r).pollInterval = x.pollInterval :=
  pollInterval_looked ((x.call MasterSession.receive).call MasterSession.processDomain)

theorem pollIn_plain :
    (x.plain r).pollIn = .ofNat ((if x.pollIn = 0 then x.pollInterval else x.pollIn).toNat - 1) :=
  pollIn_looked ((x.call MasterSession.receive).call MasterSession.processDomain)

theorem trace_looked : x.looked.shared.trace = x.shared.trace := by
  unfold looked
  dsimp only
  split <;> rfl

theorem trace_plain : (x.plain r).shared.trace = x.shared.trace :=
  trace_looked ((x.call MasterSession.receive).call MasterSession.processDomain)

/-! ## The notes of a cycle -/

variable {x} in
theorem Noted.applyOutputs {cut : List CycleEvent} {y : Exchange M} (h : Noted cut x y) :
    Noted cut (x.applyOutputs r) (y.applyOutputs r) :=
  h.change
    (g := fun c =>
      let held := if r.outputsFree then c.image.refresh c.held else c.held
      { c with
        held
        master := MasterSession.setDomain
          (writeOutputs c.topology held.devices (MasterSession.domain c.master)) c.master })
    (fun _ => rfl) fun _ => rfl

variable {x} in
theorem Noted.synced {cut : List CycleEvent} {y : Exchange M} (h : Noted cut x y) :
    Noted cut (x.synced r) (y.synced r) :=
  h.change (f := fun x => x.synced r)
    (g := fun c =>
      { c with
        clock := (c.clock.sync r.syncClock r.referenceClock c.master).2.1
        master := (c.clock.sync r.syncClock r.referenceClock c.master).2.2 })
    (fun _ => rfl) fun _ => rfl

omit [MasterSession M] in
variable {x} in
theorem Noted.countDown {cut : List CycleEvent} {y : Exchange M} (h : Noted cut x y) :
    Noted cut x.countDown y.countDown :=
  h.change (g := fun c => { c with pollIn := .ofNat (c.pollIn.toNat - 1) }) (fun _ => rfl)
    fun _ => rfl

theorem noted_checkHealth : Noted [] x.looked (x.checkHealth cycle) := by
  have hdomain := noted_noteDomain (x.call fun m => (MasterSession.domainHealth m).2) cycle
    (MasterSession.domainHealth x.master).1
  unfold looked checkHealth
  dsimp only
  show Noted [] _ (if (noteDomain cycle (MasterSession.domainHealth x.master).1
    (x.call fun m => (MasterSession.domainHealth m).2)).pollIn = 0 then _ else _)
  rw [hdomain.pollIn]
  split
  · have hpoll := hdomain.change
      (f := fun x =>
        { x.call fun m => (MasterSession.masterHealth m).2 with pollIn := x.pollInterval })
      (g := fun c =>
        { c with master := (MasterSession.masterHealth c.master).2, pollIn := c.pollInterval })
      (fun _ => rfl) fun _ => rfl
    exact (hpoll.trans (noted_noteMaster _ cycle _)).countDown
  · exact hdomain.countDown

theorem noted_prepared :
    Noted [] (x.prepared r)
      (((x.beforeOutputs cycle r).applyOutputs r).call MasterSession.queueDomain) :=
  (((noted_checkHealth _ cycle).trans (noted_publish _ cycle r)).applyOutputs r).call _

theorem noted_syncClocks : Noted [] (x.synced r) (x.syncClocks cycle r) :=
  noted_noteSync (x.synced r) cycle _

omit [MasterSession M] in
theorem noted_stepDrift :
    Noted (x.clock.update.1.saturations cycle x.clock.update.2.params.clamp) x.stepped
      (x.stepDrift cycle) :=
  noted_noteDrift x.stepped cycle _

/-- **A cycle is a plain cycle and notes.** Of the notes only a cut adjustment is reported as one. -/
theorem noted_execute :
    Noted ((x.sent r).clock.update.1.saturations cycle (x.plain r).clock.params.clamp)
      (x.plain r) (x.execute cycle r) := by
  -- what comes after a note only looks at the core, so the note may as well come after it
  have hprepared := noted_prepared x cycle r
  have hsent := ((hprepared.synced r).trans (noted_syncClocks _ cycle r)).call
    (MasterSession.send r.sendClock)
  have hplain := hsent.change (f := stepped)
    (g := fun c => { c with clock := c.clock.update.2 }) (fun _ => rfl) fun _ => rfl
  have hdrift := noted_stepDrift
    (((((x.beforeOutputs cycle r).applyOutputs r).call MasterSession.queueDomain).syncClocks cycle
      r).call (MasterSession.send r.sendClock)) cycle
  rw [hsent.clock] at hdrift
  have hcycle := (hplain.trans hdrift).trans (noted_count _ .countCycle)
  rw [List.append_nil, List.nil_append, List.nil_append] at hcycle
  exact hcycle

/-! ## Polls -/

omit [MasterSession M] in
/-- A pipeline that has run `n` cycles. It polls in every cycle whose number is a multiple of the
interval; a zero interval counts as one. -/
structure Polling (interval : UInt32) (n : Nat) (x : Exchange M) : Prop where
  every : x.pollInterval = interval
  soon : x.pollIn.toNat < max interval.toNat 1
  due : max interval.toNat 1 ∣ n + x.pollIn.toNat

namespace Polling

variable {interval : UInt32} {n : Nat} {x}

omit [MasterSession M] in
theorem start (master : M) (shared : Shared) (config : CycleConfig) :
    Polling config.pollInterval 0 (Exchange.start master shared config) :=
  ⟨rfl, Nat.lt_of_lt_of_le Nat.one_pos (Nat.le_max_right _ _), Nat.dvd_zero _⟩

omit [MasterSession M] in
theorem pollIn_eq_zero_iff (h : Polling interval n x) :
    x.pollIn = 0 ↔ n % max interval.toNat 1 = 0 := by
  have hsoon := h.soon
  rw [← UInt32.toNat_inj, ← Nat.dvd_iff_mod_eq_zero]
  constructor
  · intro hzero
    have hdue := h.due
    rwa [hzero] at hdue
  · intro hdvd
    exact Nat.eq_zero_of_dvd_of_lt ((Nat.dvd_add_right hdvd).1 h.due) hsoon

theorem execute (h : Polling interval n x) (cycle : UInt64) (r : Readings) :
    Polling interval (n + 1) (x.execute cycle r) := by
  have hnoted := noted_execute x cycle r
  have hsoon := h.soon
  have hdue := h.due
  have hin : (x.execute cycle r).pollIn.toNat =
      (if x.pollIn = 0 then interval else x.pollIn).toNat - 1 := by
    rw [hnoted.pollIn, pollIn_plain, h.every, UInt32.toNat_ofNat']
    have := (if x.pollIn = 0 then interval else x.pollIn).toNat_lt
    omega
  refine ⟨?_, ?_, ?_⟩
  · rw [hnoted.pollInterval, pollInterval_plain]
    exact h.every
  · rw [hin]
    split <;> omega
  · rw [hin]
    by_cases hzero : x.pollIn = 0
    · -- a poll was due, so the number of the cycle is a multiple of the interval
      have hdvd := Nat.dvd_of_mod_eq_zero (h.pollIn_eq_zero_iff.1 hzero)
      have hsum : n + 1 + (interval.toNat - 1) = n + max interval.toNat 1 := by omega
      rw [if_pos hzero, hsum]
      exact Nat.dvd_add hdvd (Nat.dvd_refl _)
    · have hpos : 0 < x.pollIn.toNat := by
        rw [Nat.pos_iff_ne_zero]
        exact fun h => hzero (UInt32.toNat_inj.1 h)
      have hsum : n + 1 + (x.pollIn.toNat - 1) = n + x.pollIn.toNat := by omega
      rwa [if_neg hzero, hsum]

end Polling

end Exchange

end CyclicBus

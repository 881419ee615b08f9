import CyclicBus.Config.Document
import CyclicBus.Proofs.Bus.DomainAccess
import CyclicBus.Proofs.Config.Validated

/-!
# The first violation

What a check reports. A `Rule` is a condition with the violation that is reported where it does not
hold; a check `Enforces` a list of rules if it stops at the first that is broken. Each check of a
configuration enforces its rules, and checks in a row enforce theirs in a row (`Enforces.bind`), so
that a whole document is checked against one list of rules. `validate_firstBroken`: a cycle section
and a document are accepted exactly if no rule is broken, and else the first broken one is reported.
-/

namespace CyclicBus

/-! ## Rules -/

/-- A condition, and what is reported where it does not hold. -/
structure Rule where
  holds : Prop
  violation : Violation

/-- What the first broken one of some rules reports. -/
def FirstBroken (rules : List Rule) (v : Violation) : Prop :=
  ∃ before r after, rules = before ++ r :: after ∧ (∀ b ∈ before, b.holds) ∧ ¬ r.holds ∧
    v = r.violation

/-- The rules of a list, position by position; those of a position may speak of what stands before
it. -/
def Rule.along {α : Type} (rulesAt : List α → α → List Rule) :
    (before : List α) → List α → List Rule
  | _, [] => []
  | before, a :: rest => rulesAt before a ++ along rulesAt (before ++ [a]) rest

/-- A check goes through some rules in order and stops at the first that is broken. -/
def Enforces {α : Type} (x : Except Violation α) : List Rule → Prop
  | [] => ∃ a, x = .ok a
  | r :: rules => (r.holds → Enforces x rules) ∧ (¬ r.holds → x = .error r.violation)

namespace Enforces

variable {α β : Type} {x : Except Violation α} {rules : List Rule}

/-- A check passes if all its rules hold. -/
theorem exists_ok_iff (h : Enforces x rules) : (∃ a, x = .ok a) ↔ ∀ r ∈ rules, r.holds := by
  induction rules with
  | nil => exact ⟨fun _ => nofun, fun _ => h⟩
  | cons r rules ih =>
    rw [List.forall_mem_cons]
    by_cases hr : r.holds
    · rw [ih (h.1 hr)]
      exact (and_iff_right hr).symm
    · rw [h.2 hr]
      exact ⟨nofun, fun hall => absurd hall.1 hr⟩

theorem eq_ok_iff {x : Except Violation Unit} (h : Enforces x rules) :
    x = .ok () ↔ ∀ r ∈ rules, r.holds :=
  ⟨fun hx => h.exists_ok_iff.1 ⟨(), hx⟩, fun hall => (h.exists_ok_iff.2 hall).elim fun _ => id⟩

theorem of_append {before rest : List Rule} (h : Enforces x (before ++ rest))
    (hbefore : ∀ b ∈ before, b.holds) : Enforces x rest := by
  induction before with
  | nil => exact h
  | cons b before ih =>
    rw [List.forall_mem_cons] at hbefore
    exact ih (h.1 hbefore.1) hbefore.2

/-- A check that fails reports the first broken rule. -/
theorem eq_error_iff (h : Enforces x rules) (v : Violation) :
    x = .error v ↔ FirstBroken rules v := by
  constructor
  · intro hx
    induction rules with
    | nil =>
      obtain ⟨a, ha⟩ := h
      rw [ha] at hx
      cases hx
    | cons r rules ih =>
      by_cases hr : r.holds
      · obtain ⟨before, broken, after, rfl, hbefore, hbroken, hv⟩ := ih (h.1 hr)
        exact ⟨r :: before, broken, after, rfl, List.forall_mem_cons.2 ⟨hr, hbefore⟩, hbroken, hv⟩
      · rw [h.2 hr] at hx
        exact ⟨[], r, rules, rfl, nofun, hr, (Except.error.inj hx).symm⟩
  · rintro ⟨before, r, after, rfl, hbefore, hr, rfl⟩
    exact (h.of_append hbefore).2 hr

/-- Checks in a row enforce their rules in a row. -/
theorem bind {k : α → Except Violation β} {more : List Rule} (h : Enforces x rules)
    (hk : ∀ a, x = .ok a → Enforces (k a) more) : Enforces (x >>= k) (rules ++ more) := by
  induction rules with
  | nil =>
    obtain ⟨a, ha⟩ := h
    subst ha
    exact hk a rfl
  | cons r rules ih =>
    refine ⟨fun hr => ih (h.1 hr), fun hr => ?_⟩
    rw [h.2 hr]
    rfl

/-- A guard enforces one more rule. -/
theorem guard {p : Prop} [Decidable p] {r : Rule} (hp : p ↔ ¬ r.holds)
    (h : r.holds → Enforces x rules) :
    Enforces (if p then .error r.violation else x) (r :: rules) := by
  constructor
  · intro hr
    rw [if_neg (not_not_intro hr ∘ hp.1)]
    exact h hr
  · intro hr
    exact if_pos (hp.2 hr)

/-- Two checks that fail alike enforce the same rules. -/
theorem of_same {y : Except Violation β} (h : Enforces x rules)
    (hok : ∀ a, x = .ok a → ∃ b, y = .ok b) (herror : ∀ v, x = .error v → y = .error v) :
    Enforces y rules := by
  induction rules with
  | nil =>
    obtain ⟨a, ha⟩ := h
    exact hok a ha
  | cons r rules ih => exact ⟨fun hr => ih (h.1 hr), fun hr => herror _ (h.2 hr)⟩

end Enforces

/-! ## The cycle section -/

namespace Policy

/-- A priority has its bounds; a budget is positive and nested in its deadline and its period. -/
def rules : Policy → List Rule
  | fixedPriority priority =>
    [⟨1 ≤ priority.toNat ∧ priority.toNat ≤ 99,
      .numberOutOfRange "policy.priority" priority.toNat 1 99⟩]
  | deadline runtime limit period =>
    [⟨0 < runtime.toNat, .numberOutOfRange "policy.runtime_ns" 0 1 limit.toNat⟩,
      ⟨runtime.toNat ≤ limit.toNat ∧ limit.toNat ≤ period.toNat, .constraint
        ("deadline budget must satisfy 0 < runtime <= deadline <= period, " ++
          s!"got {runtime}/{limit}/{period}")⟩]
  | inherit => []

theorem enforces_validate (p : Policy) : Enforces p.validate p.rules := by
  cases p with
  | fixedPriority priority =>
    have hbounds : leastPriority ≤ priority ∧ priority ≤ greatestPriority ↔
        1 ≤ priority.toNat ∧ priority.toNat ≤ 99 := by
      rw [UInt8.le_iff_toNat_le, UInt8.le_iff_toNat_le]
      rfl
    refine ⟨fun hr => ⟨(), if_pos (hbounds.2 hr)⟩, fun hr => if_neg (hr ∘ hbounds.1)⟩
  | deadline runtime limit period =>
    have hruntime : runtime = 0 ↔ ¬ 0 < runtime.toNat := by
      rw [Nat.pos_iff_ne_zero, not_not, ← UInt64.toNat_zero, UInt64.toNat_inj]
    have hnested : runtime ≤ limit ∧ limit ≤ period ↔
        runtime.toNat ≤ limit.toNat ∧ limit.toNat ≤ period.toNat := by
      rw [UInt64.le_iff_toNat_le, UInt64.le_iff_toNat_le]
    refine Enforces.guard hruntime fun _ => ?_
    exact ⟨fun hr => ⟨(), if_pos (hnested.2 hr)⟩, fun hr => if_neg (hr ∘ hnested.1)⟩
  | inherit => exact ⟨(), rfl⟩

end Policy

namespace ThreadSetup

/-- A processor has its bound, and none stands before it. -/
def processorRules (before : List UInt64) (p : UInt64) : List Rule :=
  [⟨p.toNat ≤ 1023, .numberOutOfRange "cpu_affinity" p.toNat 0 1023⟩,
    ⟨p ∉ before, .notUnique "cpu_affinity" (toString p)⟩]

theorem enforces_checkProcessors {seen before : List UInt64} (hseen : ∀ p, p ∈ seen ↔ p ∈ before)
    (ps : List UInt64) :
    Enforces (checkProcessors seen ps) (Rule.along processorRules before ps) := by
  induction ps generalizing seen before with
  | nil => exact ⟨(), rfl⟩
  | cons p rest ih =>
    have hbound : greatestProcessor < p ↔ ¬ p.toNat ≤ 1023 := by
      rw [UInt64.lt_iff_toNat_lt, Nat.not_le]
      rfl
    unfold checkProcessors
    refine Enforces.guard hbound fun _ => Enforces.guard ((hseen p).trans not_not.symm) fun _ => ?_
    refine ih fun q => ?_
    rw [List.mem_cons, List.mem_append, List.mem_singleton, hseen, or_comm]

/-- The policy, then the processors position by position. -/
def rules (s : ThreadSetup) : List Rule :=
  s.policy.rules ++ Rule.along processorRules [] s.processors

theorem enforces_validate (s : ThreadSetup) : Enforces s.validate s.rules :=
  s.policy.enforces_validate.bind fun _ _ => enforces_checkProcessors (fun _ => Iff.rfl) _

theorem validate_eq_ok_iff (s : ThreadSetup) : s.validate = .ok () ↔
    s.policy.Valid ∧ (∀ p ∈ s.processors, p.toNat ≤ 1023) ∧ s.processors.Nodup := by
  unfold validate
  rw [seq_eq_ok_iff, Policy.validate_eq_ok_iff, checkProcessors_eq_ok_iff]
  refine and_congr_right fun _ => and_congr_right fun _ => and_iff_left fun _ _ => ?_
  exact List.not_mem_nil

end ThreadSetup

namespace CycleConfig

/-- What is asked of a cycle section by itself. -/
structure Admissible (c : CycleConfig) : Prop where
  period : 1 ≤ c.period.toNat ∧ c.period.toNat ≤ 10 ^ 9
  window : 1 ≤ c.filterWindow.toNat
  polls : ∀ n, c.healthInterval = some n → 0 < n.toNat
  duration : ∀ n, c.runDuration = some n → 0 < n.toNat
  policy : c.policy.Valid
  processors : ∀ p ∈ c.processors, p.toNat ≤ 1023
  distinct : c.processors.Nodup

/-- Period, window, polls, duration, then the thread setup. -/
def rules (c : CycleConfig) : List Rule :=
  [⟨1 ≤ c.period.toNat ∧ c.period.toNat ≤ 10 ^ 9,
      .numberOutOfRange "period_ns" c.period.toNat 1 (10 ^ 9)⟩,
    ⟨1 ≤ c.filterWindow.toNat, .numberOutOfRange "filter_window" 0 1 (2 ^ 32 - 1)⟩,
    ⟨∀ n, c.healthInterval = some n → 0 < n.toNat,
      .numberOutOfRange "master_health_interval" 0 1 (2 ^ 32 - 1)⟩,
    ⟨∀ n, c.runDuration = some n → 0 < n.toNat,
      .numberOutOfRange "run_duration_ms" 0 1 (2 ^ 64 - 1)⟩] ++
  c.threadSetup.rules

theorem enforces_checkPositive {field : String} {greatest : Nat} {n : Option Nat} {p : Prop}
    (hp : p ↔ n ≠ some 0) :
    Enforces (checkPositive field greatest n) [⟨p, .numberOutOfRange field 0 1 greatest⟩] := by
  refine ⟨fun h => ⟨(), (checkPositive_eq_ok_iff _ _ _).2 (hp.1 h)⟩, fun h => ?_⟩
  have hzero : n = some 0 := not_not.1 (h ∘ hp.2)
  rw [hzero]
  rfl

theorem forall_pos_iff {α : Type} (n : Option α) (toNat : α → Nat) :
    (∀ a, n = some a → 0 < toNat a) ↔ n.map toNat ≠ some 0 := by
  cases n with
  | none => simp
  | some a => simp [Nat.pos_iff_ne_zero]

theorem period_iff (c : CycleConfig) : c.period < 1 ∨ greatestPeriod < c.period ↔
    ¬ (1 ≤ c.period.toNat ∧ c.period.toNat ≤ 10 ^ 9) := by
  rw [UInt64.lt_iff_toNat_lt, UInt64.lt_iff_toNat_lt, not_and_or, Nat.not_le, Nat.not_le]
  rfl

theorem enforces_validate (c : CycleConfig) : Enforces c.validate c.rules := by
  have hwindow : 1 ≤ c.filterWindow.toNat ↔ some c.filterWindow.toNat ≠ some 0 := by
    simp [Nat.one_le_iff_ne_zero]
  refine Enforces.guard c.period_iff fun _ => ?_
  refine (enforces_checkPositive hwindow).bind fun _ _ => ?_
  refine (enforces_checkPositive (forall_pos_iff _ UInt32.toNat)).bind fun _ _ => ?_
  refine (enforces_checkPositive (forall_pos_iff _ UInt64.toNat)).bind fun _ _ => ?_
  exact c.threadSetup.enforces_validate

theorem validate_eq_ok_iff_admissible (c : CycleConfig) :
    c.validate = .ok () ↔ c.Admissible := by
  have hsetup : (∀ r ∈ c.threadSetup.rules, r.holds) ↔
      c.policy.Valid ∧ (∀ p ∈ c.processors, p.toNat ≤ 1023) ∧ c.processors.Nodup := by
    rw [← c.threadSetup.enforces_validate.eq_ok_iff]
    exact c.threadSetup.validate_eq_ok_iff
  rw [c.enforces_validate.eq_ok_iff, rules, List.forall_mem_append, hsetup]
  simp only [List.forall_mem_cons]
  constructor
  · rintro ⟨⟨hperiod, hwindow, hpolls, hduration, -⟩, hpolicy, hbound, hdistinct⟩
    exact ⟨hperiod, hwindow, hpolls, hduration, hpolicy, hbound, hdistinct⟩
  · intro h
    exact ⟨⟨h.period, h.window, h.polls, h.duration, nofun⟩, h.policy, h.processors, h.distinct⟩

/-- The reference device is one of the table. -/
def referenceRule (c : CycleConfig) (devices : Nat) : Rule :=
  ⟨c.referenceDevice.toNat < devices,
    .numberOutOfRange "reference_device" c.referenceDevice.toNat 0 (devices - 1)⟩

theorem enforces_validateWith (c : CycleConfig) (t : Topology) :
    Enforces (c.validateWith t) (c.rules ++ [c.referenceRule t.devices.length]) :=
  c.enforces_validate.bind fun _ _ => Enforces.guard Nat.not_lt.symm fun _ => ⟨(), rfl⟩

end CycleConfig

/-! ## The device table -/

namespace Device

/-- A range is not empty and ends at a word. -/
def rangeRules (d : Device) (direction : Direction) : List Rule :=
  [⟨0 < (d.range direction).len.toNat, .constraint
      ("device '" ++ d.name ++ "' " ++ direction.name ++ " range must not be empty")⟩,
    ⟨(d.range direction).offset.toNat + (d.range direction).len.toNat < UInt64.size, .constraint
      ("device '" ++ d.name ++ "' " ++ direction.name ++ " range overflows")⟩]

/-- A device has a name and differs from those before it; then its ranges, input first. -/
def rules (before : List Device) (d : Device) : List Rule :=
  [⟨∃ c ∈ d.name.toList, Text.isSpace c = false, .required "devices[].name"⟩,
    ⟨∀ e ∈ before, e.name ≠ d.name, .notUnique "devices[].name" d.name⟩,
    ⟨∀ e ∈ before, e.place ≠ d.place,
      .notUnique "devices[].position" s!"{d.stationAlias}:{d.position}"⟩] ++
  (d.rangeRules .input ++ d.rangeRules .output)

/-- The ranges of a device end in the first `size` bytes, input first. -/
def domainRules (size : Nat) (before : List Device) (d : Device) : List Rule :=
  [⟨d.input.Within size, .rangeOutOfDomain before.length .input d.input.offset.toNat
      d.input.len.toNat size⟩,
    ⟨d.output.Within size, .rangeOutOfDomain before.length .output d.output.offset.toNat
      d.output.len.toNat size⟩]

theorem enforces_checkRange (d : Device) (direction : Direction) :
    Enforces (d.checkRange direction) (d.rangeRules direction) :=
  Enforces.guard (d.range direction).len_eq_zero_iff fun _ =>
    Enforces.guard (d.range direction).isNone_stop?_iff fun _ => ⟨(), rfl⟩

theorem enforces_check (before : List Device) (d : Device) :
    Enforces (d.check before) (d.rules before) :=
  Enforces.guard d.isBlank_name_iff fun _ => Enforces.guard (any_name_iff before d) fun _ =>
    Enforces.guard (any_place_iff before d) fun _ =>
      (d.enforces_checkRange .input).bind fun _ _ => d.enforces_checkRange .output

end Device

namespace Topology

/-- There is a device, then the devices position by position. -/
def rules (devices : List Device) : List Rule :=
  ⟨devices ≠ [], .required "devices"⟩ :: Rule.along (fun before d => d.rules before) [] devices

theorem enforces_checkFrom (before devices : List Device) :
    Enforces (checkFrom before devices)
      (Rule.along (fun before d => d.rules before) before devices) := by
  induction devices generalizing before with
  | nil => exact ⟨(), rfl⟩
  | cons d rest ih => exact (d.enforces_check before).bind fun _ _ => ih (before ++ [d])

theorem enforces_ofDevices (devices : List Device) :
    Enforces (ofDevices devices) (rules devices) := by
  have hempty : devices.isEmpty = true ↔ ¬ devices ≠ [] := by
    rw [not_not, List.isEmpty_iff]
  have hcheck : Enforces (check devices) (rules devices) :=
    Enforces.guard hempty fun _ => enforces_checkFrom [] devices
  refine hcheck.of_same (fun _ hok => ?_) fun v herror => ?_
  · exact (exists_ofDevices_iff devices).2 ((check_eq_ok_iff devices).1 hok)
  · unfold ofDevices
    split
    · rename_i hok
      rw [hok] at herror
      cases herror
    · rename_i w hw
      rw [hw] at herror
      cases herror
      rfl

theorem enforces_checkDomainFrom {devices : List Device} (hsound : ∀ d ∈ devices, d.Sound)
    (size : Nat) (before : List Device) :
    Enforces (checkDomainFrom size before.length devices)
      (Rule.along (Device.domainRules size) before devices) := by
  induction devices generalizing before with
  | nil => exact ⟨(), rfl⟩
  | cons d rest ih =>
    rw [List.forall_mem_cons] at hsound
    have hmisfit (direction : Direction) : (!(d.range direction).fits size) = true ↔
        ¬ (d.range direction).Within size := by
      rw [← hsound.1.fits_iff_within, Bool.not_eq_true']
      exact Bool.not_eq_true _ ▸ Iff.rfl
    have hrest := ih hsound.2 (before ++ [d])
    rw [List.length_append, List.length_singleton] at hrest
    exact Enforces.guard (hmisfit .input) fun _ => Enforces.guard (hmisfit .output) fun _ => hrest

end Topology

/-! ## The document -/

namespace Document

/-- The declared domain holds every range. -/
def domainRules (d : Document) : List Rule :=
  match d.domainSize with
  | some size => Rule.along (Device.domainRules size.toNat) [] d.devices
  | none => []

/-- The sink is one that there is. -/
def sinkRule (d : Document) : Rule :=
  ⟨d.sinkName = "log" ∨ d.sinkName = "null",
    .invalidEnum "observability.sink" d.sinkName "log, null"⟩

/-- Device list, cycle section, reference device, declared domain size, sink. -/
def rules (d : Document) : List Rule :=
  Topology.rules d.devices ++
    ((d.cycle.rules ++ [d.cycle.referenceRule d.devices.length]) ++ (d.domainRules ++ [d.sinkRule]))

theorem enforces_sink (d : Document) : Enforces d.sink [d.sinkRule] := by
  unfold sink Sink.ofName
  by_cases hlog : d.sinkName = "log"
  · rw [if_pos hlog]
    exact ⟨fun _ => ⟨_, rfl⟩, fun h => absurd (Or.inl hlog) h⟩
  · rw [if_neg hlog]
    by_cases hnull : d.sinkName = "null"
    · rw [if_pos hnull]
      exact ⟨fun _ => ⟨_, rfl⟩, fun h => absurd (Or.inr hnull) h⟩
    · rw [if_neg hnull]
      exact ⟨fun h => absurd h (not_or.2 ⟨hlog, hnull⟩), fun _ => rfl⟩

theorem enforces_checkSize (d : Document) {t : Topology} (ht : t.devices = d.devices) :
    Enforces (d.checkSize t) d.domainRules := by
  unfold checkSize domainRules
  cases d.domainSize with
  | none => exact ⟨(), rfl⟩
  | some size =>
    have hcheck := Topology.enforces_checkDomainFrom t.acceptable.sound size.toNat []
    rw [ht] at hcheck
    unfold Topology.checkDomain
    rw [ht]
    exact hcheck

theorem enforces_validate (d : Document) : Enforces d.validate d.rules := by
  rw [validate_eq]
  refine (Topology.enforces_ofDevices d.devices).bind fun t ht => ?_
  have hdevices : t.devices = d.devices := (Topology.ofDevices_eq_ok_iff _ _).1 ht
  have hcycle := d.cycle.enforces_validateWith t
  rw [hdevices] at hcycle
  refine hcycle.bind fun _ _ => (d.enforces_checkSize hdevices).bind fun _ _ => ?_
  exact d.enforces_sink.bind fun _ _ => ⟨t, rfl⟩

end Document

/-- **The first violation is reported**, and nothing else is refused: a cycle section passes exactly
if it is admissible, a document exactly if it breaks no rule, and then with the topology of its
devices. -/
theorem validate_firstBroken :
    (∀ c : CycleConfig, (c.validate = .ok () ↔ c.Admissible) ∧
      ∀ v, c.validate = .error v ↔ FirstBroken c.rules v) ∧
    ∀ d : Document, (∀ t, d.validate = .ok t ↔ t.devices = d.devices ∧ ∀ r ∈ d.rules, r.holds) ∧
      ∀ v, d.validate = .error v ↔ FirstBroken d.rules v := by
  refine ⟨fun c => ⟨c.validate_eq_ok_iff_admissible, c.enforces_validate.eq_error_iff⟩,
    fun d => ⟨fun t => ?_, d.enforces_validate.eq_error_iff⟩⟩
  constructor
  · intro h
    exact ⟨((d.validate_eq_ok_iff t).1 h).1, d.enforces_validate.exists_ok_iff.1 ⟨t, h⟩⟩
  · rintro ⟨hdevices, hrules⟩
    obtain ⟨u, h⟩ := d.enforces_validate.exists_ok_iff.2 hrules
    have hu : u.devices = d.devices := ((d.validate_eq_ok_iff u).1 h).1
    have hsame := (Topology.ofDevices_eq_ok_iff _ u).2 (hu.trans hdevices.symm)
    rw [h, ← hsame, (Topology.ofDevices_eq_ok_iff _ t).2 rfl]

end CyclicBus

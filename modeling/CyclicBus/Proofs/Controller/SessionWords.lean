import CyclicBus.Fault.Engine
import CyclicBus.Proofs.Exchange.CycleWords
import Mathlib.Data.List.Forall2

/-!
# The calls of a session

What one start of a controller writes into the journal of its master, by its outcome: `SessionWord`.
`Accounts starts calls`: the calls are the words of the starts, one after the other. From that follow
`Guarded`, that no cycle call and no deactivation is made outside an activation, and the number of
deactivations.
-/

namespace CyclicBus

/-- The calls that a session begins with. -/
def CycleConfig.opening (config : CycleConfig) : List MasterCall :=
  [.selectReferenceClock config.referenceDevice, .activate]

/-- The calls of a session, from a start with its outcome to the next idle state. A start that is
refused before it takes the session makes no call. -/
inductive SessionWord (config : CycleConfig) : Except EngineFault Unit → List MasterCall → Prop where
  | invalid (v : Violation) : SessionWord config (.error (.validation v)) []
  | live : SessionWord config (.error (.lifecycle .alreadyRunning)) []
  | rejected (device : Nat) :
    SessionWord config (.error (.lifecycle (.referenceClockRejected device)))
      [.selectReferenceClock config.referenceDevice]
  | inactive (reason : String) :
    SessionWord config (.error (.lifecycle (.activationFailed reason))) config.opening
  | small (required actual : Nat) :
    SessionWord config (.error (.lifecycle (.domainTooSmall required actual)))
      (config.opening ++ [.deactivate])
  | unlaunched (fault : WorkerFault) :
    SessionWord config (.error (.worker fault)) (config.opening ++ [.deactivate])
  | cycled (times : List UInt64) :
    SessionWord config (.ok ()) (config.opening ++ config.cycleWords times ++ [.deactivate])

/-- A start and what came of it. -/
structure StartRecord where
  config : CycleConfig
  outcome : Except EngineFault Unit

/-- Whether a start entered cyclic operation. -/
def StartRecord.activated (s : StartRecord) : Bool :=
  match s.outcome with
  | .ok () => true
  | .error (.lifecycle (.domainTooSmall _ _)) => true
  | .error (.worker _) => true
  | .error _ => false

/-- The calls are those of the sessions that the starts began. -/
def Accounts (starts : List StartRecord) (calls : List MasterCall) : Prop :=
  ∃ words, List.Forall₂ (fun s word => SessionWord s.config s.outcome word) starts words ∧
    calls = words.flatten

/-! ## Guarded calls -/

/-- Whether the bus may be active after a call, if the call may be made: a cycle and a deactivation
need an activation. -/
def MasterCall.next : Bool → MasterCall → Option Bool
  | _, selectReferenceClock _ => some false
  | _, activate => some true
  | true, deactivate => some false
  | true, _ => some true
  | false, _ => none

/-- Every cycle call and every deactivation is made after an activation, with neither a deactivation
nor another session between the two. -/
def Guarded (calls : List MasterCall) : Prop := (calls.foldlM MasterCall.next false).isSome = true

theorem scan_cycleWord (mode : SyncMode) (polls : Bool) (appTime : UInt64) :
    (cycleWord mode polls appTime).foldlM MasterCall.next true = some true := by
  cases mode <;> cases polls <;> rfl

theorem scan_flatten {words : List (List MasterCall)}
    (h : ∀ word ∈ words, word.foldlM MasterCall.next true = some true) :
    words.flatten.foldlM MasterCall.next true = some true := by
  induction words with
  | nil => rfl
  | cons word words ih =>
    rw [List.flatten_cons, List.foldlM_append, h word List.mem_cons_self]
    exact ih fun w hw => h w (List.mem_cons_of_mem _ hw)

theorem scan_cycleWords (config : CycleConfig) (times : List UInt64) :
    (config.cycleWords times).foldlM MasterCall.next true = some true := by
  refine scan_flatten fun word hword => ?_
  obtain ⟨k, hk, rfl⟩ := List.mem_mapIdx.1 hword
  exact scan_cycleWord _ _ _

/-- A session may follow whatever was before it. -/
theorem SessionWord.scan {config : CycleConfig} {outcome : Except EngineFault Unit}
    {word : List MasterCall} (h : SessionWord config outcome word) (active : Bool) :
    ∃ after, word.foldlM MasterCall.next active = some after := by
  cases h with
  | cycled times =>
    refine ⟨false, ?_⟩
    rw [List.foldlM_append, List.foldlM_append]
    show ((config.cycleWords times).foldlM MasterCall.next true).bind _ = _
    rw [scan_cycleWords]
    rfl
  | _ => exact ⟨_, rfl⟩

theorem SessionWord.count {config : CycleConfig} {outcome : Except EngineFault Unit}
    {word : List MasterCall} (h : SessionWord config outcome word) :
    word.count .deactivate = if StartRecord.activated ⟨config, outcome⟩ then 1 else 0 := by
  cases h with
  | cycled times =>
    have hcycles : (config.cycleWords times).count .deactivate = 0 := by
      rw [List.count_eq_zero]
      intro hmem
      obtain ⟨word, hword, hdeactivate⟩ := List.mem_flatten.1 hmem
      obtain ⟨k, hk, rfl⟩ := List.mem_mapIdx.1 hword
      revert hdeactivate
      cases config.syncMode <;> simp [cycleWord]
    rw [List.count_append, List.count_append, hcycles]
    rfl
  | _ => rfl

namespace Accounts

variable {starts later : List StartRecord} {calls more : List MasterCall}

theorem nil : Accounts [] [] := ⟨[], .nil, rfl⟩

theorem append (h : Accounts starts calls) (h' : Accounts later more) :
    Accounts (starts ++ later) (calls ++ more) := by
  obtain ⟨words, hwords, rfl⟩ := h
  obtain ⟨words', hwords', rfl⟩ := h'
  exact ⟨words ++ words', List.rel_append hwords hwords', List.flatten_append.symm⟩

theorem of_word {s : StartRecord} (h : SessionWord s.config s.outcome calls) :
    Accounts [s] calls := ⟨[calls], .cons h .nil, (List.append_nil _).symm⟩

/-- Starts that find a live worker make no call. -/
theorem of_live (h : ∀ s ∈ starts, s.outcome = .error (.lifecycle .alreadyRunning)) :
    Accounts starts [] := by
  induction starts with
  | nil => exact nil
  | cons s starts ih =>
    have hword : SessionWord s.config s.outcome [] := by
      rw [h s List.mem_cons_self]
      exact .live
    exact (of_word hword).append (ih fun t ht => h t (List.mem_cons_of_mem _ ht))

theorem scan (h : Accounts starts calls) (active : Bool) :
    ∃ after, calls.foldlM MasterCall.next active = some after := by
  obtain ⟨words, hwords, rfl⟩ := h
  induction hwords generalizing active with
  | nil => exact ⟨active, rfl⟩
  | cons hword _ ih =>
    obtain ⟨between, hbetween⟩ := hword.scan active
    obtain ⟨after, hafter⟩ := ih between
    refine ⟨after, ?_⟩
    rw [List.flatten_cons, List.foldlM_append, hbetween]
    exact hafter

theorem guarded (h : Accounts starts calls) : Guarded calls := by
  obtain ⟨after, hafter⟩ := h.scan false
  rw [Guarded, hafter]
  rfl

/-- Every start that entered cyclic operation left it once. -/
theorem count_deactivate (h : Accounts starts calls) :
    calls.count .deactivate = starts.countP StartRecord.activated := by
  obtain ⟨words, hwords, rfl⟩ := h
  induction hwords with
  | nil => rfl
  | cons hword _ ih =>
    rw [List.flatten_cons, List.count_append, hword.count, ih, List.countP_cons, Nat.add_comm]

end Accounts

end CyclicBus

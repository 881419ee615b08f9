import CyclicBus.Proofs.Controller.Custody
import CyclicBus.Proofs.Controller.SessionWords

/-!
# The journal of a controller

Over a scripted master the journal of a controller is a concatenation of sessions, one for each
start. `Told starts c`: the starts account for the journal of an idle controller; while a worker was
not joined, the last session is open and its cycles so far are whole words. Every call keeps that
(`told_start`, `told_stop`, `told_work`), so it holds of every run without a panic.
-/

namespace CyclicBus

/-- The last start that succeeded began a session that cycles. The starts after it found it alive. -/
def Open (starts : List StartRecord) (x : Exchange ScriptedMaster) : Prop :=
  ∃ (done : List StartRecord) (config : CycleConfig) (later : List StartRecord)
    (before : List MasterCall) (times : List UInt64),
    starts = done ++ ⟨config, .ok ()⟩ :: later ∧
      (∀ s ∈ later, s.outcome = .error (.lifecycle .alreadyRunning)) ∧
      Accounts done before ∧ x.Cycling config (before ++ config.opening) times

namespace Open

variable {starts : List StartRecord} {x y : Exchange ScriptedMaster}

theorem advance (h : Open starts x)
    (hxy : ∀ {config before times}, x.Cycling config before times →
      ∃ times, y.Cycling config before times) : Open starts y := by
  obtain ⟨done, config, later, before, times, heq, hlater, hdone, hx⟩ := h
  obtain ⟨times, hy⟩ := hxy hx
  exact ⟨done, config, later, before, times, heq, hlater, hdone, hy⟩

theorem rescript (h : Open starts x) (f : ScriptedMaster → ScriptedMaster) (shared : Shared) :
    Open starts { x with master := x.master.rescript f, shared } :=
  h.advance fun hx => ⟨_, hx.rescript f shared⟩

theorem share (h : Open starts x) (shared : Shared) : Open starts { x with shared } :=
  h.rescript id shared

theorem execute (h : Open starts x) (cycle : UInt64) (r : Readings) :
    Open starts (x.execute cycle r) :=
  h.advance fun hx => ⟨_, hx.execute cycle r⟩

theorem late (h : Open starts x) (config : CycleConfig) :
    Open (starts ++ [⟨config, .error (.lifecycle .alreadyRunning)⟩]) x := by
  obtain ⟨done, first, later, before, times, rfl, hlater, hdone, hx⟩ := h
  refine ⟨done, first, later ++ [_], before, times, List.append_assoc .., ?_, hdone, hx⟩
  intro s hs
  rcases List.mem_append.1 hs with hs | hs
  · exact hlater s hs
  · rw [List.mem_singleton.1 hs]

theorem close (h : Open starts x) : Accounts starts (x.master.calls ++ [.deactivate]) := by
  obtain ⟨done, config, later, before, times, rfl, hlater, hdone, hx⟩ := h
  have hword := Accounts.of_word (s := ⟨config, .ok ()⟩) (.cycled times)
  have hall := hdone.append (hword.append (Accounts.of_live hlater))
  rw [hx.calls]
  simpa using hall

theorem guarded (h : Open starts x) : Guarded x.master.calls := by
  have hclosed := h.close.guarded
  unfold Guarded at hclosed ⊢
  rw [List.foldlM_append] at hclosed
  -- calls that may be made in a row may be made up to any point
  cases hscan : x.master.calls.foldlM MasterCall.next false with
  | some active => rfl
  | none =>
    rw [hscan] at hclosed
    cases hclosed

end Open

namespace Worker

variable {starts : List StartRecord} {w : Worker (Exchange ScriptedMaster)}

theorem body_settle (w : Worker (Exchange ScriptedMaster)) (context : CycleContext)
    (started now : UInt64) :
    (w.settle context started now).body =
      { w.body with shared := (w.settle context started now).body.shared } := by
  unfold settle
  dsimp only
  split <;> split <;> rfl

theorem open_step (h : Open starts w.body) (answer : Answer Readings) :
    Open starts (w.step answer).body := by
  unfold step
  split
  case h_5 => split <;> exact h
  case h_6 =>
    split
    · exact h
    · exact h.execute _ _
  case h_7 =>
    rw [body_settle]
    exact h.share _
  all_goals exact h

theorem open_steps (h : Open starts w.body) (answers : List (Answer Readings)) :
    Open starts (w.steps answers).body := by
  induction answers generalizing w with
  | nil => exact h
  | cons a rest ih => exact ih (open_step h a)

end Worker

/-! ## The calls of a start -/

theorem ScriptedMaster.calls_of_activate {config : CycleConfig} {m selected m' : ScriptedMaster}
    {selection activation : Except MasterFault Unit}
    (hselect : MasterSession.selectReference config.referenceDevice m = (selection, selected))
    (hactivate : MasterSession.activate selected = (activation, m')) :
    m'.calls = m.calls ++ config.opening := by
  have hselected : m.note (.selectReferenceClock config.referenceDevice) = selected :=
    congrArg Prod.snd hselect
  have hactivated : selected.note .activate = m' := congrArg Prod.snd hactivate
  rw [← hactivated, ← hselected, calls_note, calls_note, List.append_assoc]
  rfl

theorem Activated.calls {config : CycleConfig} {m m' : ScriptedMaster}
    (h : Activated config m m') : m'.calls = m.calls ++ config.opening := by
  obtain ⟨selected, hselect, hactivate⟩ := h
  exact ScriptedMaster.calls_of_activate hselect hactivate

/-- A session that was given back has the calls of one word more. -/
theorem GivenBack.word {host : Host} {config : CycleConfig} {t : Topology} {fault : EngineFault}
    {m m' : ScriptedMaster} (h : GivenBack host config t fault m m') :
    ∃ word, SessionWord config (.error fault) word ∧ m'.calls = m.calls ++ word := by
  have hclosed {m' : ScriptedMaster} (active : Activated config m m') :
      (m'.note .deactivate).calls = m.calls ++ (config.opening ++ [.deactivate]) := by
    rw [ScriptedMaster.calls_note, active.calls, List.append_assoc]
  cases h with
  | invalid => exact ⟨[], .invalid _, (List.append_nil _).symm⟩
  | rejected selection =>
    have hselected : m.note (.selectReferenceClock config.referenceDevice) = m' :=
      congrArg Prod.snd selection
    exact ⟨_, .rejected _, hselected ▸ m.calls_note _⟩
  | inactive selection activation =>
    exact ⟨_, .inactive _, ScriptedMaster.calls_of_activate selection activation⟩
  | small active => exact ⟨_, .small _ _, hclosed active⟩
  | unlaunched active => exact ⟨_, .unlaunched _, hclosed active⟩

namespace Controller

/-- The starts tell the journal of the session. While a worker was not joined, the last session is
open. -/
def Told (starts : List StartRecord) (c : Controller ScriptedMaster) : Prop :=
  match c.holding with
  | .idle master _ => ∃ m, master = some m ∧ Accounts starts m.calls
  | .running w => w.hasPanicked = false ∧ Open starts w.body

variable {starts : List StartRecord} {c : Controller ScriptedMaster}

theorem told_of_idle {master : Option ScriptedMaster} {shared : Shared}
    (hold : c.holding = .idle master shared) :
    Told starts c ↔ ∃ m, master = some m ∧ Accounts starts m.calls := by
  rw [Told, hold]

theorem told_of_running {w : Worker (Exchange ScriptedMaster)} (hold : c.holding = .running w) :
    Told starts c ↔ w.hasPanicked = false ∧ Open starts w.body := by
  rw [Told, hold]

theorem Told.mapShared (h : Told starts c) (f : Shared → Shared) : Told starts (c.mapShared f) := by
  unfold Controller.mapShared
  cases hold : c.holding with
  | idle master shared => exact (told_of_idle hold).1 h
  | running w =>
    obtain ⟨hp, hopen⟩ := (told_of_running hold).1 h
    exact ⟨hp, hopen.share _⟩

theorem Told.emit (h : Told starts c) (e : LifecycleEvent) : Told starts (c.emit e) := h.mapShared _

theorem Told.mapMaster (h : Told starts c) (f : ScriptedMaster → ScriptedMaster) :
    Told starts (c.mapMaster (.rescript f)) := by
  unfold Controller.mapMaster
  cases hold : c.holding with
  | idle master shared =>
    obtain ⟨m, rfl, hm⟩ := (told_of_idle hold).1 h
    exact ⟨m.rescript f, rfl, hm⟩
  | running w =>
    obtain ⟨hp, hopen⟩ := (told_of_running hold).1 h
    exact ⟨hp, hopen.rescript f _⟩

theorem told_held {m : ScriptedMaster} (h : Accounts starts m.calls) (state : RunState)
    (shared : Shared) (log : Array LogRecord) :
    Told starts ⟨state, .idle (some m) shared, log⟩ := ⟨m, rfl, h⟩

theorem Told.note (h : Told starts c) (record : LogRecord) : Told starts (c.note record) := h

/-! ## Stopping -/

/-- A joined worker that did not panic closes its session. -/
theorem told_settle {w : Worker (Exchange ScriptedMaster)} (hf : w.finished = true)
    (hp : w.hasPanicked = false) (h : Open starts w.body) (c : Controller ScriptedMaster) :
    Told starts (settle w c).2 := by
  unfold settle
  rcases Worker.join?_of_finished hf with ⟨-, reason, hjoin⟩ | ⟨hpanic, -⟩
  · have hclosed : Accounts starts (w.body.master.note .deactivate).calls := by
      rw [ScriptedMaster.calls_note]
      exact h.close
    rw [hjoin]
    dsimp only
    apply Told.emit
    apply Told.note
    exact told_held hclosed _ _ _
  · cases hp.symm.trans hpanic

theorem told_stop (h : Told starts c) (answer : Nat → Worker.Answer Readings)
    (hp : c.panics (.stop answer) = false) : Told starts (c.stop answer).2 := by
  unfold stop
  cases hold : c.holding with
  | idle master shared => exact (told_of_idle hold).1 h
  | running w =>
    rw [panics, worker?_of_running hold] at hp
    obtain ⟨-, hopen⟩ := (told_of_running hold).1 h
    have hdrained : Open starts (w.requestStop.drain answer).body :=
      Worker.open_steps (w := w.requestStop) hopen _
    exact told_settle (w.finished_drain answer) hp hdrained _

/-- A worker that has ended by itself closes its session at the next start. -/
theorem told_reap (h : Told starts c) (answer : Nat → Worker.Answer Readings) :
    Told starts (c.reap answer) := by
  cases hf : c.worker?.any (·.finished) with
  | false => rwa [reap_of_not_finished answer hf]
  | true =>
    cases hold : c.holding with
    | idle master shared =>
      rw [worker?_of_idle hold] at hf
      cases hf
    | running w =>
      obtain ⟨hp, hopen⟩ := (told_of_running hold).1 h
      rw [worker?_of_running hold] at hf
      obtain ⟨before, after, heq⟩ := reap_eq_settle answer hold hf
      rw [heq]
      exact told_settle (w := w.requestStop) hf hp hopen _

/-! ## Starting -/

/-- How a start ends tells the calls that it made. -/
theorem told_of_ends {host : Host} {config : CycleConfig} {m : ScriptedMaster} {shared : Shared}
    {outcome : Except EngineFault Unit} (hm : Accounts starts m.calls)
    (h : Ends host config (some m) shared outcome c) :
    Told (starts ++ [⟨config, outcome⟩]) c := by
  cases outcome with
  | error fault =>
    have hrefused := h.refused fault rfl
    obtain ⟨rest, hold⟩ := holding_of_worker? hrefused.worker
    rcases hrefused.session with ⟨hnone, -⟩ | ⟨_, m', ⟨⟩, hmaster, hgiven⟩
    · cases hnone
    · obtain ⟨word, hword, hcalls⟩ := hgiven.word
      rw [told_of_idle hold, ← master?_eq_session? hrefused.worker]
      refine ⟨m', hmaster, ?_⟩
      rw [hcalls]
      exact hm.append (.of_word hword)
  | ok =>
    obtain ⟨-, -, _, m', trace, ⟨⟩, hprepared, hworker⟩ := h.launched rfl
    have valid := CycleConfig.validate_of_validateWith hprepared.valid
    have hcycling := Exchange.Cycling.start valid m' ⟨shared.topology, shared.data, .zero, trace⟩
    rw [hprepared.active.calls] at hcycling
    rw [told_of_running (holding_of_worker?_eq_some hworker)]
    exact ⟨rfl, starts, config, [], m.calls, [], rfl, List.forall_mem_nil _, hm, hcycling⟩

theorem told_start (hc : c.Orderly) (h : Told starts c) (host : Host)
    (answer : Nat → Worker.Answer Readings) (config : CycleConfig) :
    Told (starts ++ [⟨config, (c.start host answer config).1⟩]) (c.start host answer config).2 := by
  cases hrunning : c.isRunning with
  | true =>
    rw [start_of_isRunning host config answer hrunning]
    cases hold : c.holding with
    | idle master shared =>
      rw [isRunning, worker?_of_idle hold] at hrunning
      cases hrunning
    | running w =>
      obtain ⟨hp, hopen⟩ := (told_of_running hold).1 h
      exact (told_of_running hold).2 ⟨hp, hopen.late config⟩
  | false =>
    obtain ⟨-, hworker, -⟩ := reap_of_not_isRunning answer hc hrunning
    obtain ⟨shared, hold⟩ := holding_of_worker? hworker
    obtain ⟨m, hsession, hm⟩ := (told_of_idle hold).1 (told_reap h answer)
    have hends := ends_start host config answer hc hrunning
    rw [master?_eq_session? hworker, hsession] at hends
    exact told_of_ends hm hends

theorem told_work (h : Told starts c) (answer : Worker.Answer Readings)
    (hp : c.panics (.work answer) = false) : Told starts (c.stepWorker answer) := by
  unfold stepWorker
  cases hold : c.holding with
  | idle master shared => exact h
  | running w =>
    rw [panics, worker?_of_running hold] at hp
    obtain ⟨-, hopen⟩ := (told_of_running hold).1 h
    exact ⟨hp, Worker.open_step hopen answer⟩

end Controller

/-! ## Runs -/

/-- A call of a controller over a scripted master, or a change of the script. -/
inductive SessionStep where
  | call (x : ControllerCall)
  | script (f : ScriptedMaster → ScriptedMaster)

/-- A run of a controller over a scripted master, with its starts. -/
structure SessionRun where
  run : ControllerRun ScriptedMaster
  starts : List StartRecord

namespace SessionRun

def fresh (script : ScriptedMaster) (topology : Topology) (trace : Trace) : SessionRun :=
  ⟨.fresh { script with journal := #[] } topology trace, []⟩

/-- The starts after a call. -/
def startsAfter (r : SessionRun) : ControllerCall → List StartRecord
  | .start host answer config =>
    r.starts ++ [⟨config, (r.run.controller.start host answer config).1⟩]
  | _ => r.starts

def step (r : SessionRun) : SessionStep → SessionRun
  | .call x => ⟨r.run.call x, r.startsAfter x⟩
  | .script f =>
    ⟨{ r.run with controller := r.run.controller.mapMaster (.rescript f) }, r.starts⟩

def steps (r : SessionRun) (xs : List SessionStep) : SessionRun := xs.foldl step r

end SessionRun

/-- What holds of a run: until a worker panics, the starts tell the journal. -/
structure SessionInv (r : SessionRun) : Prop where
  orderly : r.run.controller.Orderly
  told : r.run.panicked = false → r.run.controller.Told r.starts

namespace SessionInv

variable {r : SessionRun}

theorem fresh (script : ScriptedMaster) (topology : Topology) (trace : Trace) :
    SessionInv (.fresh script topology trace) :=
  ⟨rfl, fun _ => Controller.told_held .nil _ _ _⟩

theorem call (inv : SessionInv r) (x : ControllerCall) : SessionInv (r.step (.call x)) := by
  refine ⟨(Controller.callKeeps inv.orderly x).orderly, fun hwhole => ?_⟩
  obtain ⟨hbefore, hp⟩ := Bool.or_eq_false_iff.1 hwhole
  have htold := inv.told hbefore
  cases x with
  | start host answer config => exact Controller.told_start inv.orderly htold host answer config
  | stop answer => exact Controller.told_stop htold answer hp
  | command device bytes => exact htold.mapShared _
  | work answer => exact Controller.told_work htold answer hp

theorem script (inv : SessionInv r) (f : ScriptedMaster → ScriptedMaster) :
    SessionInv (r.step (.script f)) := by
  refine ⟨?_, fun hwhole => (inv.told hwhole).mapMaster f⟩
  have horderly := inv.orderly
  obtain ⟨⟨⟨state, holding, log⟩, panicked⟩, starts⟩ := r
  cases holding <;> exact horderly

theorem steps (inv : SessionInv r) (xs : List SessionStep) : SessionInv (r.steps xs) := by
  induction xs generalizing r with
  | nil => exact inv
  | cons x xs ih =>
    cases x with
    | call x => exact ih (inv.call x)
    | script f => exact ih (inv.script f)

end SessionInv

/-! ## Every run -/

/-- **The journal of a scripted master is a concatenation of words.** Any number of cycles of a valid
configuration write the words of these cycles, whatever is scripted and commanded between them. And
over any starts, stops and commands without a panic, the calls are guarded, and at every idle point
they are those of the sessions, each of which was deactivated once. -/
theorem calls_areWords (config : CycleConfig) (valid : config.validate = .ok ())
    (master : ScriptedMaster) (shared : Shared) (ts : List Exchange.Turn) (topology : Topology)
    (trace : Trace) (xs : List SessionStep)
    (whole : ((SessionRun.fresh master topology trace).steps xs).run.panicked = false) :
    (∃ times : List UInt64, times.length = ts.length ∧
      ((Exchange.start master shared config).turns ts).master.calls =
        master.calls ++ config.cycleWords times) ∧
      let r := (SessionRun.fresh master topology trace).steps xs
      ∃ m, r.run.controller.session? = some m ∧ Guarded m.calls ∧
        (r.run.controller.state = .idle →
          r.run.controller.master? = some m ∧ Accounts r.starts m.calls ∧
            m.calls.count .deactivate = r.starts.countP StartRecord.activated) := by
  refine ⟨Exchange.calls_turns valid master shared ts, ?_⟩
  have inv := (SessionInv.fresh master topology trace).steps xs
  generalize (SessionRun.fresh master topology trace).steps xs = r at inv whole
  have htold := inv.told whole
  cases hold : r.run.controller.holding with
  | idle session shared =>
    obtain ⟨m, rfl, hm⟩ := (Controller.told_of_idle hold).1 htold
    refine ⟨m, ?_, hm.guarded, fun _ => ⟨?_, hm, hm.count_deactivate⟩⟩
    · rw [Controller.session?, hold]
    · rw [Controller.master?, hold]
  | running w =>
    obtain ⟨hp, hopen⟩ := (Controller.told_of_running hold).1 htold
    refine ⟨w.body.master, ?_, hopen.guarded, fun hidle => ?_⟩
    · rw [Controller.session?_of_running hold, hp]
      rfl
    · rw [inv.orderly, Controller.worker?_of_running hold] at hidle
      cases hidle

/-- A start whose selection is rejected, a start that succeeds and is followed by another one, one
cycle, and a stop. -/
def rejectedThenCycled : List SessionStep :=
  let answer : Worker.Answer Readings := ⟨1000, true, false, .still 1000⟩
  let start := SessionStep.call
    (.start .withoutPrivileges (fun _ => answer) (.unprivileged 1000))
  [.script fun m => { m with selectionFault := some .noReferenceClock }, start,
      .script fun m => { m with selectionFault := none }, start, start] ++
    List.replicate 7 (.call (.work answer)) ++ [.call (.stop fun _ => answer)]

theorem calls_areWords_of_rejectedThenCycled :
    let config := CycleConfig.unprivileged 1000
    let master := ScriptedMaster.ofDomainSize 8
    let shared := Shared.ofTopology .pair (.ofSink .null)
    let ts : List Exchange.Turn := List.replicate 2 ⟨id, id, 0, .still 0⟩
    let r := (SessionRun.fresh master .pair (.ofSink .null)).steps rejectedThenCycled
    config.validate = .ok () ∧ r.run.panicked = false ∧
      ((∃ times : List UInt64, times.length = ts.length ∧
        ((Exchange.start master shared config).turns ts).master.calls =
          master.calls ++ config.cycleWords times) ∧
        ∃ m, r.run.controller.session? = some m ∧ Guarded m.calls ∧
          (r.run.controller.state = .idle →
            r.run.controller.master? = some m ∧ Accounts r.starts m.calls ∧
              m.calls.count .deactivate = r.starts.countP StartRecord.activated)) ∧
      r.run.controller.state = .idle ∧ r.starts.countP StartRecord.activated = 1 ∧
      r.run.controller.master?.map ScriptedMaster.calls =
        some ([.selectReferenceClock 0] ++
          (config.opening ++ config.cycleWords [1000] ++ [.deactivate])) := by
  intro config master shared ts r
  have valid : config.validate = .ok () := by decide +kernel
  have whole : r.run.panicked = false := by decide +kernel
  exact ⟨valid, whole, calls_areWords config valid master shared ts .pair (.ofSink .null)
    rejectedThenCycled whole, by decide +kernel, by decide +kernel, by decide +kernel⟩

end CyclicBus

import CyclicBus.Proofs.Worker.Cycles
import CyclicBus.Worker.Handshake

/-!
# Launches in every order of turns

The launcher and the new thread take their turns in any order. `Stage` lists the places that a
launch comes to if no cycle panics, with the cycles begun so far: `stage_turn` takes it from one to
the next. At each of them there is one body, and one of the two parties can go on until the launcher
has returned; so it returns once both have had enough turns (`hasReturned_run_flatten`).
`sound_of_calm` reads off the rest.
-/

namespace CyclicBus.Worker

variable {B R : Type}

/-! ## What the parties have -/

/-- The bodies that a launcher has. -/
def Launcher.bodies : Launcher B → List B
  | handing body => [body]
  | unheard body => [body]
  | failed refused => refused.body.toList
  | _ => []

/-- The bodies that a thread has. A panic loses them. -/
def Newcomer.bodies : Newcomer B → List B
  | preparing body => [body]
  | reporting _ body => [body]
  | leaving body => [body]
  | serving w => if w.hasPanicked then [] else [w.body]
  | _ => []

/-- The steps that a launcher has before it. -/
def Launcher.left : Launcher B → Nat
  | handing _ => 3
  | listening => 2
  | joining _ => 1
  | unheard _ => 1
  | untold => 1
  | launched => 0
  | failed _ => 0

/-- The steps that a thread has before it on its way to its loop. -/
def Newcomer.left : Newcomer B → Nat
  | awaiting => 4
  | preparing _ => 3
  | reporting _ _ => 2
  | leaving _ => 1
  | serving _ => 0
  | empty => 0
  | joined => 0

theorem Launcher.hasReturned_iff (l : Launcher B) : l.hasReturned = true ↔ l.left = 0 := by
  cases l <;> simp [hasReturned, left]

/-- No cycle panics. -/
def Handshake.Turn.Calm : Handshake.Turn R → Prop
  | launcher => True
  | thread => True
  | loop answer => answer.panics = false

instance (t : Handshake.Turn R) : Decidable t.Calm :=
  match t with
  | .launcher => .isTrue trivial
  | .thread => .isTrue trivial
  | .loop _ => inferInstanceAs (Decidable (_ = _))

namespace Handshake

/-- The bodies that there are: with the launcher, on the way, or with the thread. -/
def bodies (h : Handshake B) : List B :=
  h.launcher.bodies ++ h.sent.toList ++ h.thread.bodies

/-- The steps that are left of a launch. -/
def left (h : Handshake B) : Nat := h.launcher.left + h.thread.left

/-- The context of the cycle that a turn begins, if it begins one. -/
def begins (h : Handshake B) : Turn R → List CycleContext
  | .launcher => []
  | .thread => []
  | .loop answer =>
    match h.thread with
    | .serving w => w.begins (C := Empty) (.step answer)
    | _ => []

variable [CycleBody B R] (host : Host) (config : Config)

/-- The contexts of the cycles that begin in some turns, in order. -/
def begun (h : Handshake B) : List (Turn R) → List CycleContext
  | [] => []
  | t :: ts => h.begins t ++ (h.turn host config t).begun ts

/-! ## Where a launch comes to -/

/-- The cycles of a worker that took some steps in its loop. -/
def cycles (config : Config) (body : B) (answers : List (Answer R)) : List CycleContext :=
  (ready config body).begun (C := Empty) nofun (answers.map .step)

/-- A thread that has reported a refusal. -/
inductive Leaves (config : Config) (body : B) : Newcomer B → Prop where
  | before : Leaves config body (.leaving body)
  | ended : Leaves config body (.serving (rejected config body))

/-- The stages of a launch, with the cycles begun so far. -/
inductive Stage (body : B) : Handshake B → List CycleContext → Prop where
  | handing : Stage body ⟨.handing body, .awaiting, none, none⟩ []
  | sent : Stage body ⟨.listening, .awaiting, some body, none⟩ []
  | taken : Stage body ⟨.listening, .preparing body, none, none⟩ []
  | prepared : Stage body ⟨.listening, .reporting (host.apply config.setup) body, none, none⟩ []
  | granted (grant : host.apply config.setup = .ok ()) {answers : List (Answer R)}
      (calm : ∀ a ∈ answers, a.panics = false) :
      Stage body ⟨.listening, .serving ((ready config body).steps answers), none, some (.ok ())⟩
        (cycles config body answers)
  | launched (grant : host.apply config.setup = .ok ()) {answers : List (Answer R)}
      (calm : ∀ a ∈ answers, a.panics = false) :
      Stage body ⟨.launched, .serving ((ready config body).steps answers), none, none⟩
        (cycles config body answers)
  | refused {fault : WorkerFault} {t : Newcomer B}
      (refusal : host.apply config.setup = .error fault) (leaves : Leaves config body t) :
      Stage body ⟨.listening, t, none, some (.error fault)⟩ []
  | told {fault : WorkerFault} {t : Newcomer B}
      (refusal : host.apply config.setup = .error fault) (leaves : Leaves config body t) :
      Stage body ⟨.joining fault, t, none, none⟩ []
  | failed {fault : WorkerFault} (refusal : host.apply config.setup = .error fault) :
      Stage body ⟨.failed ⟨fault, some body⟩, .joined, none, none⟩ []

variable {host config} {body : B} {h : Handshake B} {cs : List CycleContext}

theorem steps_concat (w : Worker B) (answers : List (Answer R)) (answer : Answer R) :
    w.steps (answers ++ [answer]) = (w.steps answers).step answer := by
  rw [steps, List.foldl_append]
  rfl

theorem cycles_concat (answers : List (Answer R)) (answer : Answer R) :
    cycles config body (answers ++ [answer]) =
      cycles config body answers ++
        ((ready config body).steps answers).begins (C := Empty) (.step answer) := by
  have hmoves : (ready config body).moves (C := Empty) nofun (answers.map .step) =
      (ready config body).steps answers := by
    rw [moves, List.foldl_map]
    rfl
  rw [cycles, List.map_append, begun_append, hmoves]
  exact congrArg (_ ++ ·) (List.append_nil _)

theorem calm_concat {answers : List (Answer R)} (calm : ∀ a ∈ answers, a.panics = false)
    {answer : Answer R} (whole : answer.panics = false) :
    ∀ a ∈ answers ++ [answer], a.panics = false := by
  intro a ha
  rcases List.mem_append.1 ha with hold | hnew
  · exact calm a hold
  · rw [List.mem_singleton.1 hnew]
    exact whole

/-- A turn takes a launch from one stage to the next. -/
theorem stage_turn (stage : Stage host config body h cs) {t : Turn R} (calm : t.Calm) :
    Stage host config body (h.turn host config t) (cs ++ h.begins t) := by
  cases stage with
  | handing => cases t <;> first | exact .sent | exact .handing
  | sent => cases t <;> first | exact .taken | exact .sent
  | taken =>
    cases t with
    | thread =>
      show Stage host config body ⟨.listening, .reporting (setUp host config) body, none, none⟩ []
      rw [setUp_eq]
      exact .prepared
    | launcher => exact .taken
    | loop answer => exact .taken
  | prepared =>
    cases t with
    | thread =>
      show Stage host config body ⟨.listening, .reported config body (host.apply config.setup),
        none, some (host.apply config.setup)⟩ []
      cases happly : host.apply config.setup with
      | ok => exact Stage.granted happly fun a (ha : a ∈ []) => nomatch ha
      | error fault => exact .refused happly .before
    | launcher => exact .prepared
    | loop answer => exact .prepared
  | granted grant hcalm =>
    cases t with
    | launcher =>
      rw [begins, List.append_nil]
      exact .launched grant hcalm
    | thread =>
      rw [begins, List.append_nil]
      exact .granted grant hcalm
    | loop answer =>
      have hstep : Stage host config body _ _ := .granted grant (calm_concat hcalm calm)
      rwa [steps_concat, cycles_concat] at hstep
  | launched grant hcalm =>
    cases t with
    | loop answer =>
      have hstep : Stage host config body _ _ := .launched grant (calm_concat hcalm calm)
      rwa [steps_concat, cycles_concat] at hstep
    | launcher =>
      rw [begins, List.append_nil]
      exact .launched grant hcalm
    | thread =>
      rw [begins, List.append_nil]
      exact .launched grant hcalm
  | refused refusal leaves =>
    cases t with
    | launcher => exact .told refusal leaves
    | thread => cases leaves <;> exact .refused refusal .ended
    | loop answer =>
      cases leaves with
      | before => exact .refused refusal .before
      | ended => exact .refused refusal .ended
  | told refusal leaves =>
    cases leaves with
    | before => cases t <;> first | exact .told refusal .ended | exact .told refusal .before
    | ended => cases t <;> first | exact .failed refusal | exact .told refusal .ended
  | failed refusal => cases t <;> exact .failed refusal

/-- A launch comes to no other stages. -/
theorem stage_run (stage : Stage host config body h cs) {ts : List (Turn R)}
    (calm : ∀ t ∈ ts, t.Calm) :
    Stage host config body (h.run host config ts) (cs ++ h.begun host config ts) := by
  induction ts generalizing h cs with
  | nil =>
    rw [begun, List.append_nil]
    exact stage
  | cons t ts ih =>
    have hnext := ih (stage_turn stage (calm t List.mem_cons_self)) fun t' ht =>
      calm t' (List.mem_cons_of_mem t ht)
    rw [List.append_assoc] at hnext
    exact hnext

/-! ## How long a launch takes -/

/-- The next step of a party on its way through the launch, unless it waits or is past that. -/
def next? (host : Host) (config : Config) (h : Handshake B) : Turn R → Option (Handshake B)
  | .launcher => h.launcherStep?
  | .thread => h.threadStep? host config
  | .loop _ => none

section Steps

omit [CycleBody B R]

theorem left_joinAndFail {fault : Except WorkerFault (Option B) → LaunchFault B}
    {h' : Handshake B} (hjoin : h.joinAndFail? fault = some h') : h'.left = 0 := by
  obtain ⟨exit, -, rfl⟩ := Option.map_eq_some_iff.1 hjoin
  rfl

/-- Each step of the launcher leaves fewer. -/
theorem left_launcherStep {h' : Handshake B} (hstep : h.launcherStep? = some h') :
    h'.left < h.left := by
  obtain ⟨launcher, thread, sent, reported⟩ := h
  unfold launcherStep? at hstep
  have hlast : h'.left = 0 → h'.left < 1 + thread.left := fun h => by omega
  cases launcher with
  | handing body =>
    dsimp only at hstep
    split at hstep
    · cases hstep
      exact Nat.add_lt_add_right (by decide : 1 < 3) _
    · cases sent with
      | some body => cases hstep
      | none =>
        cases hstep
        exact Nat.add_lt_add_right (by decide : 2 < 3) _
  | listening =>
    match reported with
    | some (.ok ()) =>
      cases hstep
      exact Nat.add_lt_add_right (by decide : 0 < 2) _
    | some (.error fault) =>
      cases hstep
      exact Nat.add_lt_add_right (by decide : 1 < 2) _
    | none =>
      dsimp only at hstep
      split at hstep
      · cases hstep
        exact Nat.add_lt_add_right (by decide : 1 < 2) _
      · cases hstep
  | joining fault => exact hlast (left_joinAndFail hstep)
  | unheard body => exact hlast (left_joinAndFail hstep)
  | untold => exact hlast (left_joinAndFail hstep)
  | launched => cases hstep
  | failed refused => cases hstep

theorem left_reported (config : Config) (body : B) (report : Except WorkerFault Unit) :
    (Newcomer.reported config body report).left < 2 := by
  cases report with
  | ok => exact Nat.zero_lt_two
  | error fault => exact Nat.one_lt_two

/-- Each step of the thread leaves fewer. -/
theorem left_threadStep {h' : Handshake B} (hstep : h.threadStep? host config = some h') :
    h'.left < h.left := by
  obtain ⟨launcher, thread, sent, reported⟩ := h
  unfold threadStep? at hstep
  cases thread with
  | awaiting =>
    cases sent with
    | some body =>
      cases hstep
      exact Nat.add_lt_add_left (by decide : 3 < 4) _
    | none =>
      dsimp only at hstep
      split at hstep
      · cases hstep
        exact Nat.add_lt_add_left (by decide : 0 < 4) _
      · cases hstep
  | preparing body =>
    cases hstep
    exact Nat.add_lt_add_left (by decide : 2 < 3) _
  | reporting report body =>
    dsimp only at hstep
    split at hstep
    · cases hstep
      exact Nat.add_lt_add_left (left_reported config body report) _
    · cases reported with
      | some earlier => cases hstep
      | none =>
        cases hstep
        exact Nat.add_lt_add_left (left_reported config body report) _
  | leaving body =>
    cases hstep
    exact Nat.add_lt_add_left (by decide : 0 < 1) _
  | serving w => cases hstep
  | empty => cases hstep
  | joined => cases hstep

theorem left_next {t : Turn R} {h' : Handshake B} (hnext : h.next? host config t = some h') :
    h'.left < h.left := by
  cases t with
  | launcher => exact left_launcherStep hnext
  | thread => exact left_threadStep hnext
  | loop answer => cases hnext

end Steps

theorem left_loopStep (h : Handshake B) (answer : Answer R) :
    (h.loopStep answer).left = h.left := by
  unfold loopStep left
  cases hthread : h.thread <;> simp [hthread, Newcomer.left]

/-- A turn leaves less of the launch, unless its party waits or is in its loop. -/
theorem left_turn (host : Host) (config : Config) (h : Handshake B) (t : Turn R) :
    (h.turn host config t).left < h.left ∨
      (h.next? host config t).isSome = false ∧
        (h.turn host config t = h ∨ ∃ answer, t = .loop answer) := by
  have hparty (t : Turn R) : ((h.next? host config t).getD h).left < h.left ∨
      (h.next? host config t).isSome = false ∧ (h.next? host config t).getD h = h := by
    cases hnext : h.next? host config t with
    | none => exact .inr ⟨rfl, rfl⟩
    | some h' => exact .inl (left_next hnext)
  cases t with
  | launcher => exact (hparty .launcher).imp_right fun ⟨hwaits, hsame⟩ => ⟨hwaits, .inl hsame⟩
  | thread => exact (hparty .thread).imp_right fun ⟨hwaits, hsame⟩ => ⟨hwaits, .inl hsame⟩
  | loop answer => exact .inr ⟨rfl, .inr ⟨answer, rfl⟩⟩

theorem left_run_le (host : Host) (config : Config) (h : Handshake B) (ts : List (Turn R)) :
    (h.run host config ts).left ≤ h.left := by
  induction ts generalizing h with
  | nil => exact Nat.le_refl _
  | cons t ts ih =>
    refine Nat.le_trans (ih (h.turn host config t)) ?_
    rcases left_turn host config h t with hless | ⟨-, hsame | ⟨answer, rfl⟩⟩
    · exact Nat.le_of_lt hless
    · exact Nat.le_of_eq (congrArg left hsame)
    · exact Nat.le_of_eq (left_loopStep h answer)

/-- A step in the loop takes no step of the launch away. -/
theorem next_loop (stage : Stage host config body h cs) {t : Turn R}
    (hnext : (h.next? host config t).isSome = true) (answer : Answer R) :
    ((h.loopStep answer).next? host config t).isSome = true := by
  cases stage with
  | granted grant calm =>
    cases t with
    | launcher => rfl
    | thread => cases hnext
    | loop answer => cases hnext
  | launched grant calm => cases t <;> cases hnext
  | refused refusal leaves => cases leaves <;> exact hnext
  | told refusal leaves => cases leaves <;> exact hnext
  | _ => exact hnext

/-- If a party that can go on has a turn, less of the launch is left. -/
theorem left_run_lt (stage : Stage host config body h cs) {p : Turn R}
    (hnext : (h.next? host config p).isSome = true) {ts : List (Turn R)} (mem : p ∈ ts)
    (calm : ∀ t ∈ ts, t.Calm) : (h.run host config ts).left < h.left := by
  induction ts generalizing h cs with
  | nil => cases mem
  | cons t ts ih =>
    have hcalm : ∀ t' ∈ ts, t'.Calm := fun t' ht => calm t' (List.mem_cons_of_mem t ht)
    show ((h.turn host config t).run host config ts).left < _
    rcases left_turn host config h t with hless | ⟨hwaits, hsame⟩
    · exact Nat.lt_of_le_of_lt (left_run_le host config _ ts) hless
    · have hmem : p ∈ ts := by
        refine (List.mem_cons.1 mem).resolve_left fun hp => ?_
        rw [hp, hwaits] at hnext
        cases hnext
      rcases hsame with hsame | ⟨answer, rfl⟩
      · rw [hsame]
        exact ih stage hnext hmem hcalm
      · have hless := ih (stage_turn stage (calm _ List.mem_cons_self))
          (next_loop stage hnext answer) hmem hcalm
        rwa [turn, left_loopStep] at hless

/-- One of the two can go on until the launcher has returned. -/
theorem exists_next (stage : Stage host config body h cs)
    (hreturned : h.launcher.hasReturned = false) :
    (h.next? (R := R) host config .launcher).isSome = true ∨
      (h.next? (R := R) host config .thread).isSome = true := by
  cases stage with
  | handing => exact .inl rfl
  | sent => exact .inr rfl
  | taken => exact .inr rfl
  | prepared => exact .inr rfl
  | granted grant calm => exact .inl rfl
  | refused refusal leaves => exact .inl rfl
  | told refusal leaves =>
    cases leaves with
    | before => exact .inr rfl
    | ended => exact .inl rfl
  | launched grant calm => cases hreturned
  | failed refusal => cases hreturned

/-- A launcher that has returned stays so. -/
theorem hasReturned_run (stage : Stage host config body h cs)
    (hreturned : h.launcher.hasReturned = true) {ts : List (Turn R)} (calm : ∀ t ∈ ts, t.Calm) :
    (h.run host config ts).launcher.hasReturned = true := by
  induction ts generalizing h cs with
  | nil => exact hreturned
  | cons t ts ih =>
    refine ih (stage_turn stage (calm t List.mem_cons_self)) ?_ fun t' ht =>
      calm t' (List.mem_cons_of_mem t ht)
    cases stage with
    | launched grant calm => cases t <;> rfl
    | failed refusal => cases t <;> rfl
    | _ => cases hreturned

/-- **A launch ends** as soon as both parties have had a turn as often as there are steps left. -/
theorem hasReturned_run_flatten (stage : Stage host config body h cs)
    {rounds : List (List (Turn R))} (both : ∀ ts ∈ rounds, .launcher ∈ ts ∧ .thread ∈ ts)
    (calm : ∀ t ∈ rounds.flatten, t.Calm) (enough : h.left ≤ rounds.length) :
    (h.run host config rounds.flatten).launcher.hasReturned = true := by
  induction rounds generalizing h cs with
  | nil =>
    rw [Launcher.hasReturned_iff]
    exact Nat.eq_zero_of_add_eq_zero_right (Nat.le_zero.1 enough)
  | cons ts rounds ih =>
    cases hreturned : h.launcher.hasReturned with
    | true => exact hasReturned_run stage hreturned calm
    | false =>
      have hcalm : ∀ t ∈ ts, t.Calm := fun t ht => calm t (List.mem_append_left _ ht)
      obtain ⟨hlauncher, hthread⟩ := both ts List.mem_cons_self
      have hless : (h.run host config ts).left < h.left := by
        rcases exists_next stage hreturned with hnext | hnext
        · exact left_run_lt stage hnext hlauncher hcalm
        · exact left_run_lt stage hnext hthread hcalm
      rw [List.length_cons] at enough
      have hrest := ih (stage_run stage hcalm)
        (fun ts' hts => both ts' (List.mem_cons_of_mem ts hts))
        (fun t ht => calm t (List.mem_append_right _ ht)) (by omega)
      rw [List.flatten_cons, run, List.foldl_append]
      exact hrest

/-! ## What a launch owes -/

/-- What a launch owes its caller wherever it is, with the cycles begun so far. -/
structure Sound (host : Host) (config : Config) (body : B) (h : Handshake B)
    (cs : List CycleContext) : Prop where
  /-- There is an outcome exactly when the launcher has returned. -/
  outcome : h.outcome?.isSome = h.launcher.hasReturned
  /-- It is a worker only if its setup succeeded, and the worker has the body. -/
  accepted : ∀ w, h.outcome? = some (.ok w) →
    host.apply config.setup = .ok () ∧ h.thread = .serving w ∧ h.bodies = [w.body] ∧
      ∃ answers : List (Answer R), w = (ready config body).steps answers
  /-- It is a fault exactly if the setup was rejected, with that fault and with the body. -/
  rejected : h.launcher.hasReturned = true → ∀ refused : LaunchFault B,
    h.outcome? = some (.error refused) ↔
      host.apply config.setup = .error refused.fault ∧ refused.body = some body
  /-- No cycle ever runs on a body whose setup was rejected. -/
  untouched : ∀ fault, host.apply config.setup = .error fault → cs = [] ∧ h.bodies = [body]
  /-- There is one body, as the loop has left it. -/
  one : ∃ answers : List (Answer R),
    h.bodies = [((ready config body).steps answers).body] ∧ cs = cycles config body answers
  /-- Until it returns, the launcher and the thread do not wait for each other. -/
  alive : h.launcher.hasReturned = false →
    ¬ (h.launcherStep? = none ∧ h.threadStep? host config = none)

theorem hasPanicked_steps (w : Worker B) {answers : List (Answer R)}
    (calm : ∀ a ∈ answers, a.panics = false) : (w.steps answers).hasPanicked = w.hasPanicked := by
  induction answers generalizing w with
  | nil => rfl
  | cons a answers ih =>
    rw [← hasPanicked_step_of_not_panics w (calm a List.mem_cons_self)]
    exact ih _ fun a' ha => calm a' (List.mem_cons_of_mem a ha)

/-- The body is with a thread that serves it. -/
theorem bodies_serving (config : Config) (body : B) {answers : List (Answer R)}
    (calm : ∀ a ∈ answers, a.panics = false) :
    (Newcomer.serving ((ready config body).steps answers)).bodies =
      [((ready config body).steps answers).body] :=
  if_neg (by rw [hasPanicked_steps _ calm]; exact Bool.false_ne_true)

/-- **There is one body** at each stage. -/
theorem Stage.exists_body (stage : Stage host config body h cs) : ∃ answers : List (Answer R),
    h.bodies = [((ready config body).steps answers).body] ∧ cs = cycles config body answers := by
  cases stage with
  | granted grant calm => exact ⟨_, bodies_serving config body calm, rfl⟩
  | launched grant calm => exact ⟨_, bodies_serving config body calm, rfl⟩
  | refused refusal leaves => cases leaves <;> exact ⟨[], rfl, rfl⟩
  | told refusal leaves => cases leaves <;> exact ⟨[], rfl, rfl⟩
  | _ => exact ⟨[], rfl, rfl⟩

/-- A setup that was rejected leaves the body as it was given. -/
theorem Stage.untouched (stage : Stage host config body h cs) {fault : WorkerFault}
    (refusal : host.apply config.setup = .error fault) : cs = [] ∧ h.bodies = [body] := by
  cases stage with
  | granted grant calm => cases grant.symm.trans refusal
  | launched grant calm => cases grant.symm.trans refusal
  | refused refusal leaves => cases leaves <;> exact ⟨rfl, rfl⟩
  | told refusal leaves => cases leaves <;> exact ⟨rfl, rfl⟩
  | _ => exact ⟨rfl, rfl⟩

theorem Stage.sound (stage : Stage host config body h cs) : Sound host config body h cs where
  outcome := by
    cases stage <;> rfl
  accepted w houtcome := by
    cases stage with
    | launched grant calm =>
      cases houtcome
      exact ⟨grant, rfl, bodies_serving config body calm, _, rfl⟩
    | _ => cases houtcome
  rejected hreturned refused := by
    cases stage with
    | launched grant calm =>
      refine ⟨fun houtcome => ?_, fun ⟨refusal, _⟩ => ?_⟩
      · cases houtcome
      · cases grant.symm.trans refusal
    | failed refusal =>
      obtain ⟨fault, survivor⟩ := refused
      refine ⟨fun houtcome => ?_, fun ⟨hfault, hbody⟩ => ?_⟩
      · cases houtcome
        exact ⟨refusal, rfl⟩
      · cases refusal.symm.trans hfault
        cases hbody
        rfl
    | _ => cases hreturned
  untouched fault := stage.untouched
  one := stage.exists_body
  alive hreturned hblocked := by
    rcases exists_next stage hreturned with hnext | hnext
    · change h.launcherStep?.isSome = true at hnext
      rw [hblocked.1] at hnext
      cases hnext
    · change (h.threadStep? host config).isSome = true at hnext
      rw [hblocked.2] at hnext
      cases hnext

/-- **The order of the turns makes no difference** to what a launch returns, but that the worker may
have gone on meanwhile. -/
theorem outcome?_run (spawned : host.spawn = none) {ts : List (Turn R)} (calm : ∀ t ∈ ts, t.Calm)
    (hreturned : ((start body).run host config ts).launcher.hasReturned = true) :
    match launch host config body with
    | .ok w => ∃ answers : List (Answer R),
      ((start body).run host config ts).outcome? = some (.ok (w.steps answers))
    | .error refused => ((start body).run host config ts).outcome? = some (.error refused) := by
  obtain ⟨cs, stage⟩ : ∃ cs, Stage host config body ((start body).run host config ts) cs :=
    ⟨_, stage_run .handing calm⟩
  generalize (start body).run host config ts = h at stage hreturned ⊢
  rw [launch_eq, spawned]
  cases stage with
  | launched grant calm =>
    rw [grant]
    exact ⟨_, rfl⟩
  | failed refusal =>
    rw [refusal]
    rfl
  | _ => cases hreturned

/-- **Launches keep the body**, in every order of the turns of launcher and thread. And they end,
once both have had as many turns as a launch has steps. -/
theorem sound_of_calm (host : Host) (config : Config) (body : B) (ts : List (Turn R))
    (calm : ∀ t ∈ ts, t.Calm) :
    Sound host config body ((start body).run host config ts) ((start body).begun host config ts) ∧
      ∀ rounds : List (List (Turn R)), ts = rounds.flatten →
        (∀ round ∈ rounds, .launcher ∈ round ∧ .thread ∈ round) →
        (start body).left ≤ rounds.length →
          ((start body).run host config ts).launcher.hasReturned = true := by
  have hstart : Stage host config body (start body) [] := .handing
  refine ⟨(stage_run hstart calm).sound, fun rounds hts both enough => ?_⟩
  subst hts
  exact hasReturned_run_flatten hstart both calm enough

/-- Ten rounds in which the thread comes first. -/
def threadFirst : List (List (Turn Unit)) :=
  (List.range 10).map fun k => [.thread, .loop ⟨.ofNat (1000 * k), true, false, ()⟩, .launcher]

/-- On a host that grants nothing these turns bring the body back; on one that grants the setup it
comes to its first cycle. -/
theorem sound_of_calm_of_threadFirst :
    let config := Config.ofPeriod 1000
    let before := start CallLog.empty
    let turns := threadFirst.flatten
    let granting := Host.ofProcessors 4
    (∀ t ∈ turns, t.Calm) ∧
      Sound .withoutPrivileges config CallLog.empty
        (before.run .withoutPrivileges config turns)
        (before.begun .withoutPrivileges config turns) ∧
      (before.run .withoutPrivileges config turns).outcome? =
        some (.error ⟨.setup .memoryLock .notPermitted, some CallLog.empty⟩) ∧
      Sound granting config CallLog.empty (before.run granting config turns)
        (before.begun granting config turns) ∧
      (before.run granting config turns).launcher.hasReturned = true ∧
      (before.begun granting config turns).map (·.cycle) = [0] := by
  have calm : ∀ t ∈ threadFirst.flatten, t.Calm := by decide
  have both : ∀ ts ∈ threadFirst, .launcher ∈ ts ∧ .thread ∈ ts := by
    intro ts hts
    obtain ⟨k, -, rfl⟩ := List.mem_map.1 hts
    simp
  have hrefused := sound_of_calm .withoutPrivileges (Config.ofPeriod 1000) CallLog.empty
    threadFirst.flatten calm
  have hgranted := sound_of_calm (Host.ofProcessors 4) (Config.ofPeriod 1000) CallLog.empty
    threadFirst.flatten calm
  have hreturned := hrefused.2 threadFirst rfl both (by decide)
  refine ⟨calm, hrefused.1, (hrefused.1.rejected hreturned _).2 ⟨rfl, rfl⟩, hgranted.1,
    hgranted.2 threadFirst rfl both (by decide), by decide +kernel⟩

end Handshake

end CyclicBus.Worker

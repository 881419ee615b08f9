import CyclicBus.Worker.Machine

/-!
# Launch handshake

Whoever launches a worker and the new thread exchange two values, each over a channel that holds
one: the body on its way to the thread, and on the way back the thread's report on its setup. The
parties take their steps in any order. One that finds its channel empty or full waits, unless the
other party is gone: then its send or its receipt fails, and the launcher joins the thread to learn
what became of it.

`outcome?_run_direct` gives the outcome where no party ever waits: the thread keeps the body if its
setup succeeded, and otherwise the launcher has it back with the refusal. `launch` is that order of
turns.
-/

namespace CyclicBus.Worker

/-- A launch that failed, with the body where it survived. -/
structure LaunchFault (B : Type) where
  fault : WorkerFault
  body : Option B

/-- Where the launcher stands. -/
inductive Launcher (B : Type) where
  /-- Before it hands over the body. -/
  | handing (body : B)
  /-- Before it takes the report. -/
  | listening
  /-- Before it joins a thread that reported a refusal. -/
  | joining (fault : WorkerFault)
  /-- Before it joins a thread that was gone when the body was sent. -/
  | unheard (body : B)
  /-- Before it joins a thread that was gone without a report. -/
  | untold
  | launched
  | failed (fault : LaunchFault B)

/-- Where the new thread stands. -/
inductive Newcomer (B : Type) where
  /-- Before it takes the body. -/
  | awaiting
  | preparing (body : B)
  | reporting (report : Except WorkerFault Unit) (body : B)
  /-- Before its end: it has reported a refusal. -/
  | leaving (body : B)
  /-- In its loop, or at its end with a body. -/
  | serving (w : Worker B)
  /-- Ended without a body. -/
  | empty
  | joined

/-- The two parties and what is in their channels. -/
structure Handshake (B : Type) where
  launcher : Launcher B
  thread : Newcomer B
  sent : Option B
  reported : Option (Except WorkerFault Unit)

variable {B R : Type}

/-- The launcher has returned, and so let go of its ends of the channels. -/
def Launcher.hasReturned : Launcher B → Bool
  | launched => true
  | failed _ => true
  | _ => false

/-- What a join of the thread finds, if it need not wait: the body that comes back, if one does. -/
def Newcomer.exit? : Newcomer B → Option (Except WorkerFault (Option B))
  | serving w => if w.finished then some (w.join?.map fun exit => some exit.body) else none
  | empty => some (.ok none)
  | _ => none

/-- The thread has ended, and so let go of its ends of the channels. -/
def Newcomer.hasEnded : Newcomer B → Bool
  | joined => true
  | t => t.exit?.isSome

def recovered : Except WorkerFault (Option B) → Option B
  | .ok body => body
  | .error _ => none

/-- Why a thread was gone, as a join tells it. -/
def loss : Except WorkerFault (Option B) → WorkerFault
  | .ok _ => .lost
  | .error _ => .panicked

def setUp (host : Host) (config : Config) : Except WorkerFault Unit :=
  ((Ticker.starting 0 config.period config.setup.clock).apply host config.setup).map fun _ => ()

theorem setUp_eq (host : Host) (config : Config) :
    setUp host config = host.apply config.setup := by
  show ((host.apply config.setup).map _).map _ = _
  cases host.apply config.setup <;> rfl

def Newcomer.reported (config : Config) (body : B) : Except WorkerFault Unit → Newcomer B
  | .ok () => serving (ready config body)
  | .error _ => leaving body

def rejected (config : Config) (body : B) : Worker B :=
  { ready config body with phase := .ended .setupRejected }

namespace Handshake

def start (body : B) : Handshake B := ⟨.handing body, .awaiting, none, none⟩

/-- Join the thread, once it has ended, and return with a fault. -/
def joinAndFail? (h : Handshake B) (fault : Except WorkerFault (Option B) → LaunchFault B) :
    Option (Handshake B) :=
  h.thread.exit?.map fun exit => { h with launcher := .failed (fault exit), thread := .joined }

/-- The next step of the launcher, unless it waits or has returned. -/
def launcherStep? (h : Handshake B) : Option (Handshake B) :=
  match h.launcher with
  | .handing body =>
    if h.thread.hasEnded then some { h with launcher := .unheard body }
    else
      match h.sent with
      | none => some { h with launcher := .listening, sent := some body }
      | some _ => none
  | .listening =>
    match h.reported with
    | some (.ok ()) => some { h with launcher := .launched, reported := none }
    | some (.error fault) => some { h with launcher := .joining fault, reported := none }
    | none => if h.thread.hasEnded then some { h with launcher := .untold } else none
  | .joining fault => h.joinAndFail? fun exit => ⟨fault, recovered exit⟩
  | .unheard body => h.joinAndFail? fun exit => ⟨loss exit, some body⟩
  | .untold => h.joinAndFail? fun exit => ⟨loss exit, none⟩
  | .launched => none
  | .failed _ => none

/-- The next step of the thread before its loop, unless it waits or is past that. -/
def threadStep? (host : Host) (config : Config) (h : Handshake B) : Option (Handshake B) :=
  match h.thread with
  | .awaiting =>
    match h.sent with
    | some body => some { h with thread := .preparing body, sent := none }
    | none => if h.launcher.hasReturned then some { h with thread := .empty } else none
  | .preparing body => some { h with thread := .reporting (setUp host config) body }
  | .reporting report body =>
    -- a report that nobody waits for is dropped
    if h.launcher.hasReturned then some { h with thread := .reported config body report }
    else
      match h.reported with
      | none =>
        some { h with thread := .reported config body report, reported := some report }
      | some _ => none
  | .leaving body => some { h with thread := .serving (rejected config body) }
  | .serving _ => none
  | .empty => none
  | .joined => none

/-- One step of the loop of the thread, if it is there. -/
def loopStep [CycleBody B R] (answer : Answer R) (h : Handshake B) : Handshake B :=
  match h.thread with
  | .serving w => { h with thread := .serving (w.step answer) }
  | _ => h

/-- Whose turn it is. -/
inductive Turn (R : Type) where
  | launcher
  | thread
  | loop (answer : Answer R)

/-- One turn. A party that waits lets its turn pass. -/
def turn [CycleBody B R] (host : Host) (config : Config) (h : Handshake B) :
    Turn R → Handshake B
  | .launcher => h.launcherStep?.getD h
  | .thread => (h.threadStep? host config).getD h
  | .loop answer => h.loopStep answer

def run [CycleBody B R] (host : Host) (config : Config) (turns : List (Turn R))
    (h : Handshake B) : Handshake B :=
  turns.foldl (turn host config) h

/-- What the launcher returns: the worker that has the body, or what went wrong. -/
def outcome? (h : Handshake B) : Option (Except (LaunchFault B) (Worker B)) :=
  match h.launcher, h.thread with
  | .launched, .serving w => some (.ok w)
  | .failed fault, _ => some (.error fault)
  | _, _ => none

/-- An order of turns in which neither waits for the other. -/
def direct : List (Turn R) :=
  [.launcher, .thread, .thread, .thread, .thread, .launcher, .launcher]

theorem outcome?_run_direct [CycleBody B R] (host : Host) (config : Config) (body : B) :
    ((start body).run host config direct).outcome? =
      match host.apply config.setup with
      | .ok () => some (.ok (.ready config body))
      | .error fault => some (.error ⟨fault, some body⟩) := by
  show (run host config [.thread, .thread, .launcher, .launcher]
    ⟨.listening, .reporting (setUp host config) body, none, none⟩).outcome? = _
  rw [setUp_eq]
  cases host.apply config.setup <;> rfl

end Handshake

/-- Launch a worker: the thread is created, takes the body, sets itself up and reports back. The
body comes back with a refusal. -/
def launch [CycleBody B R] (host : Host) (config : Config) (body : B) :
    Except (LaunchFault B) (Worker B) :=
  match host.spawn with
  | some cause => .error ⟨.spawn cause, some body⟩
  | none =>
    ((Handshake.start body).run host config Handshake.direct).outcome?.getD (.error ⟨.lost, none⟩)

/-- A launch fails with the refusal of the thread or of its setup, and then gives the body back. -/
theorem launch_eq [CycleBody B R] (host : Host) (config : Config) (body : B) :
    launch host config body =
      match host.spawn, host.apply config.setup with
      | some cause, _ => .error ⟨.spawn cause, some body⟩
      | none, .error fault => .error ⟨fault, some body⟩
      | none, .ok () => .ok (.ready config body) := by
  rw [launch, Handshake.outcome?_run_direct]
  cases host.spawn <;> cases host.apply config.setup <;> rfl

end CyclicBus.Worker

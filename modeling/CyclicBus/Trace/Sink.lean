import CyclicBus.Trace.Log
import CyclicBus.Trace.Metrics

/-!
# Sinks and handles

A sink takes events: it writes them to a log, drops them, or keeps them. Events reach it through
handles; each handle has its own switch, copied when the handle is, and all handles of a `Tracing`
feed one sink.
-/

namespace CyclicBus

/-- A receiver of events. -/
inductive Sink where
  | log (metrics : SinkMetrics) (records : Array LogRecord)
  | null
  | recording (metrics : SinkMetrics) (cycleEvents : Array CycleEvent)
      (lifecycleEvents : Array LifecycleEvent)
  deriving DecidableEq, Repr

/-- A sink that is asked for or used wrongly. -/
inductive SinkFault where
  | initializationFailed (context : String)
  | notInitialized
  | unknown (name : String)
  deriving DecidableEq, Repr

namespace SinkFault

def message : SinkFault → String
  | initializationFailed context => "Observability sink initialization failed: " ++ context
  | notInitialized => "Observability sink not initialized"
  | unknown name => "Unknown observability sink '" ++ name ++ "'"

/-- Whether a later attempt may succeed. -/
def isRecoverable : SinkFault → Bool
  | notInitialized => true
  | _ => false

def name : SinkFault → String
  | initializationFailed _ => "InitializationFailed"
  | notInitialized => "NotInitialized"
  | unknown _ => "UnknownSink"

end SinkFault

namespace Sink

def newLog : Sink := .log .zero #[]

def newRecording : Sink := .recording .zero #[] #[]

/-- The sink of a given name. -/
def ofName (name : String) : Except SinkFault Sink :=
  if name = "log" then .ok newLog
  else if name = "null" then .ok .null
  else .error (.unknown name)

/-- Whether a sink takes events at all. -/
def isEnabled : Sink → Bool
  | null => false
  | _ => true

/-- The counts of a sink. -/
def metrics : Sink → SinkMetrics
  | log m _ => m
  | null => .zero
  | recording m _ _ => m

def records : Sink → Array LogRecord
  | log _ r => r
  | _ => #[]

def cycleEvents : Sink → Array CycleEvent
  | recording _ c _ => c
  | _ => #[]

def lifecycleEvents : Sink → Array LifecycleEvent
  | recording _ _ l => l
  | _ => #[]

/-- Take a cycle event. -/
def emitCycle (s : Sink) (e : CycleEvent) : Sink :=
  match s with
  | log m r => .log (m.countCycle e) (r.push (.ofCycleEvent e))
  | null => .null
  | recording m c l => .recording (m.countCycle e) (c.push e) l

def emitLifecycle (s : Sink) (e : LifecycleEvent) : Sink :=
  match s with
  | log m r => .log m.countLifecycle (r.push (.ofLifecycleEvent e))
  | null => .null
  | recording m c l => .recording m.countLifecycle c (l.push e)

/-- Put a sink to use. -/
def start (s : Sink) : Sink :=
  match s with
  | log m r => .log m (r.push .sinkInUse)
  | other => other

/-- Forget the events kept; counts stay. -/
def clear (s : Sink) : Sink :=
  match s with
  | recording m _ _ => .recording m #[] #[]
  | other => other

end Sink

/-- One handle on a sink. -/
structure Trace where
  sink : Sink
  enabled : Bool
  deriving DecidableEq, Repr

namespace Trace

def ofSink (sink : Sink) : Trace := ⟨sink, true⟩

/-- Whether events given to the handle reach a sink that takes them. -/
def isEnabled (t : Trace) : Bool := t.enabled && t.sink.isEnabled

def emitCycle (t : Trace) (e : CycleEvent) : Trace :=
  if t.enabled then { t with sink := t.sink.emitCycle e } else t

def emitLifecycle (t : Trace) (e : LifecycleEvent) : Trace :=
  if t.enabled then { t with sink := t.sink.emitLifecycle e } else t

end Trace

/-- One sink and the switches of all handles on it. -/
structure Tracing where
  sink : Sink
  handles : Array Bool
  deriving DecidableEq, Repr

namespace Tracing

/-- One handle on a sink, switched on. -/
def ofSink (sink : Sink) : Tracing := ⟨sink, #[true]⟩

/-- The handle of a given number; one that was never made is switched off. -/
def handle (t : Tracing) (i : Nat) : Trace := ⟨t.sink, t.handles.getD i false⟩

/-- Make one more handle, with the switch of handle `i`. -/
def clone (t : Tracing) (i : Nat) : Tracing :=
  { t with handles := t.handles.push (t.handles.getD i false) }

def setEnabled (t : Tracing) (i : Nat) (b : Bool) : Tracing :=
  { t with handles := t.handles.setIfInBounds i b }

/-- Give a cycle event to handle `i`. -/
def emitCycle (t : Tracing) (i : Nat) (e : CycleEvent) : Tracing :=
  { t with sink := ((t.handle i).emitCycle e).sink }

def emitLifecycle (t : Tracing) (i : Nat) (e : LifecycleEvent) : Tracing :=
  { t with sink := ((t.handle i).emitLifecycle e).sink }

def start (t : Tracing) : Tracing := { t with sink := t.sink.start }

def clear (t : Tracing) : Tracing := { t with sink := t.sink.clear }

end Tracing

end CyclicBus

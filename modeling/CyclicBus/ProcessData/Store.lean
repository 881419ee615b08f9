import CyclicBus.ProcessData.Image
import CyclicBus.ProcessData.Snapshot

/-!
# Process data

What a run and its users exchange: the latest snapshot, the commanded outputs, and bounded channels
on which subscribers receive snapshots. The worker never waits for it: where a part is held by
another thread the worker goes on without it.
-/

namespace CyclicBus

/-- A subscriber: at most `capacity` snapshots wait for it, oldest first. `listening` is lost when
the receiver is dropped, `attached` at the first publication after that. -/
structure Subscriber where
  capacity : Nat
  queue : List Snapshot
  listening : Bool
  attached : Bool
  deriving DecidableEq, Repr

/-- What a receiver finds on its channel. -/
inductive Subscriber.Received where
  | snapshot (s : Snapshot)
  | empty
  | disconnected
  | unsubscribed
  deriving DecidableEq, Repr

namespace Subscriber

/-- A new subscriber; its channel holds at least one snapshot. -/
def ofCapacity (capacity : Nat) : Subscriber := ⟨max capacity 1, [], true, true⟩

/-- Whether a publication finds the channel of a live subscriber full. -/
def refuses (s : Subscriber) : Bool :=
  s.attached && s.listening && decide (s.capacity ≤ s.queue.length)

/-- Offer a snapshot: a dropped receiver is detached, a full channel loses the snapshot. -/
def offer (s : Subscriber) (x : Snapshot) : Subscriber :=
  if !s.attached then s
  else if !s.listening then { s with attached := false, queue := [] }
  else if s.capacity ≤ s.queue.length then s
  else { s with queue := s.queue ++ [x] }

def receive (s : Subscriber) : Received × Subscriber :=
  if !s.listening then (.unsubscribed, s)
  else
    match s.queue with
    | x :: rest => (.snapshot x, { s with queue := rest })
    | [] => (if s.attached then .empty else .disconnected, s)

def drop (s : Subscriber) : Subscriber := { s with listening := false }

end Subscriber

/-- What a run and its users exchange. -/
structure ProcessData where
  latest : Option Snapshot
  image : OutputImage
  subscribers : List Subscriber
  outputLengths : List Nat
  published : UInt64
  dropped : UInt64
  subscriberDrops : UInt64
  deriving DecidableEq, Repr

namespace ProcessData

/-- Nothing published, all outputs zero. -/
def ofTopology (t : Topology) : ProcessData where
  latest := none
  image := .ofTopology t
  subscribers := []
  outputLengths := t.devices.map fun d => d.output.len.toNat
  published := 0
  dropped := 0
  subscriberDrops := 0

/-- Check an output command: the device exists and has as many output bytes. -/
def checkCommand (p : ProcessData) (device : Nat) (bytes : List UInt8) : Except Violation Unit :=
  match p.outputLengths[device]? with
  | none => .error (.numberOutOfRange "device" device 0 (p.outputLengths.length - 1))
  | some expected =>
    if bytes.length = expected then .ok ()
    else .error (.constraint
      s!"device {device} expects {expected} output bytes, got {bytes.length}")

/-- Command the outputs of a device; a refused command changes nothing. -/
def command (p : ProcessData) (device : Nat) (bytes : List UInt8) :
    Except Violation Unit × ProcessData :=
  match p.checkCommand device bytes with
  | .ok () => (.ok (), { p with image := p.image.put device bytes })
  | .error v => (.error v, p)

def zeroOutputs (p : ProcessData) : ProcessData := { p with image := p.image.zero }

/-- Add a subscriber at the end of the list. -/
def subscribe (p : ProcessData) (capacity : Nat) : ProcessData :=
  { p with subscribers := p.subscribers ++ [.ofCapacity capacity] }

def receive (p : ProcessData) (index : Nat) : Subscriber.Received × ProcessData :=
  match p.subscribers[index]? with
  | none => (.unsubscribed, p)
  | some s =>
    let (got, s) := s.receive
    (got, { p with subscribers := p.subscribers.set index s })

def unsubscribe (p : ProcessData) (index : Nat) : ProcessData :=
  { p with subscribers := p.subscribers.modify index Subscriber.drop }

/-- Offer a snapshot to every subscriber and count those whose channel is full. -/
def offer (p : ProcessData) (x : Snapshot) : ProcessData :=
  { p with
    subscribers := p.subscribers.map (·.offer x)
    subscriberDrops :=
      p.subscriberDrops + .ofNat (p.subscribers.countP Subscriber.refuses) }

/-- Publish a snapshot. The two flags tell whether the latest snapshot and the list of subscribers
are free. -/
def publish (p : ProcessData) (x : Snapshot) (latestFree subscribersFree : Bool) : ProcessData :=
  let p :=
    if latestFree then { p with latest := some x, published := p.published + 1 }
    else { p with dropped := p.dropped + 1 }
  if subscribersFree then p.offer x else p

end ProcessData

end CyclicBus

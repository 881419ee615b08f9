import CyclicBus.Clock.Sync
import CyclicBus.Node
import CyclicBus.ProcessData.Store

/-!
# Trees of process data and clocks

What tools see of a cycle: bytes are in hexadecimal, two digits each.
-/

namespace CyclicBus

def Text.hexDigit (n : Nat) : Char := Char.ofNat (if n < 10 then 48 + n else 87 + n)

/-- Bytes, two digits each. -/
def Text.hexBytes (bytes : List UInt8) : String :=
  .ofList (bytes.flatMap fun b => [hexDigit (b.toNat / 16), hexDigit (b.toNat % 16)])

instance (priority := high) : ToNode (List UInt8) := ⟨fun bytes => toNode (Text.hexBytes bytes)⟩

instance : ToNode DeviceBytes := ⟨fun d => toNode (d.device, d.bytes)⟩

/-- The fields that identify the moment of a snapshot, and its bytes. -/
def Snapshot.fields (s : Snapshot) : List (String × Node) :=
  [field "cycle" s.cycle, field "app" s.appTime, field "in_raw" s.inputBytes,
    field "out_raw" s.outputBytes]

instance : ToNode Snapshot where
  toNode s := .ofFields (s.fields ++ [field "in" s.inputs, field "out" s.outputs])

/-- A snapshot, or why there is none. -/
instance : ToNode Subscriber.Received where
  toNode
    | .snapshot s => .ofFields s.fields
    | .empty => toNode "Empty"
    | .disconnected => toNode "Disconnected"
    | .unsubscribed => toNode "unsubscribed"

instance : ToNode OutputImage where
  toNode i := .ofFields [field "devices" i.devices, field "generation" i.generation,
    field "zero" i.isZero]

/-- The values in the order of the state. -/
instance : ToNode ClockState where
  toNode s := toNode [toNode s.appTime, toNode s.timeBase, toNode s.rawDiff, toNode s.prevRawDiff,
    toNode s.diffTotal, toNode s.deltaTotal, toNode s.filterIndex, toNode s.adjustment,
    toNode s.started, toNode s.startAppTime]

instance : ToNode SyncReport where
  toNode r := toNode [toNode r.appTime,
    toNode (r.anomaly.map fun a => (a.hardware, a.timeBase)), toNode r.referenceUnavailable]

instance : ToNode DriftUpdate where
  toNode
    | .inactive => toNode ["Inactive"]
    | .skipped => toNode ["Skipped"]
    | .unarmed => toNode ["Unarmed"]
    | .armed first appTime => toNode [toNode "Armed", toNode first, toNode appTime]
    | .tracking => toNode ["Tracking"]
    | .adjusted adjustment saturated =>
      toNode [toNode "Adjusted", toNode adjustment, toNode saturated]

end CyclicBus

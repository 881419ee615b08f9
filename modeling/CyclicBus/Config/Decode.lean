import CyclicBus.Config.Document
import CyclicBus.Config.Record
import CyclicBus.Shape

/-!
# Decoding configurations

What a configuration tree means, and the shape by which an untyped text is read to get such a tree.
Sections of the document and the document itself admit no unknown fields; devices, ranges and
policies ignore them. A number must be written as an integer and lie within its type. `none` stands
for a tree that means nothing.
-/

namespace CyclicBus

namespace Node

def uint8? (n : Node) : Option UInt8 := (n.naturalBelow? UInt8.size).map .ofNat

def uint16? (n : Node) : Option UInt16 := (n.naturalBelow? UInt16.size).map .ofNat

def uint32? (n : Node) : Option UInt32 := (n.naturalBelow? UInt32.size).map .ofNat

def uint64? (n : Node) : Option UInt64 := (n.naturalBelow? UInt64.size).map .ofNat

/-- A value, or null for none. -/
def nullable? {α : Type} (decode : Node → Option α) (n : Node) : Option (Option α) :=
  if n.isNull then some none else (decode n).map some

def listOf? {α : Type} (decode : Node → Option α) (n : Node) : Option (List α) := do
  (← n.items?).mapM decode

end Node

/-! ## Policies

The kind of a policy stands among its fields, or before them in a list. A field may also be named by
its position. -/

namespace Policy

/-- The field that says of which kind a policy is. -/
def kindField : String := "kind"

def shape : Shape := .kinded kindField

/-- The kind that a node gives, and the node without it. -/
def kind? : Node → Option (String × Node)
  | .list (kind :: items) => return (← kind.text?, .list items)
  | .table entries => do
    let (kinds, others) := entries.partition (·.1.text? == some kindField)
    let [(_, kind)] := kinds | none
    return (← kind.text?, .table others)
  | _ => none

/-- The field that a key names. Some keys name no field at all; others cannot be a name. -/
def fieldOf? (names : List String) : Node → Option (Option String)
  | .scalar (.text name) => some (names.find? (· == name))
  | .scalar (.number (.ofNat n)) => some names[n]?
  | _ => none

/-- The fields that a node gives, none of them twice. A list gives all of them. -/
def fields? (names : List String) : Node → Option (List (String × Node))
  | .scalar _ => none
  | .list items => if items.length = names.length then some (names.zip items) else none
  | .table entries => do
    let given ← entries.mapM fun (key, value) => return (← fieldOf? names key, value)
    let known := given.filterMap fun (name, value) => name.map (·, value)
    if (known.map (·.1)).Nodup then some known else none

def ofNode? (n : Node) : Option Policy := do
  let (kind, rest) ← kind? n
  match kind with
  | "fixed_priority" => do
    let fields ← fields? ["priority"] rest
    return fixedPriority (← Record.required "priority" Node.uint8? fields)
  | "deadline_based" => do
    let fields ← fields? ["runtime_ns", "deadline_ns", "period_ns"] rest
    return deadline (← Record.required "runtime_ns" Node.uint64? fields)
      (← Record.required "deadline_ns" Node.uint64? fields)
      (← Record.required "period_ns" Node.uint64? fields)
  | "inherit" =>
    match rest with
    | .list (_ :: _) => none
    | _ => some inherit
  | _ => none

end Policy

/-! ## Words -/

def ClockSource.words : List (String × ClockSource) :=
  [("monotonic", .monotonic), ("realtime", .realtime)]

def SyncMode.words : List (String × SyncMode) :=
  [("master_follows_reference", .masterFollowsReference),
    ("reference_follows_master", .referenceFollowsMaster)]

/-! ## Records -/

def ByteRange.fields : List (String × Shape) := [("offset", .natural), ("len", .natural)]

def ByteRange.ofNode? (n : Node) : Option ByteRange := do
  let given ← n.fields? false fields
  return {
    offset := ← Record.required "offset" Node.uint64? given
    len := ← Record.required "len" Node.uint64? given }

def Device.fields : List (String × Shape) :=
  [("name", .text), ("alias", .natural), ("position", .natural), ("vendor_id", .natural),
    ("product_code", .natural), ("assign_activate", .natural), ("sync0_shift_ns", .natural),
    ("input", .record ByteRange.fields), ("output", .record ByteRange.fields)]

def Device.ofNode? (n : Node) : Option Device := do
  let given ← n.fields? false fields
  return {
    name := ← Record.required "name" Node.text? given
    stationAlias := ← Record.optional "alias" 0 Node.uint16? given
    position := ← Record.required "position" Node.uint16? given
    vendorId := ← Record.required "vendor_id" Node.uint32? given
    productCode := ← Record.required "product_code" Node.uint32? given
    assignActivate :=
      ← Record.optional "assign_activate" standardAssignActivate Node.uint16? given
    sync0Shift := ← Record.optional "sync0_shift_ns" 0 Node.uint32? given
    input := ← Record.required "input" ByteRange.ofNode? given
    output := ← Record.required "output" ByteRange.ofNode? given }

def CycleConfig.fields : List (String × Shape) :=
  [("period_ns", .natural), ("policy", Policy.shape), ("cpu_affinity", .listOf .natural),
    ("clock", .word), ("lock_memory", .flag), ("sync_mode", .word), ("reference_device", .natural),
    ("filter_window", .natural), ("drift_clamp_ns", .natural),
    ("run_duration_ms", .nullable .natural), ("master_health_interval", .nullable .natural)]

/-- The cycle configuration that a node means. Every field has its standard value. -/
def CycleConfig.ofNode? (n : Node) : Option CycleConfig := do
  let given ← n.fields? true fields
  return {
    period := ← Record.optional "period_ns" standard.period Node.uint64? given
    policy := ← Record.optional "policy" standard.policy Policy.ofNode? given
    processors :=
      ← Record.optional "cpu_affinity" standard.processors (Node.listOf? Node.uint64?) given
    clock := ← Record.optional "clock" standard.clock (Node.word? ClockSource.words) given
    lockMemory := ← Record.optional "lock_memory" standard.lockMemory Node.flag? given
    syncMode :=
      ← Record.optional "sync_mode" standard.syncMode (Node.word? SyncMode.words) given
    referenceDevice :=
      ← Record.optional "reference_device" standard.referenceDevice Node.uint64? given
    filterWindow := ← Record.optional "filter_window" standard.filterWindow Node.uint32? given
    driftClamp := ← Record.optional "drift_clamp_ns" standard.driftClamp Node.uint32? given
    runDuration :=
      ← Record.optional "run_duration_ms" standard.runDuration (Node.nullable? Node.uint64?) given
    healthInterval := ← Record.optional "master_health_interval" standard.healthInterval
      (Node.nullable? Node.uint32?) given }

namespace Document

def sinkFields : List (String × Shape) := [("sink", .text)]

/-- The sink that an observability section names. -/
def sinkOfNode? (n : Node) : Option String := do
  Record.optional "sink" standardSink Node.text? (← n.fields? true sinkFields)

def fields : List (String × Shape) :=
  [("cycle", .record CycleConfig.fields), ("devices", .listOf (.record Device.fields)),
    ("observability", .record sinkFields), ("domain_size", .nullable .natural)]

def shape : Shape := .record fields

def ofNode? (n : Node) : Option Document := do
  let given ← n.fields? true fields
  return {
    cycle := ← Record.optional "cycle" .standard CycleConfig.ofNode? given
    devices := ← Record.required "devices" (Node.listOf? Device.ofNode?) given
    sinkName := ← Record.optional "observability" standardSink sinkOfNode? given
    domainSize := ← Record.optional "domain_size" none (Node.nullable? Node.uint64?) given }

end Document

end CyclicBus

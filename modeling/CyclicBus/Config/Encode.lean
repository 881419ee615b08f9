import CyclicBus.Config.Decode

/-!
# Encoding configurations

The tree of a configuration, with all its fields in their order.
-/

namespace CyclicBus

/-- A kind, and the parameters of that kind. -/
instance : ToNode Policy where
  toNode
    | .fixedPriority priority =>
      .ofFields [field "kind" "fixed_priority", field "priority" priority]
    | .deadline runtime limit period =>
      .ofFields [field "kind" "deadline_based", field "runtime_ns" runtime,
        field "deadline_ns" limit, field "period_ns" period]
    | .inherit => .ofFields [field "kind" "inherit"]

def SyncMode.name : SyncMode → String
  | masterFollowsReference => "master_follows_reference"
  | referenceFollowsMaster => "reference_follows_master"

instance : ToNode ByteRange where
  toNode r := .ofFields [field "offset" r.offset, field "len" r.len]

instance : ToNode Device where
  toNode d := .ofFields [
    field "name" d.name,
    field "alias" d.stationAlias,
    field "position" d.position,
    field "vendor_id" d.vendorId,
    field "product_code" d.productCode,
    field "assign_activate" d.assignActivate,
    field "sync0_shift_ns" d.sync0Shift,
    field "input" d.input,
    field "output" d.output]

instance : ToNode CycleConfig where
  toNode c := .ofFields [
    field "period_ns" c.period,
    field "policy" c.policy,
    field "cpu_affinity" c.processors,
    field "clock" c.clock.name,
    field "lock_memory" c.lockMemory,
    field "sync_mode" c.syncMode.name,
    field "reference_device" c.referenceDevice,
    field "filter_window" c.filterWindow,
    field "drift_clamp_ns" c.driftClamp,
    field "run_duration_ms" c.runDuration,
    field "master_health_interval" c.healthInterval]

instance : ToNode Document where
  toNode d := .ofFields [
    field "cycle" d.cycle,
    field "devices" d.devices,
    field "observability" (Node.ofFields [field "sink" d.sinkName]),
    field "domain_size" d.domainSize]

end CyclicBus

import Mathlib.Algebra.BigOperators.Group.List.Basic
import CyclicBus.Bus.SimulatedMaster
import CyclicBus.Proofs.Bus.DomainBytes
import CyclicBus.Proofs.Exchange.Runs
import CyclicBus.Proofs.ProcessData.LastWriter

/-!
# Faithful snapshots

A pipeline fills the same snapshot in every cycle, and an entry keeps its old bytes where those read
for it have another length. That never happens in a domain of the required size: the entries keep
the lengths of their devices through any run (`KeepsShape.happenings`), so every entry is replaced,
and the snapshot is a function of the domain (`Shaped.shows`). `publishes_of_large` says so of the
snapshot that a cycle publishes, and that the cycle tells the session the snapshot's time.
-/

namespace CyclicBus

/-- A master whose answers about health leave the domain memory as it is. -/
class QuietHealth (M : Type) [MasterSession M] : Prop where
  domain_domainHealth (m : M) :
    MasterSession.domain (MasterSession.domainHealth m).2 = MasterSession.domain m
  domain_masterHealth (m : M) :
    MasterSession.domain (MasterSession.masterHealth m).2 = MasterSession.domain m

instance : QuietHealth ScriptedMaster := ⟨fun _ => rfl, fun _ => rfl⟩

instance : QuietHealth SimulatedMaster := ⟨fun _ => rfl, fun _ => rfl⟩

/-! ## Shape and content of a snapshot -/

namespace Snapshot

/-- The entries of a direction. -/
def entries (s : Snapshot) : Direction → List DeviceBytes
  | .input => s.inputs
  | .output => s.outputs

/-- The bytes of all devices in a row. -/
def raw (s : Snapshot) : Direction → List UInt8
  | .input => s.inputBytes
  | .output => s.outputBytes

theorem raw_eq (s : Snapshot) (direction : Direction) :
    s.raw direction = ((s.entries direction).map (·.bytes)).flatten := by
  cases direction <;> exact List.flatMap_def

/-- There is an entry for each device, in index order, and with the device's length. -/
def Shaped (t : Topology) (s : Snapshot) : Prop :=
  ∀ direction, (s.entries direction).map (fun e => (e.device, e.bytes.length)) =
    t.devices.mapIdx fun k d => (k, (d.range direction).len.toNat)

theorem shaped_ofTopology (t : Topology) : (ofTopology t).Shaped t := by
  intro direction
  apply List.ext_getElem?
  cases direction <;> simp [entries, ofTopology, Device.range, Function.comp_def]

/-- Filling entries keeps their shape. -/
theorem map_refill (read : Nat → Option (List UInt8)) (es : List DeviceBytes) :
    (refill read es).map (fun e => (e.device, e.bytes.length)) =
      es.map fun e => (e.device, e.bytes.length) := by
  unfold refill
  rw [List.map_map]
  refine List.map_congr_left fun e _ => ?_
  rw [Function.comp_apply]
  cases read e.device with
  | none => rfl
  | some bytes =>
    dsimp only
    split
    · rename_i hlength
      rw [hlength]
    · rfl

/-- Entries of the right shape are all filled. -/
theorem refill_eq {read : Nat → Option (List UInt8)} {es : List DeviceBytes}
    {devices : List Device} {length : Device → Nat} {bytes : Device → List UInt8}
    (shape : es.map (fun e => (e.device, e.bytes.length)) =
      devices.mapIdx fun k d => (k, length d))
    (hread : ∀ k d, devices[k]? = some d → read k = some (bytes d) ∧ (bytes d).length = length d) :
    refill read es = devices.mapIdx fun k d => ⟨k, bytes d⟩ := by
  apply List.ext_getElem?
  intro k
  have hk := congrArg (·[k]?) shape
  simp only [List.getElem?_map, List.getElem?_mapIdx] at hk
  rw [refill, List.getElem?_map, List.getElem?_mapIdx]
  cases hd : devices[k]? with
  | none =>
    rw [hd] at hk
    rw [Option.map_eq_none_iff.1 hk]
    rfl
  | some d =>
    rw [hd] at hk
    obtain ⟨e, he, heq⟩ := Option.map_eq_some_iff.1 hk
    obtain ⟨hdevice, hlength⟩ := Prod.mk.inj heq
    obtain ⟨hsome, hbytes⟩ := hread k d hd
    rw [he, Option.map_some, Option.map_some, hdevice, hsome]
    dsimp only
    -- the lengths agree, so nothing old is kept
    rw [if_pos (hbytes.trans hlength.symm)]

end Snapshot

namespace Topology

/-- The bytes of a device in a domain. -/
def slice? (t : Topology) (direction : Direction) (index : Nat) (domain : List UInt8) :
    Option (List UInt8) :=
  match direction with
  | .input => t.input? index domain
  | .output => t.output? index domain

theorem slice?_eq {t : Topology} {direction : Direction} {k : Nat} {d : Device}
    (hd : t.devices[k]? = some d) (domain : List UInt8) :
    t.slice? direction k domain = (d.range direction).slice? domain := by
  cases direction <;> simp [slice?, input?, output?, device?, hd, Device.range]

end Topology

namespace ByteRange

theorem length_slice? {r : ByteRange} {memory bytes : List UInt8}
    (h : r.slice? memory = some bytes) : bytes.length = r.len.toNat := by
  unfold slice? at h
  split at h
  · rename_i hfits
    obtain ⟨-, hle⟩ := (fits_iff _ _).1 hfits
    cases h
    rw [List.length_take, List.length_drop]
    omega
  · cases h

end ByteRange

namespace Snapshot

variable {t : Topology} {s : Snapshot} {domain : List UInt8} {cycle appTime : UInt64}

theorem entries_capture (direction : Direction) :
    (s.capture t domain cycle appTime).entries direction =
      refill (fun k => t.slice? direction k domain) (s.entries direction) := by
  cases direction <;> rfl

theorem Shaped.capture (h : s.Shaped t) (t' : Topology) (domain : List UInt8)
    (cycle appTime : UInt64) : (s.capture t' domain cycle appTime).Shaped t := by
  intro direction
  rw [entries_capture, map_refill]
  exact h direction

theorem Shaped.lengths (h : s.Shaped t) (direction : Direction) :
    (s.entries direction).map (·.bytes.length) =
      t.devices.map fun d => (d.range direction).len.toNat := by
  have hsnd := congrArg (List.map Prod.snd) (h direction)
  rw [List.map_map] at hsnd
  refine hsnd.trans (List.ext_getElem? fun k => ?_)
  simp [Function.comp_def]

/-- The bytes of an entry follow those of the entries before it. -/
theorem segment_eq {es : List DeviceBytes} {k : Nat} {e : DeviceBytes} (he : es[k]? = some e) :
    (((es.map (·.bytes)).flatten.drop ((es.map (·.bytes.length)).take k).sum).take
      e.bytes.length) = e.bytes := by
  obtain ⟨hk, hget⟩ := List.getElem?_eq_some_iff.1 he
  have hdrop := List.drop_sum_flatten (es.map (·.bytes)) k
  rw [List.map_map] at hdrop
  have hlt : k < (es.map (·.bytes)).length := by rwa [List.length_map]
  refine (congrArg (List.take _) hdrop).trans ?_
  rw [List.drop_eq_getElem_cons hlt, List.getElem_map, hget, List.flatten_cons,
    List.take_left' rfl]

/-- The snapshot shows the bytes of every device in a domain, and nothing else. -/
structure Shows (t : Topology) (domain : List UInt8) (s : Snapshot) : Prop where
  length (direction : Direction) : (s.entries direction).length = t.size
  entry (direction : Direction) (k : Nat) (d : Device) : t.devices[k]? = some d →
    ∃ bytes, t.slice? direction k domain = some bytes ∧
      (s.entries direction)[k]? = some ⟨k, bytes⟩
  /-- Of the bytes in a row, those of a device follow those of the devices before it. -/
  segment (direction : Direction) (k : Nat) (d : Device) : t.devices[k]? = some d →
    t.slice? direction k domain = some
      (((s.raw direction).drop
        ((t.devices.take k).map fun e => (e.range direction).len.toNat).sum).take
          (d.range direction).len.toNat)

/-- **A snapshot of the right shape shows the domain** that it is taken of. -/
theorem Shaped.shows (h : s.Shaped t) (large : t.requiredSize.toNat ≤ domain.length) :
    (s.capture t domain cycle appTime).Shows t domain := by
  have hread (direction : Direction) (k : Nat) (d : Device) (hd : t.devices[k]? = some d) :
      t.slice? direction k domain = some (((d.range direction).slice? domain).getD []) ∧
        (((d.range direction).slice? domain).getD []).length = (d.range direction).len.toNat := by
    have hfits := Topology.fits_of_requiredSize (List.mem_of_getElem? hd) direction large
    obtain ⟨bytes, hbytes⟩ : ∃ bytes, (d.range direction).slice? domain = some bytes :=
      ⟨_, if_pos hfits⟩
    rw [Topology.slice?_eq hd, hbytes]
    exact ⟨rfl, ByteRange.length_slice? hbytes⟩
  have hentries (direction : Direction) :
      (s.capture t domain cycle appTime).entries direction =
        t.devices.mapIdx fun k d => ⟨k, ((d.range direction).slice? domain).getD []⟩ := by
    rw [entries_capture]
    exact refill_eq (h direction) (hread direction)
  have hentry (direction : Direction) (k : Nat) (d : Device) (hd : t.devices[k]? = some d) :
      ((s.capture t domain cycle appTime).entries direction)[k]? =
        some ⟨k, ((d.range direction).slice? domain).getD []⟩ := by
    rw [hentries, List.getElem?_mapIdx, hd]
    rfl
  refine ⟨fun direction => ?_, fun direction k d hd => ?_, fun direction k d hd => ?_⟩
  · rw [hentries, List.length_mapIdx]
    rfl
  · exact ⟨_, (hread direction k d hd).1, hentry direction k d hd⟩
  · obtain ⟨hslice, hlength⟩ := hread direction k d hd
    have hsegment := segment_eq (hentry direction k d hd)
    rw [(h.capture t domain cycle appTime).lengths direction, ← raw_eq, ← List.map_take, hlength]
      at hsegment
    rw [hslice, hsegment]

end Snapshot

/-! ## A cycle -/

namespace Exchange

variable {M : Type}

/-- What a cycle publishes from and to. -/
def records (x : Exchange M) : Snapshot × ProcessData × Topology :=
  (x.snapshot, x.shared.data, x.shared.topology)

section Notes

variable (x : Exchange M) (cycle : UInt64)

theorem records_noteDomain (health : DomainHealth) :
    (x.noteDomain cycle health).records = x.records := by
  unfold noteDomain
  dsimp only
  split <;> split <;> rfl

theorem records_noteMaster (health : MasterHealth) :
    (x.noteMaster cycle health).records = x.records := by
  unfold noteMaster
  split <;> rfl

theorem records_noteSync (report : SyncReport) :
    (x.noteSync cycle report).records = x.records := by
  unfold noteSync
  cases report.anomaly <;> cases report.referenceUnavailable <;> cases hx : x.referenceLost <;>
    simp [records, hx, count, emit]

theorem records_noteDrift (update : DriftUpdate) :
    (x.noteDrift cycle update).records = x.records := by
  unfold noteDrift
  split <;> rfl

end Notes

variable [MasterSession M] (x : Exchange M) (cycle : UInt64) (r : Readings)

theorem records_checkHealth : (x.checkHealth cycle).records = x.records := by
  unfold checkHealth
  dsimp only
  split
  · exact (records_noteMaster _ cycle _).trans (records_noteDomain _ cycle _)
  · exact records_noteDomain _ cycle _

theorem records_afterOutputs : (x.afterOutputs cycle r).records = x.records :=
  (records_noteDrift _ cycle _).trans (records_noteSync _ cycle _)

/-- A pipeline that has looked at the health. -/
def asked : Exchange M := ((x.call MasterSession.receive).call MasterSession.processDomain).looked

theorem domain_asked [QuietHealth M] :
    MasterSession.domain x.asked.master = MasterSession.domain x.processed := by
  have hlooked : x.asked.master =
      if x.pollIn = 0 then
        (MasterSession.masterHealth (MasterSession.domainHealth x.processed).2).2
      else (MasterSession.domainHealth x.processed).2 := by
    unfold asked looked
    dsimp only
    show (if x.pollIn = 0 then _ else _ : Exchange M).master = _
    split <;> rfl
  rw [hlooked]
  split
  · rw [QuietHealth.domain_masterHealth, QuietHealth.domain_domainHealth]
  · exact QuietHealth.domain_domainHealth _

/-- The snapshot of a cycle. -/
def captured : Snapshot :=
  x.snapshot.capture x.shared.topology (MasterSession.domain x.asked.master) cycle
    (x.clock.timeAt r.snapshotClock)

/-- A cycle publishes its snapshot, and keeps it. -/
theorem records_execute :
    (x.execute cycle r).records =
      (x.captured cycle r,
        x.shared.data.publish (x.captured cycle r) r.latestFree r.subscribersFree,
        x.shared.topology) := by
  let y := ((x.call MasterSession.receive).call MasterSession.processDomain).checkHealth cycle
  have hnoted : Noted [] x.asked y := noted_checkHealth _ cycle
  have hrecords : y.records = x.records := records_checkHealth _ cycle
  obtain ⟨hsnapshot, hdata, htopology⟩ : y.snapshot = x.snapshot ∧
      y.shared.data = x.shared.data ∧ y.shared.topology = x.shared.topology := by
    simpa [records] using hrecords
  have hclock : y.clock = x.clock := hnoted.clock.trans (clock_looked _)
  have hpublish : (y.publish cycle r).records =
      (x.captured cycle r,
        x.shared.data.publish (x.captured cycle r) r.latestFree r.subscribersFree,
        x.shared.topology) := by
    unfold publish captured
    rw [hsnapshot, hdata, htopology, hclock, hnoted.master]
    dsimp only
    split
    · exact congrArg (fun t => (_, _, t)) htopology
    · exact congrArg (fun t => (_, _, t)) htopology
  rw [execute_eq, records_afterOutputs]
  exact hpublish

/-- What a cycle does to the session once it has told it the time. -/
def afterTime (m : M) : M :=
  MasterSession.send r.sendClock <| MasterSession.syncSlaves <|
    match x.clock.params.mode with
    | .masterFollowsReference => (MasterSession.referenceTime r.referenceClock m).2
    | .referenceFollowsMaster => MasterSession.syncReference m

/-- A cycle tells the session one time. -/
theorem master_execute :
    (x.execute cycle r).master = x.afterTime r
      (MasterSession.setApplicationTime (x.clock.timeAt r.syncClock) (x.prepared r).master) := by
  rw [(noted_execute x cycle r).master, ← clock_prepared x r]
  show MasterSession.send r.sendClock
    ((x.prepared r).clock.sync r.syncClock r.referenceClock (x.prepared r).master).2.2 = _
  unfold afterTime ClockSync.sync
  rw [clock_prepared x r]
  cases x.clock.params.mode <;> rfl

/-! ## A run -/

/-- The snapshot of a pipeline has the shape of its topology. -/
structure KeepsShape (t : Topology) (x : Exchange M) : Prop where
  topology : x.shared.topology = t
  shaped : x.snapshot.Shaped t

namespace KeepsShape

variable {t : Topology} {x}

omit [MasterSession M] in
theorem start (master : M) (shared : Shared) (config : CycleConfig) :
    KeepsShape shared.topology (Exchange.start master shared config) :=
  ⟨rfl, Snapshot.shaped_ofTopology _⟩

theorem execute (h : KeepsShape t x) (cycle : UInt64) (r : Readings) :
    KeepsShape t (x.execute cycle r) := by
  have hrecords := records_execute x cycle r
  have hsnapshot : (x.execute cycle r).snapshot = x.captured cycle r := congrArg (·.1) hrecords
  refine ⟨(congrArg (·.2.2) hrecords).trans h.topology, ?_⟩
  rw [hsnapshot]
  exact h.shaped.capture _ _ _ _

theorem happenings (h : KeepsShape t x) (hs : List (PipelineHappening M)) :
    KeepsShape t (x.happenings hs) := by
  induction hs generalizing x with
  | nil => exact h
  | cons event hs ih =>
    refine ih ?_
    match event with
    | .call (.cycle context r) => exact h.execute context.cycle r
    | .call (.overrun context exec) => exact ⟨h.topology, h.shaped⟩
    | .call (.window context w) => exact ⟨h.topology, h.shaped⟩
    | .outside i => exact ⟨h.topology, h.shaped⟩

end KeepsShape

/-- A cycle publishes a snapshot that is faithful to what the cycle does. -/
structure Publishes (t : Topology) (x : Exchange M) (cycle : UInt64) (r : Readings) (s : Snapshot) :
    Prop where
  latest : (x.execute cycle r).shared.data.latest = some s
  cycle_eq : s.cycle = cycle
  shows : s.Shows t (MasterSession.domain x.processed)
  /-- That domain is the one that the outputs of the cycle are then written into. -/
  unwritten : MasterSession.domain (x.beforeOutputs cycle r).master =
    MasterSession.domain x.processed
  appTime : s.appTime = x.clock.timeAt r.snapshotClock
  /-- The time that the session is told, unless the clock goes on between the two readings. -/
  told : r.snapshotClock = r.syncClock →
    (x.execute cycle r).master = x.afterTime r
      (MasterSession.setApplicationTime s.appTime (x.prepared r).master)

/-- **Snapshots are faithful.** In any run a cycle that finds a domain of the required size and the
latest snapshot free publishes what it found, all of it and nothing else. -/
theorem publishes_of_large [QuietHealth M] (master : M) (shared : Shared) (config : CycleConfig)
    (hs : List (PipelineHappening M)) (cycle : UInt64) (r : Readings) (free : r.latestFree = true)
    (large : shared.topology.requiredSize.toNat ≤
      (MasterSession.domain ((start master shared config).happenings hs).processed).length) :
    ∃ s, Publishes shared.topology ((start master shared config).happenings hs) cycle r s := by
  let x := (start master shared config).happenings hs
  have hshape := (KeepsShape.start master shared config).happenings hs
  have hdomain : MasterSession.domain x.asked.master = MasterSession.domain x.processed :=
    x.domain_asked
  have hcaptured : x.captured cycle r = x.snapshot.capture shared.topology
      (MasterSession.domain x.processed) cycle (x.clock.timeAt r.snapshotClock) := by
    rw [captured, hdomain, hshape.topology]
  have hdata := congrArg (·.2.1.latest) (records_execute x cycle r)
  rw [free] at hdata
  refine ⟨x.captured cycle r,
    { latest := hdata.trans ?_
      cycle_eq := rfl
      shows := ?_
      unwritten := ?_
      appTime := rfl
      told := fun hclock => ?_ }⟩
  · cases r.subscribersFree <;> rfl
  · rw [hcaptured]
    exact hshape.shaped.shows large
  · have hmaster : (x.beforeOutputs cycle r).master = x.asked.master :=
      (noted_publish _ cycle r).master.trans (noted_checkHealth _ cycle).master
    rw [hmaster, hdomain]
  · rw [master_execute, ← hclock]
    rfl

/-- A cycle, and then all bytes of the domain change. -/
def refilled : List (PipelineHappening ScriptedMaster) :=
  [.call (.cycle ⟨0, 1000, 1000, 0, 1000⟩ (.still 1000)),
    .outside ⟨fun m => { m with domain := [10, 11, 12, 13, 14, 15, 16, 17] }, id⟩]

/-- The next cycle publishes the new bytes. -/
theorem publishes_of_large_of_refilled :
    let shared := Shared.ofTopology .pair (.ofSink .null)
    let x := (start (ScriptedMaster.ofDomainSize 8) shared (.unprivileged 1000)).happenings refilled
    let y := x.execute 1 (.still 2000)
    shared.topology.requiredSize.toNat ≤ (MasterSession.domain x.processed).length ∧
      (∃ s, Publishes shared.topology x 1 (.still 2000) s) ∧
      y.shared.data.latest =
        some ⟨1, 2000, [⟨0, [10]⟩, ⟨1, [14]⟩], [⟨0, [11, 12]⟩, ⟨1, [15, 16]⟩]⟩ ∧
      y.master.journal.contains (.setApplicationTime 2000) ∧
      y.master.domain = [10, 0, 0, 13, 14, 0, 0, 17] := by
  intro shared x y
  have large : shared.topology.requiredSize.toNat ≤ (MasterSession.domain x.processed).length := by
    decide +kernel
  have hfaithful := publishes_of_large (.ofDomainSize 8) shared (.unprivileged 1000) refilled 1
    (.still 2000) rfl
  exact ⟨large, hfaithful large, by decide +kernel, by decide +kernel, by decide +kernel⟩

end Exchange

end CyclicBus

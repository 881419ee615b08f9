import CyclicBus.Bus.ScriptedMaster
import CyclicBus.Proofs.Bus.DomainBytes
import CyclicBus.Proofs.Exchange.OutputFrame
import CyclicBus.Proofs.ProcessData.LastWriter

/-!
# The held outputs

Outputs are commanded and made zero while cycles run, stop, and start again over the same data.
`execute_writes_ledger`: in every cycle the output step writes for each device what was commanded
last, however the copy that the cycle holds was brought up to date. What carries it is `Current`: the
generations differ by the writes that the copy has missed, and a copy that missed none is the image.
-/

namespace CyclicBus

/-! ## The output step -/

namespace Exchange

variable {M : Type}

/-- Some devices of a table, written one after the other: the domain keeps its size meanwhile. -/
theorem foldl_putOutput? {t : Topology} {l : OutputLedger} (h : l.Fits t) {size : Nat}
    (es : List (Device × Nat)) (hes : ∀ e ∈ es, t.devices[e.2]? = some e.1)
    (memory : List UInt8) (hm : memory.length = size) :
    es.foldl (fun m e => (t.putOutput? e.2 (l.bytes e.2 e.1) m).getD m) memory =
      es.foldl
        (fun m e =>
          if e.1.output.fits size then
            ByteRange.overwrite e.1.output.offset.toNat (l.bytes e.2 e.1) m
          else m)
        memory := by
  induction es generalizing memory with
  | nil => rfl
  | cons e es ih =>
    have hd := hes e List.mem_cons_self
    have hrest : ∀ e ∈ es, t.devices[e.2]? = some e.1 :=
      fun e' he => hes e' (List.mem_cons_of_mem _ he)
    have hlength := OutputLedger.length_bytes h hd
    rw [List.foldl_cons, List.foldl_cons, Topology.getD_putOutput? hd hlength, hm]
    split
    · rename_i hfits
      refine ih hrest _ ?_
      rw [← hm] at hfits ⊢
      exact ByteRange.length_overwrite_of_fits hfits hlength
    · exact ih hrest _ hm

/-- Writing the table of a ledger is writing the ledger. -/
theorem writeOutputs_table {t : Topology} {l : OutputLedger} (h : l.Fits t)
    (domain : List UInt8) : writeOutputs t (l.table t) domain = l.write t domain := by
  have hzip : (l.table t).zipIdx = t.devices.zipIdx.map fun e => (l.bytes e.2 e.1, e.2) := by
    apply List.ext_getElem?
    intro k
    simp [OutputLedger.table, List.getElem?_zipIdx, Function.comp_def]
  unfold writeOutputs OutputLedger.write
  rw [hzip, List.foldl_map]
  exact foldl_putOutput? h _ (fun e he => List.mem_zipIdx_iff_getElem?.1 he) _ rfl

/-- The held copy of the outputs has missed some writes of the image, but no change of its shape. -/
structure Current (x : Exchange M) (missed : Nat) : Prop where
  shape : x.held.devices.map List.length = x.shared.data.image.devices.map List.length
  generation : x.shared.data.image.generation = x.held.generation + .ofNat missed
  devices : missed = 0 → x.held.devices = x.shared.data.image.devices

namespace Current

/-- A run starts with a copy of the image. -/
theorem start (master : M) (shared : Shared) (config : CycleConfig) :
    Current (Exchange.start master shared config) 0 :=
  ⟨rfl, (UInt64.add_zero _).symm, fun _ => rfl⟩

variable {x : Exchange M} {missed : Nat}

/-- A write of the image is one more that the copy has missed. -/
theorem write (h : x.Current missed) {data : ProcessData}
    (hgeneration : data.image.generation = x.shared.data.image.generation + 1)
    (hshape : data.image.devices.map List.length = x.shared.data.image.devices.map List.length) :
    Current { x with shared.data := data } (missed + 1) where
  shape := h.shape.trans hshape.symm
  generation := by
    show data.image.generation = x.held.generation + .ofNat (missed + 1)
    rw [hgeneration, h.generation, UInt64.ofNat_add, UInt64.add_assoc]
    rfl
  devices h := nomatch h

/-- Where the generation is that of the image, nothing was missed, unless the generations have gone
round. -/
theorem devices_of_generation (h : x.Current missed) (hmissed : missed < UInt64.size)
    (hsame : x.shared.data.image.generation = x.held.generation) :
    x.held.devices = x.shared.data.image.devices := by
  -- the missed writes are a multiple of the word size, so there are none
  have hgeneration := h.generation
  rw [hsame] at hgeneration
  have hzero := UInt64.left_eq_add.1 hgeneration
  rw [UInt64.ofNat_eq_iff_mod_eq_toNat] at hzero
  refine h.devices ?_
  rwa [Nat.mod_eq_of_lt hmissed] at hzero

variable [MasterSession M] {t : Topology} {l : OutputLedger} {cycle : UInt64} {r : Readings}

/-- The output step of a cycle brings the copy up to date and writes the ledger. -/
theorem applyOutputs (h : x.Current missed) (htopology : x.shared.topology = t)
    (hrecorded : Recorded t l x.shared.data) (hmissed : missed < UInt64.size)
    (hfree : r.outputsFree = true) :
    (x.applyOutputs r).master =
        MasterSession.setDomain (l.write t (MasterSession.domain x.master)) x.master ∧
      (x.applyOutputs r).held.devices = l.table t ∧ Current (x.applyOutputs r) 0 := by
  have hdevices : (x.shared.data.image.refresh x.held).devices = x.shared.data.image.devices :=
    OutputImage.devices_refresh h.shape (h.devices_of_generation hmissed)
  unfold Exchange.applyOutputs
  rw [if_pos hfree]
  refine ⟨?_, hdevices.trans hrecorded.devices, congrArg _ hdevices, ?_, fun _ => hdevices⟩
  · show MasterSession.setDomain (writeOutputs x.shared.topology
      (x.shared.data.image.refresh x.held).devices (MasterSession.domain x.master)) x.master = _
    rw [hdevices, hrecorded.devices, htopology, writeOutputs_table hrecorded.fits]
  · show x.shared.data.image.generation = (x.shared.data.image.refresh x.held).generation + 0
    rw [OutputImage.generation_refresh, UInt64.add_zero]

/-- What leaves image and copy alone keeps the copy as it is. -/
theorem of_outputFrame {y : Exchange M} (h : x.Current missed) (frame : OutputFrame x y) :
    y.Current missed := by
  refine ⟨?_, ?_, ?_⟩
  · rw [frame.held, frame.image]
    exact h.shape
  · rw [frame.held, frame.image]
    exact h.generation
  · rw [frame.held, frame.image]
    exact h.devices

end Current

end Exchange

/-! ## Data that pipelines run on -/

/-- The data of outputs and inputs, at rest or with a pipeline that exchanges it. -/
inductive Plant (M : Type) where
  | resting (shared : Shared)
  | exchanging (x : Exchange M)

/-- A call of the data or of its pipeline. -/
inductive PlantCall (M : Type) where
  | command (device : Nat) (bytes : List UInt8)
  | zero
  /-- A new pipeline takes the place of the one before. -/
  | attach (master : M) (config : CycleConfig)
  | detach
  | cycle (index : UInt64) (r : Readings)

namespace Plant

variable {M : Type}

def shared : Plant M → Shared
  | resting shared => shared
  | exchanging x => x.shared

/-- Change the process data, wherever it is. -/
def mapData (f : ProcessData → ProcessData) : Plant M → Plant M
  | resting shared => resting { shared with data := f shared.data }
  | exchanging x => exchanging { x with shared.data := f x.shared.data }

theorem mapData_of_same {p : Plant M} {f : ProcessData → ProcessData}
    (h : f p.shared.data = p.shared.data) : p.mapData f = p := by
  cases p with
  | resting shared => exact congrArg (fun data => resting { shared with data }) h
  | exchanging x => exact congrArg (fun data => exchanging { x with shared.data := data }) h

def call [MasterSession M] (p : Plant M) : PlantCall M → Plant M
  | .command device bytes => p.mapData fun data => (data.command device bytes).2
  | .zero => p.mapData ProcessData.zeroOutputs
  | .attach master config => exchanging (Exchange.start master p.shared config)
  | .detach => resting p.shared
  | .cycle index r =>
    match p with
    | resting shared => resting shared
    | exchanging x => exchanging (x.execute index r)

end Plant

/-- A plant with the ledger of its outputs and the number of writes since the last cycle or since
its pipeline was new. -/
structure PlantRun (M : Type) where
  plant : Plant M
  ledger : OutputLedger
  writes : Nat

namespace PlantRun

variable {M : Type}

def fresh (t : Topology) (trace : Trace) : PlantRun M :=
  ⟨.resting (.ofTopology t trace), .empty, 0⟩

variable [MasterSession M]

/-- One call. An accepted command is entered into the ledger, and a zeroing empties it. -/
def call (r : PlantRun M) (x : PlantCall M) : PlantRun M :=
  let plant := r.plant.call x
  match x with
  | .command device bytes =>
    match (r.plant.shared.data.command device bytes).1 with
    | .ok () => ⟨plant, r.ledger.command device bytes, r.writes + 1⟩
    | .error _ => ⟨plant, r.ledger, r.writes⟩
  | .zero => ⟨plant, .empty, r.writes + 1⟩
  | .attach _ _ => ⟨plant, r.ledger, 0⟩
  | .detach => ⟨plant, r.ledger, r.writes⟩
  | .cycle _ _ => ⟨plant, r.ledger, 0⟩

def calls (r : PlantRun M) (xs : List (PlantCall M)) : PlantRun M := xs.foldl call r

/-- A cycle is calm if no other thread holds a part of the data, and if the writes before it did not
take the generation all the way round. -/
def IsCalm (r : PlantRun M) : PlantCall M → Prop
  | .cycle _ readings => readings.Uncontended ∧ r.writes < UInt64.size
  | _ => True

/-- Every cycle of some calls is calm. -/
def Calm (r : PlantRun M) : List (PlantCall M) → Prop
  | [] => True
  | x :: xs => r.IsCalm x ∧ (r.call x).Calm xs

end PlantRun

/-- What holds of a run: the data show the ledger, and a pipeline's copy missed no more than the
writes. -/
structure PlantInv {M : Type} (t : Topology) (r : PlantRun M) : Prop where
  topology : r.plant.shared.topology = t
  recorded : Recorded t r.ledger r.plant.shared.data
  current : ∀ x, r.plant = .exchanging x → x.Current r.writes

namespace PlantInv

variable {M : Type} {t : Topology} {r : PlantRun M}

theorem fresh (t : Topology) (trace : Trace) : PlantInv t (PlantRun.fresh (M := M) t trace) :=
  ⟨rfl, .ofTopology t, fun _ h => nomatch h⟩

theorem write (inv : PlantInv t r) {f : ProcessData → ProcessData} {l : OutputLedger}
    (hrecorded : Recorded t l (f r.plant.shared.data))
    (hgeneration : (f r.plant.shared.data).image.generation =
      r.plant.shared.data.image.generation + 1) :
    PlantInv t ⟨r.plant.mapData f, l, r.writes + 1⟩ := by
  have hshape : (f r.plant.shared.data).image.devices.map List.length =
      r.plant.shared.data.image.devices.map List.length := by
    rw [hrecorded.devices, inv.recorded.devices, OutputLedger.map_length_table hrecorded.fits,
      OutputLedger.map_length_table inv.recorded.fits]
  obtain ⟨plant, ledger, writes⟩ := r
  cases plant with
  | resting shared => exact ⟨inv.topology, hrecorded, fun _ h => nomatch h⟩
  | exchanging x =>
    refine ⟨inv.topology, hrecorded, ?_⟩
    rintro _ ⟨⟩
    exact (inv.current x rfl).write hgeneration hshape

variable [MasterSession M]

theorem command (inv : PlantInv t r) (device : Nat) (bytes : List UInt8) :
    PlantInv t (r.call (.command device bytes)) := by
  unfold PlantRun.call Plant.call
  cases hcheck : r.plant.shared.data.checkCommand device bytes with
  | ok =>
    have hcommand := ProcessData.command_of_accepted hcheck
    have hput := inv.recorded.command hcheck
    dsimp only
    rw [hcommand]
    refine inv.write ?_ ?_
    · rw [hcommand]
      exact hput
    · rw [hcommand]
      exact OutputImage.generation_put _ _ _
  | error v =>
    have hcommand := ProcessData.command_of_refused hcheck
    dsimp only
    rw [hcommand, Plant.mapData_of_same (congrArg Prod.snd hcommand)]
    exact inv

theorem attach (inv : PlantInv t r) (master : M) (config : CycleConfig) :
    PlantInv t (r.call (.attach master config)) := by
  refine ⟨inv.topology, inv.recorded, ?_⟩
  rintro _ ⟨⟩
  exact .start master r.plant.shared config

theorem detach (inv : PlantInv t r) : PlantInv t (r.call .detach) :=
  ⟨inv.topology, inv.recorded, fun _ h => nomatch h⟩

/-- The output step of the next cycle. -/
theorem applyOutputs (inv : PlantInv t r) {x : Exchange M} (hx : r.plant = .exchanging x)
    {cycle : UInt64} {readings : Readings} (calm : r.IsCalm (.cycle cycle readings)) :
    ((x.beforeOutputs cycle readings).applyOutputs readings).master =
        MasterSession.setDomain
          (r.ledger.write t (MasterSession.domain (x.beforeOutputs cycle readings).master))
          (x.beforeOutputs cycle readings).master ∧
      ((x.beforeOutputs cycle readings).applyOutputs readings).held.devices =
        r.ledger.table t ∧
      ((x.beforeOutputs cycle readings).applyOutputs readings).Current 0 := by
  have hframe := Exchange.outputFrame_beforeOutputs x cycle readings
  have hcurrent := (inv.current x hx).of_outputFrame hframe
  obtain ⟨plant, ledger, writes⟩ := r
  cases hx
  exact hcurrent.applyOutputs (hframe.topology.trans inv.topology)
    (inv.recorded.of_outputs hframe.outputLengths hframe.image) calm.2 calm.1.2.2

theorem cycle (inv : PlantInv t r) {cycle : UInt64} {readings : Readings}
    (calm : r.IsCalm (.cycle cycle readings)) : PlantInv t (r.call (.cycle cycle readings)) := by
  cases hplant : r.plant with
  | resting shared =>
    have hsame : r.call (.cycle cycle readings) = { r with writes := 0 } := by
      unfold PlantRun.call Plant.call
      rw [hplant]
    rw [hsame]
    exact ⟨inv.topology, inv.recorded, fun x h => nomatch hplant.symm.trans h⟩
  | exchanging x =>
    obtain ⟨-, -, hcurrent⟩ := inv.applyOutputs hplant calm
    have hbefore := Exchange.outputFrame_beforeOutputs x cycle readings
    have hafter := Exchange.outputFrame_afterOutputs
      ((x.beforeOutputs cycle readings).applyOutputs readings) cycle readings
    have hcall : r.call (.cycle cycle readings) =
        { r with plant := .exchanging (x.execute cycle readings), writes := 0 } := by
      unfold PlantRun.call Plant.call
      rw [hplant]
    have htopology := inv.topology
    have hrecorded := inv.recorded
    rw [hplant] at htopology hrecorded
    rw [hcall]
    refine ⟨?_, ?_, ?_⟩
    · exact (hafter.topology.trans hbefore.topology).trans htopology
    · exact (hrecorded.of_outputs hbefore.outputLengths hbefore.image).of_outputs
        hafter.outputLengths hafter.image
    · rintro _ ⟨⟩
      exact hcurrent.of_outputFrame hafter

theorem call (inv : PlantInv t r) {x : PlantCall M} (calm : r.IsCalm x) :
    PlantInv t (r.call x) := by
  cases x with
  | command device bytes => exact inv.command device bytes
  | zero => exact inv.write inv.recorded.zeroOutputs (OutputImage.generation_zero _)
  | attach master config => exact inv.attach master config
  | detach => exact inv.detach
  | cycle cycle readings => exact inv.cycle calm

theorem calls (inv : PlantInv t r) {xs : List (PlantCall M)} (calm : r.Calm xs) :
    PlantInv t (r.calls xs) := by
  induction xs generalizing r with
  | nil => exact inv
  | cons x xs ih => exact ih (inv.call calm.1) calm.2

end PlantInv

/-! ## Every run -/

/-- **Every cycle writes what was commanded last**: for each device whose output range fits the
domain, the bytes of the last accepted command since the outputs were made zero, or zeros. The held
copy is the table of these bytes. -/
theorem execute_writes_ledger {M : Type} [MasterSession M] (t : Topology) (trace : Trace)
    (xs : List (PlantCall M)) (calm : (PlantRun.fresh t trace).Calm xs) :
    let r := (PlantRun.fresh t trace).calls xs
    ∀ x, r.plant = .exchanging x → ∀ cycle readings, r.IsCalm (.cycle cycle readings) →
      let y := x.beforeOutputs cycle readings
      x.execute cycle readings = (y.applyOutputs readings).afterOutputs cycle readings ∧
        (y.applyOutputs readings).master =
          MasterSession.setDomain (r.ledger.write t (MasterSession.domain y.master)) y.master ∧
        (y.applyOutputs readings).held.devices = r.ledger.table t := by
  intro r x hx cycle readings hcalm
  have inv : PlantInv t r := (PlantInv.fresh t trace).calls calm
  obtain ⟨hmaster, hheld, -⟩ := inv.applyOutputs hx hcalm
  exact ⟨Exchange.execute_eq x cycle readings, hmaster, hheld⟩

/-- A device is commanded, then all outputs are made zero and the other one is commanded; one
command is refused. A second pipeline takes over. -/
def handover : List (PlantCall ScriptedMaster) :=
  [.attach (.ofDomainSize 8) (.unprivileged 1000), .command 0 [1, 2], .cycle 0 (.still 0),
    .command 1 [3], .zero, .command 1 [7, 8], .detach,
    .attach (.ofDomainSize 8) (.unprivileged 1000)]

theorem execute_writes_ledger_at_handover :
    let r := (PlantRun.fresh .pair (.ofSink .null)).calls handover
    (PlantRun.fresh .pair (.ofSink .null)).Calm handover ∧
      r.IsCalm (.cycle 1 (.still 0)) ∧
      ∃ x, r.plant = .exchanging x ∧
        (let y := x.beforeOutputs 1 (.still 0)
        x.execute 1 (.still 0) = (y.applyOutputs (.still 0)).afterOutputs 1 (.still 0) ∧
          (y.applyOutputs (.still 0)).master =
            MasterSession.setDomain (r.ledger.write .pair (MasterSession.domain y.master))
              y.master ∧
          (y.applyOutputs (.still 0)).held.devices = r.ledger.table .pair) ∧
        r.ledger.table .pair = [[0, 0], [7, 8]] ∧
        MasterSession.domain (x.execute 1 (.still 0)).master = [0, 0, 0, 0, 0, 7, 8, 0] := by
  intro r
  have calm : (PlantRun.fresh .pair (.ofSink .null)).Calm handover :=
    ⟨trivial, trivial, ⟨⟨rfl, rfl, rfl⟩, by decide +kernel⟩, trivial, trivial, trivial, trivial,
      trivial, trivial⟩
  have last : r.IsCalm (.cycle 1 (.still 0)) := ⟨⟨rfl, rfl, rfl⟩, by decide +kernel⟩
  exact ⟨calm, last, _, rfl,
    execute_writes_ledger .pair (.ofSink .null) handover calm _ rfl 1 (.still 0) last,
    by decide +kernel, by decide +kernel⟩

end CyclicBus

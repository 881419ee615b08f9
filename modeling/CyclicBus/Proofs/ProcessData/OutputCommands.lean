import CyclicBus.Proofs.ProcessData.LastWriter

/-!
# Output commands

Process data between users and a worker: outputs are commanded and made zero, snapshots published
and received, copies of the output image taken and brought up to date, in any order.
`commands_answered`: in every state that comes of it the image has an entry of the right length for
each device; a command is accepted if its device takes it, and then changes the bytes of that device
and the generation, and nothing otherwise. The ledger of `Recorded` carries the shape of the image
through the calls, and a copy keeps the shape that it was taken with.
-/

namespace CyclicBus

/-! ## One command -/

namespace ProcessData

/-- The outputs of a device were replaced: its bytes are new and the generation has moved on, and
nothing else has changed. -/
structure Replaced (p : ProcessData) (device : Nat) (bytes : List UInt8) (q : ProcessData) :
    Prop where
  written : q.image.devices[device]? = some bytes
  others : ∀ k, k ≠ device → q.image.devices[k]? = p.image.devices[k]?
  generation : q.image.generation.toNat = (p.image.generation.toNat + 1) % UInt64.size
  rest : { q with image := p.image } = p

/-- All outputs were made zero: the generation has moved on, and every device has as many bytes as
before. -/
structure Cleared (p q : ProcessData) : Prop where
  lengths : q.image.devices.map List.length = p.image.devices.map List.length
  zero : ∀ bytes ∈ q.image.devices, ∀ b ∈ bytes, b = 0
  generation : q.image.generation.toNat = (p.image.generation.toNat + 1) % UInt64.size
  rest : { q with image := p.image } = p

theorem fst_command (p : ProcessData) (device : Nat) (bytes : List UInt8) :
    (p.command device bytes).1 = p.checkCommand device bytes := by
  unfold command
  cases p.checkCommand device bytes <;> rfl

theorem cleared_zeroOutputs (p : ProcessData) : p.Cleared p.zeroOutputs where
  lengths := by
    show (p.image.devices.map fun d => List.replicate d.length (0 : UInt8)).map List.length = _
    rw [List.map_map]
    congr 1
    funext d
    exact List.length_replicate
  zero := by
    intro bytes hbytes b hb
    obtain ⟨d, -, rfl⟩ := List.mem_map.1 hbytes
    exact List.eq_of_mem_replicate hb
  generation := UInt64.toNat_add p.image.generation 1
  rest := rfl

end ProcessData

/-- What is wrong with a command that is refused: there is no such device, or it has not as many
output bytes. -/
def Topology.refusal (t : Topology) (device : Nat) (bytes : List UInt8) : Violation :=
  match t.devices[device]? with
  | none => .numberOutOfRange "device" device 0 (t.size - 1)
  | some d => .constraint
      s!"device {device} expects {d.output.len.toNat} output bytes, got {bytes.length}"

/-- How process data answers output commands, and what these leave of it. -/
structure AnswersCommands (t : Topology) (p : ProcessData) : Prop where
  lengths : p.image.devices.map List.length = t.outputLengths
  accepted_iff : ∀ device bytes, (p.command device bytes).1 = .ok () ↔
    ∃ d, t.devices[device]? = some d ∧ bytes.length = d.output.len.toNat
  accepted : ∀ device bytes, (p.command device bytes).1 = .ok () →
    p.Replaced device bytes (p.command device bytes).2
  refused : ∀ device bytes v, (p.command device bytes).1 = .error v →
    v = t.refusal device bytes ∧ (p.command device bytes).2 = p
  cleared : p.Cleared p.zeroOutputs

namespace Recorded

variable {t : Topology} {l : OutputLedger} {p : ProcessData}

theorem map_length_devices (h : Recorded t l p) :
    p.image.devices.map List.length = t.outputLengths := by
  rw [h.devices]
  exact OutputLedger.map_length_table h.fits

/-- The table has an entry for the device of an accepted command. -/
theorem replaced_put (h : Recorded t l p) {device : Nat} {bytes : List UInt8}
    (hok : p.checkCommand device bytes = .ok ()) :
    p.Replaced device bytes { p with image := p.image.put device bytes } where
  written := by
    have htakes := (h.checkCommand_eq_ok_iff device bytes).1 hok
    obtain ⟨d, hd, -⟩ := (t.takes_iff device bytes).1 htakes
    have hlt : device < t.devices.length := (List.getElem?_eq_some_iff.1 hd).1
    have hsize : p.image.devices.length = t.devices.length := by
      rw [h.devices]
      exact List.length_mapIdx
    exact List.getElem?_set_self (hsize ▸ hlt)
  others k hk := List.getElem?_set_ne (Ne.symm hk)
  generation := UInt64.toNat_add p.image.generation 1
  rest := rfl

/-- The check of a command gives the reason that the table has. -/
theorem eq_refusal (h : Recorded t l p) {device : Nat} {bytes : List UInt8} {v : Violation}
    (hrefused : p.checkCommand device bytes = .error v) : v = t.refusal device bytes := by
  unfold ProcessData.checkCommand at hrefused
  unfold Topology.refusal Topology.size
  rw [h.outputLengths, List.getElem?_map, List.length_map] at hrefused
  cases hd : t.devices[device]? with
  | none =>
    rw [hd] at hrefused
    exact (Except.error.inj hrefused).symm
  | some d =>
    rw [hd, Option.map_some] at hrefused
    dsimp only at hrefused
    split at hrefused
    · cases hrefused
    · exact (Except.error.inj hrefused).symm

/-- Data whose outputs are those of a ledger answers commands. -/
theorem answersCommands (h : Recorded t l p) : AnswersCommands t p where
  lengths := h.map_length_devices
  accepted_iff device bytes := by
    rw [p.fst_command, h.checkCommand_eq_ok_iff, t.takes_iff]
  accepted device bytes hok := by
    rw [p.fst_command] at hok
    rw [ProcessData.command_of_accepted hok]
    exact h.replaced_put hok
  refused device bytes v hrefused := by
    rw [p.fst_command] at hrefused
    rw [ProcessData.command_of_refused hrefused]
    exact ⟨h.eq_refusal hrefused, rfl⟩
  cleared := p.cleared_zeroOutputs

end Recorded

/-! ## Any calls -/

/-- What users and a worker do with process data. Where a flag says that a part of the data is not
free, another thread holds it. -/
inductive DataCall where
  | command (device : Nat) (bytes : List UInt8)
  | zero
  | publish (x : Snapshot) (latestFree subscribersFree : Bool)
  | subscribe (capacity : Nat)
  | receive (index : Nat)
  | unsubscribe (index : Nat)
  /-- Take one more copy of the output image. -/
  | hold
  /-- Bring a copy of the output image up to date. -/
  | load (copy : Nat) (outputsFree : Bool)

/-- Process data, and the copies that are held of its output image. -/
structure DataRun where
  data : ProcessData
  held : List OutputImage

namespace DataRun

def fresh (t : Topology) : DataRun := ⟨.ofTopology t, []⟩

def call (r : DataRun) : DataCall → DataRun
  | .command device bytes => { r with data := (r.data.command device bytes).2 }
  | .zero => { r with data := r.data.zeroOutputs }
  | .publish x latestFree subscribersFree =>
    { r with data := r.data.publish x latestFree subscribersFree }
  | .subscribe capacity => { r with data := r.data.subscribe capacity }
  | .receive index => { r with data := (r.data.receive index).2 }
  | .unsubscribe index => { r with data := r.data.unsubscribe index }
  | .hold => { r with held := r.held ++ [r.data.image] }
  | .load copy outputsFree =>
    { r with held := r.held.modify copy fun h =>
        if outputsFree then r.data.image.refresh h else h }

def calls (r : DataRun) (cs : List DataCall) : DataRun := cs.foldl call r

end DataRun

/-- What holds of a run: the outputs are those of a ledger, and every copy has their shape. -/
structure DataInv (t : Topology) (r : DataRun) : Prop where
  recorded : ∃ l, Recorded t l r.data
  held : ∀ h ∈ r.held, h.devices.map List.length = t.outputLengths

namespace DataInv

variable {t : Topology} {r : DataRun}

theorem fresh (t : Topology) : DataInv t (.fresh t) := ⟨⟨_, .ofTopology t⟩, nofun⟩

variable (inv : DataInv t r)

include inv

theorem of_outputs {data : ProcessData} (hlengths : data.outputLengths = r.data.outputLengths)
    (himage : data.image = r.data.image) : DataInv t { r with data } := by
  obtain ⟨l, hl⟩ := inv.recorded
  exact ⟨⟨l, hl.of_outputs hlengths himage⟩, inv.held⟩

theorem command (device : Nat) (bytes : List UInt8) :
    DataInv t (r.call (.command device bytes)) := by
  obtain ⟨l, hl⟩ := inv.recorded
  unfold DataRun.call
  dsimp only
  cases hcheck : r.data.checkCommand device bytes with
  | ok =>
    rw [ProcessData.command_of_accepted hcheck]
    exact ⟨⟨_, hl.command hcheck⟩, inv.held⟩
  | error v =>
    rw [ProcessData.command_of_refused hcheck]
    exact inv

theorem receive (index : Nat) : DataInv t (r.call (.receive index)) := by
  refine inv.of_outputs ?_ ?_ <;>
  · unfold ProcessData.receive
    split <;> rfl

theorem hold : DataInv t (r.call .hold) := by
  obtain ⟨l, hl⟩ := inv.recorded
  refine ⟨⟨l, hl⟩, fun h hmem => ?_⟩
  rcases List.mem_append.1 hmem with hmem | hmem
  · exact inv.held h hmem
  · rw [List.mem_singleton.1 hmem]
    exact hl.map_length_devices

theorem load (copy : Nat) (outputsFree : Bool) :
    DataInv t (r.call (.load copy outputsFree)) := by
  refine ⟨inv.recorded, fun h hmem => ?_⟩
  obtain ⟨k, hk⟩ := List.mem_iff_getElem?.1 hmem
  unfold DataRun.call at hk
  rw [List.getElem?_modify] at hk
  obtain ⟨before, hbefore, rfl⟩ := Option.map_eq_some_iff.1 hk
  have hshape := inv.held before (List.mem_of_getElem? hbefore)
  split
  · split
    · rw [OutputImage.map_length_refresh]
      exact hshape
    · exact hshape
  · exact hshape

theorem call (c : DataCall) : DataInv t (r.call c) := by
  cases c with
  | command device bytes => exact inv.command device bytes
  | zero =>
    obtain ⟨l, hl⟩ := inv.recorded
    exact ⟨⟨_, hl.zeroOutputs⟩, inv.held⟩
  | publish x latestFree subscribersFree =>
    exact inv.of_outputs (ProcessData.outputLengths_publish _ _ _ _)
      (ProcessData.image_publish _ _ _ _)
  | subscribe capacity => exact inv.of_outputs rfl rfl
  | receive index => exact inv.receive index
  | unsubscribe index => exact inv.of_outputs rfl rfl
  | hold => exact inv.hold
  | load copy outputsFree => exact inv.load copy outputsFree

theorem calls (cs : List DataCall) : DataInv t (r.calls cs) := by
  induction cs generalizing r with
  | nil => exact inv
  | cons c cs ih => exact ih (inv.call c)

end DataInv

/-- **Whatever was done with process data before**, a command is accepted exactly if its device has
as many output bytes; accepted, it replaces these bytes and moves the generation on; refused, it
leaves all as it was. The image and every copy that is held of it keep the shape of the table. -/
theorem commands_answered (t : Topology) (cs : List DataCall) :
    let r := (DataRun.fresh t).calls cs
    AnswersCommands t r.data ∧ ∀ h ∈ r.held, h.devices.map List.length = t.outputLengths := by
  intro r
  have inv : DataInv t r := (DataInv.fresh t).calls cs
  obtain ⟨l, hl⟩ := inv.recorded
  exact ⟨hl.answersCommands, inv.held⟩

end CyclicBus

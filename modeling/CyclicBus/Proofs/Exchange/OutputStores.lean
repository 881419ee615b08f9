import CyclicBus.Proofs.Bus.DomainAccess
import CyclicBus.Proofs.Exchange.OutputRanges

/-!
# The output step byte by byte

What the output step does to a domain of any size. Read as a row of stores of single bytes
(`outputStores`) it never leaves the domain; read by its outcome (`WritesOutputs`) it shows in each
byte the last device whose output range fits and covers it, and changes no other byte.
`applyOutputs_writes`: this is so in every reachable state. Held outputs are a table of the right
shape there, so the step is that of a ledger, and the last writer is found by going through the
devices from the front (`getElem?_writes`).
-/

namespace CyclicBus

/-! ## Stores -/

/-- A byte that is put into the domain for a device. -/
structure ByteStore where
  device : Nat
  index : Nat
  byte : UInt8
  deriving DecidableEq, Repr

namespace ByteStore

/-- A memory after a store, if it has such a place. -/
def run? (memory : List UInt8) (s : ByteStore) : Option (List UInt8) :=
  if s.index < memory.length then some (memory.set s.index s.byte) else none

/-- The stores of some bytes in a row. -/
def row (device : Nat) : (offset : Nat) → List UInt8 → List ByteStore
  | _, [] => []
  | offset, b :: bytes => ⟨device, offset, b⟩ :: row device (offset + 1) bytes

theorem mem_row {device offset : Nat} {bytes : List UInt8} {s : ByteStore}
    (h : s ∈ row device offset bytes) :
    s.device = device ∧ offset ≤ s.index ∧ s.index < offset + bytes.length := by
  induction bytes generalizing offset with
  | nil => cases h
  | cons b bytes ih =>
    rw [List.length_cons]
    rcases List.mem_cons.1 h with rfl | h
    · exact ⟨rfl, Nat.le_refl _, by dsimp only; omega⟩
    · obtain ⟨hdevice, hle, hlt⟩ := ih h
      exact ⟨hdevice, by omega, by omega⟩

theorem length_run? {memory result : List UInt8} {s : ByteStore} (h : run? memory s = some result) :
    result.length = memory.length := by
  unfold run? at h
  split at h
  · cases h
    exact List.length_set
  · cases h

/-- Stores in a row put the bytes in place of others. -/
theorem foldlM_row (device : Nat) {offset : Nat} {bytes memory : List UInt8}
    (h : offset + bytes.length ≤ memory.length) :
    (row device offset bytes).foldlM run? memory =
      some (ByteRange.overwrite offset bytes memory) := by
  induction bytes generalizing offset memory with
  | nil =>
    show some memory = some (memory.take offset ++ [] ++ memory.drop (offset + 0))
    rw [List.append_nil, Nat.add_zero, List.take_append_drop]
  | cons b bytes ih =>
    rw [List.length_cons] at h
    have hrun : run? memory ⟨device, offset, b⟩ = some (memory.set offset b) :=
      if_pos (by dsimp only; omega)
    have hrest : (row device (offset + 1) bytes).foldlM run? (memory.set offset b) =
        some (ByteRange.overwrite (offset + 1) bytes (memory.set offset b)) :=
      ih (by rw [List.length_set]; omega)
    rw [row, List.foldlM_cons, hrun]
    refine hrest.trans (congrArg some ?_)
    unfold ByteRange.overwrite
    rw [List.take_add_one, List.take_set_of_le (Nat.le_refl _), List.getElem?_set_self (by omega),
      List.drop_set_of_lt (by omega), Option.toList_some, List.length_cons,
      List.append_cons (memory.take offset) b bytes, Nat.add_right_comm, Nat.add_assoc]

end ByteStore

namespace Topology

/-- The stores of what is held for one device: none where its output range does not fit or has
another length. -/
def stores (t : Topology) (size : Nat) (e : List UInt8 × Nat) : List ByteStore :=
  match t.devices[e.2]? with
  | some d =>
    if d.output.fits size && e.1.length == d.output.len.toNat then
      ByteStore.row e.2 d.output.offset.toNat e.1
    else []
  | none => []

/-- The stores of what is held for all devices, in index order. -/
def outputStores (t : Topology) (size : Nat) (held : List (List UInt8)) : List ByteStore :=
  held.zipIdx.flatMap (t.stores size)

theorem foldlM_stores (t : Topology) {size : Nat} {memory : List UInt8}
    (hm : memory.length = size) (e : List UInt8 × Nat) :
    (t.stores size e).foldlM ByteStore.run? memory = some (t.write memory e) := by
  subst hm
  unfold stores write putOutput? device? ByteRange.splice?
  cases t.devices[e.2]? with
  | none => rfl
  | some d =>
    dsimp only [Option.bind_some]
    split
    · rename_i hguard
      rw [Bool.and_eq_true, beq_iff_eq, ByteRange.fits_iff] at hguard
      exact ByteStore.foldlM_row e.2 (by omega)
    · rfl

theorem length_foldlM {stores : List ByteStore} {memory result : List UInt8}
    (h : stores.foldlM ByteStore.run? memory = some result) : result.length = memory.length := by
  induction stores generalizing memory with
  | nil =>
    cases h
    rfl
  | cons s stores ih =>
    rw [List.foldlM_cons] at h
    obtain ⟨next, hnext, hrest⟩ := Option.bind_eq_some_iff.1 h
    exact (ih hrest).trans (ByteStore.length_run? hnext)

/-- **No store leaves the domain**, whatever is held. -/
theorem foldlM_outputStores (t : Topology) (held : List (List UInt8)) (domain : List UInt8) :
    (t.outputStores domain.length held).foldlM ByteStore.run? domain =
      some (Exchange.writeOutputs t held domain) := by
  have hwrites (size : Nat) (es : List (List UInt8 × Nat)) (memory : List UInt8)
      (hm : memory.length = size) :
      (es.flatMap (t.stores size)).foldlM ByteStore.run? memory =
        some (es.foldl t.write memory) := by
    induction es generalizing memory with
    | nil => rfl
    | cons e es ih =>
      have hfirst := t.foldlM_stores hm e
      rw [List.flatMap_cons, List.foldlM_append, hfirst]
      exact ih _ ((length_foldlM hfirst).trans hm)
  exact hwrites domain.length held.zipIdx domain rfl

theorem fits_iff_within {t : Topology} {d : Device} (hd : d ∈ t.devices) (size : Nat) :
    d.output.fits size = true ↔ d.output.Within size :=
  (t.acceptable.sound d hd).fits_iff_within .output size

/-- Each store is for a device whose range fits, and in this range. -/
theorem of_mem_outputStores {t : Topology} {size : Nat} {held : List (List UInt8)}
    {s : ByteStore} (h : s ∈ t.outputStores size held) :
    ∃ d, t.devices[s.device]? = some d ∧ d.output.Within size ∧ d.output.Covers s.index := by
  obtain ⟨e, -, he⟩ := List.mem_flatMap.1 h
  unfold stores at he
  cases hd : t.devices[e.2]? with
  | none =>
    rw [hd] at he
    cases he
  | some d =>
    rw [hd] at he
    dsimp only at he
    split at he
    · rename_i hguard
      rw [Bool.and_eq_true, beq_iff_eq] at hguard
      obtain ⟨hdevice, hle, hlt⟩ := ByteStore.mem_row he
      have hwithin := (fits_iff_within (List.mem_of_getElem? hd) size).1 hguard.1
      exact ⟨d, hdevice ▸ hd, hwithin, hle, hguard.2 ▸ hlt⟩
    · cases he

end Topology

/-! ## The last writer -/

/-- Of some devices, the last one whose output range fits a domain and covers a byte of it. -/
structure LastOver (devices : List Device) (size i k : Nat) (d : Device) : Prop where
  device : devices[k]? = some d
  within : d.output.Within size
  covers : d.output.Covers i
  last : ∀ j e, k < j → devices[j]? = some e → e.output.Within size → ¬ e.output.Covers i

/-- No output range of some devices fits a domain and covers a byte of it. -/
def Uncovered (devices : List Device) (size i : Nat) : Prop :=
  ∀ d ∈ devices, d.output.Within size → ¬ d.output.Covers i

section LastWriter

variable {devices : List Device} {size i : Nat} {d : Device}

theorem lastOver_concat (hwithin : d.output.Within size) (hcovers : d.output.Covers i) :
    LastOver (devices ++ [d]) size i devices.length d := by
  refine ⟨List.getElem?_concat_length, hwithin, hcovers, fun j e hj he => ?_⟩
  have hlt := (List.getElem?_eq_some_iff.1 he).1
  rw [List.length_append, List.length_singleton] at hlt
  omega

/-- One more device that does not take the byte leaves the last writer as it is. -/
theorem LastOver.concat {k : Nat} {e : Device} (h : LastOver devices size i k e)
    (hd : d.output.Within size → ¬ d.output.Covers i) : LastOver (devices ++ [d]) size i k e := by
  have hlt := (List.getElem?_eq_some_iff.1 h.device).1
  refine ⟨(List.getElem?_append_left hlt).trans h.device, h.within, h.covers, ?_⟩
  intro j e' hj he'
  rcases Nat.lt_or_ge j devices.length with hbefore | hafter
  · rw [List.getElem?_append_left hbefore] at he'
    exact h.last j e' hj he'
  · rw [List.getElem?_append_right hafter] at he'
    rw [List.mem_singleton.1 (List.mem_of_getElem? he')]
    exact hd

theorem Uncovered.concat (h : Uncovered devices size i)
    (hd : d.output.Within size → ¬ d.output.Covers i) : Uncovered (devices ++ [d]) size i := by
  intro e he
  rcases List.mem_append.1 he with he | he
  · exact h e he
  · rw [List.mem_singleton.1 he]
    exact hd

end LastWriter

namespace OutputLedger

variable {l : OutputLedger}

/-- The domain after the outputs of one device, if its range fits. -/
def put (l : OutputLedger) (size : Nat) (memory : List UInt8) (e : Device × Nat) : List UInt8 :=
  if e.1.output.fits size then ByteRange.overwrite e.1.output.offset.toNat (l.bytes e.2 e.1) memory
  else memory

theorem length_put {size : Nat} {memory : List UInt8} (hm : memory.length = size)
    {e : Device × Nat} (hlength : (l.bytes e.2 e.1).length = e.1.output.len.toNat) :
    (l.put size memory e).length = size := by
  subst hm
  unfold put
  split
  · rename_i hfits
    exact ByteRange.length_overwrite_of_fits hfits hlength
  · rfl

section Put

variable {size : Nat} {memory : List UInt8} (hm : memory.length = size) {e : Device × Nat}
  (hlength : (l.bytes e.2 e.1).length = e.1.output.len.toNat) {i : Nat}

include hm hlength

/-- A device whose range fits takes the bytes that its range covers. -/
theorem getElem?_put_of_covers (hfits : e.1.output.fits size = true)
    (hcovers : e.1.output.Covers i) :
    (l.put size memory e)[i]? = (l.bytes e.2 e.1)[i - e.1.output.offset.toNat]? := by
  subst hm
  unfold put
  rw [if_pos hfits, ByteRange.getElem?_overwrite hfits hlength, if_pos hcovers]

theorem getElem?_put_of_free (h : e.1.output.fits size = true → ¬ e.1.output.Covers i) :
    (l.put size memory e)[i]? = memory[i]? := by
  subst hm
  unfold put
  split
  · rename_i hfits
    rw [ByteRange.getElem?_overwrite hfits hlength, if_neg (h hfits)]
  · rfl

end Put

/-- The devices of a table in a row, from its start: each byte shows the last of them that takes
it. -/
theorem getElem?_writes {size : Nat} {domain : List UInt8} (hm : domain.length = size)
    (devices : List Device) (hsound : ∀ d ∈ devices, d.Sound)
    (hlength : ∀ k d, devices[k]? = some d → (l.bytes k d).length = d.output.len.toNat) :
    (devices.zipIdx.foldl (l.put size) domain).length = size ∧
      ∀ i, Uncovered devices size i ∧
          (devices.zipIdx.foldl (l.put size) domain)[i]? = domain[i]? ∨
        ∃ k d, LastOver devices size i k d ∧
          (devices.zipIdx.foldl (l.put size) domain)[i]? =
            (l.bytes k d)[i - d.output.offset.toNat]? := by
  induction devices using List.reverseRecOn with
  | nil => exact ⟨hm, fun i => .inl ⟨nofun, rfl⟩⟩
  | append_singleton devices d ih =>
    have hd : d.Sound := hsound d List.mem_concat_self
    have hbytes := hlength devices.length d List.getElem?_concat_length
    obtain ⟨hsize, hbefore⟩ := ih (fun e he => hsound e (List.mem_append_left _ he))
      (fun k e he => hlength k e (List.getElem?_append_left
        (List.getElem?_eq_some_iff.1 he).1 ▸ he))
    rw [List.zipIdx_append, List.foldl_append, List.zipIdx_singleton, Nat.zero_add,
      List.foldl_cons, List.foldl_nil]
    refine ⟨length_put hsize hbytes, fun i => ?_⟩
    have hwithin : d.output.fits size = true ↔ d.output.Within size :=
      hd.fits_iff_within .output size
    by_cases htakes : d.output.Within size ∧ d.output.Covers i
    · exact .inr ⟨devices.length, d, lastOver_concat htakes.1 htakes.2,
        getElem?_put_of_covers hsize hbytes (hwithin.2 htakes.1) htakes.2⟩
    · have hleaves : d.output.Within size → ¬ d.output.Covers i := not_and.1 htakes
      have hput := getElem?_put_of_free hsize (e := (d, devices.length)) hbytes
        fun hfits => hleaves (hwithin.1 hfits)
      rcases hbefore i with ⟨hfree, hsame⟩ | ⟨k, e, hlast, hshown⟩
      · exact .inl ⟨hfree.concat hleaves, hput.trans hsame⟩
      · exact .inr ⟨k, e, hlast.concat hleaves, hput.trans hshown⟩

/-- The ledger of a table of outputs. -/
def ofTable (held : List (List UInt8)) : OutputLedger := fun k => held[k]?

variable {t : Topology} {held : List (List UInt8)}

theorem fits_ofTable (shape : held.map List.length = t.outputLengths) : (ofTable held).Fits t := by
  intro k bytes hk
  have hlength := congrArg (·[k]?) shape
  unfold Topology.outputLengths at hlength
  simp only [List.getElem?_map, show held[k]? = some bytes from hk, Option.map_some] at hlength
  obtain ⟨d, hd, heq⟩ := Option.map_eq_some_iff.1 hlength.symm
  exact (t.takes_iff k bytes).2 ⟨d, hd, heq.symm⟩

theorem getElem?_of_shape (shape : held.map List.length = t.outputLengths) {k : Nat} {d : Device}
    (hd : t.devices[k]? = some d) : held[k]? = some ((ofTable held).bytes k d) := by
  have hsize : held.length = t.devices.length := by
    simpa [Topology.outputLengths] using congrArg List.length shape
  have hlt : k < held.length := hsize ▸ (List.getElem?_eq_some_iff.1 hd).1
  unfold bytes ofTable
  rw [List.getElem?_eq_getElem hlt, Option.getD_some]

theorem table_ofTable (shape : held.map List.length = t.outputLengths) :
    (ofTable held).table t = held := by
  apply List.mapIdx_eq_iff.2
  intro k
  cases hd : t.devices[k]? with
  | some d => exact getElem?_of_shape shape hd
  | none =>
    have hsize : held.length = t.devices.length := by
      simpa [Topology.outputLengths] using congrArg List.length shape
    exact List.getElem?_eq_none (hsize ▸ List.getElem?_eq_none_iff.1 hd)

end OutputLedger

/-! ## The output step -/

/-- What the output step makes of a domain. -/
structure WritesOutputs (t : Topology) (held : List (List UInt8)) (before after : List UInt8) :
    Prop where
  /-- It comes about by stores, each to a place that the domain has. -/
  stores : (t.outputStores before.length held).foldlM ByteStore.run? before = some after
  /-- Nothing is stored for a device whose output range does not fit. -/
  fitting : ∀ s ∈ t.outputStores before.length held, ∃ d, t.devices[s.device]? = some d ∧
    d.output.Within before.length ∧ d.output.Covers s.index
  length : after.length = before.length
  others : ∀ i, Uncovered t.devices before.length i → after[i]? = before[i]?
  /-- A byte in an output range that fits is that of the last such device. -/
  shown : ∀ i, (∃ d ∈ t.devices, d.output.Within before.length ∧ d.output.Covers i) →
    ∃ k d bytes, LastOver t.devices before.length i k d ∧ held[k]? = some bytes ∧
      bytes.length = d.output.len.toNat ∧ after[i]? = bytes[i - d.output.offset.toNat]?

theorem LastOver.not_uncovered {devices : List Device} {size i k : Nat} {d : Device}
    (h : LastOver devices size i k d) : ¬ Uncovered devices size i :=
  fun hfree => hfree d (List.mem_of_getElem? h.device) h.within h.covers

/-- A table of the right shape is written into a domain of any size. -/
theorem writesOutputs_writeOutputs {t : Topology} {held : List (List UInt8)}
    (shape : held.map List.length = t.outputLengths) (domain : List UInt8) :
    WritesOutputs t held domain (Exchange.writeOutputs t held domain) := by
  have hfits := OutputLedger.fits_ofTable shape
  have hwrite : Exchange.writeOutputs t held domain =
      t.devices.zipIdx.foldl ((OutputLedger.ofTable held).put domain.length) domain := by
    conv_lhs => rw [← OutputLedger.table_ofTable shape]
    exact Exchange.writeOutputs_table hfits domain
  have hlength : ∀ k d, t.devices[k]? = some d →
      ((OutputLedger.ofTable held).bytes k d).length = d.output.len.toNat :=
    fun k d hd => OutputLedger.length_bytes hfits hd
  obtain ⟨hsize, hbytes⟩ :=
    OutputLedger.getElem?_writes (l := .ofTable held) rfl t.devices t.acceptable.sound hlength
  rw [← hwrite] at hsize hbytes
  refine ⟨t.foldlM_outputStores held domain, fun s hs => Topology.of_mem_outputStores hs, hsize,
    fun i hfree => ?_, fun i hcovered => ?_⟩
  · rcases hbytes i with ⟨-, hsame⟩ | ⟨k, d, hlast, -⟩
    · exact hsame
    · exact absurd hfree hlast.not_uncovered
  · rcases hbytes i with ⟨hfree, -⟩ | ⟨k, d, hlast, hshown⟩
    · obtain ⟨d, hd, hwithin, hcovers⟩ := hcovered
      exact absurd hcovers (hfree d hd hwithin)
    · exact ⟨k, d, _, hlast, OutputLedger.getElem?_of_shape shape hlast.device,
        hlength k d hlast.device, hshown⟩

/-- **The output step of every cycle** leaves its session with a domain of the same size, in which
each byte of an output range that fits is that of the last such device. All that it stores is inside
of these ranges. -/
theorem applyOutputs_writes {M : Type} [MasterSession M] (t : Topology) (trace : Trace)
    (cs : List (PlantCall M)) (x : Exchange M)
    (reached : ((PlantRun.fresh t trace).calls cs).plant = .exchanging x) (cycle : UInt64)
    (r : Readings) :
    let y := x.beforeOutputs cycle r
    let z := y.applyOutputs r
    x.execute cycle r = z.afterOutputs cycle r ∧
      ∃ domain, z.master = MasterSession.setDomain domain y.master ∧
        WritesOutputs t z.held.devices (MasterSession.domain y.master) domain := by
  intro y z
  have hframe := Exchange.outputFrame_beforeOutputs x cycle r
  have hshaped : Shaped t (.exchanging x : Plant M) := by
    rw [← reached]
    exact (Shaped.fresh t trace).calls cs
  have shape : z.held.devices.map List.length = t.outputLengths := by
    rw [Exchange.map_length_applyOutputs, hframe.held]
    exact hshaped.held x rfl
  have htopology : y.shared.topology = t := hframe.topology.trans hshaped.topology
  have hwrites := writesOutputs_writeOutputs shape (MasterSession.domain y.master)
  rw [← htopology] at hwrites
  exact ⟨Exchange.execute_eq x cycle r, _, rfl, htopology ▸ hwrites⟩

/-- Two devices that share a byte, over a domain that ends inside the range of the second. -/
def squeezed : List (PlantCall ScriptedMaster) :=
  [.attach (.ofDomainSize 3) (.unprivileged 1000), .command 0 [1, 2], .command 1 [3, 4]]

/-- The first device shows in the byte that they share, and nothing is stored for the second. -/
theorem applyOutputs_writes_of_squeezed :
    ∃ x, ((PlantRun.fresh .overlapping (.ofSink .null)).calls squeezed).plant = .exchanging x ∧
      (let y := x.beforeOutputs 0 (.still 0)
      let z := y.applyOutputs (.still 0)
      x.execute 0 (.still 0) = z.afterOutputs 0 (.still 0) ∧
        (∃ domain, z.master = MasterSession.setDomain domain y.master ∧
          WritesOutputs .overlapping z.held.devices (MasterSession.domain y.master) domain) ∧
        z.held.devices = [[1, 2], [3, 4]] ∧ MasterSession.domain z.master = [0, 1, 2]) := by
  refine ⟨_, rfl, ?_⟩
  obtain ⟨hexecute, hwrites⟩ :=
    applyOutputs_writes .overlapping (.ofSink .null) squeezed _ rfl 0 (.still 0)
  exact ⟨hexecute, hwrites, by decide +kernel, by decide +kernel⟩

end CyclicBus

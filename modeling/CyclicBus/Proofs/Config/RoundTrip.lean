import CyclicBus.Proofs.Config.Tables

/-!
# Decoding what was encoded

Encoding a configuration and decoding it gives the same one, with every policy, list and optional
field. A cycle section may also give some of its fields only, in any order. `decode_encode` puts
together what holds of whole values and which keys are refused or ignored.
-/

namespace CyclicBus

/-! ## Policies -/

namespace Policy

/-- The names of the parameters of a kind. -/
def parameters : String → List String
  | "fixed_priority" => ["priority"]
  | "deadline_based" => ["runtime_ns", "deadline_ns", "period_ns"]
  | _ => []

/-- The policy of a kind with the parameters that a node gives. -/
def ofKind (kind : String) (rest : Node) : Option Policy :=
  match kind with
  | "fixed_priority" => do
    let fields ← fields? ["priority"] rest
    return fixedPriority (← Record.required "priority" Node.uint8? fields)
  | "deadline_based" => do
    let fields ← fields? ["runtime_ns", "deadline_ns", "period_ns"] rest
    return deadline (← Record.required "runtime_ns" Node.uint64? fields)
      (← Record.required "deadline_ns" Node.uint64? fields)
      (← Record.required "period_ns" Node.uint64? fields)
  | "inherit" =>
    match rest with
    | .list (_ :: _) => none
    | _ => some inherit
  | _ => none

theorem ofNode?_eq (n : Node) : ofNode? n = (kind? n).bind fun p => ofKind p.1 p.2 := rfl

/-- A table names its kind once. -/
theorem kind?_ofFields (entries : List (String × Node)) :
    kind? (.ofFields entries) =
      match entries.filter fun e => e.1 = kindField with
      | [e] => e.2.text?.map (·, .ofFields (entries.filter fun e => e.1 ≠ kindField))
      | _ => none := by
  have hkey (e : String × Node) :
      ((Node.ofText e.1).text? == some kindField) = decide (e.1 = kindField) := by
    rw [Bool.eq_iff_iff, beq_iff_eq, decide_eq_true_iff]
    exact Option.some_inj
  unfold Node.ofFields kind?
  dsimp only
  rw [List.partition_eq_filter_filter, List.filter_map, List.filter_map]
  simp only [Function.comp_def, hkey, ne_eq, decide_not]
  generalize entries.filter (fun e => decide (e.1 = kindField)) = kinds
  rcases kinds with _ | ⟨e, _ | ⟨e', rest⟩⟩
  · rfl
  · exact Option.map_eq_bind.symm
  · rfl

theorem find?_name (names : List String) (name : String) :
    names.find? (· == name) = if name ∈ names then some name else none := by
  induction names with
  | nil => rfl
  | cons first names ih =>
    rw [List.find?_cons, ih]
    by_cases h : first = name
    · simp [h]
    · simp [beq_false_of_ne h, Ne.symm h]

/-- The parameters in a table are the entries with their names. -/
theorem fields?_ofFields (names : List String) (entries : List (String × Node)) :
    fields? names (.ofFields entries) =
      let known := entries.filter fun e => e.1 ∈ names
      if (known.map (·.1)).Nodup then some known else none := by
  have hknown : (entries.map fun (e : String × Node) => (names.find? (· == e.1), e.2)).filterMap
      (fun (e : Option String × Node) => e.1.map (·, e.2)) =
        entries.filter fun e => e.1 ∈ names := by
    induction entries with
    | nil => rfl
    | cons e entries ih =>
      rw [List.map_cons, List.filterMap_cons, ih, find?_name]
      by_cases h : e.1 ∈ names <;> simp [h]
  have hgiven : (entries.map fun (e : String × Node) => (Node.ofText e.1, e.2)).mapM
      (fun (e : Node × Node) => do return (← fieldOf? names e.1, e.2)) =
        some (entries.map fun e => (names.find? (· == e.1), e.2)) := by
    clear hknown
    induction entries with
    | nil => rfl
    | cons e entries ih =>
      rw [List.map_cons, List.mapM_cons, ih]
      rfl
  unfold Node.ofFields fields?
  dsimp only
  rw [hgiven, ← hknown]
  rfl

theorem ofKind_congr {kind : String} {entries entries' : List (String × Node)}
    (h : fields? (parameters kind) (.ofFields entries) =
      fields? (parameters kind) (.ofFields entries')) :
    ofKind kind (.ofFields entries) = ofKind kind (.ofFields entries') := by
  unfold ofKind
  split
  · change fields? ["priority"] _ = fields? ["priority"] _ at h
    rw [h]
  · change fields? ["runtime_ns", "deadline_ns", "period_ns"] _ =
      fields? ["runtime_ns", "deadline_ns", "period_ns"] _ at h
    rw [h]
  · rfl
  · rfl

theorem ofNode?_of_kind (kind : String) {rest : List (String × Node)}
    (hrest : ∀ e ∈ rest, e.1 ≠ kindField) :
    ofNode? (.ofFields (field kindField kind :: rest)) = ofKind kind (.ofFields rest) := by
  have hkinds : ((field kindField kind :: rest).filter fun e => decide (e.1 = kindField)) =
      [field kindField kind] := by
    rw [List.filter_cons_of_pos (by simp [field]), List.filter_eq_nil_iff.2]
    exact fun e he => by simpa using hrest e he
  have hothers : ((field kindField kind :: rest).filter fun e => decide (e.1 ≠ kindField)) =
      rest := by
    rw [List.filter_cons_of_neg (by simp [field]), List.filter_eq_self.2]
    exact fun e he => decide_eq_true (hrest e he)
  rw [ofNode?_eq, kind?_ofFields, hkinds, hothers]
  rfl

theorem undoes : Undoes ofNode? := by
  intro p
  cases p with
  | fixedPriority priority =>
    have hnode : toNode (fixedPriority priority) =
        .ofFields [field kindField "fixed_priority", field "priority" priority] := rfl
    have hfields : fields? ["priority"] (.ofFields [field "priority" priority]) =
        some [field "priority" priority] := by simp [fields?_ofFields, field]
    have hpriority : Record.required "priority" Node.uint8? [field "priority" priority] =
        some priority := Undoes.uint8?.required (by simp) priority List.mem_cons_self
    rw [hnode, ofNode?_of_kind _ (by simp [field, kindField]), ofKind, hfields,
      Option.bind_eq_bind, Option.bind_some, hpriority]
    rfl
  | deadline runtime limit period =>
    have hnode : toNode (deadline runtime limit period) =
        .ofFields [field kindField "deadline_based", field "runtime_ns" runtime,
          field "deadline_ns" limit, field "period_ns" period] := rfl
    let parameters :=
      [field "runtime_ns" runtime, field "deadline_ns" limit, field "period_ns" period]
    have hfields : fields? ["runtime_ns", "deadline_ns", "period_ns"] (.ofFields parameters) =
        some parameters := by simp [parameters, fields?_ofFields, field]
    have nodup : (parameters.map (·.1)).Nodup := by simp [parameters, field]
    have hparameter {name : String} (value : UInt64) (hmem : field name value ∈ parameters) :
        Record.required name Node.uint64? parameters = some value :=
      Undoes.uint64?.required nodup value hmem
    rw [hnode, ofNode?_of_kind _ (by simp [field, kindField]), ofKind, hfields,
      Option.bind_eq_bind, Option.bind_some, hparameter runtime (by simp [parameters]),
      hparameter limit (by simp [parameters]), hparameter period (by simp [parameters])]
    rfl
  | inherit =>
    have hnode : toNode inherit = .ofFields [field kindField "inherit"] := rfl
    rw [hnode, ofNode?_of_kind _ (List.forall_mem_nil _)]
    rfl

/-- Keys that are neither the kind nor a parameter of that kind are ignored. -/
theorem ofNode?_filter {entries : List (String × Node)} {kind : String}
    (hkind : field kindField kind ∈ entries) :
    ofNode? (.ofFields (entries.filter fun e => e.1 = kindField ∨ e.1 ∈ parameters kind)) =
      ofNode? (.ofFields entries) := by
  have hkinds : (entries.filter fun e => decide (e.1 = kindField ∨ e.1 ∈ parameters kind)).filter
      (fun e => decide (e.1 = kindField)) = entries.filter fun e => decide (e.1 = kindField) := by
    rw [List.filter_filter]
    refine List.filter_congr fun e _ => ?_
    by_cases h : e.1 = kindField <;> simp [h]
  have hparameters :
      ((entries.filter fun e => decide (e.1 = kindField ∨ e.1 ∈ parameters kind)).filter
          fun e => decide (e.1 ≠ kindField)).filter (fun e => decide (e.1 ∈ parameters kind)) =
        (entries.filter fun e => decide (e.1 ≠ kindField)).filter
          fun e => decide (e.1 ∈ parameters kind) := by
    rw [List.filter_filter, List.filter_filter, List.filter_filter]
    refine List.filter_congr fun e _ => ?_
    by_cases h : e.1 ∈ parameters kind <;> simp [h]
  have hfields : fields? (parameters kind) (.ofFields
      ((entries.filter fun e => decide (e.1 = kindField ∨ e.1 ∈ parameters kind)).filter
        fun e => decide (e.1 ≠ kindField))) =
      fields? (parameters kind) (.ofFields (entries.filter fun e => decide (e.1 ≠ kindField))) := by
    rw [fields?_ofFields, fields?_ofFields]
    dsimp only
    rw [hparameters]
  have hfound : field kindField kind ∈ entries.filter fun e => decide (e.1 = kindField) :=
    List.mem_filter.2 ⟨hkind, decide_eq_true rfl⟩
  rw [ofNode?_eq, ofNode?_eq, kind?_ofFields, kind?_ofFields, hkinds]
  generalize entries.filter (fun e => decide (e.1 = kindField)) = kinds at hfound
  rcases kinds with _ | ⟨e, _ | ⟨e', rest⟩⟩
  · rfl
  · obtain rfl := List.mem_singleton.1 hfound
    exact ofKind_congr hfields
  · rfl

end Policy

/-! ## Devices -/

namespace ByteRange

def entries (r : ByteRange) : List (String × Node) := [field "offset" r.offset, field "len" r.len]

theorem undoes : Undoes ofNode? := by
  intro r
  have nodup : (r.entries.map (·.1)).Nodup := by simp [entries, field]
  have hgiven : (Node.ofFields r.entries).fields? false fields = some r.entries :=
    Node.fields?_of_known false (by simp [entries, field, fields]) nodup
  show ofNode? (.ofFields r.entries) = _
  rw [ofNode?, hgiven, Option.bind_eq_bind, Option.bind_some,
    Undoes.uint64?.required nodup r.offset (by simp [entries]),
    Undoes.uint64?.required nodup r.len (by simp [entries])]
  rfl

theorem ignores : Ignores (fields.map (·.1)) ofNode? :=
  .of_fields? fun n n' h => by rw [ofNode?, ofNode?, h]

end ByteRange

namespace Device

def entries (d : Device) : List (String × Node) := [
  field "name" d.name,
  field "alias" d.stationAlias,
  field "position" d.position,
  field "vendor_id" d.vendorId,
  field "product_code" d.productCode,
  field "assign_activate" d.assignActivate,
  field "sync0_shift_ns" d.sync0Shift,
  field "input" d.input,
  field "output" d.output]

theorem undoes : Undoes ofNode? := by
  intro d
  have nodup : (d.entries.map (·.1)).Nodup := by simp [entries, field]
  have hgiven : (Node.ofFields d.entries).fields? false fields = some d.entries :=
    Node.fields?_of_known false (by simp [entries, field, fields]) nodup
  show ofNode? (.ofFields d.entries) = _
  rw [ofNode?, hgiven, Option.bind_eq_bind, Option.bind_some,
    Undoes.text?.required nodup d.name (by simp [entries]),
    Undoes.uint16?.optional nodup d.stationAlias 0 (by simp [entries]),
    Undoes.uint16?.required nodup d.position (by simp [entries]),
    Undoes.uint32?.required nodup d.vendorId (by simp [entries]),
    Undoes.uint32?.required nodup d.productCode (by simp [entries]),
    Undoes.uint16?.optional nodup d.assignActivate _ (by simp [entries]),
    Undoes.uint32?.optional nodup d.sync0Shift 0 (by simp [entries]),
    ByteRange.undoes.required nodup d.input (by simp [entries]),
    ByteRange.undoes.required nodup d.output (by simp [entries])]
  rfl

theorem ignores : Ignores (fields.map (·.1)) ofNode? :=
  .of_fields? fun n n' h => by rw [ofNode?, ofNode?, h]

end Device

/-! ## Cycle sections -/

theorem ClockSource.word?_name (c : ClockSource) : Node.word? words (toNode c.name) = some c := by
  cases c <;> rfl

theorem SyncMode.word?_name (m : SyncMode) : Node.word? words (toNode m.name) = some m := by
  cases m <;> rfl

namespace CycleConfig

def entries (c : CycleConfig) : List (String × Node) := [
  field "period_ns" c.period,
  field "policy" c.policy,
  field "cpu_affinity" c.processors,
  field "clock" c.clock.name,
  field "lock_memory" c.lockMemory,
  field "sync_mode" c.syncMode.name,
  field "reference_device" c.referenceDevice,
  field "filter_window" c.filterWindow,
  field "drift_clamp_ns" c.driftClamp,
  field "run_duration_ms" c.runDuration,
  field "master_health_interval" c.healthInterval]

/-- The given fields of a configuration, and standard values for the others. -/
def partly (given : String → Bool) (c : CycleConfig) : CycleConfig where
  period := if given "period_ns" then c.period else standard.period
  policy := if given "policy" then c.policy else standard.policy
  processors := if given "cpu_affinity" then c.processors else standard.processors
  clock := if given "clock" then c.clock else standard.clock
  lockMemory := if given "lock_memory" then c.lockMemory else standard.lockMemory
  syncMode := if given "sync_mode" then c.syncMode else standard.syncMode
  referenceDevice :=
    if given "reference_device" then c.referenceDevice else standard.referenceDevice
  filterWindow := if given "filter_window" then c.filterWindow else standard.filterWindow
  driftClamp := if given "drift_clamp_ns" then c.driftClamp else standard.driftClamp
  runDuration := if given "run_duration_ms" then c.runDuration else standard.runDuration
  healthInterval :=
    if given "master_health_interval" then c.healthInterval else standard.healthInterval

/-- **Some fields of a configuration, in any order**, with the standard values for the others. -/
theorem ofNode?_of_perm {given : String → Bool} {c : CycleConfig} {es : List (String × Node)}
    (hperm : es.Perm (c.entries.filter fun e => given e.1)) :
    ofNode? (.ofFields es) = some (c.partly given) := by
  have nodup : (c.entries.map (·.1)).Nodup := by simp [entries, field]
  have hknown : ∀ e ∈ es, e.1 ∈ fields.map (·.1) := by
    intro e he
    have hmem : e.1 ∈ c.entries.map (·.1) :=
      List.mem_map_of_mem (List.mem_of_mem_filter (hperm.mem_iff.1 he))
    exact hmem
  have hnodup : (es.map (·.1)).Nodup :=
    (hperm.map _).nodup_iff.2 (nodup.sublist (List.filter_sublist.map _))
  have hfield {α : Type} {name : String} {value : Node} {decode : Node → Option α} {a : α}
      (hdecode : decode value = some a) (standard : α) (hmem : (name, value) ∈ c.entries) :
      Record.optional name standard decode es = some (if given name then a else standard) :=
    Record.optional_of_perm hperm nodup hmem hdecode standard
  rw [ofNode?, Node.fields?_of_known true hknown hnodup, Option.bind_eq_bind, Option.bind_some,
    hfield (Undoes.uint64? c.period) _ (by simp [entries, field]),
    hfield (Policy.undoes c.policy) _ (by simp [entries, field]),
    hfield (Undoes.uint64?.listOf? c.processors) _ (by simp [entries, field]),
    hfield c.clock.word?_name _ (by simp [entries, field]),
    hfield (Undoes.flag? c.lockMemory) _ (by simp [entries, field]),
    hfield c.syncMode.word?_name _ (by simp [entries, field]),
    hfield (Undoes.uint64? c.referenceDevice) _ (by simp [entries, field]),
    hfield (Undoes.uint32? c.filterWindow) _ (by simp [entries, field]),
    hfield (Undoes.uint32? c.driftClamp) _ (by simp [entries, field]),
    hfield (Undoes.uint64?.nullable? (fun _ => rfl) c.runDuration) _ (by simp [entries, field]),
    hfield (Undoes.uint32?.nullable? (fun _ => rfl) c.healthInterval) _ (by simp [entries, field])]
  rfl

theorem undoes : Undoes ofNode? := by
  intro c
  have hall : ofNode? (.ofFields c.entries) = some (c.partly fun _ => true) :=
    ofNode?_of_perm (by rw [List.filter_true])
  exact hall

theorem admitsOnly : AdmitsOnly (fields.map (·.1)) ofNode? :=
  .of_strict fun n h => by
    rw [ofNode?, h]
    rfl

end CycleConfig

/-! ## Documents -/

namespace Document

def entries (d : Document) : List (String × Node) := [
  field "cycle" d.cycle,
  field "devices" d.devices,
  field "observability" (Node.ofFields [field "sink" d.sinkName]),
  field "domain_size" d.domainSize]

theorem sinkOfNode?_encoded (sinkName : String) :
    sinkOfNode? (.ofFields [field "sink" sinkName]) = some sinkName := by
  have nodup : ([field "sink" sinkName].map (·.1)).Nodup := by simp
  have hsink : Record.optional "sink" standardSink Node.text? [field "sink" sinkName] =
      some sinkName := Undoes.text?.optional nodup sinkName _ List.mem_cons_self
  rw [sinkOfNode?, Node.fields?_of_known true (by simp [field, sinkFields]) nodup,
    Option.bind_eq_bind, Option.bind_some, hsink]

theorem undoes : Undoes ofNode? := by
  intro d
  have nodup : (d.entries.map (·.1)).Nodup := by simp [entries, field]
  have hgiven : (Node.ofFields d.entries).fields? true fields = some d.entries :=
    Node.fields?_of_known true (by simp [entries, field, fields]) nodup
  have hsink : Record.optional "observability" standardSink sinkOfNode? d.entries =
      some d.sinkName :=
    (Record.optional_of_mem nodup (by simp [entries, field, toNode]) _ _).trans
      (sinkOfNode?_encoded d.sinkName)
  show ofNode? (.ofFields d.entries) = _
  rw [ofNode?, hgiven, Option.bind_eq_bind, Option.bind_some,
    CycleConfig.undoes.optional nodup d.cycle _ (by simp [entries]),
    Device.undoes.listOf?.required nodup d.devices (by simp [entries]), hsink,
    (Undoes.uint64?.nullable? fun _ => rfl).optional nodup d.domainSize _ (by simp [entries])]
  rfl

theorem admitsOnly : AdmitsOnly (fields.map (·.1)) ofNode? :=
  .of_strict fun n h => by
    rw [ofNode?, h]
    rfl

theorem sink_admitsOnly : AdmitsOnly (sinkFields.map (·.1)) sinkOfNode? :=
  .of_strict fun n h => by
    rw [sinkOfNode?, h]
    rfl

/-- The sections of a document are decoded with it. -/
theorem sections_of_ofNode? {es : List (String × Node)} {d : Document} {n : Node}
    (h : ofNode? (.ofFields es) = some d) :
    (("cycle", n) ∈ es → CycleConfig.ofNode? n = some d.cycle) ∧
      (("observability", n) ∈ es → sinkOfNode? n = some d.sinkName) := by
  simp only [ofNode?, Option.bind_eq_bind, Option.bind_eq_some_iff] at h
  obtain ⟨given, hgiven, cycle, hcycle, devices, -, sinkName, hsink, size, -, hd⟩ := h
  obtain ⟨hkept, nodup⟩ := Node.eq_of_fields? hgiven
  obtain rfl := Option.some.inj hd
  have hmem {name : String} (hknown : name ∈ fields.map (·.1)) (h : (name, n) ∈ es) :
      (name, n) ∈ given := by
    rw [hkept]
    exact List.mem_filter.2 ⟨h, decide_eq_true hknown⟩
  constructor
  · intro h
    rwa [Record.optional_of_mem nodup (hmem (by simp [fields]) h)] at hcycle
  · intro h
    rwa [Record.optional_of_mem nodup (hmem (by simp [fields]) h)] at hsink

end Document

/-! ## Every configuration -/

/-- **Decoding undoes encoding**, for cycle sections, devices and documents. A cycle section with
some of its fields, in any order, has the standard values for the others. Cycle and observability
sections and the document itself admit no other keys, and a document with a section that means
nothing means nothing. Devices, ranges and policies ignore other keys. -/
theorem decode_encode :
    (Undoes CycleConfig.ofNode? ∧ Undoes Device.ofNode? ∧ Undoes Document.ofNode?) ∧
    (∀ (c : CycleConfig) (given : String → Bool) (es : List (String × Node)),
      es.Perm (c.entries.filter fun e => given e.1) →
        CycleConfig.ofNode? (.ofFields es) = some (c.partly given)) ∧
    (AdmitsOnly (CycleConfig.fields.map (·.1)) CycleConfig.ofNode? ∧
      AdmitsOnly (Document.sinkFields.map (·.1)) Document.sinkOfNode? ∧
      AdmitsOnly (Document.fields.map (·.1)) Document.ofNode? ∧
      ∀ (es : List (String × Node)) (n : Node),
        ("cycle", n) ∈ es ∧ CycleConfig.ofNode? n = none ∨
            ("observability", n) ∈ es ∧ Document.sinkOfNode? n = none →
          Document.ofNode? (.ofFields es) = none) ∧
    Ignores (Device.fields.map (·.1)) Device.ofNode? ∧
    Ignores (ByteRange.fields.map (·.1)) ByteRange.ofNode? ∧
    ∀ (es : List (String × Node)) (kind : String), field Policy.kindField kind ∈ es →
      Policy.ofNode? (.ofFields (es.filter fun e =>
          e.1 = Policy.kindField ∨ e.1 ∈ Policy.parameters kind)) =
        Policy.ofNode? (.ofFields es) := by
  refine ⟨⟨CycleConfig.undoes, Device.undoes, Document.undoes⟩,
    fun c given es => CycleConfig.ofNode?_of_perm,
    ⟨CycleConfig.admitsOnly, Document.sink_admitsOnly, Document.admitsOnly, fun es n h => ?_⟩,
    Device.ignores, ByteRange.ignores, fun es kind => Policy.ofNode?_filter⟩
  rw [Option.eq_none_iff_forall_ne_some]
  intro d hd
  obtain ⟨hcycle, hsink⟩ := Document.sections_of_ofNode? hd
  rcases h with ⟨hmem, hnone⟩ | ⟨hmem, hnone⟩
  · cases hnone.symm.trans (hcycle hmem)
  · cases hnone.symm.trans (hsink hmem)

/-- Two fields of a cycle section the other way round, and with a key too many. -/
theorem decode_encode_of_fragment :
    let policy := Policy.deadline 100000 200000 1000000
    let es := [field "drift_clamp_ns" (0 : UInt32), field "policy" policy]
    CycleConfig.ofNode? (.ofFields es) =
        some { CycleConfig.standard with policy, driftClamp := 0 } ∧
      CycleConfig.ofNode? (.ofFields (field "policies" policy :: es)) = none ∧
      Document.ofNode? (.ofFields [field "devices" ([] : List Device),
        field "cycle" (Node.ofFields (field "policies" policy :: es))]) = none := by
  intro policy es
  obtain ⟨-, hpartly, ⟨hcycle, -, -, hsection⟩, -⟩ := decode_encode
  have hunknown : CycleConfig.ofNode? (.ofFields (field "policies" policy :: es)) = none :=
    hcycle _ _ List.mem_cons_self (by simp [field, CycleConfig.fields])
  refine ⟨?_, hunknown, hsection _ _ (.inl ⟨?_, hunknown⟩)⟩
  · exact hpartly { CycleConfig.standard with policy, driftClamp := 0 }
      (fun name => name = "policy" ∨ name = "drift_clamp_ns") es (.swap _ _ _)
  · simp [field, toNode]

end CyclicBus

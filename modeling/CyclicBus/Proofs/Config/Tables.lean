import CyclicBus.Config.Encode
import Mathlib.Data.List.Nodup

/-!
# Tables with texts as keys

What decoding reads of a table whose keys are texts: the entries that a record knows, each of them
once, in whatever order they stand (`fields?_ofFields`). A strict record refuses a table with an
unknown key, another one reads it as if that entry were not there. `Undoes decode`: decoding gives
back what was encoded; single values and lists of them do.
-/

namespace CyclicBus

/-! ## Entries by name -/

section Entries

variable {entries all : List (String × Node)} {name : String} {value : Node}

/-- Where no name stands twice, an entry is found by its name. -/
theorem lookup_eq_some_iff (nodup : (entries.map (·.1)).Nodup) :
    entries.lookup name = some value ↔ (name, value) ∈ entries := by
  induction entries with
  | nil => simp
  | cons e entries ih =>
    obtain ⟨first, node⟩ := e
    rw [List.map_cons, List.nodup_cons] at nodup
    rw [List.lookup_cons, List.mem_cons]
    by_cases hname : name = first
    · subst hname
      have hother : (name, value) ∉ entries := fun hmem =>
        nodup.1 (List.mem_map.2 ⟨_, hmem, rfl⟩)
      simp [hother, eq_comm]
    · have hskip : (name == first) = false := beq_false_of_ne hname
      rw [hskip]
      simp [hname, ih nodup.2]

/-- Some entries of a table, in any order: those that are given are found, and no others. -/
theorem lookup_of_perm {given : String → Bool}
    (hperm : entries.Perm (all.filter fun e => given e.1)) (nodup : (all.map (·.1)).Nodup)
    (hmem : (name, value) ∈ all) :
    entries.lookup name = if given name then some value else none := by
  have hentries : (entries.map (·.1)).Nodup :=
    (hperm.map _).nodup_iff.2 (nodup.sublist (List.filter_sublist.map _))
  cases hgiven : given name with
  | true =>
    rw [if_pos rfl, lookup_eq_some_iff hentries, hperm.mem_iff]
    exact List.mem_filter.2 ⟨hmem, hgiven⟩
  | false =>
    rw [if_neg Bool.false_ne_true, Option.eq_none_iff_forall_ne_some]
    intro found hfound
    rw [lookup_eq_some_iff hentries, hperm.mem_iff, List.mem_filter, hgiven] at hfound
    exact Bool.false_ne_true hfound.2

theorem Record.required_of_mem {α : Type} (nodup : (entries.map (·.1)).Nodup)
    (hmem : (name, value) ∈ entries) (decode : Node → Option α) :
    Record.required name decode entries = decode value := by
  rw [Record.required, (lookup_eq_some_iff nodup).2 hmem]
  rfl

theorem Record.optional_of_mem {α : Type} (nodup : (entries.map (·.1)).Nodup)
    (hmem : (name, value) ∈ entries) (decode : Node → Option α) (standard : α) :
    Record.optional name standard decode entries = decode value := by
  rw [Record.optional, (lookup_eq_some_iff nodup).2 hmem]

/-- A field with a standard value, of which a table may say nothing. -/
theorem Record.optional_of_perm {α : Type} {given : String → Bool}
    (hperm : entries.Perm (all.filter fun e => given e.1)) (nodup : (all.map (·.1)).Nodup)
    {decode : Node → Option α} {a : α} (hmem : (name, value) ∈ all)
    (hdecode : decode value = some a) (standard : α) :
    Record.optional name standard decode entries = some (if given name then a else standard) := by
  rw [Record.optional, lookup_of_perm hperm nodup hmem]
  cases given name with
  | true => exact hdecode
  | false => rfl

theorem isSome_lookup_iff {α : Type} (known : List (String × α)) (name : String) :
    (known.lookup name).isSome = true ↔ name ∈ known.map (·.1) := by
  induction known with
  | nil => simp
  | cons e known ih =>
    obtain ⟨first, a⟩ := e
    rw [List.lookup_cons, List.map_cons, List.mem_cons]
    by_cases hname : name = first
    · simp [hname]
    · have hskip : (name == first) = false := beq_false_of_ne hname
      rw [hskip]
      simp only [hname, false_or]
      exact ih

end Entries

/-! ## The fields of a record -/

namespace Node

section Fields

variable {known : List (String × Shape)} {entries : List (String × Node)}

/-- The fields of a record in a table are the entries that it knows. -/
theorem fields?_ofFields (strict : Bool) (known : List (String × Shape))
    (entries : List (String × Node)) :
    (ofFields entries).fields? strict known =
      let kept := entries.filter fun e => e.1 ∈ known.map (·.1)
      if (kept.map (·.1)).Nodup ∧ (strict → kept.length = entries.length) then some kept
      else none := by
  have hgiven : (entries.map fun (e : String × Node) => (ofText e.1, e.2)).mapM
      (fun (e : Node × Node) => do return (← e.1.text?, e.2)) = some entries := by
    induction entries with
    | nil => rfl
    | cons e entries ih =>
      rw [List.map_cons, List.mapM_cons, ih]
      rfl
  have hkept : (fun (e : String × Node) => (known.lookup e.1).isSome) =
      fun e => decide (e.1 ∈ known.map (·.1)) := by
    funext e
    rw [Bool.eq_iff_iff, isSome_lookup_iff, decide_eq_true_iff]
  unfold fields? ofFields
  dsimp only
  rw [hgiven, ← hkept]
  rfl

/-- A table of fields that a record knows. -/
theorem fields?_of_known (strict : Bool) (hknown : ∀ e ∈ entries, e.1 ∈ known.map (·.1))
    (nodup : (entries.map (·.1)).Nodup) :
    (ofFields entries).fields? strict known = some entries := by
  have hkept : (entries.filter fun e => e.1 ∈ known.map (·.1)) = entries :=
    List.filter_eq_self.2 fun e he => decide_eq_true (hknown e he)
  rw [fields?_ofFields]
  dsimp only
  rw [hkept, if_pos ⟨nodup, fun _ => rfl⟩]

theorem eq_of_fields? {strict : Bool} {given : List (String × Node)}
    (h : (ofFields entries).fields? strict known = some given) :
    given = (entries.filter fun e => e.1 ∈ known.map (·.1)) ∧ (given.map (·.1)).Nodup := by
  rw [fields?_ofFields] at h
  dsimp only at h
  split at h
  · rename_i hkept
    obtain rfl := Option.some.inj h
    exact ⟨rfl, hkept.1⟩
  · cases h

/-- A strict record admits no key that it does not know. -/
theorem fields?_of_unknown {e : String × Node} (he : e ∈ entries)
    (hunknown : e.1 ∉ known.map (·.1)) : (ofFields entries).fields? true known = none := by
  have hlt : (entries.filter fun e => e.1 ∈ known.map (·.1)).length < entries.length :=
    List.length_filter_lt_length_iff_exists.2 ⟨e, he, by simpa using hunknown⟩
  rw [fields?_ofFields]
  exact if_neg fun h => Nat.ne_of_lt hlt (h.2 rfl)

/-- Another record reads a table as if unknown entries were not there. -/
theorem fields?_filter (known : List (String × Shape)) (entries : List (String × Node)) :
    (ofFields (entries.filter fun e => e.1 ∈ known.map (·.1))).fields? false known =
      (ofFields entries).fields? false known := by
  rw [fields?_ofFields, fields?_ofFields]
  simp only [List.filter_filter, Bool.and_self, Bool.false_eq_true, false_implies, and_true]

end Fields

end Node

/-! ## Decoding -/

section Decoding

variable {α : Type}

/-- Decoding gives back what was encoded. -/
def Undoes [ToNode α] (decode : Node → Option α) : Prop := ∀ a, decode (toNode a) = some a

/-- A table with any other key means nothing. -/
def AdmitsOnly (names : List String) (decode : Node → Option α) : Prop :=
  ∀ es : List (String × Node), ∀ e ∈ es, e.1 ∉ names → decode (.ofFields es) = none

/-- A table means what it means without any other keys. -/
def Ignores (names : List String) (decode : Node → Option α) : Prop :=
  ∀ es : List (String × Node),
    decode (.ofFields (es.filter fun e => e.1 ∈ names)) = decode (.ofFields es)

variable {known : List (String × Shape)} {decode : Node → Option α}

theorem AdmitsOnly.of_strict (h : ∀ n : Node, n.fields? true known = none → decode n = none) :
    AdmitsOnly (known.map (·.1)) decode :=
  fun _ _ he hunknown => h _ (Node.fields?_of_unknown he hunknown)

theorem Ignores.of_fields?
    (h : ∀ n n' : Node, n.fields? false known = n'.fields? false known → decode n = decode n') :
    Ignores (known.map (·.1)) decode :=
  fun es => h _ _ (Node.fields?_filter known es)

end Decoding

namespace Undoes

theorem naturalBelow? {n bound : Nat} (h : n < bound) :
    (Node.ofNat n).naturalBelow? bound = some n := by
  unfold Node.ofNat Node.naturalBelow?
  simp [h]

theorem uint8? : Undoes Node.uint8? := by
  intro n
  show ((Node.ofNat n.toNat).naturalBelow? _).map UInt8.ofNat = _
  rw [naturalBelow? n.toNat_lt, Option.map_some, UInt8.ofNat_toNat]

theorem uint16? : Undoes Node.uint16? := by
  intro n
  show ((Node.ofNat n.toNat).naturalBelow? _).map UInt16.ofNat = _
  rw [naturalBelow? n.toNat_lt, Option.map_some, UInt16.ofNat_toNat]

theorem uint32? : Undoes Node.uint32? := by
  intro n
  show ((Node.ofNat n.toNat).naturalBelow? _).map UInt32.ofNat = _
  rw [naturalBelow? n.toNat_lt, Option.map_some, UInt32.ofNat_toNat]

theorem uint64? : Undoes Node.uint64? := by
  intro n
  show ((Node.ofNat n.toNat).naturalBelow? _).map UInt64.ofNat = _
  rw [naturalBelow? n.toNat_lt, Option.map_some, UInt64.ofNat_toNat]

theorem text? : Undoes Node.text? := fun _ => rfl

theorem flag? : Undoes Node.flag? := fun _ => rfl

variable {α : Type} [ToNode α] {decode : Node → Option α}

section Fields

variable {entries : List (String × Node)} {name : String}

/-- A field of a record whose value was encoded. -/
theorem required (h : Undoes decode) (nodup : (entries.map (·.1)).Nodup) (a : α)
    (hmem : field name a ∈ entries) : Record.required name decode entries = some a :=
  (Record.required_of_mem nodup hmem decode).trans (h a)

theorem optional (h : Undoes decode) (nodup : (entries.map (·.1)).Nodup) (a standard : α)
    (hmem : field name a ∈ entries) : Record.optional name standard decode entries = some a :=
  (Record.optional_of_mem nodup hmem decode standard).trans (h a)

end Fields

theorem listOf? (h : Undoes decode) : Undoes (Node.listOf? decode) := by
  intro as
  show (as.map toNode).mapM decode = some as
  induction as with
  | nil => rfl
  | cons a as ih =>
    rw [List.map_cons, List.mapM_cons, h a, ih]
    rfl

/-- A value that is not null is not taken for a missing one. -/
theorem nullable? (h : Undoes decode) (hnull : ∀ a : α, (toNode a).isNull = false) :
    Undoes (Node.nullable? decode) := by
  intro a
  cases a with
  | none => rfl
  | some a =>
    show (if (toNode a).isNull then some none else (decode (toNode a)).map some) = _
    rw [hnull, if_neg Bool.false_ne_true, h a]
    rfl

end Undoes

end CyclicBus

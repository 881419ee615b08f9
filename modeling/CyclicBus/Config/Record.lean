import CyclicBus.Node
import CyclicBus.Shape

/-!
# Records in a tree

A record is given as a table from field names to values, in any order, or as the list of its first
fields. A word may also be given as a table from that word to null.
-/

namespace CyclicBus

namespace Node

/-- The fields that a node gives of a record with the fields `known`, none of them twice. A strict
record admits no other fields. -/
def fields? (strict : Bool) (known : List (String × Shape)) : Node → Option (List (String × Node))
  | scalar _ => none
  | list items =>
    if items.length ≤ known.length then some ((known.map (·.1)).zip items) else none
  | table entries => do
    let given ← entries.mapM fun (key, value) => return (← key.text?, value)
    let kept := given.filter fun (name, _) => (known.lookup name).isSome
    if (kept.map (·.1)).Nodup ∧ (strict → kept.length = given.length) then some kept else none

/-- One of a list of words with a meaning. -/
def word? {α : Type} (words : List (String × α)) (node : Node) : Option α := do
  let word ← match node with
    | table [(key, value)] => if value.isNull then key.text? else none
    | node => node.text?
  words.lookup word

end Node

namespace Record

def required {α : Type} (name : String) (decode : Node → Option α) (fields : List (String × Node)) :
    Option α := do
  decode (← fields.lookup name)

/-- A field with a value where nothing is given. -/
def optional {α : Type} (name : String) (standard : α) (decode : Node → Option α)
    (fields : List (String × Node)) : Option α :=
  match fields.lookup name with
  | some node => decode node
  | none => some standard

end Record

end CyclicBus

/-!
# Configuration trees

A configuration before it is decoded: scalars, lists, and tables whose entries keep their order.
-/

namespace CyclicBus

/-- A value without parts. -/
inductive Scalar where
  | null
  | flag (value : Bool)
  | number (value : Int)
  /-- A number that is not written as an integer. -/
  | fraction
  | text (value : String)
  deriving DecidableEq, Repr

/-- A configuration tree. -/
inductive Node where
  | scalar (value : Scalar)
  | list (items : List Node)
  | table (entries : List (Node × Node))
  deriving Repr, Inhabited

/-! ## Questions to a node -/

namespace Node

def null : Node := scalar .null

def ofNat (n : Nat) : Node := scalar (.number n)

def ofText (s : String) : Node := scalar (.text s)

/-- A table with texts as keys. -/
def ofFields (fields : List (String × Node)) : Node :=
  table (fields.map fun (name, value) => (ofText name, value))

def isNull : Node → Bool
  | scalar .null => true
  | _ => false

/-- The node as a flag. -/
def flag? : Node → Option Bool
  | scalar (.flag b) => some b
  | _ => none

/-- The node as a text. -/
def text? : Node → Option String
  | scalar (.text s) => some s
  | _ => none

/-- The node as a number below a bound. -/
def naturalBelow? (bound : Nat) : Node → Option Nat
  | scalar (.number n) => if 0 ≤ n ∧ n < bound then some n.toNat else none
  | _ => none

/-- The items of a list. -/
def items? : Node → Option (List Node)
  | list items => some items
  | _ => none

end Node

/-! ## Values with a tree -/

/-- Values that have a tree. -/
class ToNode (α : Type) where
  toNode : α → Node

export ToNode (toNode)

instance : ToNode Node := ⟨id⟩
instance : ToNode Nat := ⟨.ofNat⟩
instance : ToNode Int := ⟨fun n => .scalar (.number n)⟩
instance : ToNode UInt8 := ⟨fun n => .ofNat n.toNat⟩
instance : ToNode UInt16 := ⟨fun n => .ofNat n.toNat⟩
instance : ToNode UInt32 := ⟨fun n => .ofNat n.toNat⟩
instance : ToNode UInt64 := ⟨fun n => .ofNat n.toNat⟩
instance : ToNode Int32 := ⟨fun n => toNode n.toInt⟩
instance : ToNode Int64 := ⟨fun n => toNode n.toInt⟩
instance : ToNode Bool := ⟨fun b => .scalar (.flag b)⟩
instance : ToNode String := ⟨.ofText⟩

/-- What is missing is null. -/
instance {α : Type} [ToNode α] : ToNode (Option α) := ⟨fun a => a.elim .null toNode⟩

instance {α : Type} [ToNode α] : ToNode (List α) := ⟨fun as => .list (as.map toNode)⟩

/-- A pair is a list of two. -/
instance {α β : Type} [ToNode α] [ToNode β] : ToNode (α × β) :=
  ⟨fun p => .list [toNode p.1, toNode p.2]⟩

def field {α : Type} [ToNode α] (name : String) (value : α) : String × Node := (name, toNode value)

end CyclicBus

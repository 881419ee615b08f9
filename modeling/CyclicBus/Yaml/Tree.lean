import CyclicBus.Shape
import CyclicBus.Yaml.Token
import CyclicBus.Yaml.Word

/-!
# Trees with references

A document as it is written: scalars have a style and perhaps a tag, but no type, and a node may
refer to another one. `Graph.node?` reads such a document by a shape. It goes only where the shape
looks; on the way it follows references, not too many of them, and not too deep.
-/

namespace CyclicBus.Yaml

/-- A scalar as it is written. -/
structure Writing where
  tag : Option Tag
  style : Style
  text : String
  deriving DecidableEq, Repr

/-- A node as it is written. -/
inductive Tree where
  | scalar (writing : Writing)
  | list (tag : Option Tag) (items : List Tree)
  | table (tag : Option Tag) (entries : List (Tree × Tree))
  | reference (number : Nat)
  deriving Repr, Inhabited

namespace Tree

/-- A node of which nothing is written. -/
def empty : Tree := scalar ⟨none, .plain, ""⟩

mutual

/-- The number of places where a node starts, and where one with parts ends. -/
def eventCount : Tree → Nat
  | scalar _ => 1
  | list _ items => itemCount items + 2
  | table _ entries => entryCount entries + 2
  | reference _ => 1

/-- The same for the items of a list. -/
def itemCount : List Tree → Nat
  | [] => 0
  | item :: rest => item.eventCount + itemCount rest

/-- The same for the entries of a table. -/
def entryCount : List (Tree × Tree) → Nat
  | [] => 0
  | (key, value) :: rest => key.eventCount + value.eventCount + entryCount rest

end

end Tree

/-- A document: its outermost node, and what the references lead to. -/
structure Graph where
  root : Tree
  /-- The nodes with a number, in the order in which they start. -/
  numbered : Array (Nat × Tree)

/-! ## Scalars -/

namespace Writing

/-- Whether the scalar is plain and nothing is written of it. -/
def isEmpty (w : Writing) : Bool := w.style == .plain && w.text.isEmpty

/-- Whether the scalar may be read as what a tag says: if it is plain, or is literal and has that
tag. -/
def admits (tag : Tag) (w : Writing) : Bool :=
  w.style == .plain || (w.style == .literal && w.tag == some tag)

/-- What the scalar is where nothing in particular is looked for. A tag must tell the truth. -/
def settled? (w : Writing) : Option Scalar :=
  match w.tag with
  | some .null => if Word.isNull w.text then some .null else none
  | some .flag => (Word.flag? w.text).map .flag
  | some .integer => Word.number? w.text
  | some .fraction => if Word.isFraction w.text then some .fraction else none
  | some (.own (some _)) => none
  | some .other => some (.text w.text)
  | none | some (.own none) =>
    if w.style == .plain then Word.settled? w.text else some (.text w.text)

/-- A key. Only a number without a minus sign can be the position of a field. -/
def key? (w : Writing) : Option Scalar :=
  match w.settled? with
  | some (.number n) => some (if w.text.front == '-' then .fraction else .number n)
  | scalar => scalar

def node? (w : Writing) : Shape → Option Node
  | .text => some (.ofText w.text)
  | .flag => if w.admits .flag then (Word.flag? w.text).map (.scalar <| .flag ·) else none
  | .natural => if w.admits .integer then (Word.natural? w.text).map .ofNat else none
  | .word =>
    match w.tag with
    | some (.own (some name)) =>
      if w.style == .plain && Word.isAbsent w.text then some (.ofText name) else none
    | _ => some (.ofText w.text)
  | .nullable shape =>
    if w.style == .plain && w.tag == some .null then
      if Word.isNull w.text then some .null else none
    else if w.style == .plain && w.tag.isNone && Word.isAbsent w.text then some .null
    else w.node? shape
  | .listOf _ => if w.isEmpty then some (.list []) else none
  | .record _ => if w.isEmpty then some (.table []) else none
  | .kinded _ => none
  | .any => w.settled?.map .scalar
  | .key => w.key?.map .scalar

end Writing

/-! ## Nodes -/

namespace Graph

/-- The number of collections that may stand inside one another. -/
def greatestDepth : Nat := 128

/-- The number of references that may be followed, for each event of the document. -/
def jumpsPerEvent : Nat := 100

/-- A reader that may still follow a number of references. -/
abbrev Follow := StateT Nat Option

/-- The node where a tree is: itself, or what it refers to. -/
def resolve (g : Graph) : Tree → Follow Tree
  | .reference number => do
    guard (0 < (← get))
    modify (· - 1)
    (g.numbered.findRev? (·.1 == number)).map (·.2)
  | tree => return tree

/-- What is read as it is may not have a tag of the document's own. -/
def checkTag (tag : Option Tag) : Follow Unit := guard !tag.any Tag.isNamed

/-- A list by a shape. `read` reads its items. -/
def listBy (read : Shape → Tree → Follow Node) (tag : Option Tag) (items : List Tree) :
    Shape → Follow Node
  | .listOf item => .list <$> items.mapM (read item)
  | .kinded _ => do
    checkTag tag
    match items with
    | [] => return .list []
    | kind :: others => return .list ((← read .text kind) :: (← others.mapM (read .any)))
  | .any | .key => do
    checkTag tag
    .list <$> items.mapM (read .any)
  | _ => failure

/-- A table by a shape. `read` reads its keys and values. -/
def tableBy (read : Shape → Tree → Follow Node) (tag : Option Tag) (entries : List (Tree × Tree)) :
    Shape → Follow Node
  | .record fields =>
    .table <$> entries.mapM fun (key, value) => do
      let key ← read .text key
      match key.text?.bind (fields.lookup ·) with
      | some shape => return (key, ← read shape value)
      | none => return (key, .null)
  | .kinded kindField => do
    checkTag tag
    .table <$> entries.mapM fun (key, value) => do
      let key ← read .key key
      return (key, ← read (if key.text? == some kindField then .text else .any) value)
  | .any | .key => do
    checkTag tag
    .table <$> entries.mapM fun (key, value) => return (← read .any key, ← read .any value)
  | _ => failure

/-- The node at a tree by a shape, with at most `depth` collections inside one another. -/
def read (g : Graph) (depth : Nat) (shape : Shape) (tree : Tree) : Follow Node := do
  match ← g.resolve tree, depth with
  | .scalar w, _ => w.node? shape
  | .list tag items, depth + 1 => listBy (g.read depth) tag items shape.present
  | .table tag entries, depth + 1 => tableBy (g.read depth) tag entries shape.present
  | _, _ => failure

def node? (g : Graph) (shape : Shape) : Option Node :=
  (g.read greatestDepth shape g.root).run' (jumpsPerEvent * g.root.eventCount)

end Graph

end CyclicBus.Yaml

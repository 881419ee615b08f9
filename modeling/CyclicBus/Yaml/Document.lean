import CyclicBus.Yaml.Stream
import CyclicBus.Yaml.Tree

/-!
# The document of a stream

`Graph.ofText?` reads a text that holds exactly one document. The readers below take tokens as the
grammar has them; each call but the last takes a token or goes one level deeper in the grammar, so
that a few steps for each token are enough.

A node with an anchor gets a number when it starts: how many names have been given before it. A name
that is given again thus gets the number that the next new name will get as well, and of the nodes
with one number the last to start is the one that references lead to.
-/

namespace CyclicBus.Yaml

/-- What a reader of tokens knows. -/
structure Grammar where
  left : List Token
  handles : List (String × List UInt8)
  /-- The names given so far, each with the number that it has now. -/
  names : List (String × Nat)
  /-- The nodes with a number, in the order in which they start. -/
  numbered : Array (Nat × Tree)

/-- A reader of tokens. -/
abbrev Read := StateT Grammar Option

namespace Read

def next? : Read (Option Token) := return (← get).left.head?

def advance : Read Unit := modify fun g => { g with left := g.left.tail }

/-- Go past the next token if it is the expected one. -/
def accept (token : Token) : Read Bool := do
  if (← next?) == some token then
    advance
    return true
  else return false

/-- Go past the next token, which must be the expected one. -/
def expect (token : Token) : Read Unit := do
  guard (← accept token)

/-- Whether the next token is one of a list, or none is left. -/
def stopsAt (tokens : List Token) : Read Bool := do
  match ← next? with
  | some token => return token ∈ tokens
  | none => return true

/-- The tag of a token. Its handle must be known. -/
def tagOf : Option String → List UInt8 → Read Tag
  | none, rest => return .ofOctets rest
  | some handle, rest => do
    let stem ← ((← get).handles ++ Tag.standardHandles).lookup handle
    return .ofOctets (stem ++ rest)

def anchor? : Read (Option String) := do
  let some (.anchor name) ← next? | return none
  advance
  return some name

def tag? : Read (Option Tag) := do
  let some (.tag handle rest) ← next? | return none
  advance
  some <$> tagOf handle rest

/-- The anchor and the tag before a node, in either order. -/
def properties : Read (Option String × Option Tag) := do
  match ← anchor? with
  | some name => return (some name, ← tag?)
  | none => do
    let tag ← tag?
    return (← if tag.isSome then anchor? else pure none, tag)

/-- Number the node that starts here with an anchor, and give its place among the nodes with a
number. -/
def numberNode (name : String) : Read Nat := do
  let g ← get
  let number := g.names.length
  let names := (name, number) :: g.names.filter (·.1 != name)
  set { g with names, numbered := g.numbered.push (number, .empty) }
  return g.numbered.size

/-- Fill in what a node with a number turns out to be. -/
def fillIn (place : Nat) (tree : Tree) : Read Unit :=
  modify fun g => { g with numbered := g.numbered.modify place fun (number, _) => (number, tree) }

mutual

/-- A node. Block collections are possible where `inBlock`; where `dashes`, also a sequence whose
dashes stand at the margin of the mapping around it. -/
def node : (steps : Nat) → (inBlock dashes : Bool) → Read Tree
  | 0, _, _ => failure
  | steps + 1, inBlock, dashes => do
    if let some (.anchored name) ← next? then
      advance
      return .reference (← (← get).names.lookup name)
    let (name, tag) ← properties
    let place ← name.mapM numberNode
    let tree ← match ← next?, inBlock, dashes with
      | some .entry, _, true => .list tag <$> blockItems steps true
      | some (.scalar style text), _, _ => do
        advance
        pure (.scalar ⟨tag, style, text⟩)
      | some .sequenceOpen, _, _ => do
        advance
        .list tag <$> flowItems steps true
      | some .mappingOpen, _, _ => do
        advance
        .table tag <$> flowEntries steps true
      | some .blockSequence, true, _ => do
        advance
        .list tag <$> blockItems steps false
      | some .blockMapping, true, _ => do
        advance
        .table tag <$> blockEntries steps
      | _, _, _ => do
        guard (name.isSome || tag.isSome)
        pure (.scalar ⟨tag, .plain, ""⟩)
    if let some place := place then fillIn place tree
    return tree

/-- A node, or an empty one where one of the tokens stands. -/
def nodeUnless : (steps : Nat) → (inBlock dashes : Bool) → List Token → Read Tree
  | 0, _, _, _ => failure
  | steps + 1, inBlock, dashes, tokens => do
    if ← stopsAt tokens then return .empty else node steps inBlock dashes

/-- The items of a block sequence. Without an indentation of their own (`bare`) they end at the
first other token. -/
def blockItems : (steps : Nat) → (bare : Bool) → Read (List Tree)
  | 0, _ => failure
  | steps + 1, bare => do
    if ← accept .entry then
      let stops := if bare then [.entry, .key, .value, .blockEnd] else [.entry, .blockEnd]
      let item ← nodeUnless steps true false stops
      return item :: (← blockItems steps bare)
    else
      unless bare do expect .blockEnd
      return []

def blockEntries : (steps : Nat) → Read (List (Tree × Tree))
  | 0 => failure
  | steps + 1 => do
    if ← accept .key then
      let stops := [.key, .value, .blockEnd]
      let key ← nodeUnless steps true true stops
      let value ← if ← accept .value then nodeUnless steps true true stops else pure .empty
      return (key, value) :: (← blockEntries steps)
    else
      expect .blockEnd
      return []

/-- The items of a flow sequence. A key among them starts a mapping of one entry. -/
def flowItems : (steps : Nat) → (first : Bool) → Read (List Tree)
  | 0, _ => failure
  | steps + 1, first => do
    if ← accept .sequenceClose then return []
    unless first do expect .comma
    if ← accept .sequenceClose then
      return []
    else if ← accept .key then
      let key ← if ← stopsAt [.value, .comma, .sequenceClose] then
          advance
          pure .empty
        else node steps false false
      let value ← if ← accept .value then nodeUnless steps false false [.comma, .sequenceClose]
        else pure .empty
      return .table none [(key, value)] :: (← flowItems steps false)
    else
      let item ← node steps false false
      return item :: (← flowItems steps false)

/-- The entries of a flow mapping. A node by itself is a key without a value. -/
def flowEntries : (steps : Nat) → (first : Bool) → Read (List (Tree × Tree))
  | 0, _ => failure
  | steps + 1, first => do
    if ← accept .mappingClose then return []
    unless first do expect .comma
    if ← accept .mappingClose then
      return []
    else if ← accept .key then
      let key ← nodeUnless steps false false [.value, .comma, .mappingClose]
      let value ← if ← accept .value then nodeUnless steps false false [.comma, .mappingClose]
        else pure .empty
      return (key, value) :: (← flowEntries steps false)
    else
      let key ← node steps false false
      return (key, .empty) :: (← flowEntries steps false)

end

/-- The directives before a document: one version at most, and tag handles, none of them twice. -/
def directives (versioned : Bool) : List Token → Read Bool
  | .version major minor :: rest => do
    guard (!versioned && major == 1 && (minor == 1 || minor == 2))
    advance
    let _ ← directives true rest
    return true
  | .handle name stem :: rest => do
    guard (((← get).handles.lookup name).isNone)
    modify fun g => { g with handles := (name, stem) :: g.handles }
    advance
    let _ ← directives versioned rest
    return true
  | _ => return false

/-- A document. Its start must be marked where directives come before it. -/
def document (steps : Nat) : Read Tree := do
  let declared ← directives false (← get).left
  let marked ← accept .documentStart
  guard (marked || !declared)
  if marked then nodeUnless steps true false [.documentStart, .documentEnd]
  else node steps true false

/-- Whether nothing but ends of a document is left. -/
def onlyEnds (left : List Token) : Bool := left.all (· == .documentEnd)

end Read

/-- The document of a text that holds exactly one. -/
def Graph.ofText? (text : String) : Option Graph := do
  let tokens ← tokens? text
  let (root, g) ← (Read.document (4 * tokens.length + 4)).run ⟨tokens, [], [], #[]⟩
  if Read.onlyEnds g.left then some ⟨root, g.numbered⟩ else none

end CyclicBus.Yaml

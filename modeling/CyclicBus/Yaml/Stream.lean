import CyclicBus.Yaml.Name
import CyclicBus.Yaml.ScalarText

/-!
# The tokens of a stream

`tokens?` cuts a text into tokens. Indentation opens and closes block collections. That a mapping
starts is often seen only at the colon after its first key: so each place where such a key may have
started is remembered as a candidate, and the tokens that open the mapping are put in there.
-/

namespace CyclicBus.Yaml

/-- A place where the key of a mapping may have started. -/
structure Candidate where
  required : Bool
  /-- The number of tokens before it. -/
  number : Nat
  place : Place

namespace Candidate

/-- The greatest length, in octets, of a key that no indicator announces. -/
def greatestLength : Nat := 1024

/-- Whether a colon at `place` can still make this a key. -/
def reaches (place : Place) (c : Candidate) : Bool :=
  c.place.line == place.line && place.index ≤ c.place.index + greatestLength

end Candidate

/-- A text of which some tokens have been taken. -/
structure Stream where
  left : Cursor
  tokens : Array Token
  /-- The candidate of the innermost flow collection, or of the block context outside of any. -/
  candidate : Option Candidate
  /-- The candidates of the contexts around it. The last one is the block context's. -/
  outer : List (Option Candidate)
  /-- The columns of the open block collections, innermost first. -/
  indents : List Nat
  keyAllowed : Bool

namespace Stream

def ofChars (text : List Char) : Stream := ⟨⟨text, .start⟩, #[], none, [], [], true⟩

def inFlow (s : Stream) : Bool := !s.outer.isEmpty

def column (s : Stream) : Nat := s.left.place.column

def emit (token : Token) (s : Stream) : Stream := { s with tokens := s.tokens.push token }

/-- Go on `n` characters of one octet. -/
def skip (n : Nat) (s : Stream) : Stream :=
  { s with left := ⟨s.left.rest.drop n, s.left.place.rightBy n⟩ }

/-! ## Gaps between tokens -/

/-- Skip blanks, comments and line ends. Tabs count as blanks where no key may start, and so does a
byte order mark at the very start. -/
def gapFrom (inFlow : Bool) (keyAllowed inComment : Bool) : List Char → Place → Bool × Cursor
  | [], place => (keyAllowed, ⟨[], place⟩)
  | c :: rest, place =>
    if isBreak c then gapFrom inFlow (keyAllowed || !inFlow) false rest place.newline
    else if inComment || c == '#' then gapFrom inFlow keyAllowed true rest (place.right c)
    else if c == ' ' || (c == '\t' && (inFlow || !keyAllowed)) ||
        (c == '\ufeff' && place.index == 0) then
      gapFrom inFlow keyAllowed false rest (place.right c)
    else (keyAllowed, ⟨c :: rest, place⟩)

def toToken (s : Stream) : Stream :=
  let (keyAllowed, left) := gapFrom s.inFlow s.keyAllowed false s.left.rest s.left.place
  { s with keyAllowed, left }

/-! ## Candidates -/

/-- Forget a candidate, unless it is required. -/
def forget : Option Candidate → Option (Option Candidate)
  | some ⟨true, _, _⟩ => none
  | _ => some none

def dropCandidate (s : Stream) : Option Stream := do
  return { s with candidate := ← forget s.candidate }

/-- Forget the candidates that are out of reach. -/
def dropDistant (s : Stream) : Option Stream := do
  let keep : Option Candidate → Option (Option Candidate)
    | some c => if c.reaches s.left.place then some (some c) else forget (some c)
    | none => some none
  return { s with candidate := ← keep s.candidate, outer := ← s.outer.mapM keep }

/-- A key may start here: remember the place. -/
def noteCandidate (s : Stream) : Option Stream :=
  if s.keyAllowed then do
    let s ← s.dropCandidate
    let required := !s.inFlow && s.indents.head? == some s.column
    some { s with candidate := some ⟨required, s.tokens.size, s.left.place⟩ }
  else some s

/-! ## Indentation -/

/-- Open a block collection at a column, unless one is open there. Its token goes before the token
of a given number. -/
def openBlock (column number : Nat) (token : Token) (s : Stream) : Stream :=
  if s.inFlow || s.indents.head?.any (column ≤ ·) then s
  else { s with
    indents := column :: s.indents
    tokens := s.tokens.insertIdxIfInBounds number token }

/-- Close the block collections from the innermost on while they are to be closed. -/
def closeBlocks (closes : Nat → Bool) (s : Stream) : Stream :=
  if s.inFlow then s
  else
    let closed := s.indents.takeWhile closes
    { s with
      indents := s.indents.drop closed.length
      tokens := s.tokens ++ Array.replicate closed.length Token.blockEnd }

/-! ## Tokens -/

/-- A token that ends all open block collections. -/
def atTopLevel (s : Stream) : Option Stream := do
  let s ← (s.closeBlocks fun _ => true).dropCandidate
  return { s with keyAllowed := false }

def marker (token : Token) (s : Stream) : Option Stream := do
  return (← s.atTopLevel).emit token |>.skip 3

def directive (s : Stream) : Option Stream := do
  let s ← s.atTopLevel
  let (token, left) ← directive? (s.skip 1).left
  return { s.emit token with left := ← restOfLine false left.rest left.place }

def openFlow (token : Token) (s : Stream) : Option Stream := do
  let s ← s.noteCandidate
  return { s.emit token with
    outer := s.candidate :: s.outer, candidate := none, keyAllowed := true }.skip 1

def closeFlow (token : Token) (s : Stream) : Option Stream := do
  let s ← s.dropCandidate
  let (candidate, outer) := match s.outer with
    | candidate :: outer => (candidate, outer)
    | [] => (s.candidate, [])
  return { s.emit token with candidate, outer, keyAllowed := false }.skip 1

def comma (s : Stream) : Option Stream := do
  let s ← s.dropCandidate
  return { s.emit .comma with keyAllowed := true }.skip 1

/-- The start of a block collection's item, if one may be here. -/
def openItem (token : Token) (s : Stream) : Option Stream :=
  if s.inFlow then some s
  else if s.keyAllowed then some (s.openBlock s.column s.tokens.size token)
  else none

def dash (s : Stream) : Option Stream := do
  let s ← (← s.openItem .blockSequence).dropCandidate
  return { s.emit .entry with keyAllowed := true }.skip 1

def question (s : Stream) : Option Stream := do
  let s ← (← s.openItem .blockMapping).dropCandidate
  return { s.emit .key with keyAllowed := !s.inFlow }.skip 1

/-- A colon: the value of the candidate, if there is one. -/
def colon (s : Stream) : Option Stream :=
  match s.candidate with
  | some c =>
    let s := { s with tokens := s.tokens.insertIdxIfInBounds c.number .key }
    let s := s.openBlock c.place.column c.number .blockMapping
    some ({ s with candidate := none, keyAllowed := false }.emit .value |>.skip 1)
  | none => do
    let s ← s.openItem .blockMapping
    return { s.emit .value with keyAllowed := !s.inFlow }.skip 1

/-- An anchor or a reference to one. -/
def named (token : String → Token) (s : Stream) : Option Stream := do
  let s ← s.noteCandidate
  let (name, left) ← anchorName? (s.skip 1).left
  return { s.emit (token name) with left, keyAllowed := false }

def tag (s : Stream) : Option Stream := do
  let s ← s.noteCandidate
  let (token, left) ← tag? s.inFlow s.left
  return { s.emit token with left, keyAllowed := false }

def blockScalar (folds : Bool) (s : Stream) : Option Stream := do
  let s ← s.dropCandidate
  let r ← block? folds s.indents.head? (s.skip 1).left
  let style := if folds then Style.folded else Style.literal
  return { s.emit (.scalar style r.text) with left := r.left, keyAllowed := true }

def quotedScalar (double : Bool) (s : Stream) : Option Stream := do
  let s ← s.noteCandidate
  let r ← quoted? double (s.skip 1).left
  return { s.emit (.scalar .quoted r.text) with left := r.left, keyAllowed := false }

/-- A plain scalar. A key may start after it on another line. -/
def plainScalar (s : Stream) : Option Stream := do
  let s ← s.noteCandidate
  let r ← plain? s.inFlow (s.indents.head?.elim 0 (· + 1)) s.left
  return { s.emit (.scalar .plain r.text) with left := r.left, keyAllowed := r.crossedLine }

/-- Whether a plain scalar can start with a character, given what follows. -/
def startsPlain (inFlow : Bool) (c : Char) (rest : List Char) : Bool :=
  if c == '-' then !rest.head?.any isBlank
  else if c == '?' || c == ':' then !inFlow && !atGap rest
  else isInk c && !",[]\x7b\x7d#&*!|>'\"%@\x60".contains c

/-- Take the token that starts with `c`. -/
def take (c : Char) (rest : List Char) (s : Stream) : Option Stream :=
  let indicates := s.inFlow || atGap rest
  if c == '%' && s.column == 0 then s.directive
  else if atMarker s.column (c :: rest) then
    s.marker (if c == '-' then .documentStart else .documentEnd)
  else if c == '[' then s.openFlow .sequenceOpen
  else if c == '{' then s.openFlow .mappingOpen
  else if c == ']' then s.closeFlow .sequenceClose
  else if c == '}' then s.closeFlow .mappingClose
  else if c == ',' then s.comma
  else if c == '-' && atGap rest then s.dash
  else if c == '?' && indicates then s.question
  else if c == ':' && indicates then s.colon
  else if c == '*' then s.named .anchored
  else if c == '&' then s.named .anchor
  else if c == '!' then s.tag
  else if c == '|' && !s.inFlow then s.blockScalar false
  else if c == '>' && !s.inFlow then s.blockScalar true
  else if c == '\'' then s.quotedScalar false
  else if c == '"' then s.quotedScalar true
  else if startsPlain s.inFlow c rest then s.plainScalar
  else none

/-- Take all tokens. Each takes at least one character, so that as many steps as there are
characters, and one more for the end, are enough. -/
def takeAll : (steps : Nat) → Stream → Option (Array Token)
  | 0, _ => none
  | steps + 1, s => do
    let s ← s.toToken.dropDistant
    match s.left.rest with
    | [] => return (← s.atTopLevel).tokens
    | c :: rest =>
      let column := s.column
      takeAll steps (← (s.closeBlocks (column < ·)).take c rest)

end Stream

/-- The tokens of a text, if it is well formed that far. -/
def tokens? (text : String) : Option (List Token) :=
  if text.toList.all isAllowed then
    let chars := joinLineEnds text.toList
    ((Stream.ofChars chars).takeAll (chars.length + 1)).map Array.toList
  else none

end CyclicBus.Yaml

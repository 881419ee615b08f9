import CyclicBus.Yaml.Tag

/-!
# Tokens of a YAML stream

A stream of characters is cut into tokens: indicators, scalars with their style, names and
directives. Where a block collection starts or ends follows from indentation alone, so such places
have tokens of their own that stand for no character.
-/

namespace CyclicBus.Yaml

/-- How a scalar is written. -/
inductive Style where
  | plain
  | quoted
  | literal
  | folded
  deriving DecidableEq, Repr

/-- A token of a stream. -/
inductive Token where
  | version (major minor : Nat)
  /-- A tag handle that a document declares, and what it stands for. -/
  | handle (name : String) (stem : List UInt8)
  | documentStart
  | documentEnd
  | blockSequence
  | blockMapping
  | blockEnd
  | sequenceOpen
  | sequenceClose
  | mappingOpen
  | mappingClose
  | entry
  | comma
  | key
  | value
  | anchor (name : String)
  | anchored (name : String)
  /-- A tag: the handle that it uses, if any, and what follows it. -/
  | tag (handle : Option String) (rest : List UInt8)
  | scalar (style : Style) (text : String)
  deriving DecidableEq, Repr

/-- A place in the text: the line, the column, and the number of octets before it. Line ends count
as one octet. -/
structure Place where
  line : Nat
  column : Nat
  index : Nat
  deriving DecidableEq, Repr

namespace Place

def start : Place := ⟨0, 0, 0⟩

def right (c : Char) (p : Place) : Place :=
  { p with column := p.column + 1, index := p.index + c.utf8Size }

/-- `n` characters of one octet further on the same line. -/
def rightBy (n : Nat) (p : Place) : Place := { p with column := p.column + n, index := p.index + n }

def newline (p : Place) : Place := ⟨p.line + 1, 0, p.index + 1⟩

end Place

/-- What is left of a text, and where that is. -/
structure Cursor where
  rest : List Char
  place : Place
  deriving DecidableEq, Repr

/-! ## Characters -/

def isBlank (c : Char) : Bool := c == ' ' || c == '\t'

/-- The end of a line. The reader has made one character of each kind of line end, apart from the
two separators of Unicode. -/
def isBreak (c : Char) : Bool := c == '\n' || c == '\u2028' || c == '\u2029'

/-- Neither blank nor the end of a line. -/
def isInk (c : Char) : Bool := !isBlank c && !isBreak c

/-- Whether a word ends here: at a blank, at the end of the line, or at the end of the text. -/
def atGap : List Char → Bool
  | [] => true
  | c :: _ => !isInk c

/-- Whether a document marker stands here, at the start of a line. -/
def atMarker (column : Nat) : List Char → Bool
  | a :: b :: c :: rest =>
    column == 0 && ((a == '-' && b == '-' && c == '-') || (a == '.' && b == '.' && c == '.')) &&
      atGap rest
  | _ => false

/-- A character that ends or separates flow collections. -/
def isFlowIndicator (c : Char) : Bool :=
  c == ',' || c == '[' || c == ']' || c == '{' || c == '}'

def isNameChar (c : Char) : Bool := c.isAlphanum || c == '_' || c == '-'

def hexValue? (c : Char) : Option Nat :=
  if c.isDigit then some (c.toNat - '0'.toNat)
  else if 'a' ≤ c ∧ c ≤ 'f' then some (c.toNat - 'a'.toNat + 10)
  else if 'A' ≤ c ∧ c ≤ 'F' then some (c.toNat - 'A'.toNat + 10)
  else none

/-- Whether a character may stand in a stream at all. -/
def isAllowed (c : Char) : Bool :=
  let n := c.toNat
  n == 0x09 || n == 0x0a || n == 0x0d || (0x20 ≤ n && n ≤ 0x7e) || n == 0x85 ||
    (0xa0 ≤ n && n ≤ 0xfffd) || 0x10000 ≤ n

/-- The text with one character for each line end. -/
def joinLineEnds : List Char → List Char
  | '\r' :: '\n' :: rest => '\n' :: joinLineEnds rest
  | '\r' :: rest => '\n' :: joinLineEnds rest
  | '\u0085' :: rest => '\n' :: joinLineEnds rest
  | c :: rest => c :: joinLineEnds rest
  | [] => []

end CyclicBus.Yaml

import CyclicBus.Yaml.Token

/-!
# Texts of scalars

A scalar may run over several lines. In plain and quoted scalars the line ends are folded: one
between two words counts as a space, and of several the first is dropped. A block scalar keeps its
lines, or folds those that start with a word.

Each reader walks over the characters once and gives back the text with what is left. `none` stands
for a scalar that is not well formed.
-/

namespace CyclicBus.Yaml

/-- What separates two words of a plain or quoted scalar. Character lists are in reverse. -/
inductive Gap where
  | blanks (text : List Char)
  /-- Line ends. There is no first one if it was escaped. -/
  | lines (first : Option Char) (further : List Char)

namespace Gap

def nothing : Gap := blanks []

/-- One more blank. Those after a line end do not count. -/
def addBlank (c : Char) : Gap → Gap
  | blanks text => blanks (c :: text)
  | lines first further => lines first further

/-- One more line end. Blanks before it do not count. -/
def addLineEnd (c : Char) : Gap → Gap
  | blanks _ => lines (some c) []
  | lines first further => lines first (c :: further)

def crossesLine : Gap → Bool
  | blanks _ => false
  | lines .. => true

/-- What the gap contributes to the text, in reverse. -/
def folded : Gap → List Char
  | blanks text => text
  | lines (some '\n') [] => [' ']
  | lines (some '\n') further => further
  | lines first further => further ++ first.toList

end Gap

/-- A text that was read. -/
structure Reading where
  text : String
  crossedLine : Bool
  left : Cursor

/-- The text of characters in reverse. -/
def textOf (reversed : List Char) : String := .ofList reversed.reverse

/-! ## Plain scalars -/

/-- A colon in a flow collection may not stand before an indicator. -/
def isStrayColon (c : Char) : List Char → Bool
  | next :: _ => c == ':' && (isFlowIndicator next || next == '?')
  | [] => false

/-- Read a plain scalar. `margin` is the least column of its further lines, which counts outside of
flow collections. -/
def plainFrom (inFlow : Bool) (margin : Nat) (afterGap : Bool) (text : List Char) (gap : Gap) :
    List Char → Place → Option Reading
  | [], place => some ⟨textOf text, gap.crossesLine, [], place⟩
  | c :: rest, place =>
    if isBlank c then
      if c == '\t' && gap.crossesLine && place.column < margin then none
      else plainFrom inFlow margin true text (gap.addBlank c) rest (place.right c)
    else if isBreak c then
      plainFrom inFlow margin true text (gap.addLineEnd c) rest place.newline
    else if afterGap && (c == '#' || atMarker place.column (c :: rest) ||
        (!inFlow && place.column < margin)) then
      some ⟨textOf text, gap.crossesLine, c :: rest, place⟩
    else if inFlow && isStrayColon c rest then none
    else if (c == ':' && atGap rest) || (inFlow && isFlowIndicator c) then
      some ⟨textOf text, gap.crossesLine, c :: rest, place⟩
    else plainFrom inFlow margin false (c :: (gap.folded ++ text)) .nothing rest (place.right c)

def plain? (inFlow : Bool) (margin : Nat) (c : Cursor) : Option Reading :=
  plainFrom inFlow margin false [] .nothing c.rest c.place

/-! ## Quoted scalars -/

/-- The character with a given number, if there is one. -/
def charOf? (n : Nat) : Option Char :=
  if h : n.isValidChar then some (Char.ofNatAux n h) else none

/-- The character that a one-letter escape stands for. -/
def escaped? : Char → Option Char
  | '0' => some '\x00'
  | 'a' => some '\x07'
  | 'b' => some '\x08'
  | 't' | '\t' => some '\t'
  | 'n' => some '\n'
  | 'v' => some '\x0b'
  | 'f' => some '\x0c'
  | 'r' => some '\r'
  | 'e' => some '\x1b'
  | ' ' => some ' '
  | '"' => some '"'
  | '/' => some '/'
  | '\\' => some '\\'
  | 'N' => some '\u0085'
  | '_' => some '\u00a0'
  | 'L' => some '\u2028'
  | 'P' => some '\u2029'
  | _ => none

/-- The number of hexadecimal digits after an escape letter. -/
def escapeLength? : Char → Option Nat
  | 'x' => some 2
  | 'u' => some 4
  | 'U' => some 8
  | _ => none

/-- Where the reader of a quoted scalar is. -/
inductive QuotedMode where
  | text
  | escape
  /-- In a numbered escape, before its last `further + 1` digits. -/
  | digits (further value : Nat)
  /-- After an apostrophe, which ends the scalar unless another one follows. -/
  | apostrophe

def quotedFrom (double : Bool) (mode : QuotedMode) (text : List Char) (gap : Gap) :
    List Char → Place → Option Reading
  | [], place =>
    match mode with
    | .apostrophe => some ⟨textOf text, false, [], place⟩
    | _ => none
  | c :: rest, place =>
    let next := place.right c
    match mode with
    | .apostrophe =>
      if c == '\'' then quotedFrom double .text (c :: text) .nothing rest next
      else some ⟨textOf text, false, c :: rest, place⟩
    | .digits further value =>
      match hexValue? c, further with
      | none, _ => none
      | some digit, 0 =>
        match charOf? (16 * value + digit) with
        | some e => quotedFrom double .text (e :: text) .nothing rest next
        | none => none
      | some digit, further + 1 =>
        quotedFrom double (.digits further (16 * value + digit)) text gap rest next
    | .escape =>
      if isBreak c then quotedFrom double .text text (.lines none []) rest place.newline
      else
        match escaped? c, escapeLength? c with
        | some e, _ => quotedFrom double .text (e :: text) .nothing rest next
        | none, some (length + 1) => quotedFrom double (.digits length 0) text gap rest next
        | _, _ => none
    | .text =>
      if isBlank c then quotedFrom double .text text (gap.addBlank c) rest next
      else if isBreak c then quotedFrom double .text text (gap.addLineEnd c) rest place.newline
      else if atMarker place.column (c :: rest) then none
      else
        let text := gap.folded ++ text
        if double && c == '"' then some ⟨textOf text, false, rest, next⟩
        else if double && c == '\\' then quotedFrom double .escape text .nothing rest next
        else if !double && c == '\'' then
          quotedFrom double .apostrophe text .nothing rest next
        else quotedFrom double .text (c :: text) .nothing rest next

/-- The quoted scalar whose opening quote is before the cursor. -/
def quoted? (double : Bool) (c : Cursor) : Option Reading :=
  quotedFrom double .text [] .nothing c.rest c.place

/-! ## Block scalars -/

/-- What becomes of the line ends after the last line with text. -/
inductive Chomping where
  | strip
  | clip
  | keep

/-- How a block scalar is to be read. -/
structure BlockShape where
  folds : Bool
  chomping : Chomping
  margin : Nat

/-- How far a block scalar has been read. Character lists are in reverse. -/
structure BlockState where
  text : List Char
  lineEnd : Option Char
  emptyLines : List Char
  startsBlank : Bool
  column? : Option Nat
  deepest : Nat

namespace BlockState

/-- The start of a line whose text starts with `c`: join it to what was read. -/
def openLine (shape : BlockShape) (c : Char) (s : BlockState) : BlockState :=
  let joint :=
    if shape.folds && s.lineEnd == some '\n' && !s.startsBlank && !isBlank c then
      if s.emptyLines.isEmpty then [' '] else []
    else s.lineEnd.toList
  { s with
    text := c :: (s.emptyLines ++ (joint ++ s.text))
    lineEnd := none
    emptyLines := []
    startsBlank := isBlank c }

/-- The text, with as many line ends as the shape keeps. -/
def finish (shape : BlockShape) (s : BlockState) : String :=
  textOf <| match shape.chomping with
    | .strip => s.text
    | .clip => s.lineEnd.toList ++ s.text
    | .keep => s.emptyLines ++ (s.lineEnd.toList ++ s.text)

/-- The column of the text, as found out from the first line with text. -/
def column (shape : BlockShape) (s : BlockState) : Nat :=
  s.column?.getD (max (max s.deepest shape.margin) 1)

end BlockState

def blockFrom (shape : BlockShape) (inLine : Bool) (s : BlockState) :
    List Char → Place → Option Reading
  | [], place => some ⟨s.finish shape, false, [], place⟩
  | c :: rest, place =>
    if inLine then
      if isBreak c then blockFrom shape false { s with lineEnd := some c } rest place.newline
      else blockFrom shape true { s with text := c :: s.text } rest (place.right c)
    else
      let before := match s.column? with
        | some column => place.column < column
        | none => true
      if before && c == ' ' then
        let deepest := max s.deepest (place.column + 1)
        blockFrom shape false { s with deepest } rest (place.right c)
      else if before && c == '\t' then none
      else if isBreak c then
        blockFrom shape false { s with emptyLines := c :: s.emptyLines } rest place.newline
      else
        let s := { s with column? := some (s.column shape) }
        if place.column == s.column shape then
          blockFrom shape true (s.openLine shape c) rest (place.right c)
        else some ⟨s.finish shape, false, c :: rest, place⟩

/-- Whether nothing but blanks and a comment are left of a line. -/
def restOfLine : Bool → List Char → Place → Option Cursor
  | _, [], place => some ⟨[], place⟩
  | inComment, c :: rest, place =>
    if isBreak c then some ⟨rest, place.newline⟩
    else if inComment || c == '#' then restOfLine true rest (place.right c)
    else if isBlank c then restOfLine false rest (place.right c)
    else none

/-- An indentation indicator: a digit from 1 on. -/
def indentIndicator? : List Char → Option (Option Nat × Nat)
  | c :: _ =>
    if c == '0' then none
    else if c.isDigit then some (some (c.toNat - '0'.toNat), 1)
    else some (none, 0)
  | [] => some (none, 0)

def chompIndicator : List Char → Chomping × Nat
  | '+' :: _ => (.keep, 1)
  | '-' :: _ => (.strip, 1)
  | _ => (.clip, 0)

/-- The block scalar whose indicator is before the cursor, in a collection at `indent`. -/
def block? (folds : Bool) (indent : Option Nat) (c : Cursor) : Option Reading := do
  let (chomping, n) := chompIndicator c.rest
  let (explicit, m) ← indentIndicator? (c.rest.drop n)
  let (chomping, k) := if n == 0 then chompIndicator (c.rest.drop m) else (chomping, n)
  let left ← restOfLine false (c.rest.drop (m + k)) (c.place.rightBy (m + k))
  blockFrom ⟨folds, chomping, indent.elim 0 (· + 1)⟩ false
    ⟨[], none, [], false, explicit.map (indent.getD 0 + ·), 0⟩ left.rest left.place

end CyclicBus.Yaml

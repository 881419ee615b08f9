import CyclicBus.Yaml.Token

/-!
# Names in a stream

Anchors, tags and directives. The text of a tag is a sequence of octets, some of which are written
as two hexadecimal digits.
-/

namespace CyclicBus.Yaml

/-- Take characters while they belong to a class of characters of one octet. -/
def takeRun (member : Char → Bool) (c : Cursor) : String × Cursor :=
  let run := c.rest.takeWhile member
  (.ofList run, ⟨c.rest.drop run.length, c.place.rightBy run.length⟩)

def afterBlanks (c : Cursor) : Cursor := (takeRun isBlank c).2

/-- What is left after one character that must come next. -/
def after? (expected : Char) (c : Cursor) : Option Cursor :=
  match c.rest with
  | found :: rest => if found == expected then some ⟨rest, c.place.right found⟩ else none
  | [] => none

/-- The name of an anchor, which ends at a gap or at an indicator. -/
def anchorName? (c : Cursor) : Option (String × Cursor) :=
  let (name, left) := takeRun isNameChar c
  let ends := atGap left.rest || left.rest.head?.any ("?:,]\x7d%@\x60".contains ·)
  if name.isEmpty || !ends then none else some (name, left)

/-! ## Tags -/

/-- The number of octets of a character, from the first of them. -/
def octetCount? (octet : Nat) : Option Nat :=
  if octet < 0x80 then some 1
  else if octet / 0x20 == 6 then some 2
  else if octet / 0x10 == 14 then some 3
  else if octet / 8 == 30 then some 4
  else none

/-- The value of an octet in hexadecimal digits. -/
def octet? (high low : Char) : Option Nat := do
  return 16 * (← hexValue? high) + (← hexValue? low)

/-- Characters of a tag besides those of names. The last three only where `wide`. -/
def isTagChar (wide : Bool) (c : Char) : Bool :=
  isNameChar c || ";/?:@&=+$.%!~*'()".contains c || (wide && ",[]".contains c)

/-- The octets of a tag from here on, and what is left. `pending` octets of an escaped character are
still to come. -/
def tagOctets? (wide : Bool) (pending : Nat) : List Char → Option (List UInt8 × List Char)
  | '%' :: high :: low :: rest => do
    let octet ← octet? high low
    let further ← match pending with
      | 0 => (octetCount? octet).map (· - 1)
      | n + 1 => if octet / 0x40 == 2 then some n else none
    let (octets, left) ← tagOctets? wide further rest
    return (.ofNat octet :: octets, left)
  | c :: rest =>
    if c == '%' || (pending != 0) then none
    else if isTagChar wide c then do
      let (octets, left) ← tagOctets? wide 0 rest
      return (c.toNat.toUInt8 :: octets, left)
    else some ([], c :: rest)
  | [] => if pending == 0 then some ([], []) else none

/-- The handle of a tag: an exclamation mark, with a name and another mark after it or not. -/
def tagHandle? (c : Cursor) : Option (String × Cursor) := do
  let left ← after? '!' c
  let (name, left) := takeRun isNameChar left
  match after? '!' left with
  | some left => some ("!" ++ name ++ "!", left)
  | none => some ("!" ++ name, left)

/-- The text of a tag, of which there must be some unless `mayBeEmpty`. -/
def tagText? (wide mayBeEmpty : Bool) (c : Cursor) : Option (List UInt8 × Cursor) := do
  let (octets, left) ← tagOctets? wide 0 c.rest
  if octets.isEmpty && !mayBeEmpty then none
  return (octets, ⟨left, c.place.rightBy (c.rest.length - left.length)⟩)

def isClosed (handle : String) : Bool := 2 ≤ handle.length && handle.endsWith "!"

/-- Octets up to the first zero, which ends a text. -/
def beforeZero (octets : List UInt8) : List UInt8 := octets.takeWhile (· != 0)

/-- The tag at a cursor. It must end at a gap, or in a flow collection at a comma. What starts like
a handle and is none belongs to the text; a mark that stands alone is a text in full. -/
def tag? (inFlow : Bool) (c : Cursor) : Option (Token × Cursor) := do
  let (token, left) ← match c.rest with
    | '!' :: '<' :: rest => do
      let (octets, left) ← tagText? true false ⟨rest, c.place.rightBy 2⟩
      let left ← after? '>' left
      some (Token.tag none (beforeZero octets), left)
    | _ => do
      let (handle, left) ← tagHandle? c
      if isClosed handle then
        let (octets, left) ← tagText? false false left
        some (Token.tag (some handle) (beforeZero octets), left)
      else
        let (octets, left) ← tagText? false true left
        let octets := beforeZero (Tag.octets (handle.drop 1).toString ++ octets)
        if octets.isEmpty then some (Token.tag none (Tag.octets "!"), left)
        else some (Token.tag (some "!") octets, left)
  if atGap left.rest || (inFlow && left.rest.head? == some ',') then some (token, left) else none

/-! ## Directives -/

/-- A decimal number of at most nine digits. -/
def number? (c : Cursor) : Option (Nat × Cursor) :=
  let (digits, left) := takeRun Char.isDigit c
  if digits.length ≤ 9 then digits.toNat?.map (·, left) else none

def directive? (c : Cursor) : Option (Token × Cursor) := do
  let (name, left) := takeRun isNameChar c
  if name.isEmpty || !atGap left.rest then none
  let left := afterBlanks left
  let (token, left) ← match name with
    | "YAML" => do
      let (major, left) ← number? left
      let left ← after? '.' left
      let (minor, left) ← number? left
      some (Token.version major minor, left)
    | "TAG" => do
      let (handle, left) ← tagHandle? left
      if handle != "!" && !isClosed handle then none
      if !left.rest.head?.any isBlank then none
      let left := afterBlanks left
      let (octets, left) ← tagText? true false left
      if !atGap left.rest then none
      some (Token.handle handle (beforeZero octets), left)
    | _ => none
  return (token, left)

end CyclicBus.Yaml

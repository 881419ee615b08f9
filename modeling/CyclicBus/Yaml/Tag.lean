/-!
# Tags

A tag says what kind of node follows. Its text is a sequence of octets, put together from what a
handle stands for and what follows it. `Tag.ofOctets` tells the kinds that matter here apart.
-/

namespace CyclicBus.Yaml

/-- What a tag says. -/
inductive Tag where
  | null
  | flag
  | integer
  | fraction
  /-- A tag that the document defines for itself: its name, if that is a text. -/
  | own (name : Option String)
  | other
  deriving DecidableEq, Repr

namespace Tag

def octets (text : String) : List UInt8 := text.toUTF8.toList

def text? (octets : List UInt8) : Option String := String.fromUTF8? ⟨octets.toArray⟩

/-- What the handle of two exclamation marks stands for. -/
def common : String := "tag:yaml.org,2002:"

/-- What the handles stand for that need no declaration. -/
def standardHandles : List (String × List UInt8) := [("!", octets "!"), ("!!", octets common)]

def ofOctets (tag : List UInt8) : Tag :=
  if tag == octets (common ++ "null") then null
  else if tag == octets (common ++ "bool") then flag
  else if tag == octets (common ++ "int") then integer
  else if tag == octets (common ++ "float") then fraction
  else if tag.head? == (octets "!").head? then own (text? tag.tail)
  else other

/-- Whether the tag is one of the document's own with a name. -/
def isNamed : Tag → Bool
  | own (some _) => true
  | _ => false

end Tag

end CyclicBus.Yaml

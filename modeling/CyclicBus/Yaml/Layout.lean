import CyclicBus.Yaml.Word

/-!
# Laying out a tree as YAML

Tables and lists in block style. The parts of a table stand two columns further in; the dashes of a
list stand at the margin of the table around it.
-/

namespace CyclicBus

namespace Scalar

/-- Whether a text can stand without quotes: letters and single signs between them, and nothing that
would read as something else. -/
def isBareWord (s : String) : Bool :=
  !Yaml.Word.isAbsent s && (Yaml.Word.flag? s).isNone && s.front.isAlpha &&
    s.all fun c => c.isAlphanum || c == '_' || c == '-'

def layout : Scalar → String
  | null => "null"
  | flag b => toString b
  | number n => toString n
  | fraction => ".nan"
  | text s => if isBareWord s then s else "'" ++ s.replace "'" "''" ++ "'"

end Scalar

namespace Node

def indented (line : String) : String := "  " ++ line

/-- Put a dash before the first line of an item and its width before the others. -/
def dashed : List String → List String
  | [] => ["-"]
  | first :: rest => ("- " ++ first) :: rest.map indented

mutual

/-- The lines of a node that starts on a line of its own. -/
def lines : Node → List String
  | scalar s => [s.layout]
  | list [] => ["[]"]
  | list (item :: rest) => itemLines (item :: rest)
  | table [] => ["\x7b\x7d"]
  | table (entry :: rest) => entryLines (entry :: rest)

def itemLines : List Node → List String
  | [] => []
  | item :: rest => dashed item.lines ++ itemLines rest

def entryLines : List (Node × Node) → List String
  | [] => []
  | (key, value) :: rest =>
    let name := " ".intercalate key.lines ++ ":"
    let shown := match value with
      | table (_ :: _) => name :: value.lines.map indented
      | list (_ :: _) => name :: value.lines
      | _ => [name ++ " " ++ " ".intercalate value.lines]
    shown ++ entryLines rest

end

def toYaml (n : Node) : String := .join (n.lines.map (· ++ "\n"))

end Node

end CyclicBus

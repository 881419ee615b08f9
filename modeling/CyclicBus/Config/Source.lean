import CyclicBus.Config.Decode
import CyclicBus.Fault.Engine
import CyclicBus.Yaml.Document

/-!
# Documents from text

A document is read from a YAML text, and a text from a file's bytes, which must be valid UTF-8.
-/

namespace CyclicBus

namespace Document

def parse (text : String) : Except EngineFault Document :=
  match Yaml.Graph.ofText? text with
  | none => .error (.configParse "not a single well-formed document")
  | some graph =>
    match (graph.node? shape).bind ofNode? with
    | some document => .ok document
    | none => .error (.configParse "not a configuration")

/-- The text of a file, given its bytes or why they could not be read. -/
def textOf : Except SystemFault ByteArray → Except SystemFault String
  | .error cause => .error cause
  | .ok bytes =>
    match String.fromUTF8? bytes with
    | some text => .ok text
    | none => .error .invalidText

def load (path : String) (file : Except SystemFault ByteArray) : Except EngineFault Document :=
  match textOf file with
  | .error cause => .error (.configRead path cause)
  | .ok text => parse text

end Document

end CyclicBus

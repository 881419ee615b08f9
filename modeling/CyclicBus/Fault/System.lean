/-!
# Faults of the operating system

What the operating system answers to a request it does not carry out: a kind and the system's own
text.
-/

namespace CyclicBus

/-- The kinds of system fault that matter here. -/
inductive SystemFault.Kind where
  | notFound
  | permissionDenied
  | invalidInput
  | invalidData
  | other
  deriving DecidableEq, Repr

/-- A refusal of the operating system. -/
structure SystemFault where
  kind : SystemFault.Kind
  text : String
  deriving DecidableEq, Repr

namespace SystemFault

/-- The system's text, unchanged. -/
def message (f : SystemFault) : String := f.text

/-- An argument that the system does not take. -/
def invalidArgument : SystemFault := ⟨.invalidInput, "Invalid argument (os error 22)"⟩

def noSuchFile : SystemFault := ⟨.notFound, "No such file or directory (os error 2)"⟩

def isDirectory : SystemFault := ⟨.other, "Is a directory (os error 21)"⟩

/-- A file where a directory was expected. -/
def notDirectory : SystemFault := ⟨.other, "Not a directory (os error 20)"⟩

def nameTooLong : SystemFault := ⟨.other, "File name too long (os error 36)"⟩

/-- A path that the system cannot be asked for. -/
def nulInPath : SystemFault := ⟨.invalidInput, "file name contained an unexpected NUL byte"⟩

def accessDenied : SystemFault := ⟨.permissionDenied, "Permission denied (os error 13)"⟩

/-- A request that needs privileges. -/
def notPermitted : SystemFault := ⟨.permissionDenied, "Operation not permitted (os error 1)"⟩

/-- Bytes that are no text. -/
def invalidText : SystemFault := ⟨.invalidData, "stream did not contain valid UTF-8"⟩

end SystemFault

end CyclicBus

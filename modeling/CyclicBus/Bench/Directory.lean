import CyclicBus.Fault.System

/-!
# A directory of files

Files below the current directory, by path. Above it there are directories alone, and nothing else
exists.
-/

namespace CyclicBus.Bench

/-- The greatest number of bytes in a name. -/
def longestName : Nat := 255

/-- The greatest number of bytes in a path. -/
def longestPath : Nat := 4095

/-- The parts of a path that name something. -/
def partsOf (path : String) : List String :=
  (path.splitOn "/").filter fun part => part ≠ "" ∧ part ≠ "."

/-- Follow a path from a directory that lies `above` levels over the current one, or below it at
`place`. -/
def follow (files : List (List String × ByteArray)) (above : Nat) (place : List String) :
    List String → Except SystemFault ByteArray
  | [] => .error .isDirectory
  | part :: rest =>
    if part == "" || part == "." then follow files above place rest
    else if part == ".." then
      if place.isEmpty then follow files (above + 1) [] rest
      else follow files above place.dropLast rest
    else if longestName < part.utf8ByteSize then .error .nameTooLong
    else if 0 < above then .error .noSuchFile
    else
      let place := place ++ [part]
      match files.lookup place with
      | some file => if rest.isEmpty then .ok file else .error .notDirectory
      | none =>
        if files.any (place.isPrefixOf ·.1) then follow files 0 place rest
        else .error .noSuchFile

def read (files : List (String × ByteArray)) (path : String) : Except SystemFault ByteArray :=
  if path.toList.contains '\x00' then .error .nulInPath
  else if path == "" then .error .noSuchFile
  else if longestPath < path.utf8ByteSize then .error .nameTooLong
  else
    let files := files.map fun (path, file) => (partsOf path, file)
    follow files (if path.startsWith "/" then 1 else 0) [] (path.splitOn "/")

end CyclicBus.Bench

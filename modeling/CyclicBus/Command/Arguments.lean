import CyclicBus.Saturating

/-!
# Arguments of the command line

`Invocation.parse` reads the arguments after the program's name: a command, its operands, and
options before or after them. An option may stand once, apart from the one that asks for more log
records.
-/

namespace CyclicBus

/-- What a run takes from the command line. -/
structure RunOptions where
  durationMs : Option UInt64
  unprivileged : Bool
  /-- Offset of the simulated reference clock in nanoseconds. -/
  referenceOffset : Int64
  /-- Drift of the simulated reference clock in parts per billion. -/
  drift : Int64
  deriving DecidableEq, Repr, Inhabited

inductive Command where
  | run (path : String) (options : RunOptions)
  | validate (path : String)
  | defaults
  deriving DecidableEq, Repr

inductive Invocation where
  | command (verbosity : Nat) (command : Command)
  | help
  | version
  deriving DecidableEq, Repr

namespace Invocation

/-- Arguments that ask for nothing that can be done. -/
structure UsageFault where
  text : String
  deriving DecidableEq, Repr

/-- The options and operands found so far. -/
structure Draft where
  verbosity : Nat
  operands : List String
  durationMs : Option UInt64
  unprivileged : Bool
  referenceOffset : Option Int64
  drift : Option Int64

def Draft.empty : Draft := ⟨0, [], none, false, none, none⟩

def digits? (text : List Char) : Option Nat :=
  if text.isEmpty || !text.all Char.isDigit then none
  else some (text.foldl (fun n c => 10 * n + (c.toNat - '0'.toNat)) 0)

/-- A word of 64 bits, with or without a plus sign. -/
def word? (text : String) : Option UInt64 :=
  let n := match text.toList with
    | '+' :: rest => digits? rest
    | digits => digits? digits
  (n.filter (· < UInt64.size)).map .ofNat

/-- A signed word of 64 bits, with or without a sign. -/
def signed? (text : String) : Option Int64 :=
  let n : Option Int := match text.toList with
    | '-' :: rest => (digits? rest).map fun n => -(n : Int)
    | '+' :: rest => (digits? rest).map (↑·)
    | digits => (digits? digits).map (↑·)
  n.bind Int64.ofInt?

/-- Set an option that may stand once. -/
def once {α : Type} (name : String) (old : Option α) (value : Option α) :
    Except UsageFault (Option α) :=
  if old.isSome then .error ⟨"the argument '" ++ name ++ "' cannot be used multiple times"⟩
  else if value.isNone then .error ⟨"invalid value for '" ++ name ++ "'"⟩
  else .ok value

/-- The options of a run that take a value. -/
inductive Valued where
  | durationMs
  | referenceOffset
  | drift
  deriving DecidableEq

/-- The long names of the options that take a value. -/
def valued? : String → Option Valued
  | "--duration-ms" => some .durationMs
  | "--reference-offset-ns" => some .referenceOffset
  | "--drift-ppb" => some .drift
  | _ => none

def Draft.set (option : Valued) (value : String) (d : Draft) : Except UsageFault Draft :=
  match option with
  | .durationMs => return { d with
      durationMs := ← once "--duration-ms" d.durationMs (word? value) }
  | .referenceOffset => return { d with
      referenceOffset := ← once "--reference-offset-ns" d.referenceOffset (signed? value) }
  | .drift => return { d with drift := ← once "--drift-ppb" d.drift (signed? value) }

/-- The value of an option: what stands after its name, or the next argument. Only a signed value
may start with a dash. -/
def value? (option : Valued) (attached : Option String) (rest : List String) :
    Option (String × List String) :=
  match attached, rest with
  | some value, rest => some (value, rest)
  | none, value :: rest =>
    if option = .durationMs ∧ value.startsWith "-" then none else some (value, rest)
  | none, [] => none

/-- What an argument is, as far as it can be told from its own text. -/
inductive Kind where
  | operand
  | verbose (times : Nat)
  | unprivileged
  /-- An option with a value, which may stand in the same argument, after some short flags. -/
  | valued (times : Nat) (option : Valued) (attached : Option String)
  | help
  | version
  | unknown

def shortKind (forRun : Bool) (times : Nat) : List Char → Kind
  | [] => .verbose times
  | 'v' :: rest => shortKind forRun (times + 1) rest
  | 'h' :: _ => .help
  | 'V' :: _ => .version
  | 'd' :: rest =>
    if !forRun then .unknown
    else .valued times .durationMs <| match rest with
      | [] => none
      | '=' :: value => some (.ofList value)
      | value => some (.ofList value)
  | _ => .unknown

def kind (forRun : Bool) (argument : String) : Kind :=
  match argument.toList with
  | '-' :: '-' :: text =>
    let name := "--" ++ .ofList (text.takeWhile (· ≠ '='))
    let attached := match text.dropWhile (· ≠ '=') with
      | '=' :: value => some (String.ofList value)
      | _ => none
    match name, attached with
    | "--verbose", none => .verbose 1
    | "--help", none => .help
    | "--version", none => .version
    | "--unprivileged", none => if forRun then .unprivileged else .unknown
    | name, attached =>
      match valued? name with
      | some option => if forRun then .valued 0 option attached else .unknown
      | none => .unknown
  | '-' :: c :: rest => shortKind forRun 0 (c :: rest)
  | _ => .operand

/-- Read options and operands. `none` stands for a request for help. -/
def read (forRun : Bool) (d : Draft) : List String → Except UsageFault (Option Draft)
  | [] => .ok (some d)
  | "--" :: rest => .ok (some { d with operands := d.operands ++ rest })
  | argument :: rest =>
    match kind forRun argument with
    | .operand => read forRun { d with operands := d.operands ++ [argument] } rest
    | .verbose times => read forRun { d with verbosity := d.verbosity + times } rest
    | .unprivileged =>
      if d.unprivileged then
        .error ⟨"the argument '--unprivileged' cannot be used multiple times"⟩
      else read forRun { d with unprivileged := true } rest
    | .valued times option attached => do
      let d := { d with verbosity := d.verbosity + times }
      match value? option attached rest, attached, rest with
      | none, _, _ => .error ⟨"a value is required for '" ++ argument ++ "'"⟩
      | some (value, _), some _, rest => read forRun (← d.set option value) rest
      | some (value, _), none, _ :: rest => read forRun (← d.set option value) rest
      | some _, none, [] => .error ⟨"a value is required for '" ++ argument ++ "'"⟩
    | .help => .ok none
    | .version => .error ⟨"unexpected argument '" ++ argument ++ "'"⟩
    | .unknown => .error ⟨"unexpected argument '" ++ argument ++ "'"⟩

def Draft.options (d : Draft) : RunOptions :=
  ⟨d.durationMs, d.unprivileged, d.referenceOffset.getD 0, d.drift.getD 0⟩

def ofCommand (name : String) (d : Draft) (arguments : List String) :
    Except UsageFault Invocation := do
  let some d ← read (name == "run") d arguments | return help
  match name, d.operands with
  | "run", [path] => return command d.verbosity (.run path d.options)
  | "validate", [path] => return command d.verbosity (.validate path)
  | "defaults", [] => return command d.verbosity .defaults
  | _, _ => throw ⟨"wrong number of operands for '" ++ name ++ "'"⟩

def commandNames : List String := ["run", "validate", "defaults"]

/-- Read the arguments of a request for help, which may name a command. -/
def ofHelp : List String → Except UsageFault Invocation
  | [] => .ok help
  | name :: rest =>
    if name ∉ commandNames then .error ⟨"unrecognized subcommand '" ++ name ++ "'"⟩
    else match rest with
      | [] => .ok help
      | extra :: _ => .error ⟨"unrecognized subcommand '" ++ extra ++ "'"⟩

/-- Read options up to the name of a command. -/
def parseFrom (d : Draft) : List String → Except UsageFault Invocation
  | [] => .error ⟨"a command is required"⟩
  | argument :: rest =>
    match kind false argument with
    | .verbose times => parseFrom { d with verbosity := d.verbosity + times } rest
    | .help => .ok help
    | .version => .ok version
    | .operand =>
      if argument ∈ commandNames then ofCommand argument d rest
      else if argument == "help" then ofHelp rest
      else .error ⟨"unrecognized subcommand '" ++ argument ++ "'"⟩
    | _ => .error ⟨"unexpected argument '" ++ argument ++ "'"⟩

/-- Read the arguments after the program's name. -/
def parse (arguments : List String) : Except UsageFault Invocation := parseFrom .empty arguments

end Invocation

end CyclicBus

import CyclicBus.Node

/-!
# Words without quotes

What a word may stand for: null, a flag, an integer, a fraction, or just itself. Integers have up to
64 bits; those with up to 128 stand for nothing at all, and greater ones are fractions, as far as a
double can hold them.
-/

namespace CyclicBus.Yaml.Word

def isNull (word : String) : Bool := word ∈ ["~", "null", "Null", "NULL"]

/-- A word for null, or no word at all. -/
def isAbsent (word : String) : Bool := word.isEmpty || isNull word

def flag? (word : String) : Option Bool :=
  if word ∈ ["true", "True", "TRUE"] then some true
  else if word ∈ ["false", "False", "FALSE"] then some false
  else none

/-! ## Integers -/

/-- The value of a digit in a base up to 16. -/
def digit? (base : Nat) (c : Char) : Option Nat :=
  let value :=
    if c.isDigit then c.toNat - '0'.toNat
    else if 'a' ≤ c ∧ c ≤ 'f' then c.toNat - 'a'.toNat + 10
    else if 'A' ≤ c ∧ c ≤ 'F' then c.toNat - 'A'.toNat + 10
    else base
  if value < base then some value else none

/-- The number that digits denote, if there are any. -/
def digits? (base : Nat) : List Char → Option Nat
  | [] => none
  | digits => digits.foldlM (fun n c => return base * n + (← digit? base c)) 0

/-- Whether a decimal number would be padded with zeros, which makes it a text. -/
def isPadded : List Char → Bool
  | '0' :: next :: rest => (next :: rest).all Char.isDigit
  | _ => false

/-- An unsigned number: decimal without padding, or with the mark of its base. -/
def magnitude? : List Char → Option Nat
  | '0' :: 'x' :: rest => digits? 16 rest
  | '0' :: 'o' :: rest => digits? 8 rest
  | '0' :: 'b' :: rest => digits? 2 rest
  | word => if isPadded word then none else digits? 10 word

/-- A number that is not negative. It may have a plus sign. -/
def natural? (word : String) : Option Nat :=
  match word.toList with
  | '+' :: rest => magnitude? rest
  | word => magnitude? word

def integer? (word : String) : Option Int :=
  match word.toList with
  | '-' :: rest => (magnitude? rest).map fun n => -(n : Int)
  | _ => (natural? word).map (↑·)

/-- Whether an integer has 64 bits at most: with a sign if it is negative, else without. -/
def fitsWord (n : Int) : Bool := Int64.minValue.toInt ≤ n && n < UInt64.size

/-- Whether an integer has 128 bits at most, in the same sense. -/
def fitsTwoWords (n : Int) : Bool :=
  Int64.minValue.toInt * UInt64.size ≤ n && n < UInt64.size * UInt64.size

/-! ## Fractions -/

def exponent? : List Char → Option Int
  | '-' :: digits => (digits? 10 digits).map fun n => -(n : Int)
  | '+' :: digits => (digits? 10 digits).map (↑·)
  | digits => (digits? 10 digits).map (↑·)

/-- An unsigned decimal number as digits, without a point, and an exponent. -/
def decimal? (word : List Char) : Option (List Char × Int) := do
  let whole := word.takeWhile Char.isDigit
  let (places, rest) := match word.dropWhile Char.isDigit with
    | '.' :: rest => (rest.takeWhile Char.isDigit, rest.dropWhile Char.isDigit)
    | rest => ([], rest)
  if (whole ++ places).isEmpty then none
  let exponent ← match rest with
    | [] => some 0
    | mark :: rest => if mark == 'e' || mark == 'E' then exponent? rest else none
  return (whole ++ places, exponent - places.length)

/-- The least number that is rounded to infinity: half a unit above the greatest double. -/
def doubleBound : Nat := (1 <<< 1024) - (1 <<< 970)

/-- Whether a decimal number rounds to a finite double. Powers of ten are formed only near the
bound, which has 309 digits. -/
def isFinite (digits : List Char) (exponent : Int) : Bool :=
  let significant := digits.dropWhile (· == '0')
  let length := significant.length + exponent
  if significant.isEmpty || length < 309 then true
  else if 309 < length then false
  else
    let mantissa := (digits? 10 significant).getD 0
    mantissa * Nat.pow 10 exponent.toNat < doubleBound * Nat.pow 10 (-exponent).toNat

def isNotFinite (word : String) : Bool :=
  word ∈ [".inf", ".Inf", ".INF", "+.inf", "+.Inf", "+.INF", "-.inf", "-.Inf", "-.INF", ".nan",
    ".NaN", ".NAN"]

def unsigned (word : String) : List Char :=
  match word.toList with
  | '+' :: rest => rest
  | '-' :: rest => rest
  | word => word

/-- Whether a word is a number that a double can hold. -/
def isFraction (word : String) : Bool :=
  isNotFinite word || (decimal? (unsigned word)).any fun (digits, exponent) =>
    isFinite digits exponent

/-! ## What a word stands for -/

/-- The word as an integer of 64 bits. -/
def number? (word : String) : Option Scalar := ((integer? word).filter fitsWord).map .number

/-- What a word stands for where nothing in particular is looked for. -/
def settled? (word : String) : Option Scalar :=
  if isAbsent word then some .null
  else match flag? word, integer? word with
    | some b, _ => some (.flag b)
    | none, n =>
      if n.any fitsTwoWords then number? word
      else if isFraction word && !isPadded (unsigned word) then some .fraction
      else some (.text word)

end CyclicBus.Yaml.Word

/-!
# Decimals with a fixed number of places

A float is a whole number of binary fractions. `decimal` rounds it to decimal places: to the nearest
neighbour, and half way to the even one.
-/

namespace CyclicBus.Decimal

/-- The quotient rounded to nearest, ties to even. -/
def roundEven (n d : Nat) : Nat :=
  let q := n / d
  let twice := 2 * (n % d)
  if d < twice || (twice == d && q % 2 == 1) then q + 1 else q

/-- The magnitude of a finite float as a fraction. -/
def fraction (x : Float) : Nat × Nat :=
  let bits := x.toBits.toNat
  let exponent := (bits >>> 52) % 2048
  let mantissa := bits % (1 <<< 52)
  let mantissa := if exponent == 0 then mantissa else mantissa + (1 <<< 52)
  let exponent := max exponent 1
  if 1075 ≤ exponent then (mantissa <<< (exponent - 1075), 1)
  else (mantissa, 1 <<< (1075 - exponent))

def padded (width n : Nat) : String :=
  let digits := toString n
  .ofList (List.replicate (width - digits.length) '0') ++ digits

/-- A float that is not negative, with one decimal place or more. -/
def decimal (places : Nat) (x : Float) : String :=
  let (n, d) := fraction x
  let unit := Nat.pow 10 places
  let scaled := roundEven (n * unit) d
  s!"{scaled / unit}." ++ padded places (scaled % unit)

end CyclicBus.Decimal

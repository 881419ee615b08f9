import CyclicBus.Saturating

/-!
# Rounding rules of the drift filter

`centred` brings a difference into the half-open period around zero, `roundDiv` divides to the
nearest integer with ties away from zero, and `lowDiff` is the signed distance of two clocks of
which one shows only its low word.
-/

namespace CyclicBus.Clock

/-- The representative of `d` modulo `p` that lies in the period around zero. -/
def centredInt (d p : Int) : Int := (d + p / 2) % p - p / 2

/-- A difference brought into the period around zero; a zero period counts as one. -/
def centred (d : Int64) (period : UInt64) : Int64 :=
  (Int64.ofInt? (centredInt d.toInt (max period.toNat 1))).getD 0

/-- Quotient to the nearest integer, ties away from zero; a divisor below one counts as one. The
half that is added stays within the word. -/
def roundDiv (x n : Int64) : Int64 :=
  let n := max n 1
  if 0 ≤ x then x.satAdd (n / 2) / n else x.satSub (n / 2) / n

def sign (x : Int64) : Int64 := if 0 < x then 1 else if x < 0 then -1 else 0

/-- The low word of an application time minus a reference reading, as a signed word. -/
def lowDiff (appTime : UInt64) (reference : UInt32) : Int32 :=
  (appTime.toUInt32 - reference).toInt32

end CyclicBus.Clock

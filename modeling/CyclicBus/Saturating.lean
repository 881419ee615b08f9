/-!
# Saturating words

Times, counters and filter totals are machine words. Where a sum or a difference leaves the range
of its word it stays at the nearer end. `toNat_satAdd`, `toNat_satSub` and `toInt_satAdd` state each
operation on plain numbers, so that "nothing saturates" is a bound on the exact value. Sizes are
words too, but a sum of sizes that is no word is none at all (`add?`).
-/

namespace UInt64

def top : UInt64 := 18446744073709551615

/-- Sum, held at the largest word. -/
def satAdd (a b : UInt64) : UInt64 := .ofNatClamp (a.toNat + b.toNat)

/-- Difference, held at zero. -/
def satSub (a b : UInt64) : UInt64 := .ofNat (a.toNat - b.toNat)

/-- Sum, if it is a word. -/
def add? (a b : UInt64) : Option UInt64 :=
  if a.toNat + b.toNat < UInt64.size then some (a + b) else none

@[simp] theorem toNat_top : top.toNat = UInt64.size - 1 := rfl

/-- A number too large for a word becomes the largest word. -/
theorem toNat_ofNatClamp (n : Nat) : (ofNatClamp n).toNat = min n (UInt64.size - 1) := by
  by_cases h : n < UInt64.size
  · rw [toNat_ofNatClamp_of_lt h]
    omega
  · rw [toNat_ofNatClamp_of_le (by omega)]
    omega

@[simp] theorem toNat_satAdd (a b : UInt64) :
    (a.satAdd b).toNat = min (a.toNat + b.toNat) (UInt64.size - 1) := by
  rw [satAdd, UInt64.toNat_ofNatClamp]

theorem toNat_satAdd_one {a : UInt64} (h : a.toNat + 1 < UInt64.size) :
    (a.satAdd 1).toNat = a.toNat + 1 := by
  rw [toNat_satAdd]
  show min (a.toNat + 1) _ = _
  omega

theorem satAdd_assoc (a b c : UInt64) : (a.satAdd b).satAdd c = a.satAdd (b.satAdd c) := by
  rw [← UInt64.toNat_inj, toNat_satAdd, toNat_satAdd, toNat_satAdd, toNat_satAdd]
  omega

theorem satAdd_comm (a b : UInt64) : a.satAdd b = b.satAdd a := by
  unfold satAdd
  rw [Nat.add_comm]

@[simp] theorem satAdd_zero (a : UInt64) : a.satAdd 0 = a := by
  have := a.toNat_lt_size
  rw [← UInt64.toNat_inj, toNat_satAdd]
  show min (a.toNat + 0) _ = _
  omega

/-- Numbers whose sum is a word add as words. -/
theorem satAdd_ofNat {a b : Nat} (h : a + b < UInt64.size) :
    (UInt64.ofNat a).satAdd (.ofNat b) = .ofNat (a + b) := by
  rw [← UInt64.toNat_inj, toNat_satAdd, UInt64.toNat_ofNat_of_lt' h,
    UInt64.toNat_ofNat_of_lt' (by omega), UInt64.toNat_ofNat_of_lt' (by omega)]
  omega

theorem add?_eq_some_iff {a b sum : UInt64} :
    a.add? b = some sum ↔ sum.toNat = a.toNat + b.toNat := by
  have hlt := sum.toNat_lt_size
  unfold add?
  split
  · rename_i h
    rw [Option.some.injEq, ← UInt64.toNat_inj, UInt64.toNat_add, Nat.mod_eq_of_lt h]
    exact eq_comm
  · simp only [reduceCtorEq, false_iff]
    omega

theorem add?_eq_none_iff {a b : UInt64} :
    a.add? b = none ↔ UInt64.size ≤ a.toNat + b.toNat := by
  unfold add?
  split <;> simp <;> omega

@[simp] theorem toNat_satSub (a b : UInt64) : (a.satSub b).toNat = a.toNat - b.toNat := by
  have := a.toNat_lt
  rw [satSub, UInt64.toNat_ofNat']
  omega

end UInt64

namespace Int64

/-- The word of an integer, if it is one. -/
def ofInt? (x : Int) : Option Int64 :=
  if minValue.toInt ≤ x ∧ x ≤ maxValue.toInt then some (.ofInt x) else none

/-- Sum, held at both ends. -/
def satAdd (a b : Int64) : Int64 := .ofIntClamp (a.toInt + b.toInt)

/-- Difference, held at both ends. -/
def satSub (a b : Int64) : Int64 := .ofIntClamp (a.toInt - b.toInt)

/-- An integer beyond the words becomes the word at the nearer end. -/
theorem toInt_ofIntClamp_eq (x : Int) :
    (ofIntClamp x).toInt = max (-9223372036854775808) (min 9223372036854775807 x) := by
  have low : minValue.toInt = -9223372036854775808 := rfl
  have high : maxValue.toInt = 9223372036854775807 := rfl
  unfold ofIntClamp
  split
  · split
    · rw [toInt_ofIntLE]
      omega
    · omega
  · omega

@[simp] theorem toInt_satAdd (a b : Int64) :
    (a.satAdd b).toInt =
      max (-9223372036854775808) (min 9223372036854775807 (a.toInt + b.toInt)) :=
  toInt_ofIntClamp_eq _

@[simp] theorem toInt_satSub (a b : Int64) :
    (a.satSub b).toInt =
      max (-9223372036854775808) (min 9223372036854775807 (a.toInt - b.toInt)) :=
  toInt_ofIntClamp_eq _

end Int64

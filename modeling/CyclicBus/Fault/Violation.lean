import CyclicBus.Text.Quoted

/-!
# Violations

A value that a configuration or a request may not have, with what was expected of it. Each
constructor is a cause; `Violation.message` is its wording. `seq_eq_ok_iff` says when several checks
in a row pass.
-/

namespace CyclicBus

/-- Which of a device's two byte ranges is meant. -/
inductive Direction where
  | input
  | output
  deriving DecidableEq, Repr

def Direction.name : Direction → String
  | input => "input"
  | output => "output"

/-- A value as it stands in a range violation. -/
inductive Quantity where
  | number (n : Int)
  | text (s : String)
  deriving DecidableEq, Repr

/-- Numbers are shown in decimal, texts between quotes. -/
def Quantity.shown : Quantity → String
  | number n => toString n
  | text s => Text.quoted s

/-- What is wrong with a value. -/
inductive Violation where
  | outOfRange (field : String) (value least greatest : Quantity)
  | required (field : String)
  | invalidFormat (field reason : String)
  | invalidEnum (field value expected : String)
  | rangeOutOfDomain (device : Nat) (direction : Direction) (offset len domainSize : Nat)
  | notUnique (field value : String)
  | constraint (text : String)
  | custom (text : String)
  deriving DecidableEq, Repr

namespace Violation

/-- A number outside the closed interval from `least` to `greatest`. -/
def numberOutOfRange (field : String) (value least greatest : Nat) : Violation :=
  .outOfRange field (.number value) (.number least) (.number greatest)

def message : Violation → String
  | outOfRange field value least greatest =>
    s!"{field} value {value.shown} is out of range [{least.shown}, {greatest.shown}]"
  | required field => "Required field '" ++ field ++ "' is missing"
  | invalidFormat field reason => "Invalid format for field '" ++ field ++ "': " ++ reason
  | invalidEnum field value expected =>
    "Invalid value '" ++ value ++ "' for field '" ++ field ++ "', expected one of: " ++ expected
  | rangeOutOfDomain device direction offset len domainSize =>
    s!"Device {device} {direction.name} range [{offset}, {offset}+{len}) " ++
      s!"exceeds domain size {domainSize}"
  | notUnique field value =>
    "Value for field '" ++ field ++ "' must be unique but '" ++ value ++ "' already exists"
  | constraint text => "Constraint violation: " ++ text
  | custom text => "Validation error: " ++ text

def name : Violation → String
  | outOfRange .. => "OutOfRange"
  | required _ => "Required"
  | invalidFormat .. => "InvalidFormat"
  | invalidEnum .. => "InvalidEnumValue"
  | rangeOutOfDomain .. => "RangeOutOfDomain"
  | notUnique .. => "NotUnique"
  | constraint _ => "ConstraintViolation"
  | custom _ => "Custom"

end Violation

/-- A guard before the rest of a check. -/
theorem guard_eq_ok_iff {ε α : Type} {p : Prop} [Decidable p] (e : ε) (x : Except ε α) (a : α) :
    (if p then .error e else x) = .ok a ↔ ¬p ∧ x = .ok a := by
  split
  · rename_i h
    exact ⟨nofun, fun hx => absurd h hx.1⟩
  · rename_i h
    exact ⟨fun hx => ⟨h, hx⟩, And.right⟩

theorem bind_eq_ok_iff {ε α β : Type} (x : Except ε α) (k : α → Except ε β) (b : β) :
    x >>= k = .ok b ↔ ∃ a, x = .ok a ∧ k a = .ok b := by
  cases x with
  | error e => exact ⟨nofun, fun ⟨_, h, _⟩ => nomatch h⟩
  | ok a => exact ⟨fun h => ⟨a, rfl, h⟩, fun ⟨_, rfl, h⟩ => h⟩

/-- Two checks in a row pass if each of them does. -/
theorem seq_eq_ok_iff {ε : Type} (x y : Except ε Unit) :
    (do x; y) = .ok () ↔ x = .ok () ∧ y = .ok () := by
  rw [bind_eq_ok_iff]
  exact ⟨fun ⟨_, h⟩ => h, fun h => ⟨(), h⟩⟩

end CyclicBus

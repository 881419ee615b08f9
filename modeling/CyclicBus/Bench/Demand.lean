import CyclicBus.Text.Quoted

/-!
# Demands on a result

What a check demands of a result, and what it reports where it gets something else.
-/

namespace CyclicBus.Demand

/-- A value. Reports the fault. -/
def value {ε α : Type} (shown : ε → String) : Except ε α → Except String α
  | .ok a => .ok a
  | .error e => .error ("must: unexpected Err: " ++ shown e)

/-- A value that is there. Reports the message. -/
def presence {α : Type} (message : String) : Option α → Except String α
  | some a => .ok a
  | none => .error ("must_some: " ++ message)

/-- A value. Reports the fault in its context. -/
def valueIn {ε α : Type} (shown : ε → String) (context : String) : Except ε α → Except String α
  | .ok a => .ok a
  | .error e => .error ("must_with: " ++ context ++ ": " ++ shown e)

/-- A fault. Reports the value. -/
def fault {ε α : Type} (shown : α → String) : Except ε α → Except String ε
  | .ok a => .error ("must_err: unexpected Ok: " ++ shown a)
  | .error e => .ok e

end CyclicBus.Demand

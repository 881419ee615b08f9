/-!
# Blank text

A text is blank if it holds white space only, as the property `White_Space` of the Unicode character
database has it. `isSpace_of_isWhitespace` says that every character that core calls white space is
among them.
-/

namespace CyclicBus.Text

/-- Whether a character has the property `White_Space`. -/
def isSpace (c : Char) : Bool :=
  let n := c.toNat
  (0x09 ≤ n && n ≤ 0x0d) || n == 0x20 || n == 0x85 || n == 0xa0 || n == 0x1680 ||
    (0x2000 ≤ n && n ≤ 0x200a) || n == 0x2028 || n == 0x2029 || n == 0x202f || n == 0x205f ||
    n == 0x3000

def isBlank (s : String) : Bool := s.toList.all isSpace

theorem isSpace_of_isWhitespace {c : Char} (h : c.isWhitespace) : isSpace c := by
  simp only [Char.isWhitespace, Bool.or_eq_true, decide_eq_true_eq] at h
  rcases h with ((rfl | rfl) | rfl) | rfl <;> decide

@[simp] theorem isBlank_empty : isBlank "" = true := by simp [isBlank]

end CyclicBus.Text

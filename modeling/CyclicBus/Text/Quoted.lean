import CyclicBus.Text.Unprinted

/-!
# Quoted text

A text is shown between double quotes. Inside, a quote and a backslash follow a backslash, the five
common controls have a letter, and any other character that does not print by itself is written as
its code point.
-/

namespace CyclicBus.Text

/-- The lower-case hexadecimal digits of a number. -/
def hexDigits (n : Nat) : List Char := Nat.toDigits 16 n

/-- One character as it stands inside a quoted text. -/
def quotedChar (c : Char) : List Char :=
  if c = '"' then ['\\', '"']
  else if c = '\\' then ['\\', '\\']
  else if c = '\n' then ['\\', 'n']
  else if c = '\t' then ['\\', 't']
  else if c = '\r' then ['\\', 'r']
  else if c.toNat = 0 then ['\\', '0']
  else if isShown c then [c]
  else '\\' :: 'u' :: '\x7b' :: hexDigits c.toNat ++ ['\x7d']

/-- A text between double quotes. -/
def quoted (s : String) : String :=
  String.ofList ('"' :: s.toList.flatMap quotedChar ++ ['"'])

/-- `n` in base 16 with upper-case digits, on at least `width` places. -/
def hexUpper (width n : Nat) : String :=
  let digits := (hexDigits n).map Char.toUpper
  String.ofList (List.replicate (width - digits.length) '0' ++ digits)

end CyclicBus.Text

/-!
# Hexadecimal numbers

Where a character is given by its code, in a JSON string, a range of a grammar or a pattern, the
code is a hexadecimal number. Its letters may be of either case.
-/

namespace MailRules

/-- The value of a hexadecimal digit. -/
def hexValue? (c : Char) : Option Nat :=
  if c.isDigit then some (c.toNat - '0'.toNat)
  else if 'a' ≤ c ∧ c ≤ 'f' then some (c.toNat - 'a'.toNat + 10)
  else if 'A' ≤ c ∧ c ≤ 'F' then some (c.toNat - 'A'.toNat + 10)
  else none

/-- The number that hexadecimal digits denote. -/
def hexNumber? (digits : List Char) : Option Nat :=
  digits.foldlM (fun n c => (hexValue? c).map (16 * n + ·)) 0

/-- The character that has the code. -/
def scalar? (code : Nat) : Option Char := if code.isValidChar then some (Char.ofNat code) else none

end MailRules

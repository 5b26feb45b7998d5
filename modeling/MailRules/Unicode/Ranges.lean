import MailRules.Hexadecimal

/-!
# Sets of characters as intervals of code points

The Unicode standard publishes its properties as lists of code point intervals.
A table here is the same list, in increasing order, so that membership is one walk
that stops at the first interval beyond the character asked for.

Most tables are written as text in the hexadecimal notation of the standard: a
single code point, an interval `first-last`, or `first-last/2` for every second
code point of an interval, which is how capital and small letters alternate.
-/

namespace MailRules.Unicode

/-- Closed intervals of code points, in increasing order. -/
abbrev Ranges := List (Nat × Nat)

/-- A set of characters, by its membership test. -/
abbrev CharSet := Char → Bool

/-- A code point as a table has it. -/
def ofHex (digits : List Char) : Nat := (hexNumber? digits).getD 0

/-- The pieces between blanks. -/
def words (text : List Char) : List (List Char) :=
  let add (c : Char) : List (List Char) → List (List Char)
    | [] => [[c]]
    | word :: rest => if c.isWhitespace then [] :: word :: rest else (c :: word) :: rest
  (text.foldr add []).filter (!·.all Char.isWhitespace)

namespace Ranges

def covers : Ranges → Nat → Bool
  | [], _ => false
  | (first, last) :: rest, n => first ≤ n && (n ≤ last || covers rest n)

def contains (table : Ranges) (c : Char) : Bool := table.covers c.toNat

def ofWord (word : List Char) : Ranges :=
  let (interval, step) := word.span (· ≠ '/')
  let (first, last) := interval.span (· ≠ '-')
  let first := ofHex first
  if last.isEmpty then
    [(first, first)]
  else if step.isEmpty then
    [(first, ofHex last.tail)]
  else
    (List.range ((ofHex last.tail - first) / 2 + 1)).map fun i => (first + 2 * i, first + 2 * i)

def ofText (text : String) : Ranges := (words text.toList).flatMap ofWord

end Ranges
end MailRules.Unicode

import MailRules.Unicode.Ranges

/-!
# Regular expressions and searching with them

An expression carries a mark at every character set: the mark is on when the
character just read was matched there. Reading a character moves the marks on in one
pass over the expression, so a search takes time proportional to the text, and no
match is ever abandoned and retried.

Assertions look at the characters on both sides of the present gap. Marks are
therefore always moved with the gap before the character at hand.
-/

namespace MailRules.Pattern

/-- The place between two characters of a text, or at one of its ends. -/
structure Gap where
  before : Option Char
  after : Option Char

inductive Regex where
  | empty
  | assertion (holds : Gap → Bool)
  | chars (marked : Bool) (set : Unicode.CharSet)
  | seq (first second : Regex)
  | alt (first second : Regex)
  | star (body : Regex)

namespace Regex

def ofSet (set : Unicode.CharSet) : Regex := .chars false set

/-- The expression matches the empty text at the gap. -/
def nullable (gap : Gap) : Regex → Bool
  | empty => true
  | assertion holds => holds gap
  | chars .. => false
  | seq first second => first.nullable gap && second.nullable gap
  | alt first second => first.nullable gap || second.nullable gap
  | star _ => true

/-- A mark stands where nothing but empty text is left to match. -/
def final (gap : Gap) : Regex → Bool
  | empty => false
  | assertion _ => false
  | chars marked _ => marked
  | seq first second => second.final gap || (first.final gap && second.nullable gap)
  | alt first second => first.final gap || second.final gap
  | star body => body.final gap

/-- Reads `c` at the gap; `enter` says whether a match may begin there. -/
def shift (gap : Gap) (c : Char) (enter : Bool) : Regex → Regex
  | empty => empty
  | assertion holds => assertion holds
  | chars _ set => chars (enter && set c) set
  | seq first second =>
    let enterSecond := first.final gap || (enter && first.nullable gap)
    seq (first.shift gap c enter) (second.shift gap c enterSecond)
  | alt first second => alt (first.shift gap c enter) (second.shift gap c enter)
  | star body => star (body.shift gap c (enter || body.final gap))

/-- Some match begins in `text` or is under way and ends in it. -/
def search (before : Option Char) : List Char → Regex → Bool
  | [], regex =>
    let gap := ⟨before, none⟩
    regex.nullable gap || regex.final gap
  | c :: rest, regex =>
    let gap := ⟨before, some c⟩
    regex.nullable gap || regex.final gap || search (some c) rest (regex.shift gap c true)

def isMatch (regex : Regex) (text : String) : Bool := search none text.toList regex

/-- `n` copies, then whatever `rest` matches. -/
def copies (regex rest : Regex) : Nat → Regex
  | 0 => rest
  | n + 1 => seq regex (copies regex rest n)

/-- At most `n` copies. -/
def upTo (regex : Regex) : Nat → Regex
  | 0 => empty
  | n + 1 => alt empty (seq regex (upTo regex n))

def repeated (regex : Regex) (least : Nat) : Option Nat → Regex
  | none => regex.copies (star regex) least
  | some most => regex.copies (regex.upTo (most - least)) least

end Regex
end MailRules.Pattern

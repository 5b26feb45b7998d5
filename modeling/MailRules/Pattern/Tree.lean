import MailRules.Location

/-!
# The structure of a pattern

A pattern is read into a tree before it is given a meaning. Every node that can
turn out to be wrong later, because of its depth or because of the flags in force,
keeps the extent of text it was read from.
-/

namespace MailRules.Pattern

/-- A piece of the pattern text, from the place of its first character to the place
after its last. -/
structure Extent where
  first : Location
  last : Location
  deriving DecidableEq, Repr

namespace Extent

def single (place : Location) : Extent := ⟨place, place⟩

def isOneLine (extent : Extent) : Bool := extent.first.line == extent.last.line

/-- Order of appearance in the text. -/
def before (a b : Extent) : Bool :=
  a.first.offset < b.first.offset ||
    (a.first.offset == b.first.offset && a.last.offset ≤ b.last.offset)

end Extent

structure Literal where
  extent : Extent
  char : Char
  /-- Written with exactly two hexadecimal digits, which is a byte where Unicode is
  switched off. -/
  isByte : Bool := false

inductive Flag where
  | ignoreCase
  | multiLine
  | dotMatchesNewline
  | swapGreed
  | unicode
  | crlf
  | ignoreWhitespace
  deriving DecidableEq, Repr

/-- The flags that a group or a flag item switches on or off. -/
abbrev FlagChanges := List (Flag × Bool)

inductive Assertion where
  | lineStart
  | lineEnd
  | textStart
  | textEnd
  | wordBoundary
  | notWordBoundary
  | wordStart
  | wordEnd
  | wordStartHalf
  | wordEndHalf
  deriving DecidableEq, Repr

inductive Shorthand where
  | digit
  | space
  | word
  deriving DecidableEq, Repr

inductive NamedClass where
  | alnum
  | alpha
  | ascii
  | blank
  | cntrl
  | digit
  | graph
  | lower
  | print
  | punct
  | space
  | upper
  | word
  | xdigit
  deriving DecidableEq, Repr

inductive PropertyQuery where
  | named (name : String)
  | valued (property value : String)
  deriving DecidableEq, Repr

inductive SetOperator where
  | intersection
  | difference
  | symmetricDifference
  deriving DecidableEq, Repr

/-- What stands for a set of characters. -/
inductive Class where
  | literal (literal : Literal)
  | range (extent : Extent) (first last : Literal)
  | named (extent : Extent) (kind : NamedClass) (negated : Bool)
  | shorthand (extent : Extent) (kind : Shorthand) (negated : Bool)
  | property (extent : Extent) (query : PropertyQuery) (negated : Bool)
  | bracket (extent : Extent) (negated : Bool) (body : Class)
  | union (extent : Extent) (members : List Class)
  | combine (extent : Extent) (operator : SetOperator) (left right : Class)

namespace Class

def extent : Class → Extent
  | literal l => l.extent
  | range extent .. | named extent .. | shorthand extent .. | property extent ..
  | bracket extent .. | union extent .. | combine extent .. => extent

/-- The members of a bracket read so far, in order. A lone member stands for itself. -/
def ofMembers (place : Location) : List Class → Class
  | [] => .union (.single place) []
  | [member] => member
  | first :: second :: rest =>
    let last := (second :: rest).getLast (by simp)
    .union ⟨first.extent.first, last.extent.last⟩ (first :: second :: rest)

end Class

inductive Node where
  | empty (extent : Extent)
  | flags (extent : Extent) (changes : FlagChanges)
  | literal (literal : Literal)
  | dot (extent : Extent)
  | assertion (extent : Extent) (kind : Assertion)
  | chars (cls : Class)
  | repetition (extent : Extent) (least : Nat) (most : Option Nat) (body : Node)
  | group (extent : Extent) (changes : FlagChanges) (body : Node)
  | sequence (extent : Extent) (items : List Node)
  | alternation (extent : Extent) (branches : List Node)

namespace Node

def extent : Node → Extent
  | literal l => l.extent
  | chars cls => cls.extent
  | empty extent | flags extent _ | dot extent | assertion extent _ | repetition extent ..
  | group extent .. | sequence extent _ | alternation extent _ => extent

/-- The items of one branch. A lone item stands for itself. -/
def ofItems (extent : Extent) : List Node → Node
  | [] => .empty extent
  | [item] => item
  | items => .sequence extent items

/-- A repetition operator needs something before it to repeat. -/
def isRepeatable : Node → Bool
  | empty _ | flags .. => false
  | _ => true

end Node
end MailRules.Pattern

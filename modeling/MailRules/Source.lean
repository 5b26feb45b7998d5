import MailRules.Location

/-!
# Named sources and positions in them

A source is a text with the name by which messages refer to it; the empty name
belongs to text that comes from nowhere in particular. A position remembers that
name, so that it can be shown without the source at hand.
-/

namespace MailRules

structure Source where
  name : String := ""
  text : String
  deriving DecidableEq, Repr

structure Position where
  source : String
  place : Location
  deriving DecidableEq, Repr

namespace Position

/-- Shown as name, line and column, or as line and column alone. -/
def render (position : Position) : String :=
  let place := s!"{position.place.line}:{position.place.column}"
  if position.source.isEmpty then place else s!"{position.source}:{place}"

end Position

/-- A byte range of a text. -/
structure Span where
  start : Nat
  stop : Nat
  deriving DecidableEq, Repr

namespace Span

def empty (offset : Nat) : Span := ⟨offset, offset⟩

/-- A range that ends before it starts counts as empty. -/
def length (span : Span) : Nat := span.stop - span.start

end Span

namespace Source

def position (source : Source) (place : Location) : Position := ⟨source.name, place⟩

/-- The number of bytes of the text. -/
def size (source : Source) : Nat := source.text.utf8ByteSize

end Source
end MailRules

/-!
# Places in a text

A place is a byte offset together with the line and the column of the character
that stands there. Lines and columns count from one and columns count characters,
so a place depends on the whole text before it. Reading on by one character is the
only way to obtain a later place, which keeps the three numbers in step.
-/

namespace MailRules

structure Location where
  offset : Nat
  line : Nat
  column : Nat
  deriving DecidableEq, Repr

namespace Location

def start : Location := ⟨0, 1, 1⟩

/-- The place after `c`. -/
def advance (place : Location) (c : Char) : Location :=
  if c = '\n' then
    ⟨place.offset + c.utf8Size, place.line + 1, 1⟩
  else
    ⟨place.offset + c.utf8Size, place.line, place.column + 1⟩

/-- The place after a whole piece of text. -/
def after (place : Location) (text : List Char) : Location := text.foldl advance place

@[simp] theorem after_nil (place : Location) : place.after [] = place := rfl

@[simp] theorem after_cons (place : Location) (c : Char) (text : List Char) :
    place.after (c :: text) = (place.advance c).after text := rfl

@[simp] theorem after_append (place : Location) (first second : List Char) :
    place.after (first ++ second) = (place.after first).after second :=
  List.foldl_append

end Location
end MailRules

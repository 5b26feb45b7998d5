/-!
# Text styles on a terminal

A style is switched on by control sequences before the text and off by a reset after
it. Where colours are not wanted the text stands alone.
-/

namespace MailRules

inductive Color where
  | red
  | green
  | yellow
  | cyan
  deriving DecidableEq, Repr

structure Style where
  color : Option Color := none
  bold : Bool := false
  dimmed : Bool := false

namespace Color

def code : Color → Nat
  | red => 31
  | green => 32
  | yellow => 33
  | cyan => 36

end Color

namespace Style

def sequence (code : Nat) : String := s!"\x1b[{code}m"

def reset : String := sequence 0

/-- The sequences that switch the style on, whatever was on before. -/
def start (style : Style) : String :=
  reset ++ (if style.bold then sequence 1 else "") ++ (if style.dimmed then sequence 2 else "") ++
    (style.color.map fun color => sequence color.code).getD ""

def paint (style : Style) (colored : Bool) (text : String) : String :=
  if colored then style.start ++ text ++ reset else text

end Style
end MailRules

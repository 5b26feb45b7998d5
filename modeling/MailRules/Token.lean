import MailRules.Source

/-!
# Tokens of the rule language

Words, strings and single other characters. Keywords are plain words at this level:
what a word means depends on where it stands.
-/

namespace MailRules

inductive TokenKind where
  | ident
  | other
  | string
  deriving DecidableEq, Repr

namespace TokenKind

def name : TokenKind → String
  | ident => "IDENT"
  | other => "OTHER"
  | string => "STRING"

/-- A kind, or a kind with the one text that is meant. -/
def render (kind : TokenKind) : Option String → String
  | none => kind.name
  | some text => s!"{kind.name}({text})"

end TokenKind

/-- A token with its text, which of a string is what stands between the quotes. -/
structure Token where
  kind : TokenKind
  position : Position
  /-- The bytes of the token, quotes included. -/
  span : Span
  text : String
  deriving DecidableEq, Repr

namespace Token

def render (token : Token) : String := token.kind.render (some token.text)

end Token
end MailRules

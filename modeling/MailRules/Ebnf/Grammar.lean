import MailRules.Source
import MailRules.Unicode.Letter

/-!
# Grammars in EBNF

A grammar is a list of productions, each a name with a body or with none. Brackets are
part of a body as written: a group is kept even where its parentheses say nothing. A
production whose name begins with a small letter describes tokens and is called
lexical.
-/

namespace MailRules.Ebnf

/-- A name or a terminal as written, and where. -/
structure Symbol where
  text : String
  position : Position
  deriving DecidableEq, Repr

inductive Form where
  | alternative (branches : List Form)
  | sequence (items : List Form)
  | group (inner : Form)
  | option (inner : Form)
  | repetition (inner : Form)
  | name (symbol : Symbol)
  | token (symbol : Symbol)
  | range (first last : Symbol)
  deriving Repr

namespace Form

mutual

/-- The names, terminals and ranges in a form, in the order of the text. -/
def leaves : Form → List Form
  | alternative branches => leavesAll branches
  | sequence items => leavesAll items
  | group inner | option inner | repetition inner => inner.leaves
  | name symbol => [name symbol]
  | token symbol => [token symbol]
  | range first last => [range first last]

def leavesAll : List Form → List Form
  | [] => []
  | form :: rest => form.leaves ++ leavesAll rest

end

/-- The name that a leaf refers to. -/
def reference? : Form → Option Symbol
  | name symbol => some symbol
  | _ => none

def references (form : Form) : List Symbol := form.leaves.filterMap reference?

end Form

structure Production where
  name : String
  position : Position
  body : Option Form
  deriving Repr

structure Grammar where
  productions : List Production
  deriving Repr

def isLexical (name : String) : Bool := name.toList.head?.any Unicode.isLowercase

namespace Production

def isLexical (production : Production) : Bool := Ebnf.isLexical production.name

def leaves (production : Production) : List Form :=
  (production.body.map Form.leaves).getD []

def references (production : Production) : List Symbol :=
  (production.body.map Form.references).getD []

end Production

namespace Grammar

/-- The first production of the name. -/
def get? (grammar : Grammar) (name : String) : Option Production :=
  grammar.productions.find? (·.name = name)

end Grammar
end MailRules.Ebnf

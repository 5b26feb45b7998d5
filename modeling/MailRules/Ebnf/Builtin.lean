import MailRules.Ebnf.Check
import MailRules.Ebnf.Parse

/-!
# The grammar of the rule language

The grammar that comes with the program, as a document of its own kind, and the
verification of grammar documents in general.
-/

namespace MailRules

namespace Ebnf

def builtinText : String := "// koskinon rule grammar.
//
// Upper-case productions are recognised by the parser; lower-case ones
// describe tokens produced by the lexer. Both Expr and Stmt are start
// symbols: a rule pairs one expression with the statements to run.

Expr         = ExprHeader | ExprMessage | PredBool .
ExprHeader   = ( \"header\" | \"headers\" ) StrOrListStr Comparator .
ExprMessage  = \"message\" Comparator .
PredBool     = \"true\" | \"false\" .

Comparator   = Operator StrOrListStr .
Operator     = \"is\" | \"are\"
             | \"contains\" | \"contain\"
             | \"matches\" | \"match\" .

Stmt         = StmtLabel | StmtMark | StmtSkip | StmtStop .
StmtLabel    = \"label\" StrOrListStr .
StmtMark     = \"mark\" \"as\" \"read\" .
StmtSkip     = \"skip\" \"inbox\" .
StmtStop     = \"stop\" .

StrOrListStr = string | ListStr .
ListStr      = \"[\" string \x7b \",\" string \x7d \"]\" .

string       = quoted | raw .
quoted       = `\"` \x7b char \x7d `\"` .
raw          = \"`\" \x7b char \x7d \"`\" .
char         = \"\\u0000\" … \"\\U0010FFFF\" .
"

/-- The two start symbols of the rule grammar. -/
def builtinStart : List String := ["Expr", "Stmt"]

def builtin : Source := { name := "grammar.ebnf", text := builtinText }

end Ebnf

namespace Source

/-- Reads a grammar and checks it. A document that is no grammar is a failure; a grammar
with faults is not. -/
def verifyGrammar (source : Source) (start : List String) : Except Failure Ebnf.Findings :=
  return (← source.parseGrammar).verify start

end Source
end MailRules

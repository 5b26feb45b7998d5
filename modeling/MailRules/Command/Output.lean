import MailRules.Command.Paint
import MailRules.Ebnf.Findings
import MailRules.Token

/-!
# What the program prints

The token list has a line for each token, the verdict is a line of its own, and a
report on a grammar has a section for each kind of finding that there is.
-/

namespace MailRules

namespace Token

/-- The line of a token: its position, its kind and its text. -/
def line (colored : Bool) (token : Token) : String :=
  let position := Style.paint { dimmed := true } colored token.position.render
  s!"{position} {token.render}\n"

end Token

namespace Output

def tokens (colored : Bool) (tokens : List Token) : String :=
  String.join (tokens.map (Token.line colored))

def verdict (colored : Bool) (matched : Bool) : String :=
  let color := if matched then Color.green else Color.red
  let style : Style := { color := some color, bold := true }
  style.paint colored (toString matched) ++ "\n"

/-- A title and an item a line; nothing if there are no items. -/
def reportSection (colored : Bool) (color : Color) (title : String) (items : List String) :
    String :=
  let style : Style := { color := some color, bold := true }
  if items.isEmpty then
    ""
  else
    style.paint colored (title ++ ":\n") ++
      String.join (items.map fun item => s!"  • {item}\n") ++ "\n"

def report (colored : Bool) (findings : Ebnf.Findings) : String :=
  let style : Style := { color := some .green, bold := true }
  reportSection colored .red "GRAMMAR VALIDATION ERRORS" findings.errors ++
    reportSection colored .yellow "GRAMMAR WARNINGS" findings.warnings ++
    reportSection colored .cyan "GRAMMAR SUGGESTIONS" findings.suggestions ++
    if findings.isClean then
      style.paint colored "Grammar validation passed - no issues found\n"
    else
      ""

end Output
end MailRules

import MailRules.Parse.Basic
import MailRules.Rule.Node

/-!
# The rule grammar

One parser for each production. An operator is looked up, and its patterns compiled,
only when all values of the comparator have been read, so a rule of the right shape
with a bad operator fails there and not at its first token.
-/

namespace MailRules.Parse

/-- The strings of a bracketed list after its opening bracket, at most `bound`. -/
def listItems : Nat → Parse (List Token)
  | 0 => do throw (← read).endFailure
  | bound + 1 => do
    let item ← nextString
    let separator ← nextOther
    if separator.text = "]" then
      return [item]
    else if separator.text = "," then
      return item :: (← listItems bound)
    else
      failAt separator (.mismatch "OTHER(,) or OTHER(])" separator.render)

/-- `ListStr = "[" string { "," string } "]"` -/
def listTokens : Parse (List Token) := attempt do
  expectOther "["
  listItems (← remaining)

/-- `StrOrListStr = string | ListStr` -/
def stringTokens : Parse (List Token) :=
  orElse (do return [← nextString]) listTokens

def listStrings : Parse (List String) := do return (← listTokens).map Token.text

def strings : Parse (List String) := do return (← stringTokens).map Token.text

/-- `Comparator = Operator StrOrListStr` -/
def comparator : Parse Comparator := do
  let op ← nextIdent
  let values ← stringTokens
  match Comparator.ofKeyword op.text (values.map Token.text) with
  | .ok comparator => return comparator
  | .error .unknownOperator => failAt op (.unknownOperator op.text)
  | .error (.invalidPattern index fault) =>
    let token := values[index]?.getD op
    failAt token (.invalidPattern token.text fault)

/-- `ExprHeader = ( "header" | "headers" ) StrOrListStr Comparator` -/
def exprHeader : Parse Expr := attempt do
  orElse (expectIdent "header") (expectIdent "headers")
  let names ← strings
  return .header names (← comparator)

/-- `ExprMessage = "message" Comparator` -/
def exprMessage : Parse Expr := attempt do
  expectIdent "message"
  return .message (← comparator)

/-- `PredBool = "true" | "false"` -/
def predBool : Parse Expr :=
  orElse
    (do
      expectIdent "true"
      return .bool true)
    (do
      expectIdent "false"
      return .bool false)

/-- `Expr = ExprHeader | ExprMessage | PredBool` -/
def expr : Parse Expr := either (either exprHeader exprMessage) predBool

/-- `StmtLabel = "label" StrOrListStr` -/
def stmtLabel : Parse Stmt := attempt do
  expectIdent "label"
  return .label (← strings)

/-- `StmtMark = "mark" "as" "read"` -/
def stmtMark : Parse Stmt := attempt do
  expectIdent "mark"
  expectIdent "as"
  expectIdent "read"
  return .mark

/-- `StmtSkip = "skip" "inbox"` -/
def stmtSkip : Parse Stmt := attempt do
  expectIdent "skip"
  expectIdent "inbox"
  return .skip

/-- `StmtStop = "stop"` -/
def stmtStop : Parse Stmt := do
  expectIdent "stop"
  return .stop

/-- `Stmt = StmtLabel | StmtMark | StmtSkip | StmtStop` -/
def stmt : Parse Stmt := either (either (either stmtLabel stmtMark) stmtSkip) stmtStop

end Parse

namespace Source

/-- Reads a source as exactly one expression. -/
def parseExpr (source : Source) : Except Failure Expr := Parse.expr.whole source

/-- Reads a source as exactly one statement. -/
def parseStmt (source : Source) : Except Failure Stmt := Parse.stmt.whole source

end Source
end MailRules

import MailRules.Parse.Rule
import MailRules.Rule.Canonical

/-!
# Single steps of parsing

A session reads a document step by step. Each step is one parser of the rule language
or several of them attempted as one.
-/

namespace MailRules

inductive Step where
  | expect (kind : TokenKind) (text : Option String)
  | expectIdent (text : String)
  | expectOther (text : String)
  | nextIdent
  | nextOther
  | nextString
  | expectEnd
  | peek
  | failExpected (expected : String)
  | strings
  | listStrings
  | expr
  | exprHeader
  | exprMessage
  | predBool
  | stmt
  | stmtLabel
  | stmtMark
  | stmtSkip
  | stmtStop
  | attempt (steps : List Step)

namespace Step

/-- What a step gives when it succeeds. -/
inductive Value where
  | nothing
  | token (token : Token)
  | peeked (token : Option Token)
  | strings (values : List String)
  | expr (expr : Expr)
  | stmt (stmt : Stmt)
  | all (values : List Value)

mutual

def parse : Step → Parse Value
  | .expect kind text => return .token (← Parse.expect kind text)
  | .expectIdent text => do
    Parse.expectIdent text
    return .nothing
  | .expectOther text => do
    Parse.expectOther text
    return .nothing
  | .nextIdent => return .token (← Parse.nextIdent)
  | .nextOther => return .token (← Parse.nextOther)
  | .nextString => return .token (← Parse.nextString)
  | .expectEnd => do
    Parse.expectEnd
    return .nothing
  | .peek => return .peeked (← Parse.current?)
  | .failExpected expected => Parse.failExpected expected
  | .strings => return .strings (← Parse.strings)
  | .listStrings => return .strings (← Parse.listStrings)
  | .expr => return .expr (← Parse.expr)
  | .exprHeader => return .expr (← Parse.exprHeader)
  | .exprMessage => return .expr (← Parse.exprMessage)
  | .predBool => return .expr (← Parse.predBool)
  | .stmt => return .stmt (← Parse.stmt)
  | .stmtLabel => return .stmt (← Parse.stmtLabel)
  | .stmtMark => return .stmt (← Parse.stmtMark)
  | .stmtSkip => return .stmt (← Parse.stmtSkip)
  | .stmtStop => return .stmt (← Parse.stmtStop)
  | .attempt steps => Parse.attempt do return .all (← parseAll steps)

def parseAll : List Step → Parse (List Value)
  | [] => return []
  | step :: rest => do
    let value ← step.parse
    return value :: (← parseAll rest)

end

/-- A step's outcome and the cursor after it. -/
def run (document : Document) (cursor : Nat) (step : Step) : Except Failure Value × Nat :=
  match step.parse document cursor with
  | .ok value cursor => (.ok value, cursor)
  | .error failure cursor => (.error failure, cursor)

/-- The outcomes of a session, each step starting where the one before left the
cursor. -/
def runAll (document : Document) : Nat → List Step → List (Except Failure Value × Nat)
  | _, [] => []
  | cursor, step :: rest =>
    let outcome := step.run document cursor
    outcome :: runAll document outcome.2 rest

end Step
end MailRules

import MailRules.Command.Arguments
import MailRules.Command.Output
import MailRules.Ebnf.Builtin
import MailRules.Message.Decode
import MailRules.Parse.Rule
import MailRules.Rule.Json

/-!
# Running a command

A command sees the files it can read and leaves an exit code and two texts. Whatever
goes wrong before there is a result makes the code 2 and leaves the first text empty;
an expression that does not match and a grammar with errors make it 1.

The verifier of grammar documents is a program of its own, which names the document
before it looks at it and knows only the code 1.
-/

namespace MailRules.Command

structure Outcome where
  exitCode : Nat
  stdout : String := ""
  stderr : String := ""
  deriving DecidableEq, Repr

/-- Why a command came to no result. -/
inductive Trouble where
  /-- The file cannot be read as text. -/
  | unreadable (file : String)
  | undecodable (file : String)
  | failure (cause : Failure)

namespace Trouble

def message : Trouble → String
  | unreadable file => s!"error: cannot read {file}\n"
  | undecodable file => s!"error: {file} is no message\n"
  | failure cause => s!"error: {cause.message}\n"

end Trouble

/-- The surroundings of a command: the contents of files and whether to use colours. -/
structure Environment where
  read : String → Option ByteArray
  colored : Bool := false

namespace Environment

/-- The text of a file. -/
def text (environment : Environment) (file : String) : Except Trouble String :=
  match (environment.read file).bind String.fromUTF8? with
  | some text => .ok text
  | none => .error (.unreadable file)

/-- A file as a source of its own name. -/
def source (environment : Environment) (file : String) : Except Trouble Source :=
  return ⟨file, ← environment.text file⟩

end Environment

def version : String := "koskinon 0.1.0\n"

def usage : String :=
  "Usage: koskinon [--log-level FILTER] tokens FILE\n" ++
  "       koskinon [--log-level FILTER] ast [--stmt] FILE\n" ++
  "       koskinon [--log-level FILTER] eval FILE --message MESSAGE\n" ++
  "       koskinon [--log-level FILTER] grammar [PATH]\n"

/-- The result of a step that may fail on a source. -/
def orFailure {α : Type} (result : Except Failure α) : Except Trouble α :=
  result.mapError .failure

def tokens (environment : Environment) (file : String) : Except Trouble Outcome := do
  let source ← environment.source file
  let tokens ← orFailure source.lex
  return { exitCode := 0, stdout := Output.tokens environment.colored tokens }

def ast (environment : Environment) (file : String) (asStatement : Bool) :
    Except Trouble Outcome := do
  let source ← environment.source file
  let json ←
    if asStatement then
      orFailure (source.parseStmt.map Stmt.toJson)
    else
      orFailure (source.parseExpr.map Expr.toJson)
  return { exitCode := 0, stdout := json.pretty ++ "\n" }

def eval (environment : Environment) (file message : String) : Except Trouble Outcome := do
  let source ← environment.source file
  let expr ← orFailure source.parseExpr
  let text ← environment.text message
  match Message.decode? text with
  | none => throw (.undecodable message)
  | some message =>
    let matched := expr.eval message
    return {
      exitCode := if matched then 0 else 1
      stdout := Output.verdict environment.colored matched }

/-- The findings about a grammar document, or about the grammar of the rules. -/
def findings (environment : Environment) : Option String → Except Trouble Ebnf.Findings
  | none => orFailure (Ebnf.builtin.verifyGrammar Ebnf.builtinStart)
  | some file => do
    let source ← environment.source file
    orFailure (source.verifyGrammar Ebnf.builtinStart)

/-- A report on findings, which fails if there are errors. -/
def reported (environment : Environment) (findings : Ebnf.Findings) : Outcome :=
  { exitCode := if findings.isValid then 0 else 1
    stderr := Output.report environment.colored findings }

def grammar (environment : Environment) (file : Option String) : Except Trouble Outcome :=
  return reported environment (← findings environment file)

namespace Request

def perform (environment : Environment) : Request → Except Trouble Outcome
  | .tokens file => Command.tokens environment file
  | .ast file asStatement => Command.ast environment file asStatement
  | .eval file message => Command.eval environment file message
  | .grammar file => Command.grammar environment file

end Request

namespace Outcome

def ofHalt : Halt → Outcome
  | .version => { exitCode := 0, stdout := version }
  | .help => { exitCode := 0, stdout := usage }
  | .misuse => { exitCode := 2, stderr := usage }

end Outcome

/-- The rule program. -/
def run (environment : Environment) (arguments : List String) : Outcome :=
  match Request.ofArguments arguments with
  | .error halt => .ofHalt halt
  | .ok request =>
    match request.perform environment with
    | .ok outcome => outcome
    | .error trouble => { exitCode := 2, stderr := trouble.message }

/-- The verifier of grammar documents. It looks at its first argument only. -/
def runVerifier (environment : Environment) (arguments : List String) : Outcome :=
  let file := arguments.head?
  let title := match file with
    | some file => s!"Validating grammar file: {file}\n"
    | none => "Validating built-in grammar\n"
  match findings environment file with
  | .ok findings => { reported environment findings with stdout := title }
  | .error trouble => { exitCode := 1, stdout := title, stderr := trouble.message }

end MailRules.Command

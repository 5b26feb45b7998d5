import MailRules.Token.Lex

/-!
# Parsing tokens

A parser reads the tokens of a document from a cursor on. A parser that fails leaves
the cursor where it got to; `attempt` puts it back, so that another parser can be
tried from the same place.
-/

namespace MailRules

/-- The tokens of a source. They are usually those that lexing it gives. -/
structure Document where
  source : Source
  tokens : List Token

namespace Document

def ofSource (source : Source) : Except Failure Document := return ⟨source, ← source.lex⟩

def failAt (document : Document) (token : Token) (kind : Failure.Kind) : Failure :=
  .of document.source kind token.position token.span

/-- The input ends too early: at the last token, right after it. Without any tokens,
the end of the source is to blame. -/
def endFailure (document : Document) : Failure :=
  match document.tokens.getLast? with
  | some token =>
    .of document.source .unexpectedEnd token.position (.empty token.span.stop)
  | none =>
    .of document.source .unexpectedEnd (document.source.position .start)
      (.empty document.source.size)

end Document

abbrev Parse := ReaderT Document (EStateM Failure Nat)

namespace Parse

variable {α : Type}

/-- The outcome of parsing from the first token on. -/
def run (parser : Parse α) (document : Document) : Except Failure α :=
  match parser document 0 with
  | .ok value _ => .ok value
  | .error failure _ => .error failure

/-- The token at the cursor. -/
def current? : Parse (Option Token) := do return (← read).tokens[← get]?

/-- No token is left. -/
def isAtEnd : Parse Bool := do return (← read).tokens.length ≤ (← get)

/-- The number of tokens from the cursor on. -/
def remaining : Parse Nat := do return (← read).tokens.length - (← get)

def failAt (token : Token) (kind : Failure.Kind) : Parse α := do
  throw ((← read).failAt token kind)

/-- Puts the cursor back if the parser fails. -/
def attempt (parser : Parse α) : Parse α := fun document cursor =>
  match parser document cursor with
  | .ok value cursor' => .ok value cursor'
  | .error failure _ => .error failure cursor

/-- The first parser that succeeds. If both fail, the failure that got further counts. -/
def either (first second : Parse α) : Parse α := fun document cursor =>
  match first document cursor with
  | .ok value cursor' => .ok value cursor'
  | .error failure cursor' =>
    match second document cursor' with
    | .ok value cursor'' => .ok value cursor''
    | .error failure' cursor'' => .error (failure.furthest failure') cursor''

/-- The second parser if the first fails, whatever became of the first. -/
def orElse (first second : Parse α) : Parse α := fun document cursor =>
  match first document cursor with
  | .ok value cursor' => .ok value cursor'
  | .error _ cursor' => second document cursor'

/-- Fails for want of something described by `expected`. -/
def failExpected (expected : String) : Parse α := do
  match ← current? with
  | some token => failAt token (.mismatch expected token.render)
  | none => throw (← read).endFailure

/-- Reads a token of the given kind and, if one is given, with exactly that text. -/
def expect (kind : TokenKind) (text : Option String) : Parse Token := do
  match ← current? with
  | none => throw (← read).endFailure
  | some token =>
    if token.kind = kind ∧ text.all (· = token.text) then
      modify (· + 1)
      return token
    else
      failAt token (.mismatch (kind.render text) token.render)

def expectIdent (text : String) : Parse Unit := do
  let _ ← expect .ident (some text)

def expectOther (text : String) : Parse Unit := do
  let _ ← expect .other (some text)

/-- Reads a single other character if it is the one given. -/
def accept (text : String) : Parse Bool :=
  orElse
    (do
      expectOther text
      return true)
    (return false)

def nextIdent : Parse Token := expect .ident none

def nextOther : Parse Token := expect .other none

def nextString : Parse Token := expect .string none

/-- Succeeds when every token has been read. -/
def expectEnd : Parse Unit := do
  match ← current? with
  | none => return ()
  | some token => failAt token (.trailingInput token.render)

/-- Reads the whole of a source. -/
def whole (parser : Parse α) (source : Source) : Except Failure α := do
  let document ← Document.ofSource source
  run (do
    let value ← parser
    expectEnd
    return value) document

end Parse
end MailRules

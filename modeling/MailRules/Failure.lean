import MailRules.Pattern.Fault
import MailRules.Source

/-!
# Failures of reading a rule

Reading stops at the first failure. It says what went wrong, where, and which bytes
of the source to point at; position and span differ only at the end of the input,
where the position is that of the last token and the span lies behind it.

Every kind of failure belongs to one of three categories, has a code and a label for
the span, and may come with advice.
-/

namespace MailRules

/-- What can be opened in a source and left open. -/
inductive Enclosure where
  | comment
  | string
  | rawString
  deriving DecidableEq, Repr

namespace Enclosure

def name : Enclosure → String
  | comment => "comment"
  | string => "string literal"
  | rawString => "raw string literal"

end Enclosure

namespace Failure

inductive Category where
  | lexical
  | syntactic
  | semantic
  deriving DecidableEq, Repr

inductive Kind where
  | unexpectedToken (text : String)
  | unterminated (what : Enclosure)
  | mismatch (expected found : String)
  | unexpectedEnd
  | trailingInput (found : String)
  | unknownOperator (keyword : String)
  | invalidPattern (pattern : String) (fault : Pattern.Fault)
  deriving DecidableEq, Repr

namespace Category

def name : Category → String
  | lexical => "lex"
  | syntactic => "parse"
  | semantic => "semantic"

end Category

namespace Kind

def category : Kind → Category
  | unexpectedToken _ | unterminated _ => .lexical
  | mismatch .. | unexpectedEnd | trailingInput _ => .syntactic
  | unknownOperator _ | invalidPattern .. => .semantic

def message : Kind → String
  | unexpectedToken text => s!"unexpected `{text}`"
  | unterminated what => s!"{what.name} not terminated"
  | mismatch expected found => s!"expected {expected}, got {found}"
  | unexpectedEnd => "unexpected EOF"
  | trailingInput found => s!"expected EOF, got {found}"
  | unknownOperator keyword => s!"unknown binary operator `{keyword}`"
  | invalidPattern pattern _ => s!"invalid regular expression `{pattern}`"

/-- The last part of the code. -/
def suffix : Kind → String
  | unexpectedToken _ => "unexpected_token"
  | unterminated _ => "unterminated_literal"
  | mismatch .. => "mismatch"
  | unexpectedEnd => "unexpected_eof"
  | trailingInput _ => "trailing_input"
  | unknownOperator _ => "unknown_operator"
  | invalidPattern .. => "invalid_regex"

/-- What is written at the span. -/
def label : Kind → String
  | unexpectedToken _ => "unsupported token"
  | unterminated _ => "starts here"
  | mismatch .. => "unexpected token"
  | unexpectedEnd => "input ends after this"
  | trailingInput _ => "not consumed"
  | unknownOperator _ => "unknown operator"
  | invalidPattern .. => "does not compile"

/-- The report of the failure that caused this one. -/
def cause? : Kind → Option String
  | invalidPattern pattern fault => some (fault.report pattern)
  | _ => none

def advice? : Kind → Option String
  | unexpectedToken _ =>
    some "numbers and character literals are not part of the rule language; quote the value"
  | unknownOperator _ =>
    some "use one of `is`, `are`, `contains`, `contain`, `matches` or `match`"
  | kind => kind.cause?

/-- The code of the kind, unique among all kinds. -/
def code (kind : Kind) : String := s!"koskinon::{kind.category.name}::{kind.suffix}"

end Kind
end Failure

structure Failure where
  kind : Failure.Kind
  position : Position
  span : Span
  source : Source
  help : Option String
  deriving DecidableEq, Repr

namespace Failure

/-- A failure with the usual advice for its kind. -/
def of (source : Source) (kind : Kind) (position : Position) (span : Span) : Failure :=
  { kind, position, span, source, help := kind.advice? }

def withHelp (failure : Failure) (help : String) : Failure := { failure with help := some help }

def message (failure : Failure) : String :=
  s!"{failure.position.render}: {failure.kind.message}"

/-- Of two failed alternatives, the one that got further; the first if neither did. -/
def furthest (first second : Failure) : Failure :=
  if first.span.start < second.span.start then second else first

end Failure
end MailRules

import MailRules.Ebnf.Findings
import MailRules.Ebnf.Grammar
import MailRules.Hexadecimal

/-!
# Checking a grammar

Seven checks, none of which depends on what another has found. Undefined, doubly
defined and misplaced names and malformed terminals are errors; productions that are
empty or that no start symbol leads to are worth a warning.
-/

namespace MailRules.Ebnf

inductive Check where
  | duplicates
  | start
  | references
  | reachability
  | lexical
  | tokens
  | empty
  deriving DecidableEq, Repr

namespace Check

/-- The checks in the order in which they are made. -/
def all : List Check := [duplicates, start, references, reachability, lexical, tokens, empty]

def duplicateError (production first : Production) : String :=
  s!"{production.position.render}: production `{production.name}` redefined " ++
    s!"(first defined at {first.position.render})"

/-- One error for each production whose name an earlier one has; the first of that name
is mentioned. -/
def duplicateErrors (earlier : List Production) : List Production → List String
  | [] => []
  | production :: rest =>
    match earlier.find? (·.name = production.name) with
    | some first => duplicateError production first :: duplicateErrors earlier rest
    | none => duplicateErrors (earlier ++ [production]) rest

/-- What is wrong with a start symbol. -/
def startError? (grammar : Grammar) (name : String) : Option String :=
  if isLexical name then
    some s!"start symbol `{name}` is a lexical production"
  else if (grammar.get? name).isNone then
    some s!"start symbol `{name}` is not defined"
  else
    none

def referenceError? (grammar : Grammar) (production : Production) (name : Symbol) :
    Option String :=
  if (grammar.get? name.text).isNone then
    some (s!"{name.position.render}: `{production.name}` references undefined " ++
      s!"production `{name.text}`")
  else
    none

/-- The productions of other names. -/
def without (name : String) (productions : List Production) : List Production :=
  productions.filter (·.name ≠ name)

theorem length_without_lt {name : String} {productions : List Production} {found : Production}
    (h : productions.find? (·.name = name) = some found) :
    (without name productions).length < productions.length :=
  List.length_filter_lt_length_iff_exists.mpr
    ⟨found, List.mem_of_find?_eq_some h, by simpa using List.find?_some h⟩

/-- The productions among `pending` that no name of the queue leads to. Following a name
takes all productions of that name from `pending`, so it is followed only once, and
from the first of them. -/
def unreached (pending : List Production) : List String → List Production
  | [] => pending
  | name :: queue =>
    match _h : pending.find? (·.name = name) with
    | none => unreached pending queue
    | some production =>
      unreached (without name pending) (queue ++ production.references.map Symbol.text)
termination_by queue => (pending.length, queue.length)
decreasing_by
  · exact Prod.Lex.right _ (by simp)
  · exact Prod.Lex.left _ _ (length_without_lt _h)

def unreachedWarning (production : Production) : String :=
  s!"{production.position.render}: production `{production.name}` is unreachable"

/-- A lexical production refers to lexical productions only. -/
def lexicalError? (production : Production) (name : Symbol) : Option String :=
  if production.isLexical && !isLexical name.text then
    some (s!"{name.position.render}: lexical production `{production.name}` references " ++
      s!"non-lexical `{name.text}`")
  else
    none

/-- The character that a letter after a backslash denotes. -/
def escaped? : Char → Option Char
  | 'a' => some '\x07'
  | 'b' => some '\x08'
  | 'f' => some '\x0C'
  | 'n' => some '\n'
  | 'r' => some '\r'
  | 't' => some '\t'
  | 'v' => some '\x0B'
  | '\\' => some '\\'
  | '"' => some '"'
  | '\'' => some '\''
  | '\x60' => some '\x60'
  | _ => none

/-- The number of hexadecimal digits after a letter. -/
def codeLength? : Char → Option Nat
  | 'x' => some 2
  | 'u' => some 4
  | 'U' => some 8
  | _ => none

/-- The one character that the text of a terminal denotes. -/
def denoted? : List Char → Option Char
  | [] => none
  | [c] => if c = '\\' then none else some c
  | slash :: letter :: rest =>
    if slash ≠ '\\' then
      none
    else
      match escaped? letter, codeLength? letter with
      | some c, _ => if rest.isEmpty then some c else none
      | none, some length =>
        if rest.length ≠ length then none else (hexNumber? rest).bind scalar?
      | none, none => none

def boundError (bound : Symbol) : String :=
  s!"{bound.position.render}: range bound `{bound.text}` is not a single character"

/-- What is wrong with a terminal or a range. -/
def tokenError? : Form → Option String
  | .token symbol =>
    if symbol.text.isEmpty then some s!"{symbol.position.render}: empty token" else none
  | .range first last =>
    match denoted? first.text.toList, denoted? last.text.toList with
    | none, _ => some (boundError first)
    | some _, none => some (boundError last)
    | some low, some high =>
      if high < low then
        some s!"{first.position.render}: empty range `{first.text}` … `{last.text}`"
      else
        none
  | _ => none

def emptyWarning? (production : Production) : Option String :=
  if production.body.isNone then
    some s!"{production.position.render}: production `{production.name}` is empty"
  else
    none

/-- What a check finds in a grammar with the given start symbols. -/
def run (grammar : Grammar) (start : List String) : Check → Findings
  | duplicates => { errors := duplicateErrors [] grammar.productions }
  | .start => { errors := start.filterMap (startError? grammar) }
  | references =>
    { errors := grammar.productions.flatMap fun production =>
        production.references.filterMap (referenceError? grammar production) }
  | reachability => { warnings := (unreached grammar.productions start).map unreachedWarning }
  | lexical =>
    { errors := grammar.productions.flatMap fun production =>
        production.references.filterMap (lexicalError? production) }
  | tokens =>
    { errors := grammar.productions.flatMap fun production =>
        production.leaves.filterMap tokenError? }
  | empty => { warnings := grammar.productions.filterMap emptyWarning? }

end Check

namespace Grammar

/-- The findings of all checks. -/
def verify (grammar : Grammar) (start : List String) : Findings :=
  Check.all.foldl (fun findings check => findings ++ check.run grammar start) {}

end Grammar
end MailRules.Ebnf

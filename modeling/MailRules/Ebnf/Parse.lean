import MailRules.Ebnf.Grammar
import MailRules.Parse.Basic

/-!
# Reading a grammar

Grammars are written with the tokens of the rule language. Alternatives are separated
by bars and have at least one term each; a lone alternative and a lone term stand for
themselves. The parsers are bounded by the tokens that are left, two for each.
-/

namespace MailRules

namespace Ebnf

open Parse (accept current? expectOther failExpected isAtEnd nextIdent nextString remaining)

def Symbol.ofToken (token : Token) : Symbol := ⟨token.text, token.position⟩

namespace Form

def ofTerms : List Form → Form
  | [term] => term
  | terms => .sequence terms

def ofBranches : List Form → Form
  | [branch] => branch
  | branches => .alternative branches

/-- The closing bracket and the meaning of an opening bracket. -/
def bracket? : String → Option (String × (Form → Form))
  | "(" => some (")", .group)
  | "[" => some ("]", .option)
  | "\x7b" => some ("\x7d", .repetition)
  | _ => none

/-- A terminal, or the range that it begins. -/
def parseTerminal : Parse Form := do
  let first := Symbol.ofToken (← nextString)
  if ← accept "…" then
    return .range first (.ofToken (← nextString))
  else
    return .token first

mutual

/-- The terms from the cursor on, as many as there are. -/
def parseTerms : Nat → Parse (List Form)
  | 0 => return []
  | bound + 1 => do
    let some next ← current? | return []
    match next.kind with
    | .ident =>
      let name := Symbol.ofToken (← nextIdent)
      return .name name :: (← parseTerms bound)
    | .string =>
      let term ← parseTerminal
      return term :: (← parseTerms bound)
    | .other =>
      match bracket? next.text with
      | none => return []
      | some (closing, wrap) =>
        expectOther next.text
        let inner ← parseBranches bound
        expectOther closing
        return wrap (.ofBranches inner) :: (← parseTerms bound)

/-- The alternatives from the cursor on. -/
def parseBranches : Nat → Parse (List Form)
  | 0 => failExpected "term"
  | bound + 1 => do
    let items ← parseTerms bound
    if items.isEmpty then
      failExpected "term"
    if ← accept "|" then
      return .ofTerms items :: (← parseBranches bound)
    else
      return [.ofTerms items]

end

/-- `Expression = Alternative { "|" Alternative }` -/
def parse : Parse Form := do
  let bound := 2 * (← remaining) + 2
  return .ofBranches (← parseBranches bound)

end Form

namespace Production

/-- `Production = name "=" [ Expression ] "."` -/
def parse : Parse Production := do
  let name ← nextIdent
  expectOther "="
  if ← accept "." then
    return ⟨name.text, name.position, none⟩
  let body ← Form.parse
  expectOther "."
  return ⟨name.text, name.position, some body⟩

/-- All productions up to the end, at most `bound`. -/
def parseAll : Nat → Parse (List Production)
  | 0 => return []
  | bound + 1 => do
    if ← isAtEnd then
      return []
    else
      let first ← parse
      return first :: (← parseAll bound)

end Production

/-- `Grammar = { Production }` -/
def Grammar.parse : Parse Grammar := do return ⟨← Production.parseAll (← remaining)⟩

end Ebnf

namespace Source

/-- Reads a source as a grammar. -/
def parseGrammar (source : Source) : Except Failure Ebnf.Grammar := do
  Ebnf.Grammar.parse.run (← Document.ofSource source)

end Source
end MailRules

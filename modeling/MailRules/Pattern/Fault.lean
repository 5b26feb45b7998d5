import MailRules.Pattern.Tree

/-!
# Faults in patterns

A pattern is refused with a cause and the extent of text to blame. Two causes point
back to an earlier piece of text as well.

The report shows the pattern with carets under the blamed characters. A pattern of
several lines is shown between rulers with its lines numbered, and an extent that
runs over a line end is described by its line and column numbers instead.
-/

namespace MailRules.Pattern

inductive Fault.Kind where
  | classEscapeInvalid
  | classRangeInvalid
  | classRangeLiteral
  | classUnclosed
  | decimalInvalid
  | hexEmpty
  | hexInvalid
  | hexInvalidDigit
  | escapeUnexpectedEnd
  | escapeUnrecognized
  | flagDanglingNegation
  | flagDuplicate
  | flagRepeatedNegation
  | flagUnexpectedEnd
  | flagUnrecognized
  | groupNameDuplicate
  | groupNameEmpty
  | groupNameInvalid
  | groupNameUnexpectedEnd
  | groupUnclosed
  | groupUnopened
  | nestingTooDeep
  | countInvalid
  | countEmpty
  | countUnclosed
  | repetitionMissing
  | boundaryUnclosed
  | boundaryUnrecognized
  | boundaryOrCountUnexpectedEnd
  | propertyInvalid
  | backreference
  | lookAround
  | unicodeNotAllowed
  | invalidUtf8
  | propertyUnknown
  | propertyValueUnknown
  deriving DecidableEq, Repr

/-- How deeply groups, repetitions and brackets may be nested. -/
def nestingLimit : Nat := 250

namespace Fault.Kind

def message : Fault.Kind → String
  | classEscapeInvalid => "invalid escape sequence found in character class"
  | classRangeInvalid => "invalid character class range, the start must be <= the end"
  | classRangeLiteral => "invalid range boundary, must be a literal"
  | classUnclosed => "unclosed character class"
  | decimalInvalid => "decimal literal invalid"
  | hexEmpty => "hexadecimal literal empty"
  | hexInvalid => "hexadecimal literal is not a Unicode scalar value"
  | hexInvalidDigit => "invalid hexadecimal digit"
  | escapeUnexpectedEnd => "incomplete escape sequence, reached end of pattern prematurely"
  | escapeUnrecognized => "unrecognized escape sequence"
  | flagDanglingNegation => "dangling flag negation operator"
  | flagDuplicate => "duplicate flag"
  | flagRepeatedNegation => "flag negation operator repeated"
  | flagUnexpectedEnd => "expected flag but got end of regex"
  | flagUnrecognized => "unrecognized flag"
  | groupNameDuplicate => "duplicate capture group name"
  | groupNameEmpty => "empty capture group name"
  | groupNameInvalid => "invalid capture group character"
  | groupNameUnexpectedEnd => "unclosed capture group name"
  | groupUnclosed => "unclosed group"
  | groupUnopened => "unopened group"
  | nestingTooDeep =>
    s!"exceed the maximum number of nested parentheses/brackets ({nestingLimit})"
  | countInvalid => "invalid repetition count range, the start must be <= the end"
  | countEmpty => "repetition quantifier expects a valid decimal"
  | countUnclosed => "unclosed counted repetition"
  | repetitionMissing => "repetition operator missing expression"
  | boundaryUnclosed =>
    "special word boundary assertion is either unclosed or contains an invalid character"
  | boundaryUnrecognized =>
    "unrecognized special word boundary assertion, valid choices are: " ++
      "start, end, start-half or end-half"
  | boundaryOrCountUnexpectedEnd =>
    "found either the beginning of a special word boundary or a bounded repetition on a \\b " ++
      "with an opening brace, but no closing brace"
  | propertyInvalid => "invalid Unicode character class"
  | backreference => "backreferences are not supported"
  | lookAround => "look-around, including look-ahead and look-behind, is not supported"
  | unicodeNotAllowed => "Unicode not allowed here"
  | invalidUtf8 => "pattern can match invalid UTF-8"
  | propertyUnknown => "Unicode property not found"
  | propertyValueUnknown => "Unicode property value not found"

end Fault.Kind

structure Fault where
  kind : Fault.Kind
  extent : Extent
  /-- The earlier flag, negation or name that this one repeats. -/
  earlier : Option Extent := none
  deriving DecidableEq, Repr

namespace Fault

def extents (fault : Fault) : List Extent :=
  (fault.extent :: fault.earlier.toList).mergeSort Extent.before

/-- The lines of a text without their ends; nothing after the last line end is no
line. -/
def lines (text : List Char) : List (List Char) :=
  let add (c : Char) (rows : List (List Char)) :=
    if c = '\n' then [] :: rows else (c :: rows.headD []) :: rows.tail
  let rows := text.foldr add [[]]
  let trim (row : List Char) := if row.getLast? = some '\r' then row.dropLast else row
  let unfinished := rows.getLast?.filter (· ≠ [])
  rows.dropLast.map trim ++ unfinished.toList

/-- Carets under the extents that lie within line `number`. -/
def carets (extents : List Extent) (number : Nat) : Option (List Char) :=
  let here := extents.filter fun e => e.isOneLine && e.first.line == number
  let mark (line : List Char) (e : Extent) : List Char :=
    line ++ List.replicate (e.first.column - 1 - line.length) ' ' ++
      List.replicate (max 1 (e.last.column - e.first.column)) '^'
  if here.isEmpty then none else some (here.foldl mark [])

/-- A line of the pattern under its margin, and below it the carets. -/
def annotate (extents : List Extent) (margin : String) (blank : Nat) (number : Nat)
    (line : List Char) : String :=
  let note := match carets extents number with
    | none => ""
    | some marks => String.ofList (List.replicate blank ' ' ++ marks) ++ "\n"
  margin ++ String.ofList line ++ "\n" ++ note

def ruler : String := String.ofList (List.replicate 79 '~') ++ "\n"

def spread (e : Extent) : String :=
  s!"on line {e.first.line} (column {e.first.column}) " ++
    s!"through line {e.last.line} (column {e.last.column - 1})\n"

/-- The report on a fault in `pattern`. -/
def report (fault : Fault) (pattern : String) : String :=
  let text := pattern.toList
  let body :=
    if text.contains '\n' then
      let rows := lines text
      let count := rows.length + if text.getLast? = some '\n' then 1 else 0
      let width := (toString count).length
      let margin (number : Nat) : String :=
        let digits := toString number
        String.ofList (List.replicate (width - digits.length) ' ') ++ digits ++ ": "
      let shown := rows.zipIdx 1 |>.map fun (row, number) =>
        annotate fault.extents (margin number) (width + 2) number row
      ruler ++ String.join shown ++ ruler ++
        String.join ((fault.extents.filter (!·.isOneLine)).map spread)
    else
      annotate fault.extents "    " 4 1 text
  "regex parse error:\n" ++ body ++ "error: " ++ fault.kind.message

end Fault
end MailRules.Pattern

import MailRules.Hexadecimal
import MailRules.Pattern.Reader

/-!
# Escape sequences

A backslash introduces a character by its code, a shorthand or a property for a set
of characters, an assertion, or a character that would otherwise mean something.
Letters and digits without a meaning after a backslash are kept free for later ones,
and so are all characters beyond ASCII.
-/

namespace MailRules.Pattern

/-- What one character of a pattern, or one escape sequence, can stand for. -/
inductive Primitive where
  | literal (literal : Literal)
  | dot (extent : Extent)
  | assertion (extent : Extent) (kind : Assertion)
  | chars (cls : Class)

namespace Primitive

def extent : Primitive → Extent
  | literal l => l.extent
  | dot extent | assertion extent _ => extent
  | chars cls => cls.extent

def toNode : Primitive → Node
  | literal l => .literal l
  | dot extent => .dot extent
  | assertion extent kind => .assertion extent kind
  | chars cls => .chars cls

end Primitive

namespace Reader

def isHexDigit (c : Char) : Bool := (hexValue? c).isSome

/-- Exactly `count` hexadecimal digits. The reader is left after the last of them and
the blanks that follow. -/
def hexDigits : Nat → Reader (List Char)
  | 0 => return []
  | count + 1 => do
    match ← peek? with
    | none => fail .escapeUnexpectedEnd (← next)
    | some c =>
      if !isHexDigit c then
        fail .hexInvalidDigit (← next)
      let _ ← advance
      return c :: (← hexDigits count)

/-- A character by its code: `count` digits, or any number of them in braces. -/
def hexadecimal (backslash : Location) (count : Nat) : Reader Literal := do
  let brace ← here
  match ← peek? with
  | none => fail .escapeUnexpectedEnd (.single brace)
  | some '{' =>
    let inside := (← next).last
    let _ ← advance
    let digits ← takeWhile isHexDigit (← remaining)
    match ← peek? with
    | none => fail .escapeUnexpectedEnd (← since brace)
    | some '}' => pure ()
    | some _ => fail .hexInvalidDigit (← next)
    let stop ← here
    let _ ← advance
    if digits.isEmpty then
      fail .hexEmpty (← since brace)
    match (hexNumber? digits).bind scalar? with
    | none => fail .hexInvalid ⟨inside, stop⟩
    | some char => return { extent := ← since backslash, char }
  | some _ =>
    let digits ← hexDigits count
    match (hexNumber? digits).bind scalar? with
    | none => fail .hexInvalid (← since brace)
    | some char => return { extent := ← since backslash, char, isByte := count = 2 }

/-- The text before and after the first occurrence of `sign`. -/
def splitAt? (sign : List Char) : List Char → Option (List Char × List Char)
  | [] => none
  | c :: rest =>
    if sign.isPrefixOf (c :: rest) then
      some ([], (c :: rest).drop sign.length)
    else
      (splitAt? sign rest).map fun (before, after) => (c :: before, after)

/-- What the text in the braces of a property asks for, and whether it asks for the
characters without it, as the sign `!=` between a property and its value does. -/
def propertyQuery (text : List Char) : PropertyQuery × Bool :=
  let valued (parts : List Char × List Char) : PropertyQuery :=
    .valued (String.ofList parts.1) (String.ofList parts.2)
  match splitAt? ['!', '='] text with
  | some parts => (valued parts, true)
  | none =>
    match splitAt? [':'] text <|> splitAt? ['='] text with
    | some parts => (valued parts, false)
    | none => (.named (String.ofList text), false)

/-- A property after its `p` or `P`: one letter, or a name in braces. -/
def property (backslash : Location) (negated : Bool) : Reader Class := do
  match ← advance with
  | none => fail .escapeUnexpectedEnd (← next)
  | some '{' =>
    let _ ← advance
    let name ← takeWhile (· ≠ '}') (← remaining)
    if (← peek?).isNone then
      fail .escapeUnexpectedEnd (← next)
    bump
    let (query, excluded) := propertyQuery name
    return .property (← since backslash) query (negated ^^ excluded)
  | some '\\' => fail .propertyInvalid (← next)
  | some c =>
    let _ ← advance
    return .property (← since backslash) (.named (String.singleton c)) negated

def isBoundaryLetter (c : Char) : Bool :=
  ('A' ≤ c && c ≤ 'Z') || ('a' ≤ c && c ≤ 'z') || c = '-'

def boundary? : List Char → Option Assertion
  | ['s', 't', 'a', 'r', 't'] => some .wordStart
  | ['e', 'n', 'd'] => some .wordEnd
  | ['s', 't', 'a', 'r', 't', '-', 'h', 'a', 'l', 'f'] => some .wordStartHalf
  | ['e', 'n', 'd', '-', 'h', 'a', 'l', 'f'] => some .wordEndHalf
  | _ => none

/-- The name in braces after a word boundary. Braces that do not begin with a letter
are left for a repetition count. -/
def namedBoundary? (backslash : Location) : Reader (Option Assertion) := do
  let before ← get
  let brace := before.here
  match ← advance with
  | none => fail .boundaryOrCountUnexpectedEnd (← since backslash)
  | some c =>
    if !isBoundaryLetter c then
      set before
      return none
    let first ← here
    let name ← takeWhile isBoundaryLetter (← remaining)
    if (← peek?) != some '}' then
      fail .boundaryUnclosed (← since brace)
    let stop ← here
    bump
    match boundary? name with
    | none => fail .boundaryUnrecognized ⟨first, stop⟩
    | some kind => return some kind

/-- Characters that a backslash turns into themselves. -/
def isEscapable (c : Char) : Bool := c.toNat < 128 && !c.isAlphanum && c ≠ '<' && c ≠ '>'

/-- The control character that a letter after a backslash denotes. -/
def control? : Char → Option Char
  | 'a' => some '\x07'
  | 'f' => some '\x0C'
  | 't' => some '\t'
  | 'n' => some '\n'
  | 'r' => some '\r'
  | 'v' => some '\x0B'
  | _ => none

def assertion? : Char → Option Assertion
  | 'A' => some .textStart
  | 'z' => some .textEnd
  | 'b' => some .wordBoundary
  | 'B' => some .notWordBoundary
  | '<' => some .wordStart
  | '>' => some .wordEnd
  | _ => none

def shorthand? (c : Char) : Option Shorthand :=
  match c.toLower with
  | 'd' => some .digit
  | 's' => some .space
  | 'w' => some .word
  | _ => none

/-- The number of digits of a character code after the given letter. -/
def hexLength? : Char → Option Nat
  | 'x' => some 2
  | 'u' => some 4
  | 'U' => some 8
  | _ => none

/-- An escape sequence, from its backslash on. -/
def escape : Reader Primitive := do
  let backslash ← here
  bump
  let some c ← peek? | fail .escapeUnexpectedEnd (← since backslash)
  if c.isDigit then
    fail .backreference ⟨backslash, (← next).last⟩
  if let some count := hexLength? c then
    let _ ← advance
    return .literal (← hexadecimal backslash count)
  if c = 'p' ∨ c = 'P' then
    return .chars (← property backslash (c = 'P'))
  bump
  let extent ← since backslash
  if let some kind := shorthand? c then
    return .chars (.shorthand extent kind c.isUpper)
  if isEscapable c then
    return .literal { extent, char := c }
  if let some char := control? c then
    return .literal { extent, char }
  let some kind := assertion? c | fail .escapeUnrecognized extent
  if kind = .wordBoundary ∧ (← peek?) = some '{' then
    if let some special ← namedBoundary? backslash then
      return .assertion (← since backslash) special
  return .assertion extent kind

/-- One character outside brackets, or an escape sequence. -/
def primitive : Reader Primitive := do
  let extent ← next
  match ← peek? with
  | some '\\' => escape
  | some c =>
    bump
    match c with
    | '.' => return .dot extent
    | '^' => return .assertion extent .lineStart
    | '$' => return .assertion extent .lineEnd
    | char => return .literal { extent, char }
  | none => fail .escapeUnexpectedEnd extent

/-- One character inside brackets, or an escape sequence. -/
def member : Reader Primitive := do
  let extent ← next
  match ← peek? with
  | some '\\' => escape
  | some char =>
    bump
    return .literal { extent, char }
  | none => fail .classUnclosed extent

end Reader
end MailRules.Pattern

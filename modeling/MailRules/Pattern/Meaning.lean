import MailRules.Pattern.Nesting
import MailRules.Pattern.Regex
import MailRules.Unicode.CaseFold
import MailRules.Unicode.Query

/-!
# What a pattern means

The flags in force at a node decide what it matches. Where case is ignored every set
is closed under case variants as soon as it is named, which the set operators then
preserve. Where Unicode is switched off only ASCII characters can be named, since a
set with other bytes in it could match half of a character.
-/

namespace MailRules.Pattern

open Unicode (CharSet)

structure Flags where
  ignoreCase : Bool := false
  multiLine : Bool := false
  dotMatchesNewline : Bool := false
  unicode : Bool := true
  crlf : Bool := false

namespace Flags

def set (flags : Flags) : Flag × Bool → Flags
  | (.ignoreCase, value) => { flags with ignoreCase := value }
  | (.multiLine, value) => { flags with multiLine := value }
  | (.dotMatchesNewline, value) => { flags with dotMatchesNewline := value }
  | (.unicode, value) => { flags with unicode := value }
  | (.crlf, value) => { flags with crlf := value }
  | (.swapGreed, _) | (.ignoreWhitespace, _) => flags

def apply (flags : Flags) (changes : FlagChanges) : Flags := changes.foldl set flags

/-- The variants of an ASCII letter among the ASCII characters. -/
def foldAscii (set : CharSet) : CharSet := fun c => set c || set c.toLower || set c.toUpper

/-- The set as it counts under the flags. -/
def foldCase (flags : Flags) (set : CharSet) : CharSet :=
  if flags.ignoreCase then
    if flags.unicode then set.foldCase else foldAscii set
  else
    set

/-- The complement of a set, where it can be formed. -/
def complement (flags : Flags) (extent : Extent) (set : CharSet) : Except Fault CharSet :=
  if flags.unicode then
    .ok fun c => !set c
  else
    .error { kind := .invalidUtf8, extent }

def complementIf (flags : Flags) (extent : Extent) (negated : Bool) (set : CharSet) :
    Except Fault CharSet :=
  if negated then flags.complement extent set else .ok set

/-- The character of a literal, unless it is a byte that is no character. -/
def literalChar (flags : Flags) (literal : Literal) : Except Fault Char :=
  if !flags.unicode ∧ literal.isByte ∧ 128 ≤ literal.char.toNat then
    .error { kind := .invalidUtf8, extent := literal.extent }
  else
    .ok literal.char

/-- The character of a literal inside brackets. -/
def memberChar (flags : Flags) (literal : Literal) : Except Fault Char := do
  let char ← flags.literalChar literal
  if !flags.unicode ∧ 128 ≤ char.toNat then
    .error { kind := .unicodeNotAllowed, extent := literal.extent }
  else
    .ok char

end Flags

/-- Letters, marks, decimal digits, connecting punctuation and joiners. -/
def wordChars : CharSet := fun c =>
  Unicode.alphabetic.contains c || Unicode.Property.mark c ||
    Unicode.Category.decimalNumber.contains c ||
    Unicode.Category.connectorPunctuation.contains c || Unicode.Property.joinControl.contains c

def asciiWordChars : CharSet := fun c => c.isAlphanum || c = '_'

namespace Shorthand

def set (unicode : Bool) : Shorthand → CharSet
  | .digit => if unicode then Unicode.Category.decimalNumber.contains else Char.isDigit
  | .space =>
    if unicode then Unicode.isWhiteSpace else fun c => c = ' ' || ('\t' ≤ c && c ≤ '\r')
  | .word => if unicode then wordChars else asciiWordChars

end Shorthand

namespace NamedClass

def set : NamedClass → CharSet
  | .alnum => Char.isAlphanum
  | .alpha => Char.isAlpha
  | .ascii => fun c => c.toNat < 128
  | .blank => fun c => c = ' ' || c = '\t'
  | .cntrl => fun c => c.toNat < 32 || c.toNat = 127
  | .digit => Char.isDigit
  | .graph => fun c => '!' ≤ c && c ≤ '~'
  | .lower => Char.isLower
  | .print => fun c => ' ' ≤ c && c ≤ '~'
  | .punct => fun c => '!' ≤ c && c ≤ '~' && !c.isAlphanum
  | .space => fun c => c = ' ' || ('\t' ≤ c && c ≤ '\r')
  | .upper => Char.isUpper
  | .word => asciiWordChars
  | .xdigit => Reader.isHexDigit

end NamedClass

namespace PropertyQuery

def set : PropertyQuery → Except Unicode.Query.Failure CharSet
  | .named name => Unicode.Query.named name
  | .valued property value => Unicode.Query.valueOf property value

end PropertyQuery

namespace SetOperator

def apply (left right : CharSet) : SetOperator → CharSet
  | .intersection => fun c => left c && right c
  | .difference => fun c => left c && !right c
  | .symmetricDifference => fun c => left c != right c

end SetOperator

namespace Class

mutual

/-- The characters that a class stands for. -/
def set (flags : Flags) : Class → Except Fault CharSet
  | .literal lit => do
    let char ← flags.memberChar lit
    return flags.foldCase (· = char)
  | .range _ first last => do
    let first ← flags.memberChar first
    let last ← flags.memberChar last
    return flags.foldCase fun c => first ≤ c && c ≤ last
  | .named extent kind negated => flags.complementIf extent negated (flags.foldCase kind.set)
  | .shorthand extent kind negated => flags.complementIf extent negated (kind.set flags.unicode)
  | .property extent query negated =>
    if flags.unicode then
      match query.set with
      | .ok set => flags.complementIf extent negated (flags.foldCase set)
      | .error .unknownProperty => .error { kind := .propertyUnknown, extent }
      | .error .unknownValue => .error { kind := .propertyValueUnknown, extent }
    else
      .error { kind := .unicodeNotAllowed, extent }
  | .bracket extent negated body => do
    flags.complementIf extent negated (← body.set flags)
  | .union _ members => unionSet flags members
  | .combine _ operator left right => do
    let left ← left.set flags
    let right ← right.set flags
    return operator.apply left right

def unionSet (flags : Flags) : List Class → Except Fault CharSet
  | [] => .ok fun _ => false
  | member :: rest => do
    let first ← member.set flags
    let others ← unionSet flags rest
    return fun c => first c || others c

end

end Class

namespace Assertion

def wordAt (word : CharSet) (char : Option Char) : Bool := char.any word

/-- Whether the assertion holds at a gap. -/
def holds (flags : Flags) (kind : Assertion) (gap : Gap) : Bool :=
  let word := Shorthand.word.set flags.unicode
  let before := wordAt word gap.before
  let after := wordAt word gap.after
  match kind with
  | .textStart => gap.before.isNone
  | .textEnd => gap.after.isNone
  | .lineStart =>
    gap.before.isNone ||
      (flags.multiLine && (gap.before == some '\n' ||
        (flags.crlf && gap.before == some '\r' && gap.after != some '\n')))
  | .lineEnd =>
    gap.after.isNone ||
      (flags.multiLine &&
        if flags.crlf then
          gap.after == some '\r' || (gap.after == some '\n' && gap.before != some '\r')
        else
          gap.after == some '\n')
  | .wordBoundary => before != after
  | .notWordBoundary => before == after
  | .wordStart => !before && after
  | .wordEnd => before && !after
  | .wordStartHalf => !before
  | .wordEndHalf => !after

end Assertion

namespace Node

/-- What a dot matches. -/
def dotSet (flags : Flags) : CharSet := fun c =>
  flags.dotMatchesNewline || (c != '\n' && !(flags.crlf && c == '\r'))

mutual

/-- The expression that a node stands for, and the flags in force after it. -/
def meaning (flags : Flags) : Node → Except Fault (Regex × Flags)
  | .empty _ => .ok (.empty, flags)
  | .flags _ changes => .ok (.empty, flags.apply changes)
  | .literal lit => do
    let char ← flags.literalChar lit
    return (.ofSet (flags.foldCase (· = char)), flags)
  | .dot extent =>
    if flags.unicode then
      .ok (.ofSet (dotSet flags), flags)
    else
      .error { kind := .invalidUtf8, extent }
  | .assertion _ kind => .ok (.assertion (kind.holds flags), flags)
  | .chars cls => do return (.ofSet (← cls.set flags), flags)
  | .repetition _ least most body => do
    let (regex, after) ← body.meaning flags
    return (regex.repeated least most, after)
  | .group _ changes body => do
    let (regex, _) ← body.meaning (flags.apply changes)
    return (regex, flags)
  | .sequence _ items => sequenceMeaning flags items
  | .alternation _ branches => alternationMeaning flags branches

def sequenceMeaning (flags : Flags) : List Node → Except Fault (Regex × Flags)
  | [] => .ok (.empty, flags)
  | item :: rest => do
    let (first, flags) ← item.meaning flags
    let (others, flags) ← sequenceMeaning flags rest
    return (.seq first others, flags)

def alternationMeaning (flags : Flags) : List Node → Except Fault (Regex × Flags)
  | [] => .ok (.ofSet fun _ => false, flags)
  | branch :: rest => do
    let (first, flags) ← branch.meaning flags
    let (others, flags) ← alternationMeaning flags rest
    return (.alt first others, flags)

end

end Node
end MailRules.Pattern

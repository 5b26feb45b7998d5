import MailRules.Failure
import MailRules.Token
import MailRules.Unicode.Letter

/-!
# Cutting a source into pieces

A source is a sequence of pieces: layout, lexemes, and pieces that have no place in a
rule. The kind and the length of a piece depend on the text from its first character
on and on nothing before it. Every piece has at least one character, so cutting ends,
and the pieces are the whole text.
-/

namespace MailRules

open Unicode (isAlphabetic isAlphanumeric)

inductive PieceKind where
  | layout
  | lexeme (kind : TokenKind)
  /-- A numeral or a character literal. -/
  | unsupported
  | unclosed (what : Enclosure)
  deriving DecidableEq, Repr

namespace PieceKind

def isBlank (c : Char) : Bool := c = ' ' || c = '\t' || c = '\n' || c = '\r'

def isIdentStart (c : Char) : Bool := isAlphabetic c || c = '_'

def isIdentChar (c : Char) : Bool := isAlphanumeric c || c = '_'

def isNumeralChar (c : Char) : Bool := isAlphanumeric c || c = '_' || c = '.'

/-- A numeral starts with a digit, or with a dot before a digit. -/
def startsNumeral (c : Char) (rest : List Char) : Bool :=
  c.isDigit || (c = '.' && rest.head?.any Char.isDigit)

/-- The number of characters up to a newline. -/
def lineLength (text : List Char) : Nat := (text.takeWhile (· ≠ '\n')).length

/-- The number of characters through the end of a block comment. -/
def commentLength? : List Char → Option Nat
  | [] => none
  | '*' :: '/' :: _ => some 2
  | _ :: rest => (commentLength? rest).map (· + 1)

/-- The number of characters through the closing quote on the same line. A backslash
keeps the character after it from closing the string. -/
def quotedLength? : List Char → Option Nat
  | [] => none
  | '"' :: _ => some 1
  | '\n' :: _ => none
  | '\\' :: '\n' :: _ => none
  | '\\' :: _ :: rest => (quotedLength? rest).map (· + 2)
  | _ :: rest => (quotedLength? rest).map (· + 1)

/-- The number of characters through the closing backtick. -/
def rawLength? (text : List Char) : Option Nat :=
  (text.findIdx? (· = '\x60')).map (· + 1)

/-- The number of characters of a character literal after its opening quote. It ends
with a closing quote or before a newline; a backslash takes the character after it
along, whatever it is. -/
def charLength : List Char → Nat
  | [] => 0
  | '\n' :: _ => 0
  | '\'' :: _ => 1
  | '\\' :: _ :: rest => charLength rest + 2
  | _ :: rest => charLength rest + 1

/-- The kind of the piece that begins with `c` before `rest`, and how many characters
of `rest` belong to it. -/
def cut (c : Char) (rest : List Char) : PieceKind × Nat :=
  if isBlank c then
    (.layout, 0)
  else if c = '/' ∧ rest.head? = some '/' then
    (.layout, lineLength rest)
  else if c = '/' ∧ rest.head? = some '*' then
    match commentLength? rest.tail with
    | some length => (.layout, length + 1)
    | none => (.unclosed .comment, rest.length)
  else if c = '"' then
    match quotedLength? rest with
    | some length => (.lexeme .string, length)
    | none => (.unclosed .string, lineLength rest)
  else if c = '\x60' then
    match rawLength? rest with
    | some length => (.lexeme .string, length)
    | none => (.unclosed .rawString, rest.length)
  else if c = '\'' then
    (.unsupported, charLength rest)
  else if startsNumeral c rest then
    (.unsupported, (rest.takeWhile isNumeralChar).length)
  else if isIdentStart c then
    (.lexeme .ident, (rest.takeWhile isIdentChar).length)
  else
    (.lexeme .other, 0)

end PieceKind

structure Piece where
  kind : PieceKind
  text : List Char
  deriving DecidableEq, Repr

namespace Piece

/-- The pieces of a text. -/
def ofText : List Char → List Piece
  | [] => []
  | c :: rest =>
    let (kind, length) := PieceKind.cut c rest
    ⟨kind, c :: rest.take length⟩ :: ofText (rest.drop length)
termination_by text => text.length
decreasing_by exact Nat.lt_succ_of_le (List.drop_sublist ..).length_le

@[simp] theorem ofText_nil : ofText [] = [] := by simp [ofText]

theorem ofText_cons (c : Char) (rest : List Char) :
    ofText (c :: rest) =
      ⟨(PieceKind.cut c rest).1, c :: rest.take (PieceKind.cut c rest).2⟩ ::
        ofText (rest.drop (PieceKind.cut c rest).2) := by
  rw [ofText]

/-- Cutting loses nothing. -/
theorem flatMap_text_ofText (text : List Char) : (ofText text).flatMap Piece.text = text := by
  fun_induction ofText text with
  | case1 => rfl
  | case2 c rest kind length h ih => simp [ih]

end Piece
end MailRules

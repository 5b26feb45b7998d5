import MailRules.Token.Piece

/-!
# Lexing

The pieces of a source are placed one after the other; the lexemes among them become
tokens. The first piece that has no place in a rule is a failure, and then there are
no tokens at all.
-/

namespace MailRules

namespace Piece

/-- The text of a token does not include the quotes of a string. -/
def tokenText (kind : TokenKind) (text : List Char) : String :=
  String.ofList (if kind = .string then text.tail.dropLast else text)

end Piece

namespace Token

/-- The tokens of pieces that begin at `place`. -/
def ofPieces (source : Source) (place : Location) : List Piece → Except Failure (List Token)
  | [] => .ok []
  | piece :: rest => do
    let stop := place.after piece.text
    let position := source.position place
    let span : Span := ⟨place.offset, stop.offset⟩
    match piece.kind with
    | .layout => ofPieces source stop rest
    | .lexeme kind =>
      let tokens ← ofPieces source stop rest
      return { kind, position, span, text := Piece.tokenText kind piece.text } :: tokens
    | .unsupported =>
      throw (.of source (.unexpectedToken (String.ofList piece.text)) position span)
    | .unclosed what => throw (.of source (.unterminated what) position span)

end Token

namespace Source

/-- All tokens of a source. -/
def lex (source : Source) : Except Failure (List Token) :=
  Token.ofPieces source .start (Piece.ofText source.text.toList)

end Source
end MailRules

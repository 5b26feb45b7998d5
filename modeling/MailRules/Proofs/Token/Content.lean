import MailRules.Proofs.Token.Segmentation

/-!
# What tokens say

A token is a kind and a text at a place. Where it stands is for messages only: what is read
from tokens depends on their contents, the kinds and the texts.

The contents of the tokens of a source are those of its lexemes, so layout has no part in
them.
-/

namespace MailRules

/-- A token without its place. -/
structure Content where
  kind : TokenKind
  text : String
  deriving DecidableEq, Repr

namespace Token

def content (token : Token) : Content := ⟨token.kind, token.text⟩

theorem content_eq_iff {first second : Token} :
    first.content = second.content ↔ first.kind = second.kind ∧ first.text = second.text := by
  simp [content]

/-- What a token is shown as in messages does not say where it stands. -/
theorem render_eq_of_content_eq {first second : Token} (h : first.content = second.content) :
    first.render = second.render := by
  obtain ⟨hkind, htext⟩ := content_eq_iff.mp h
  rw [render, render, hkind, htext]

end Token

namespace Segment

def content (segment : Segment) : Content := ⟨segment.kind, String.ofList segment.text⟩

/-- The contents of the tokens of segments do not depend on what stands before them. -/
theorem map_content_tokens (source : Source) (before : List Char) (segments : List Segment) :
    (tokens source before segments).map Token.content = segments.map content := by
  induction segments generalizing before with
  | nil => rfl
  | cons segment segments ih =>
      rw [tokens, List.map_cons, List.map_cons, ih]
      rfl

end Segment
end MailRules

import Mathlib.Data.List.Forall2
import MailRules.Proofs.Token.Content

/-!
# The same lexemes with other layout

What follows a lexeme decides whether it is one, but only by its first character: a word must
not go on, a dot must not become a numeral and a slash no comment. A blank character does
none of this, so a lexeme is a lexeme before any layout that begins with one, and at the end
of the text.

Closed layout is layout whatever stands behind it. Each line comment in it has its newline.
Only at the end of a text can a line comment do without. Lexemes with such layout between
them are a segmented text again, and the contents of its tokens are the same.
-/

namespace MailRules

/-- The characters of layout outside comments. -/
def Blank (c : Char) : Prop := c = ' ' ∨ c = '\t' ∨ c = '\n' ∨ c = '\r'

/-- Blank characters, block comments, and line comments up to and with their newlines. -/
inductive ClosedLayout : List Char → Prop where
  | nil : ClosedLayout []
  | blank {c : Char} {gap : List Char} (hc : Blank c) (h : ClosedLayout gap) :
      ClosedLayout (c :: gap)
  | line {body gap : List Char} (hbody : '\n' ∉ body) (h : ClosedLayout gap) :
      ClosedLayout ('/' :: '/' :: (body ++ '\n' :: gap))
  | block {body gap : List Char} (hbody : ¬ ['*', '/'] <:+: body ++ ['*'])
      (h : ClosedLayout gap) : ClosedLayout ('/' :: '*' :: (body ++ '*' :: '/' :: gap))

/-- Layout up to the end of a text. The end of the text can stand for the newline of the last
line comment. -/
inductive FinalLayout : List Char → Prop where
  | closed {gap : List Char} (h : ClosedLayout gap) : FinalLayout gap
  | line {gap body : List Char} (h : ClosedLayout gap) (hbody : '\n' ∉ body) :
      FinalLayout (gap ++ '/' :: '/' :: body)

/-- Layout between two lexemes. -/
structure Separator (gap : List Char) : Prop where
  closed : ClosedLayout gap
  blank : ∃ c ∈ gap.head?, Blank c

/-- Layout behind the last lexeme, if there is any. -/
def Trailer (gap : List Char) : Prop := gap = [] ∨ ((∃ c ∈ gap.head?, Blank c) ∧ FinalLayout gap)

namespace Segment

/-- The text that consists of segments and of the layout behind them. -/
def join (trailing : List Char) : List Segment → List Char
  | [] => trailing
  | segment :: rest => segment.gap ++ (segment.written ++ join trailing rest)

/-- The same lexeme, behind whatever layout. -/
structure SameLexeme (first second : Segment) : Prop where
  kind : first.kind = second.kind
  written : first.written = second.written
  text : first.text = second.text

/-- The layout of segments is free: it need not be what the segments have from any text. -/
def Spaced (trailing : List Char) : List Segment → Prop
  | [] => FinalLayout trailing
  | first :: rest =>
    ClosedLayout first.gap ∧ (∀ segment ∈ rest, Separator segment.gap) ∧ Trailer trailing

end Segment

theorem ClosedLayout.layout {gap : List Char} (h : ClosedLayout gap) (rest : List Char) :
    Layout gap rest := by
  induction h with
  | nil => exact .nil
  | @blank c gap hc _ ih => exact .cons [c] (.blank hc) ih
  | @line body gap hbody _ ih =>
      have hnewline : Layout (['\n'] ++ gap) rest := .cons ['\n'] (.blank (by simp)) ih
      exact .cons ('/' :: '/' :: body) (.line hbody (.inr rfl)) hnewline
  | @block body gap hbody _ ih =>
      have hcomment := Layout.cons ('/' :: '*' :: (body ++ ['*', '/'])) (.block hbody) ih
      simpa using hcomment

theorem Layout.append {first second rest : List Char} (h : Layout first (second ++ rest))
    (hsecond : Layout second rest) : Layout (first ++ second) rest := by
  generalize hbehind : second ++ rest = behind at h
  induction h with
  | nil => exact hsecond
  | @cons item gap _ hitem _ ih =>
      subst hbehind
      rw [List.append_assoc]
      exact .cons item (by simpa using hitem) (ih rfl)

theorem FinalLayout.layout {gap : List Char} (h : FinalLayout gap) : Layout gap [] := by
  cases h with
  | closed h => exact h.layout []
  | @line gap body h hbody =>
      have hcomment := Layout.cons ('/' :: '/' :: body) (.line hbody (.inl rfl)) .nil
      refine (h.layout _).append ?_
      simpa using hcomment

theorem Trailer.layout {gap : List Char} (h : Trailer gap) : Layout gap [] := by
  rcases h with rfl | ⟨-, h⟩
  · exact .nil
  · exact h.layout

/-- A lexeme stays one when it is followed by a blank character or by nothing instead. -/
theorem Lexeme.before_blank {kind : TokenKind} {written text rest rest' : List Char}
    (h : Lexeme kind written text rest) (hrest : ∀ c ∈ rest'.head?, Blank c) :
    Lexeme kind written text rest' := by
  cases h with
  | quoted htext => exact .quoted htext
  | raw htext => exact .raw htext
  | ident hc hbody _ =>
      refine .ident hc hbody fun x hx => ?_
      rcases hrest x hx with rfl | rfl | rfl | rfl <;> decide
  | other hblank hquote hident hdigit _ _ =>
      refine .other hblank hquote hident hdigit (fun _ x hx => ?_) fun _ => ⟨?_, ?_⟩
      · rcases hrest x hx with rfl | rfl | rfl | rfl <;> decide
      · intro hslash
        exact absurd (hrest '/' hslash) (by unfold Blank; decide)
      · intro hstar
        exact absurd (hrest '*' hstar) (by unfold Blank; decide)

namespace Segmented

open Segment (SameLexeme Spaced join)

/-- What stands behind a lexeme can be given other layout, as long as each gap begins with a
blank character. -/
theorem respace_behind {text trailing trailing' : List Char} {segments segments' : List Segment}
    (h : Segmented text segments trailing) (hsame : List.Forall₂ SameLexeme segments segments')
    (hgaps : ∀ segment ∈ segments', Separator segment.gap) (htrailing : Trailer trailing') :
    Segmented (join trailing' segments') segments' trailing' ∧
      ∀ c ∈ (join trailing' segments').head?, Blank c := by
  induction h generalizing segments' with
  | last =>
      cases hsame
      refine ⟨.last htrailing.layout, ?_⟩
      rcases htrailing with rfl | ⟨⟨c, hc, hblank⟩, -⟩
      · simp [join]
      · intro d hd
        rw [join, hc] at hd
        exact Option.some.inj hd ▸ hblank
  | next segment _ hlexeme _ ih =>
      cases hsame with
      | @cons _ segment' _ rest' hsegment hrest =>
          obtain ⟨hgap, hgaps'⟩ := List.forall_mem_cons.mp hgaps
          obtain ⟨hbehind, hblank⟩ := ih hrest hgaps'
          rw [hsegment.kind, hsegment.written, hsegment.text] at hlexeme
          refine ⟨.next segment' (hgap.closed.layout _) (hlexeme.before_blank hblank) hbehind, ?_⟩
          obtain ⟨c, hc, hc'⟩ := hgap.blank
          intro d hd
          rw [join, List.head?_append, hc] at hd
          exact Option.some.inj hd ▸ hc'

/-- The lexemes of a text with other layout are the lexemes of the text that they make. -/
theorem respace {text trailing trailing' : List Char} {segments segments' : List Segment}
    (h : Segmented text segments trailing) (hsame : List.Forall₂ SameLexeme segments segments')
    (hspaced : Spaced trailing' segments') :
    Segmented (join trailing' segments') segments' trailing' := by
  cases h with
  | last =>
      cases hsame
      exact .last hspaced.layout
  | next segment _ hlexeme h =>
      cases hsame with
      | @cons _ segment' _ rest' hsegment hrest =>
          obtain ⟨hgap, hgaps, htrailing⟩ := hspaced
          obtain ⟨hbehind, hblank⟩ := h.respace_behind hrest hgaps htrailing
          rw [hsegment.kind, hsegment.written, hsegment.text] at hlexeme
          exact .next segment' (hgap.layout _) (hlexeme.before_blank hblank) hbehind

end Segmented

theorem Segment.map_content_of_sameLexeme {segments segments' : List Segment}
    (h : List.Forall₂ SameLexeme segments segments') :
    segments'.map content = segments.map content := by
  induction h with
  | nil => rfl
  | cons hsegment _ ih =>
      rw [List.map_cons, List.map_cons, ih, content, content, hsegment.kind, hsegment.text]

end MailRules

import MailRules.Proofs.Parse.Alike
import MailRules.Proofs.Parse.Lexed
import MailRules.Proofs.Token.Respacing

/-!
# Layout does not matter

Two sources with the same lexemes and other layout between them make documents that are
alike. So what one of them is read as, the other is read as too, and if one is refused, the
other is refused for the same reason.
-/

namespace MailRules

theorem Parse.Agree.toEnd {α β : Type} {first second : Document} {R : α → β → Prop}
    {left : Parse α} {right : Parse β} (halike : Document.Alike first second)
    (h : Agree first second R left right) : Agree first second R left.toEnd right.toEnd := by
  refine h.bind fun value value' hvalue => ?_
  exact (expectEnd halike).map fun _ _ _ => hvalue

/-- Parsers that agree have the same value, or failures of the same kind. -/
theorem Parse.Agree.mapError_run {α : Type} {first second : Document} {left right : Parse α}
    (h : Agree first second (· = ·) left right) :
    (left.run first).mapError Failure.kind = (right.run second).mapError Failure.kind := by
  unfold Parse.run
  have houtcome := h 0
  revert houtcome
  generalize left first 0 = result, right second 0 = result'
  rintro (⟨rfl, stop⟩ | ⟨⟨hkind, -⟩, stop⟩)
  · rfl
  · exact congrArg Except.error hkind

namespace Segmented

variable {source again : Source} {segments segments' : List Segment}
  {trailing trailing' : List Char}

theorem ofSource_eq (h : Segmented source.text.toList segments trailing) :
    Document.ofSource source = .ok ⟨source, Segment.tokens source [] segments⟩ :=
  Document.ofSource_eq_ok_iff.mpr ⟨rfl, Token.ofPieces_segmented h source []⟩

/-- Texts with the same lexemes make documents that are alike. -/
theorem alike (h : Segmented source.text.toList segments trailing)
    (h' : Segmented again.text.toList segments' trailing')
    (hsame : List.Forall₂ Segment.SameLexeme segments segments') :
    Document.Alike ⟨again, Segment.tokens again [] segments'⟩
      ⟨source, Segment.tokens source [] segments⟩ where
  contents := by
    dsimp only
    rw [Segment.map_content_tokens, Segment.map_content_tokens,
      Segment.map_content_of_sameLexeme hsame]
  left := Document.ordered_of_ofSource h'.ofSource_eq
  right := Document.ordered_of_ofSource h.ofSource_eq

end Segmented

/-- A text with the lexemes of a source and any layout between them has tokens of the same
contents. It is read as the same expression or statement, or refused for the same reason. -/
theorem Source.lex_parse_respaced {source : Source} {tokens : List Token}
    (hlex : source.lex = .ok tokens) :
    ∃ segments trailing, Segmented source.text.toList segments trailing ∧
      ∀ (again : Source) (segments' : List Segment) (trailing' : List Char),
        List.Forall₂ Segment.SameLexeme segments segments' → Segment.Spaced trailing' segments' →
        again.text.toList = Segment.join trailing' segments' →
          (∃ tokens', again.lex = .ok tokens' ∧
            tokens'.map Token.content = tokens.map Token.content) ∧
          again.parseExpr.mapError Failure.kind = source.parseExpr.mapError Failure.kind ∧
          again.parseStmt.mapError Failure.kind = source.parseStmt.mapError Failure.kind := by
  obtain ⟨segments, trailing, h⟩ := Segmented.exists_of_ofPieces hlex
  refine ⟨segments, trailing, h, ?_⟩
  intro again segments' trailing' hsame hspaced htext
  have h' : Segmented again.text.toList segments' trailing' := htext ▸ h.respace hsame hspaced
  have halike := h.alike h' hsame
  have htokens : tokens = Segment.tokens source [] segments :=
    Except.ok.inj (hlex.symm.trans (Token.ofPieces_segmented h source []))
  refine ⟨⟨_, Token.ofPieces_segmented h' again [], htokens ▸ halike.contents⟩, ?_, ?_⟩
  · unfold parseExpr
    rw [Parse.whole_eq_run_toEnd h.ofSource_eq, Parse.whole_eq_run_toEnd h'.ofSource_eq]
    exact ((Parse.Agree.expr halike).toEnd halike).mapError_run
  · unfold parseStmt
    rw [Parse.whole_eq_run_toEnd h.ofSource_eq, Parse.whole_eq_run_toEnd h'.ofSource_eq]
    exact ((Parse.Agree.stmt halike).toEnd halike).mapError_run

/-- Comments that hold quotes around a string that holds the beginning of a comment. -/
theorem Source.lex_parse_respaced_comments :
    let source : Source := { text := "message is\"/*\"" }
    let again : Source := { name := "again", text := "/**/message //\"\n\tis \"/*\" //" }
    source.parseExpr = .ok (.message (.equal ["/*"])) ∧
      again.parseExpr.mapError Failure.kind = source.parseExpr.mapError Failure.kind := by
  intro source again
  let message := ['m', 'e', 's', 's', 'a', 'g', 'e']
  let written := ['"', '/', '*', '"']
  have hstring : Lexeme .string written ['/', '*'] [] :=
    .quoted (.plain (by decide) (.plain (by decide) .nil))
  have hletters : (message ++ ['i', 's']).all Unicode.isAlphanumeric = true := by decide
  have hbody : ∀ x ∈ message ++ ['i', 's'], Unicode.isAlphanumeric x ∨ x = '_' :=
    fun x hx => .inl (List.all_eq_true.mp hletters x hx)
  have hword : Lexeme .ident ['i', 's'] ['i', 's'] (written ++ []) := by
    refine .ident (by decide) (fun x hx => hbody x ?_) ?_
    · exact List.mem_append_right _ (List.mem_cons_of_mem _ hx)
    · rintro _ ⟨⟩
      decide
  have hfirst : Lexeme .ident message message ([' '] ++ (['i', 's'] ++ (written ++ []))) := by
    refine .ident (by decide) (fun x hx => hbody x ?_) ?_
    · exact List.mem_append_left _ (List.mem_cons_of_mem _ hx)
    · rintro _ ⟨⟩
      decide
  have hsource : Segmented source.text.toList
      [⟨[], .ident, message, message⟩, ⟨[' '], .ident, ['i', 's'], ['i', 's']⟩,
        ⟨[], .string, written, ['/', '*']⟩] [] := by
    have htext : source.text.toList = message ++ ([' '] ++ (['i', 's'] ++ (written ++ []))) := by
      decide
    rw [htext]
    exact .next ⟨[], _, _, _⟩ .nil hfirst (.next ⟨[' '], _, _, _⟩
      (.cons [' '] (.blank (.inl rfl)) .nil) hword (.next ⟨[], _, _, _⟩ .nil hstring (.last .nil)))
  obtain ⟨segments, trailing, h, hagain⟩ :=
    lex_parse_respaced (Token.ofPieces_segmented hsource source [])
  obtain ⟨rfl, rfl⟩ := hsource.unique h
  have hbody : ¬ ['*', '/'] <:+: [] ++ ['*'] := by decide
  have hopening : ClosedLayout ['/', '*', '*', '/'] := .block hbody .nil
  have hquote : '\n' ∉ ['"'] := by decide
  have hcomment : Separator [' ', '/', '/', '"', '\n', '\t'] :=
    ⟨.blank (.inl rfl) (.line hquote (.blank (.inr (.inl rfl)) .nil)), ' ', rfl, .inl rfl⟩
  have hblank : Separator [' '] := ⟨.blank (.inl rfl) .nil, ' ', rfl, .inl rfl⟩
  have hlast : Trailer [' ', '/', '/'] :=
    .inr ⟨⟨' ', rfl, .inl rfl⟩, .line (.blank (.inl rfl) .nil) (by decide)⟩
  refine ⟨eq_ok_of_toOption (by decide +kernel), (hagain again
    [⟨['/', '*', '*', '/'], .ident, message, message⟩,
      ⟨[' ', '/', '/', '"', '\n', '\t'], .ident, ['i', 's'], ['i', 's']⟩,
      ⟨[' '], .string, written, ['/', '*']⟩] [' ', '/', '/'] ?_ ?_ ?_).2.1⟩
  · exact .cons ⟨rfl, rfl, rfl⟩ (.cons ⟨rfl, rfl, rfl⟩ (.cons ⟨rfl, rfl, rfl⟩ .nil))
  · exact ⟨hopening, by simpa using ⟨hcomment, hblank⟩, hlast⟩
  · decide

end MailRules

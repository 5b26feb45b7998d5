import MailRules.Proofs.Token.Offence

/-!
# What runs over the end of a line

Blocks of text are for raw strings and block comments, which go on until they are closed. All
else is to end with its line. A string in quotes does, since a backslash protects no newline, and
so it is reported as left open on the line where it begins.

A character literal, which is refused in any case, stops before a newline too, but its backslash
takes along whatever comes next. A newline is in the text that is reported exactly if such a
backslash is the last character of its line.
-/

namespace MailRules

/-- The pieces that may run over the end of a line: comments and raw strings, closed or left
open, and a character literal with a backslash before the newline. -/
inductive Piece.RunsOver : Piece → Prop where
  | comment {text : List Char} (h : ['/', '*'] <+: text) : RunsOver ⟨.layout, text⟩
  | rawString {text : List Char} (h : ['\x60'] <+: text) : RunsOver ⟨.lexeme .string, text⟩
  | openComment {text : List Char} : RunsOver ⟨.unclosed .comment, text⟩
  | openRawString {text : List Char} : RunsOver ⟨.unclosed .rawString, text⟩
  | character {text : List Char} (h : ['\''] <+: text) (hescape : ['\\', '\n'] <:+: text) :
      RunsOver ⟨.unsupported, text⟩

theorem Quotable.newline_not_mem {text : List Char} (h : Quotable text) : '\n' ∉ text := by
  induction h with
  | nil => exact List.not_mem_nil
  | plain hc _ ih =>
      intro hmem
      rcases List.mem_cons.mp hmem with rfl | hmem
      · exact hc.2.2 rfl
      · exact ih hmem
  | escaped hc _ ih =>
      intro hmem
      rcases List.mem_cons.mp hmem with heq | hmem
      · exact absurd heq (by decide)
      · rcases List.mem_cons.mp hmem with rfl | hmem
        · exact hc rfl
        · exact ih hmem

/-- A newline is layout by itself, or it is in a block comment. -/
theorem LayoutItem.eq_newline_or_block {item rest : List Char} (h : LayoutItem item rest)
    (hline : '\n' ∈ item) : item = ['\n'] ∨ ['/', '*'] <+: item := by
  cases h with
  | blank => exact .inl (by rw [List.mem_singleton.mp hline])
  | line hbody =>
      refine absurd ?_ hbody
      simpa using hline
  | block => exact .inr ⟨_, rfl⟩

/-- Neither words nor numerals have newlines. -/
theorem not_numeric_newline : ¬ Numeric '\n' := by
  unfold Numeric
  decide +kernel

namespace Lexeme

variable {kind : TokenKind} {written text rest : List Char}

/-- The text of a lexeme is part of what is written. -/
theorem text_infix (h : Lexeme kind written text rest) : text <:+: written := by
  cases h with
  | quoted => exact ⟨['"'], ['"'], by simp⟩
  | raw => exact ⟨['\x60'], ['\x60'], by simp⟩
  | ident => exact List.infix_rfl
  | other => exact List.infix_rfl

/-- Only raw strings have newlines. -/
theorem raw_of_newline_mem (h : Lexeme kind written text rest) (hline : '\n' ∈ written) :
    kind = .string ∧ ['\x60'] <+: written := by
  cases h with
  | quoted htext =>
      refine absurd ?_ htext.newline_not_mem
      simpa using hline
  | raw => exact ⟨rfl, _, rfl⟩
  | ident hc hbody =>
      rcases List.mem_cons.mp hline with rfl | hmem
      · exact absurd hc (by decide +kernel)
      · exact absurd ((hbody _ hmem).imp_right .inl) not_numeric_newline
  | other hblank =>
      obtain rfl := List.mem_singleton.mp hline
      simp at hblank

end Lexeme

namespace PieceKind

/-- A character literal goes on behind a newline only if a backslash takes the newline along. -/
theorem escaped_of_newline_mem {rest : List Char} (h : '\n' ∈ rest.take (charLength rest)) :
    ['\\', '\n'] <:+: rest.take (charLength rest) := by
  fun_induction charLength rest with
  | case1 => simp at h
  | case2 => simp at h
  | case3 => simp at h
  | case4 c rest ih =>
      rw [List.take_succ_cons, List.take_succ_cons] at h ⊢
      rcases List.mem_cons.mp h with heq | h
      · exact absurd heq (by decide)
      · rcases List.mem_cons.mp h with rfl | h
        · exact ⟨[], _, rfl⟩
        · exact (ih h).trans (List.infix_cons (List.infix_cons List.infix_rfl))
  | case5 c rest hline _ _ ih =>
      rw [List.take_succ_cons] at h ⊢
      rcases List.mem_cons.mp h with heq | h
      · exact absurd heq.symm hline
      · exact (ih h).trans (List.infix_cons List.infix_rfl)

end PieceKind

/-- What is refused runs over the end of a line if it can be closed on a later line, or if it is
a character literal that has a backslash at the end of the line. -/
theorem Refused.open_or_escaped_of_newline_mem {kind : Failure.Kind} {written rest : List Char}
    (h : Refused kind written rest) (hline : '\n' ∈ written) :
    kind = .unterminated .comment ∨ kind = .unterminated .rawString ∨
      kind = .unexpectedToken (String.ofList written) ∧ ['\''] <+: written ∧
        ['\\', '\n'] <:+: written := by
  obtain ⟨offence, hoffence⟩ := h.exists_offence
  cases offence with
  | numeral =>
      obtain ⟨-, -, hnumeric, -⟩ := hoffence
      exact absurd (hnumeric _ hline) not_numeric_newline
  | character =>
      obtain ⟨hkind, hquote⟩ := hoffence
      refine .inr (.inr ⟨hkind, ?_⟩)
      cases h with
      | unsupported hcut =>
          obtain rfl := Option.some.inj hquote
          rw [PieceKind.cut_character] at hcut
          obtain rfl := (Prod.mk.inj hcut).2
          refine ⟨⟨_, rfl⟩, List.IsInfix.trans ?_ (List.infix_cons List.infix_rfl)⟩
          apply PieceKind.escaped_of_newline_mem
          simpa using hline
      | unclosed => cases hkind
  | string =>
      obtain ⟨-, ⟨body, rfl, hbody, -⟩, -⟩ := hoffence
      refine absurd ?_ hbody
      simpa using hline
  | rawString => exact .inr (.inl hoffence.1)
  | comment => exact .inl hoffence.1

/-- A piece of a text that has a newline in it is this newline, or it runs over the end of a
line. -/
theorem Piece.eq_newline_or_runsOver {text : List Char} :
    ∀ piece ∈ ofText text, '\n' ∈ piece.text →
      piece = ⟨.layout, ['\n']⟩ ∨ piece.RunsOver := by
  fun_induction ofText text with
  | case1 => simp
  | case2 c rest kind length hcut ih =>
      intro piece hpiece hline
      rcases List.mem_cons.mp hpiece with rfl | hpiece
      · cases kind with
        | layout =>
            have hitem := PieceKind.layoutItem_of_cut hcut
            exact (hitem.eq_newline_or_block hline).imp (congrArg (Piece.mk .layout)) .comment
        | lexeme kind =>
            obtain ⟨_, hlexeme⟩ := PieceKind.lexeme_of_cut hcut
            obtain ⟨rfl, hraw⟩ := hlexeme.raw_of_newline_mem hline
            exact .inr (.rawString hraw)
        | unsupported =>
            rcases (Refused.unsupported hcut).open_or_escaped_of_newline_mem hline with
              hkind | hkind | ⟨-, hquote, hescape⟩
            · cases hkind
            · cases hkind
            · exact .inr (.character hquote hescape)
        | unclosed what =>
            rcases (Refused.unclosed hcut).open_or_escaped_of_newline_mem hline with
              hkind | hkind | ⟨hkind, -⟩
            · obtain rfl := Failure.Kind.unterminated.inj hkind
              exact .inr .openComment
            · obtain rfl := Failure.Kind.unterminated.inj hkind
              exact .inr .openRawString
            · cases hkind
      · exact ih piece hpiece hline

namespace Source

/-- What runs over the end of a line. Strings in quotes never do, whether they are closed or not;
what is refused as unsupported does so for a backslash at the end of the line in a character
literal, and in no other case. -/
theorem literals_stay_on_line_unless_escaped (source : Source) :
    (∀ piece ∈ Piece.ofText source.text.toList, '\n' ∈ piece.text →
      piece = ⟨.layout, ['\n']⟩ ∨ piece.RunsOver) ∧
    (∀ tokens, source.lex = .ok tokens → ∀ token ∈ tokens, ∃ before written rest,
      source.text.toList = before ++ (written ++ rest) ∧
      token.span = ⟨byteSize before, byteSize (before ++ written)⟩ ∧
      (['"'] <+: written → '\n' ∉ written ∧ '\n' ∉ token.text.toList) ∧
      ('\n' ∈ written ∨ '\n' ∈ token.text.toList → token.kind = .string ∧ ['\x60'] <+: written)) ∧
    ∀ failure, source.lex = .error failure → ∃ before written rest,
      source.text.toList = before ++ (written ++ rest) ∧
      failure.span = ⟨byteSize before, byteSize (before ++ written)⟩ ∧
      (failure.kind = .unterminated .string → '\n' ∉ written) ∧
      ∀ text, failure.kind = .unexpectedToken text → text.toList = written ∧
        ('\n' ∈ written ↔ ['\''] <+: written ∧ ['\\', '\n'] <:+: written) := by
  refine ⟨Piece.eq_newline_or_runsOver, ?_, ?_⟩
  · intro tokens h token htoken
    obtain ⟨before, written, content, rest, htext, hlexeme, heq⟩ := exists_lexeme_of_lex h htoken
    have hcontent : token.text.toList = content := by rw [heq, String.toList_ofList]
    have hraw : '\n' ∈ written ∨ '\n' ∈ token.text.toList →
        token.kind = .string ∧ ['\x60'] <+: written := by
      rw [hcontent]
      rintro (hline | hline)
      · exact hlexeme.raw_of_newline_mem hline
      · exact hlexeme.raw_of_newline_mem (hlexeme.text_infix.subset hline)
    refine ⟨before, written, rest, htext, by rw [heq], fun hquote => ?_, hraw⟩
    -- what begins with one quote does not begin with the other
    rw [← not_or]
    intro hline
    obtain ⟨_, rfl⟩ := hquote
    obtain ⟨_, hbacktick⟩ := (hraw hline).2
    exact absurd (List.cons.inj hbacktick).1 (by decide)
  · intro failure h
    obtain ⟨before, kind, written, rest, htext, -, hrefused, rfl⟩ :=
      exists_refused_of_lex_eq_error h
    refine ⟨before, written, rest, htext, rfl, ?_, ?_⟩
    · rintro rfl hline
      rcases hrefused.open_or_escaped_of_newline_mem hline with hkind | hkind | ⟨hkind, -⟩ <;>
        cases hkind
    · rintro text rfl
      have hwritten : text.toList = written := by
        cases hrefused with
        | unsupported => exact String.toList_ofList
      refine ⟨hwritten, fun hline => ?_, fun ⟨_, hescape⟩ => hescape.subset (by simp)⟩
      rcases hrefused.open_or_escaped_of_newline_mem hline with hkind | hkind | ⟨-, hescaped⟩
      · cases hkind
      · cases hkind
      · exact hescaped

/-- A raw string over two lines, and a character literal that takes a newline along. -/
theorem literals_stay_on_line_unless_escaped_two :
    let lexed : Source := { text := "`a\nb` \"c\"" }
    let raw : Token := ⟨.string, ⟨"", .start⟩, ⟨0, 5⟩, "a\nb"⟩
    let quoted : Token := ⟨.string, ⟨"", ⟨6, 2, 4⟩⟩, ⟨6, 9⟩, "c"⟩
    let refused : Source := { text := "'d\\\n'" }
    let failure := Failure.of refused (.unexpectedToken "'d\\\n'") ⟨"", .start⟩ ⟨0, 5⟩
    lexed.lex = .ok [raw, quoted] ∧ refused.lex = .error failure ∧
      (∃ before written rest, lexed.text.toList = before ++ (written ++ rest) ∧
        raw.span = ⟨byteSize before, byteSize (before ++ written)⟩ ∧ ['\x60'] <+: written) ∧
      ∃ before written rest, refused.text.toList = before ++ (written ++ rest) ∧
        failure.span = ⟨byteSize before, byteSize (before ++ written)⟩ ∧
        ['\''] <+: written ∧ ['\\', '\n'] <:+: written := by
  intro lexed raw quoted refused failure
  have hlexed : lexed.lex = .ok [raw, quoted] := by decide +kernel
  have hrefused : refused.lex = .error failure := by decide +kernel
  refine ⟨hlexed, hrefused, ?_, ?_⟩
  · obtain ⟨before, written, rest, htext, hspan, -, hraw⟩ :=
      (literals_stay_on_line_unless_escaped lexed).2.1 _ hlexed raw (by simp)
    exact ⟨before, written, rest, htext, hspan, (hraw (.inr (by decide))).2⟩
  · obtain ⟨before, written, rest, htext, hspan, -, hcharacter⟩ :=
      (literals_stay_on_line_unless_escaped refused).2.2 failure hrefused
    obtain ⟨rfl, hescaped⟩ := hcharacter _ rfl
    exact ⟨before, _, rest, htext, hspan, hescaped.mp (by decide)⟩

/-- The literal that is reported here is on two lines. -/
theorem lex_reports_newline_of_character :
    ∃ failure text, ({ text := "'\\\n'" } : Source).lex = .error failure ∧
      failure.kind = .unexpectedToken text ∧ '\n' ∈ text.toList :=
  ⟨.of { text := "'\\\n'" } (.unexpectedToken "'\\\n'") ⟨"", .start⟩ ⟨0, 4⟩, _,
    by decide +kernel, rfl, by decide⟩

end Source
end MailRules

import MailRules.Proofs.Token.Respacing

/-!
# Reading a text up to some point

The beginning of a text is legible if it consists of layout items and lexemes. What stands behind
it matters by its first character only: the last word must not go on, and a line comment must have
come to its end. Another text can therefore follow a legible beginning if it has the same first
character, or if the line ends there.

The tokens of a legible beginning are the first tokens of the whole, whatever follows, and the
others are those of the text behind, read from the place where the beginning ends. A text that is
not legible as a whole is legible up to a piece that is refused, and this piece makes the failure.
-/

namespace MailRules

/-- What ends before `rest` can end before `rest'` too, since this has the same first character,
or ends the line. -/
def EndsAlike (rest rest' : List Char) : Prop :=
  rest'.head? = rest.head? ∨ ∀ c ∈ rest'.head?, c = '\n'

/-- The text before `rest` consists of layout items and lexemes. -/
inductive Legible : (text rest : List Char) → Prop where
  | nil {rest : List Char} : Legible [] rest
  | layout (item : List Char) {text rest : List Char} (hitem : LayoutItem item (text ++ rest))
      (h : Legible text rest) : Legible (item ++ text) rest
  | lexeme {kind : TokenKind} {written content text rest : List Char}
      (hlexeme : Lexeme kind written content (text ++ rest)) (h : Legible text rest) :
      Legible (written ++ text) rest

/-- What is cut off before `rest` has no place in a rule, and a failure of this kind says so. -/
inductive Refused : Failure.Kind → (written rest : List Char) → Prop where
  | unsupported {c : Char} {rest : List Char} {length : Nat}
      (h : PieceKind.cut c rest = (.unsupported, length)) :
      Refused (.unexpectedToken (String.ofList (c :: rest.take length))) (c :: rest.take length)
        (rest.drop length)
  | unclosed {c : Char} {rest : List Char} {what : Enclosure} {length : Nat}
      (h : PieceKind.cut c rest = (.unclosed what, length)) :
      Refused (.unterminated what) (c :: rest.take length) (rest.drop length)

namespace EndsAlike

variable {rest rest' : List Char}

theorem append (h : EndsAlike rest rest') (text : List Char) :
    EndsAlike (text ++ rest) (text ++ rest') := by
  cases text with
  | nil => exact h
  | cons c text => exact .inl rfl

theorem nil (rest : List Char) : EndsAlike rest [] :=
  .inr fun _ hc => by cases hc

theorem newline (rest text : List Char) : EndsAlike rest ('\n' :: text) :=
  .inr fun _ hc => (Option.some.inj hc).symm

/-- More text at the end is not seen from before something that is there. -/
theorem append_right (h : rest ≠ []) (more : List Char) : EndsAlike rest (rest ++ more) := by
  cases rest with
  | nil => exact absurd rfl h
  | cons c rest => exact .inl rfl

end EndsAlike

theorem LayoutItem.endsAlike {item rest rest' : List Char} (h : LayoutItem item rest)
    (halike : EndsAlike rest rest') : LayoutItem item rest' := by
  cases h with
  | blank hc => exact .blank hc
  | block hbody => exact .block hbody
  | line hbody hrest =>
      apply LayoutItem.line hbody
      cases rest' with
      | nil => exact .inl rfl
      | cons c rest' =>
          rcases halike with hsame | hend
          · rcases hrest with rfl | hnewline
            · cases hsame
            · exact .inr (hsame.trans hnewline)
          · exact .inr (congrArg some (hend c rfl))

theorem Lexeme.endsAlike {kind : TokenKind} {written text rest rest' : List Char}
    (h : Lexeme kind written text rest) (halike : EndsAlike rest rest') :
    Lexeme kind written text rest' := by
  rcases halike with hsame | hend
  · cases h with
    | quoted htext => exact .quoted htext
    | raw htext => exact .raw htext
    | ident hc hbody hrest =>
        rw [← hsame] at hrest
        exact .ident hc hbody hrest
    | other hblank hquote hident hdigit hdot hslash =>
        rw [← hsame] at hdot hslash
        exact .other hblank hquote hident hdigit hdot hslash
  · apply h.before_blank
    intro c hc
    exact .inr (.inr (.inl (hend c hc)))

theorem Legible.endsAlike {text rest rest' : List Char} (h : Legible text rest)
    (halike : EndsAlike rest rest') : Legible text rest' := by
  induction h with
  | nil => exact .nil
  | layout item hitem _ ih => exact .layout item (hitem.endsAlike (halike.append _)) (ih halike)
  | lexeme hlexeme _ ih => exact .lexeme (hlexeme.endsAlike (halike.append _)) (ih halike)

/-- A legible beginning has the same tokens whatever follows it, in all sources of a name. -/
theorem Legible.exists_tokens {text rest : List Char} (h : Legible text rest) (name : String)
    (place : Location) :
    ∃ tokens, ∀ (source : Source) (rest' : List Char), source.name = name → EndsAlike rest rest' →
      Token.ofPieces source place (Piece.ofText (text ++ rest')) =
        (Token.ofPieces source (place.after text) (Piece.ofText rest')).map (tokens ++ ·) := by
  induction h generalizing place with
  | nil =>
      refine ⟨[], ?_⟩
      intro source rest' _ _
      rw [List.nil_append, Location.after_nil]
      cases Token.ofPieces source place (Piece.ofText rest') <;> rfl
  | layout item hitem _ ih =>
      obtain ⟨tokens, htokens⟩ := ih (place.after item)
      refine ⟨tokens, ?_⟩
      intro source rest' hname halike
      rw [List.append_assoc, Token.ofPieces_layoutItem (hitem.endsAlike (halike.append _)),
        htokens source rest' hname halike, Location.after_append]
  | @lexeme kind written content text _ hlexeme _ ih =>
      obtain ⟨tokens, htokens⟩ := ih (place.after written)
      let token : Token :=
        { kind, position := ⟨name, place⟩, span := ⟨place.offset, (place.after written).offset⟩
          text := String.ofList content }
      refine ⟨token :: tokens, ?_⟩
      rintro source rest' rfl halike
      rw [List.append_assoc, Token.ofPieces_lexeme (hlexeme.endsAlike (halike.append _)),
        htokens source rest' rfl halike, Location.after_append]
      cases Token.ofPieces source ((place.after written).after text) (Piece.ofText rest') <;> rfl

namespace Refused

variable {kind : Failure.Kind} {written rest : List Char}

theorem ne_nil (h : Refused kind written rest) : written ++ rest ≠ [] := by
  cases h <;> exact List.cons_ne_nil _ _

/-- Reading stops at what is refused. -/
theorem ofPieces (h : Refused kind written rest) (source : Source) (place : Location) :
    Token.ofPieces source place (Piece.ofText (written ++ rest)) =
      .error (.of source kind (source.position place)
        ⟨place.offset, (place.after written).offset⟩) := by
  cases h with
  | unsupported h =>
      rw [List.cons_append, List.take_append_drop, Piece.ofText_cons, h]
      rfl
  | unclosed h =>
      rw [List.cons_append, List.take_append_drop, Piece.ofText_cons, h]
      rfl

end Refused

/-- Every text is legible up to its end, or up to something that is refused. -/
theorem exists_legible (text : List Char) :
    ∃ before behind, text = before ++ behind ∧ Legible before behind ∧
      (behind = [] ∨
        ∃ kind written rest, behind = written ++ rest ∧ Refused kind written rest) := by
  fun_induction Piece.ofText text with
  | case1 => exact ⟨[], [], rfl, .nil, .inl rfl⟩
  | case2 c rest kind length hcut ih =>
      have hsplit : c :: rest = (c :: rest.take length) ++ rest.drop length := by simp
      obtain ⟨before, behind, hrest, hlegible, hbehind⟩ := ih
      cases kind with
      | layout =>
          have hitem := PieceKind.layoutItem_of_cut hcut
          rw [hsplit, hrest, ← List.append_assoc]
          rw [hrest] at hitem
          exact ⟨_, behind, rfl, .layout _ hitem hlegible, hbehind⟩
      | lexeme kind =>
          obtain ⟨content, hlexeme⟩ := PieceKind.lexeme_of_cut hcut
          rw [hsplit, hrest, ← List.append_assoc]
          rw [hrest] at hlexeme
          exact ⟨_, behind, rfl, .lexeme hlexeme hlegible, hbehind⟩
      | unsupported => exact ⟨[], _, rfl, .nil, .inr ⟨_, _, _, hsplit, .unsupported hcut⟩⟩
      | unclosed what => exact ⟨[], _, rfl, .nil, .inr ⟨_, _, _, hsplit, .unclosed hcut⟩⟩

namespace Source

variable {source : Source}

theorem exists_lex_eq_ok_of_legible (h : Legible source.text.toList []) :
    ∃ tokens, source.lex = .ok tokens := by
  obtain ⟨tokens, htokens⟩ := h.exists_tokens source.name .start
  have hlex := htokens source [] rfl (.nil [])
  rw [List.append_nil, Piece.ofText_nil] at hlex
  exact ⟨_, hlex⟩

theorem lex_eq_error_of_refused {kind : Failure.Kind} {before written rest : List Char}
    (htext : source.text.toList = before ++ (written ++ rest))
    (hlegible : Legible before (written ++ rest)) (hrefused : Refused kind written rest) :
    source.lex = .error (.of source kind (source.position (Location.start.after before))
      ⟨byteSize before, byteSize (before ++ written)⟩) := by
  obtain ⟨tokens, htokens⟩ := hlegible.exists_tokens source.name .start
  rw [lex, htext, htokens source _ rfl (.inl rfl), hrefused.ofPieces, ← Location.after_append,
    Location.offset_start_after, Location.offset_start_after]
  rfl

theorem legible_of_lex_eq_ok {tokens : List Token} (h : source.lex = .ok tokens) :
    Legible source.text.toList [] := by
  obtain ⟨before, behind, htext, hlegible, rfl | ⟨kind, written, rest, rfl, hrefused⟩⟩ :=
    exists_legible source.text.toList
  · rwa [htext, List.append_nil]
  · rw [lex_eq_error_of_refused htext hlegible hrefused] at h
    cases h

/-- A failure is made by the first thing that is refused. -/
theorem exists_refused_of_lex_eq_error {failure : Failure} (h : source.lex = .error failure) :
    ∃ before kind written rest, source.text.toList = before ++ (written ++ rest) ∧
      Legible before (written ++ rest) ∧ Refused kind written rest ∧
      failure = .of source kind (source.position (Location.start.after before))
        ⟨byteSize before, byteSize (before ++ written)⟩ := by
  obtain ⟨before, behind, htext, hlegible, rfl | ⟨kind, written, rest, rfl, hrefused⟩⟩ :=
    exists_legible source.text.toList
  · rw [← List.append_nil before, ← htext] at hlegible
    obtain ⟨tokens, hlex⟩ := exists_lex_eq_ok_of_legible hlegible
    rw [hlex] at h
    cases h
  · rw [lex_eq_error_of_refused htext hlegible hrefused] at h
    exact ⟨before, kind, written, rest, htext, hlegible, hrefused, (Except.error.inj h).symm⟩

end Source
end MailRules

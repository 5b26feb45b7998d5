import Mathlib.Data.List.Infix
import MailRules.Proofs.Token.Reading

/-!
# What lexing refuses

Five things cannot be read: a numeral, a character literal, and a string, a raw string or a
comment that is left open. Each is told by its first characters, so no text offends in two ways
at the same place. All that stands before the first offence is legible by itself, as if the text
ended there.

Something left open may be closed by more text. A numeral or a character literal may become longer
in this way but stays where it is: no text behind it is of any help.
-/

namespace MailRules

open Unicode (isAlphanumeric)

/-- A character of numerals: alphanumeric, an underscore or a dot. -/
def Numeric (c : Char) : Prop := isAlphanumeric c ∨ c = '_' ∨ c = '.'

/-- A closing quote that no backslash protects. -/
def ClosesQuote (text : List Char) : Prop := ∃ body rest, text = body ++ '"' :: rest ∧ Quotable body

inductive Offence where
  | numeral
  | character
  | string
  | rawString
  | comment
  deriving DecidableEq, Repr

namespace Offence

/-- The offence lies in what is `written` before `rest`, and a failure of this kind reports it. -/
def Is (kind : Failure.Kind) (written rest : List Char) : Offence → Prop
  | numeral =>
    kind = .unexpectedToken (String.ofList written) ∧
      (∃ c body, written = c :: body ∧ (c.isDigit ∨ c = '.' ∧ ∃ d ∈ body.head?, d.isDigit)) ∧
      (∀ c ∈ written, Numeric c) ∧ ∀ c ∈ rest.head?, ¬ Numeric c
  | character =>
    kind = .unexpectedToken (String.ofList written) ∧ written.head? = some '\''
  | string =>
    kind = .unterminated .string ∧
      (∃ body, written = '"' :: body ∧ '\n' ∉ body ∧ ¬ ClosesQuote body) ∧
      (rest = [] ∨ rest.head? = some '\n')
  | rawString =>
    kind = .unterminated .rawString ∧ (∃ body, written = '\x60' :: body ∧ '\x60' ∉ body) ∧ rest = []
  | comment =>
    kind = .unterminated .comment ∧
      (∃ body, written = '/' :: '*' :: body ∧ ¬ ['*', '/'] <:+: body) ∧ rest = []

/-- The first character tells a numeral from a character literal; the other offences are told by
the kind of the failure. -/
theorem Is.unique {kind : Failure.Kind} {written rest : List Char} {offence offence' : Offence}
    (h : offence.Is kind written rest) (h' : offence'.Is kind written rest) :
    offence = offence' := by
  have hfirst : ∀ c, c.isDigit ∨ c = '.' → c ≠ '\'' := by
    rintro c hc rfl
    revert hc
    decide
  cases offence <;> cases offence' <;> try rfl
  case numeral.character =>
    obtain ⟨-, ⟨c, body, rfl, hc⟩, -⟩ := h
    exact absurd (Option.some.inj h'.2) (hfirst c (hc.imp_right And.left))
  case character.numeral =>
    obtain ⟨-, ⟨c, body, rfl, hc⟩, -⟩ := h'
    exact absurd (Option.some.inj h.2) (hfirst c (hc.imp_right And.left))
  all_goals cases h.1.symm.trans h'.1

end Offence

namespace PieceKind

theorem isNumeralChar_iff {c : Char} : isNumeralChar c ↔ Numeric c := by
  simp [isNumeralChar, Numeric, or_assoc]

theorem numeric_of_isDigit {c : Char} (h : c.isDigit) : Numeric c := by
  have hascii : c.toNat < 128 := by
    have := toNat_of_isDigit h
    omega
  have hnumeric : Unicode.isNumeric c = true := by
    rwa [Unicode.isNumeric, if_pos hascii]
  apply Or.inl
  rw [isAlphanumeric, hnumeric, Bool.or_true]

/-- A numeral cannot begin like any other piece. -/
theorem cut_of_startsNumeral {c : Char} {rest : List Char} (h : startsNumeral c rest) :
    cut c rest = (.unsupported, (rest.takeWhile isNumeralChar).length) := by
  have hopener : c ∉ openers := by
    have hother : openers.all (fun d => !d.isDigit && d != '.') = true := by decide
    intro hc
    have hc := List.all_eq_true.mp hother c hc
    rcases startsNumeral_iff.mp h with hdigit | ⟨rfl, -⟩
    · simp [hdigit] at hc
    · cases hc
  rw [cut_of_not_opener hopener, if_pos h]

theorem cut_character (rest : List Char) : cut '\'' rest = (.unsupported, charLength rest) := by
  simp [cut, isBlank]

/-- Only numerals and character literals are unsupported. -/
theorem character_or_numeral_of_cut {c : Char} {rest : List Char} {length : Nat}
    (h : cut c rest = (.unsupported, length)) : c = '\'' ∨ startsNumeral c rest := by
  revert h
  fun_cases cut c rest with
  | case9 _ _ _ _ _ hc => exact fun _ => .inl hc
  | case10 _ _ _ _ _ _ hnumeral => exact fun _ => .inr hnumeral
  | _ => rintro h; cases h

theorem startsNumeral_append {c : Char} {rest : List Char} (h : startsNumeral c rest)
    (more : List Char) : startsNumeral c (rest ++ more) := by
  rcases startsNumeral_iff.mp h with hc | ⟨hc, d, hd, hdigit⟩
  · exact startsNumeral_iff.mpr (.inl hc)
  · refine startsNumeral_iff.mpr (.inr ⟨hc, d, ?_, hdigit⟩)
    rw [List.head?_append, Option.mem_def.mp hd]
    rfl

theorem not_infix_of_commentLength? {text : List Char} (h : commentLength? text = none) :
    ¬ ['*', '/'] <:+: text := by
  fun_induction commentLength? text with
  | case1 => decide
  | case2 => cases h
  | case3 c rest hopen ih =>
      intro hclosed
      rcases List.infix_cons_iff.mp hclosed with hstart | hclosed
      · obtain ⟨rfl, hslash⟩ := List.cons_prefix_cons.mp hstart
        cases rest with
        | nil => simp at hslash
        | cons d rest =>
            obtain ⟨rfl, -⟩ := List.cons_prefix_cons.mp hslash
            exact hopen rest rfl rfl
      · exact ih (Option.map_eq_none_iff.mp h) hclosed

/-- A character literal that has come to its end is not changed by more text, and one that has
not becomes longer. -/
theorem charLength_le_append (text more : List Char) :
    charLength text ≤ charLength (text ++ more) := by
  fun_induction charLength text with
  | case1 => exact Nat.zero_le _
  | case2 => exact Nat.zero_le _
  | case3 => exact Nat.le_refl _
  | case4 c rest ih => exact Nat.add_le_add_right ih 2
  | case5 c rest hline hquote hescape ih =>
      by_cases hc : c = '\\'
      · subst hc
        cases rest with
        | nil =>
            -- a backslash at the end takes the first character of `more` along
            cases more with
            | nil => exact Nat.le_refl _
            | cons d more =>
                have hlength : charLength (['\\'] ++ d :: more) = charLength more + 2 := rfl
                rw [hlength]
                simp [charLength]
        | cons d rest => exact absurd rfl (hescape d rest rfl)
      · rw [List.cons_append, charLength]
        · exact Nat.add_le_add_right ih 1
        all_goals simp_all

/-- What is unsupported stays so when there is more text, and does not become shorter. -/
theorem exists_cut_append {c : Char} {rest : List Char} {length : Nat}
    (h : cut c rest = (.unsupported, length)) (more : List Char) :
    ∃ length', length ≤ length' ∧ cut c (rest ++ more) = (.unsupported, length') := by
  rcases character_or_numeral_of_cut h with rfl | hnumeral
  · rw [cut_character] at h
    obtain rfl := (Prod.mk.inj h).2
    exact ⟨_, charLength_le_append rest more, cut_character _⟩
  · rw [cut_of_startsNumeral hnumeral] at h
    obtain rfl := (Prod.mk.inj h).2
    have hmore : (rest.takeWhile isNumeralChar).length ≤
        ((rest ++ more).takeWhile isNumeralChar).length := by
      rw [List.takeWhile_append]
      split
      · next hall =>
          rw [List.length_append, hall]
          omega
      · exact Nat.le_refl _
    exact ⟨_, hmore, cut_of_startsNumeral (startsNumeral_append hnumeral more)⟩

end PieceKind

namespace Offence

open PieceKind

/-- A numeral goes on as far as there are characters of numerals. -/
theorem is_numeral {c : Char} {body rest : List Char} (h : startsNumeral c (body ++ rest))
    (hbody : ∀ x ∈ body, isNumeralChar x) (hrest : ∀ x ∈ rest.head?, ¬ isNumeralChar x) :
    numeral.Is (.unexpectedToken (String.ofList (c :: body))) (c :: body) rest := by
  refine ⟨rfl, ⟨c, body, rfl, ?_⟩, ?_, fun x hx => mt isNumeralChar_iff.mpr (hrest x hx)⟩
  · rcases startsNumeral_iff.mp h with hc | ⟨hc, d, hd, hdigit⟩
    · exact .inl hc
    · refine .inr ⟨hc, d, ?_, hdigit⟩
      cases body with
      | nil => exact absurd (isNumeralChar_iff.mpr (numeric_of_isDigit hdigit)) (hrest d hd)
      | cons x body => exact hd
  · intro x hx
    rcases List.mem_cons.mp hx with rfl | hx
    · rcases startsNumeral_iff.mp h with hc | ⟨rfl, -⟩
      · exact numeric_of_isDigit hc
      · exact .inr (.inr rfl)
    · exact isNumeralChar_iff.mp (hbody x hx)

/-- A string that is left open ends with its line. -/
theorem is_string {rest : List Char} (h : quotedLength? rest = none) :
    string.Is (.unterminated .string) ('"' :: rest.take (lineLength rest))
      (rest.drop (lineLength rest)) := by
  obtain ⟨body, rest', rfl, hbody, hrest, hlength⟩ :=
    exists_eq_append_of_takeWhile (· ≠ '\n') rest
  rw [lineLength, hlength, List.take_left, List.drop_left]
  refine ⟨rfl, ⟨body, rfl, ?_, ?_⟩, ?_⟩
  · intro hline
    exact absurd (hbody _ hline) (by decide)
  · rintro ⟨inner, tail, rfl, hinner⟩
    have hclosed := quotedLength?_append hinner (tail ++ rest')
    rw [List.append_assoc, List.cons_append, hclosed] at h
    cases h
  · cases rest' with
    | nil => exact .inl rfl
    | cons c rest' => exact .inr (by simpa using hrest c rfl)

theorem is_rawString {rest : List Char} (h : rawLength? rest = none) :
    rawString.Is (.unterminated .rawString) ('\x60' :: rest) [] := by
  refine ⟨rfl, ⟨rest, rfl, ?_⟩, rfl⟩
  intro hclosed
  have hnone := List.findIdx?_eq_none_iff.mp (Option.map_eq_none_iff.mp h) _ hclosed
  simp at hnone

theorem is_comment {rest : List Char} (h : commentLength? rest = none) :
    comment.Is (.unterminated .comment) ('/' :: '*' :: rest) [] :=
  ⟨rfl, ⟨rest, rfl, not_infix_of_commentLength? h⟩, rfl⟩

end Offence

namespace Refused

variable {kind : Failure.Kind} {written rest : List Char}

/-- Only the five offences are refused. -/
theorem exists_offence (h : Refused kind written rest) :
    ∃ offence : Offence, offence.Is kind written rest := by
  cases h with
  | @unsupported c rest length h =>
      rcases PieceKind.character_or_numeral_of_cut h with rfl | hnumeral
      · exact ⟨.character, rfl, rfl⟩
      · rw [PieceKind.cut_of_startsNumeral hnumeral] at h
        obtain rfl := (Prod.mk.inj h).2
        obtain ⟨body, rest', rfl, hbody, hrest, hlength⟩ :=
          PieceKind.exists_eq_append_of_takeWhile PieceKind.isNumeralChar rest
        rw [hlength, List.take_left, List.drop_left]
        exact ⟨.numeral, Offence.is_numeral hnumeral hbody hrest⟩
  | @unclosed c rest what length h =>
      revert h
      fun_cases PieceKind.cut c rest with
      | case4 _ _ hblock hlength =>
          rintro h
          obtain ⟨rfl, rfl⟩ : Enclosure.comment = what ∧ rest.length = length := by simpa using h
          obtain ⟨rfl, hstar⟩ := hblock
          obtain ⟨tail, rfl⟩ := List.head?_eq_some_iff.mp hstar
          rw [List.take_length, List.drop_length]
          exact ⟨.comment, Offence.is_comment hlength⟩
      | case6 _ _ _ hc hlength =>
          rintro h
          obtain ⟨rfl, rfl⟩ : Enclosure.string = what ∧ _ = length := by simpa using h
          rw [hc]
          exact ⟨.string, Offence.is_string hlength⟩
      | case8 _ _ _ _ hc hlength =>
          rintro h
          obtain ⟨rfl, rfl⟩ : Enclosure.rawString = what ∧ rest.length = length := by simpa using h
          rw [hc, List.take_length, List.drop_length]
          exact ⟨.rawString, Offence.is_rawString hlength⟩
      | _ => rintro h; cases h

/-- More text makes what is unsupported longer at most. -/
theorem exists_append {text : String} (h : Refused (.unexpectedToken text) written rest)
    (more : List Char) :
    ∃ written' rest', written ++ rest ++ more = written' ++ rest' ∧
      Refused (.unexpectedToken (String.ofList written')) written' rest' ∧
      text = String.ofList written ∧ written <+: written' := by
  cases h with
  | @unsupported c rest length h =>
      obtain ⟨length', hle, hcut⟩ := PieceKind.exists_cut_append h more
      refine ⟨_, _, ?_, .unsupported hcut, rfl, ?_⟩
      · simp
      · refine List.cons_prefix_cons.mpr ⟨rfl, ?_⟩
        have hsame : rest.take length <+: (rest ++ more).take length :=
          List.IsPrefix.take (List.prefix_append rest more) length
        exact hsame.trans (List.take_prefix_take_left hle)

end Refused

namespace Source

/-- The failure of a text lies in the first offence, before which everything can be read. If it
is a numeral or a character literal, more text does not help. -/
theorem lex_fails_at_offence {source : Source} {failure : Failure}
    (h : source.lex = .error failure) :
    ∃ before written rest,
      source.text.toList = before ++ (written ++ rest) ∧
      failure.position.place.offset = byteSize before ∧
      failure.span = ⟨byteSize before, byteSize (before ++ written)⟩ ∧
      (∃ tokens, ({ source with text := String.ofList before } : Source).lex = .ok tokens) ∧
      (∃! offence : Offence, offence.Is failure.kind written rest) ∧
      ∀ text, failure.kind = .unexpectedToken text → ∀ more : String, ∃ failure' text',
        ({ source with text := source.text ++ more } : Source).lex = .error failure' ∧
          failure'.kind = .unexpectedToken text' ∧ failure'.position = failure.position ∧
          text.toList <+: text'.toList := by
  obtain ⟨before, kind, written, rest, htext, hlegible, hrefused, rfl⟩ :=
    exists_refused_of_lex_eq_error h
  refine ⟨before, written, rest, htext, Location.offset_start_after before, rfl, ?_, ?_, ?_⟩
  · apply exists_lex_eq_ok_of_legible
    rw [String.toList_ofList]
    exact hlegible.endsAlike (.nil _)
  · obtain ⟨offence, hoffence⟩ := hrefused.exists_offence
    exact ⟨offence, hoffence, fun _ hother => hother.unique hoffence⟩
  · rintro text rfl more
    obtain ⟨written', rest', hsplit, hrefused', rfl, hprefix⟩ := hrefused.exists_append more.toList
    have hmore : (source.text ++ more).toList = before ++ (written' ++ rest') := by
      rw [String.toList_append, htext, List.append_assoc, hsplit]
    have hlegible' : Legible before (written' ++ rest') := by
      rw [← hsplit]
      exact hlegible.endsAlike (.append_right hrefused.ne_nil _)
    refine ⟨_, _, lex_eq_error_of_refused hmore hlegible' hrefused', rfl, rfl, ?_⟩
    rwa [String.toList_ofList, String.toList_ofList]

/-- The comment opener in the string is no offence, and the character literal takes along
whatever follows its backslash. -/
theorem lex_fails_at_offence_character :
    let source : Source := { text := "is \"//\" 'a\\" }
    let failure := Failure.of source (.unexpectedToken "'a\\") ⟨"", ⟨8, 1, 9⟩⟩ ⟨8, 11⟩
    source.lex = .error failure ∧
      ∀ more : String, ∃ failure' text',
        ({ source with text := source.text ++ more } : Source).lex = .error failure' ∧
          failure'.kind = .unexpectedToken text' ∧ failure'.position = failure.position ∧
          "'a\\".toList <+: text'.toList := by
  intro source failure
  have hlex : source.lex = .error failure := by decide +kernel
  obtain ⟨_, _, _, -, -, -, -, -, hmore⟩ := lex_fails_at_offence hlex
  exact ⟨hlex, hmore _ rfl⟩

end Source
end MailRules

import MailRules.Proofs.Ebnf.Lookahead
import MailRules.Proofs.Parse.Placement

/-!
# Where reading a grammar fails

A failure points at the first token up to which the tokens are not the beginning of any document.
If all of them are the beginning of one, the input ends too early. That it is not reported too
late follows from what has been read by then, which can be completed. That it is not reported too
early follows from looking one token ahead: with this token reading fails whatever comes behind
it, and documents are read without fail.

No alternative is tried twice, so the failure need not be compared with others, and the order of
the tokens in the source does not matter.
-/

namespace MailRules.Ebnf.Grammar

/-- A grammar is read only from a document, and from all of it. -/
theorem documentShape_of_run_parse {document : Document} {grammar : Grammar}
    (h : Grammar.parse.run document = .ok grammar) : DocumentShape document.tokens := by
  obtain ⟨stop, hrun⟩ := run_parse_eq_ok_iff.mp h
  obtain ⟨used, rest, htokens, hused, rfl⟩ := (Production.scans_parseAll _).passes hrun
  have hend := Production.drop_eq_nil_of_parseAll (Nat.sub_le _ _) hrun
  rw [Document.drop_add_of_drop htokens] at hend
  rw [List.drop_zero, hend, List.append_nil] at htokens
  rw [htokens]
  exact hused

/-- A token that is blamed cannot stand where it does in any document. -/
theorem not_begins_of_error {document : Document} {read rest : List Token} {token : Token}
    {failure : Failure} (htokens : document.tokens = read ++ token :: rest)
    (hrun : Grammar.parse document 0 = .error failure read.length) :
    ¬ Shape.Begins (read ++ [token]) := by
  rintro ⟨more, _, hshape⟩
  let other : Document := ⟨document.source, read ++ [token] ++ more⟩
  have hagrees : document.AgreesTo other read.length := by
    intro i hi
    have hlt : i < (read ++ [token]).length := by
      rw [List.length_append, List.length_singleton]
      omega
    have hsplit : document.tokens = read ++ [token] ++ rest := by simp [htokens]
    rw [hsplit, List.getElem?_append_left hlt, List.getElem?_append_left hlt]
  obtain ⟨failure', hother⟩ := scans_parse.error_of_agrees hrun hagrees
  have hdocument : DocumentShape other.tokens := hshape
  obtain ⟨grammar, hread⟩ := hdocument.exists_grammar
  rw [Parse.run, hother] at hread
  cases hread

theorem misplaces_of_error {document : Document} {failure : Failure} {stop : Nat}
    (hrun : Grammar.parse document 0 = .error failure stop) :
    document.Misplaces Shape 0 failure ∧
      (failure.kind = .unexpectedEnd → Shape.Begins document.tokens) := by
  obtain ⟨read, rest, htokens, hread, hblames, rfl⟩ := scans_parse.fails hrun
  rw [Nat.zero_add] at hrun
  have hall : document.tokens = read ++ rest := by rw [← htokens, List.drop_zero]
  refine ⟨Document.misplaces_of_begins htokens hread ?_ hblames, ?_⟩
  · intro token htoken
    obtain ⟨more, rfl⟩ := List.head?_eq_some_iff.mp htoken
    exact not_begins_of_error hall hrun
  · intro hkind
    cases rest with
    | nil => rwa [hall, List.append_nil]
    | cons token rest =>
        obtain ⟨expected, rfl⟩ := hblames
        cases hkind

/-- A failure of reading a grammar blames the first token up to which the tokens begin no
document, or the end of the input if all of them do. Reading fails exactly where the tokens are
no document. -/
theorem run_parse_misplaces (document : Document) :
    (∀ failure, Grammar.parse.run document = .error failure →
      document.Misplaces Shape 0 failure ∧
      (failure.kind = .unexpectedEnd → Shape.Begins document.tokens)) ∧
    ((∃ failure, Grammar.parse.run document = .error failure) ↔
      ¬ DocumentShape document.tokens) := by
  refine ⟨?_, ?_, ?_⟩
  · intro failure h
    rw [Parse.run] at h
    cases hrun : Grammar.parse document 0 with
    | ok grammar stop =>
        rw [hrun] at h
        cases h
    | error failure' stop =>
        rw [hrun] at h
        obtain rfl : failure' = failure := Except.error.inj h
        exact misplaces_of_error hrun
  · rintro ⟨failure, h⟩ hshape
    obtain ⟨grammar, hread⟩ := hshape.exists_grammar
    rw [hread] at h
    cases h
  · intro hshape
    cases h : Grammar.parse.run document with
    | error failure => exact ⟨failure, rfl⟩
    | ok grammar => exact absurd (documentShape_of_run_parse h) hshape

/-- The wrong bracket is blamed, though what it should have closed lies within another one. With
nothing in its place, the document could still be completed. -/
theorem run_parse_misplaces_nested :
    let token (kind : TokenKind) (text : String) (offset : Nat) : Token :=
      ⟨kind, ⟨"", ⟨offset, 1, offset + 1⟩⟩, ⟨offset, offset + 1⟩, text⟩
    let opened := [token .ident "A" 0, token .other "=" 2, token .other "(" 4,
      token .other "\x7b" 6, token .ident "B" 8]
    let wrong := token .other "]" 10
    let document : Document :=
      ⟨{ text := "A = ( \x7b B ] ." }, opened ++ [wrong, token .other "." 12]⟩
    let failure := document.failAt wrong (.mismatch "OTHER(\x7d)" "OTHER(])")
    let cut : Document := ⟨{ text := "A = ( \x7b B" }, opened⟩
    (Grammar.parse.run document = .error failure ∧ document.Misplaces Shape 0 failure ∧
      ¬ DocumentShape document.tokens) ∧
    Grammar.parse.run cut = .error cut.endFailure ∧ Shape.Begins cut.tokens := by
  intro token opened wrong document failure cut
  have hrun : Grammar.parse.run document = .error failure := by
    unfold failure document wrong opened token
    rfl
  have hcut : Grammar.parse.run cut = .error cut.endFailure := by
    unfold cut opened token
    rfl
  obtain ⟨hplaced, hfails⟩ := run_parse_misplaces document
  refine ⟨⟨hrun, (hplaced failure hrun).1, hfails.mp ⟨failure, hrun⟩⟩, hcut, ?_⟩
  exact ((run_parse_misplaces cut).1 _ hcut).2 rfl

end MailRules.Ebnf.Grammar

import MailRules.Proofs.Parse.Alternative
import MailRules.Proofs.Token.Segmentation

/-!
# Documents that come from a source

The tokens of a source stand one behind the other, and none of them is empty. Both are
facts about the segmentation of the text and follow by induction on it.
-/

namespace MailRules

namespace Segment

/-- The tokens behind a text start where the text ends, or later. -/
theorem le_start_of_mem (source : Source) {segments : List Segment} :
    ∀ {before : List Char}, ∀ token ∈ tokens source before segments,
      byteSize before ≤ token.span.start := by
  induction segments with
  | nil => simp [tokens]
  | cons segment segments ih =>
      intro before token htoken
      rcases List.mem_cons.mp htoken with rfl | htail
      · show byteSize before ≤ byteSize (before ++ segment.gap)
        rw [byteSize_append]
        omega
      · have hlater := ih token htail
        rw [List.append_assoc, byteSize_append] at hlater
        omega

end Segment

namespace Segmented

theorem pairwise_tokens {text trailing : List Char} {segments : List Segment}
    (h : Segmented text segments trailing) (source : Source) :
    ∀ before, (Segment.tokens source before segments).Pairwise fun first second =>
      first.span.stop ≤ second.span.start := by
  induction h with
  | last => exact fun _ => .nil
  | next segment _ _ _ ih =>
      intro before
      refine .cons ?_ (ih _)
      intro later hlater
      exact Segment.le_start_of_mem source later hlater

theorem start_lt_stop {text trailing : List Char} {segments : List Segment}
    (h : Segmented text segments trailing) (source : Source) :
    ∀ before, ∀ token ∈ Segment.tokens source before segments,
      token.span.start < token.span.stop := by
  induction h with
  | last => simp [Segment.tokens]
  | next segment _ hlexeme _ ih =>
      intro before token htoken
      rcases List.mem_cons.mp htoken with rfl | htail
      · obtain ⟨c, body, hwritten⟩ := hlexeme.exists_cons
        have hpos : 0 < byteSize segment.written := byteSize_pos (by simp [hwritten])
        show byteSize (before ++ segment.gap) < byteSize (before ++ segment.gap ++ segment.written)
        rw [byteSize_append (before ++ segment.gap)]
        omega
      · exact ih _ token htail

end Segmented

namespace Document

/-- A source makes a document if it lexes, and then the one with its tokens. -/
theorem ofSource_eq_ok_iff {source : Source} {document : Document} :
    Document.ofSource source = .ok document ↔
      document.source = source ∧ source.lex = .ok document.tokens := by
  unfold ofSource
  cases source.lex with
  | error failure =>
      constructor
      · rintro ⟨⟩
      · rintro ⟨-, ⟨⟩⟩
  | ok tokens =>
      constructor
      · rintro ⟨⟩
        exact ⟨rfl, rfl⟩
      · rintro ⟨rfl, ⟨⟩⟩
        rfl

theorem ofSource_eq_error_iff {source : Source} {failure : Failure} :
    Document.ofSource source = .error failure ↔ source.lex = .error failure := by
  unfold ofSource
  cases source.lex with
  | error failure' =>
      constructor
      · rintro ⟨⟩
        rfl
      · rintro ⟨⟩
        rfl
  | ok tokens =>
      constructor
      · rintro ⟨⟩
      · rintro ⟨⟩

/-- The document of a source comes from the segmentation of its text. -/
theorem exists_segmented_of_ofSource {source : Source} {document : Document}
    (h : ofSource source = .ok document) :
    ∃ segments trailing, Segmented source.text.toList segments trailing ∧
      document = ⟨source, Segment.tokens source [] segments⟩ := by
  obtain ⟨rfl, hlex⟩ := ofSource_eq_ok_iff.mp h
  obtain ⟨segments, trailing, hsegmented⟩ := Segmented.exists_of_ofPieces hlex
  have htokens := Token.ofPieces_segmented hsegmented document.source []
  exact ⟨segments, trailing, hsegmented,
    congrArg (Document.mk document.source) (Except.ok.inj (hlex.symm.trans htokens))⟩

/-- The tokens of a source are in order. -/
theorem ordered_of_ofSource {source : Source} {document : Document}
    (h : ofSource source = .ok document) : document.Ordered := by
  obtain ⟨segments, trailing, hsegmented, rfl⟩ := exists_segmented_of_ofSource h
  exact ⟨hsegmented.pairwise_tokens source [], hsegmented.start_lt_stop source []⟩

end Document

/-- Reads all tokens of a document. -/
def Parse.toEnd {α : Type} (parser : Parse α) : Parse α := do
  let value ← parser
  expectEnd
  return value

/-- Reading all tokens fails where the parser fails, or at the first token that it leaves. -/
theorem Parse.run_toEnd {α : Type} (parser : Parse α) (document : Document) :
    parser.toEnd.run document =
      match parser document 0 with
      | .ok value stop =>
        match document.tokens[stop]? with
        | none => .ok value
        | some token => .error (document.failAt token (.trailingInput token.render))
      | .error failure _ => .error failure := by
  rw [run, toEnd]
  cases hparser : parser document 0 with
  | error failure stop => rw [bind_of_error hparser]
  | ok value stop =>
      have hend := expectEnd_apply document stop
      rw [bind_of_ok hparser]
      dsimp only
      cases htoken : document.tokens[stop]? with
      | none =>
          rw [htoken] at hend
          rw [bind_of_ok hend]
          rfl
      | some token =>
          rw [htoken] at hend
          rw [bind_of_error hend]

/-- All tokens are read if they are one sequence of what the parser accepts. -/
theorem Parse.Accepts.run_toEnd_eq_ok_iff {α : Type} {parser : Parse α} {phrase : Phrase α}
    (h : Accepts parser phrase) {document : Document} {value : α} :
    parser.toEnd.run document = .ok value ↔ phrase document.tokens value := by
  rw [run_toEnd]
  constructor
  · intro hrun
    cases hparser : parser document 0 with
    | error failure stop =>
        rw [hparser] at hrun
        cases hrun
    | ok value' stop =>
        rw [hparser] at hrun
        cases htoken : document.tokens[stop]? with
        | some token =>
            simp only [htoken] at hrun
            cases hrun
        | none =>
            simp only [htoken] at hrun
            obtain rfl := Except.ok.inj hrun
            obtain ⟨used, rest, htokens, hused, rfl⟩ := (h _ _ _ _).mp hparser
            rw [List.drop_zero] at htokens
            have hlength := List.getElem?_eq_none_iff.mp htoken
            rw [htokens, List.length_append, Nat.zero_add] at hlength
            have hrest : rest = [] := List.eq_nil_of_length_eq_zero (by omega)
            rwa [htokens, hrest, List.append_nil]
  · intro hphrase
    have hparser : parser document 0 = .ok value (0 + document.tokens.length) :=
      (h _ _ _ _).mpr ⟨document.tokens, [], by simp, hphrase, rfl⟩
    have hend : document.tokens[0 + document.tokens.length]? = none :=
      List.getElem?_eq_none (by omega)
    simp only [hparser, hend]

/-- What is read as a whole has a document. -/
theorem Parse.exists_ofSource_of_whole {α : Type} {source : Source} {parser : Parse α}
    {value : α} (h : parser.whole source = .ok value) :
    ∃ document, Document.ofSource source = .ok document := by
  cases hsource : Document.ofSource source with
  | error failure =>
      rw [whole, hsource] at h
      cases h
  | ok document => exact ⟨document, rfl⟩

theorem Parse.exists_lex_of_whole {α : Type} {source : Source} {parser : Parse α} {value : α}
    (h : parser.whole source = .ok value) : ∃ tokens, source.lex = .ok tokens := by
  obtain ⟨document, hsource⟩ := exists_ofSource_of_whole h
  exact ⟨document.tokens, (Document.ofSource_eq_ok_iff.mp hsource).2⟩

/-- The whole of a source is read by reading all of its tokens. -/
theorem Parse.whole_eq_run_toEnd {α : Type} {source : Source} {document : Document}
    (h : Document.ofSource source = .ok document) (parser : Parse α) :
    parser.whole source = parser.toEnd.run document := by
  rw [whole, h]
  rfl

theorem Parse.whole_of_ofSource {α : Type} {source : Source} {document : Document}
    (h : Document.ofSource source = .ok document) (parser : Parse α) :
    parser.whole source =
      match parser document 0 with
      | .ok value stop =>
        match document.tokens[stop]? with
        | none => .ok value
        | some token => .error (document.failAt token (.trailingInput token.render))
      | .error failure _ => .error failure := by
  rw [whole_eq_run_toEnd h, run_toEnd]

theorem Parse.whole_eq_ok {α : Type} {source : Source} {document : Document} {parser : Parse α}
    {value : α} (h : Document.ofSource source = .ok document)
    (hwhole : parser.whole source = .ok value) : ∃ stop, parser document 0 = .ok value stop := by
  rw [whole_of_ofSource h] at hwhole
  cases hparser : parser document 0 with
  | error failure stop =>
      rw [hparser] at hwhole
      cases hwhole
  | ok value' stop =>
      rw [hparser] at hwhole
      cases htoken : document.tokens[stop]? with
      | none =>
          simp only [htoken] at hwhole
          obtain rfl := Except.ok.inj hwhole
          exact ⟨stop, rfl⟩
      | some token =>
          simp only [htoken] at hwhole
          cases hwhole

/-- Reading the whole source fails with the failure of the parser, or else at the first token
behind what was read. -/
theorem Parse.whole_eq_error {α : Type} {source : Source} {document : Document} {parser : Parse α}
    {failure : Failure} (h : Document.ofSource source = .ok document)
    (hwhole : parser.whole source = .error failure) :
    (∃ stop, parser document 0 = .error failure stop) ∨
    ∃ value stop token, parser document 0 = .ok value stop ∧
      document.tokens[stop]? = some token ∧
      failure = document.failAt token (.trailingInput token.render) := by
  rw [whole_of_ofSource h] at hwhole
  cases hparser : parser document 0 with
  | error failure' stop =>
      rw [hparser] at hwhole
      obtain rfl := Except.error.inj hwhole
      exact .inl ⟨stop, rfl⟩
  | ok value stop =>
      rw [hparser] at hwhole
      cases htoken : document.tokens[stop]? with
      | none =>
          simp only [htoken] at hwhole
          cases hwhole
      | some token =>
          simp only [htoken] at hwhole
          exact .inr ⟨value, stop, token, rfl, htoken, (Except.error.inj hwhole).symm⟩

end MailRules

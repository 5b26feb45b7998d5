import MailRules.Proofs.Parse.Passage
import MailRules.Proofs.Parse.Placement
import MailRules.Proofs.Token.Anchor

/-!
# Where failures are said to be

A parser makes up no places. Each of its failures points at a token of the document, with the
position and the span that this token has, or it is the one failure for the end of the input.
The latter has the position of the last token and the empty span behind it, and is the only
failure whose span does not start at its position.

For rules this is known from where reading a phrase gets stuck or is refused. For parsers that
are not described by what they get stuck in, failures are followed through the combinators,
with one rule for each way of putting parsers together.
-/

namespace MailRules

/-- The failure points at a token, or is the one for the end of the input. -/
inductive Document.Pins (document : Document) : Failure → Prop where
  | token {token : Token} {kind : Failure.Kind} (htoken : token ∈ document.tokens)
      (hkind : kind ≠ .unexpectedEnd) : Pins document (document.failAt token kind)
  | ending : Pins document document.endFailure

/-- The input of the source ends too early: the failure lies behind the last token, with the
position of this token, or at the end of a source without tokens. -/
def Failure.EndsInput (failure : Failure) (source : Source) : Prop :=
  ∃ tokens, source.lex = .ok tokens ∧
    ((∃ last, tokens.getLast? = some last ∧ failure.position = last.position ∧
      failure.span = .empty last.span.stop) ∨
    (tokens = [] ∧ failure.position = ⟨source.name, ⟨0, 1, 1⟩⟩ ∧
      failure.span = .empty source.size))

/-- The failure says rightly where in the source it is. -/
structure Failure.PlacedIn (failure : Failure) (source : Source) : Prop where
  marks : source.Marks failure.position
  covers : source.Covers failure.span
  start_eq : failure.kind ≠ .unexpectedEnd → failure.span.start = failure.position.place.offset
  endsInput : failure.kind = .unexpectedEnd → failure.EndsInput source

theorem Source.Anchors.placedIn {source : Source} {failure : Failure}
    (h : source.Anchors failure.position failure.span) (hkind : failure.kind ≠ .unexpectedEnd) :
    failure.PlacedIn source :=
  ⟨h.marks, h.covers, fun _ => h.start_eq, fun hend => absurd hend hkind⟩

/-- A lexical failure says rightly where in the source it is. -/
theorem Source.placedIn_of_lex {source : Source} {failure : Failure}
    (h : source.lex = .error failure) : failure.PlacedIn source := by
  obtain ⟨hanchors, hlexical⟩ := (anchors_lex source).2 failure h
  apply hanchors.placedIn
  intro hkind
  rw [hkind] at hlexical
  cases hlexical

namespace Document

variable {document : Document}

/-- At the end of the input the last token is to blame, or the end of a source without any. -/
theorem placedIn_endFailure {source : Source} (h : Document.ofSource source = .ok document) :
    document.endFailure.PlacedIn source := by
  obtain ⟨rfl, hlex⟩ := ofSource_eq_ok_iff.mp h
  have htokens := (Source.anchors_lex document.source).1 document.tokens hlex
  unfold endFailure
  cases hlast : document.tokens.getLast? with
  | none =>
      have hnil : document.tokens = [] := List.getLast?_eq_none_iff.mp hlast
      refine ⟨Source.marks_start _, Source.covers_empty_size _, fun hkind => absurd rfl hkind, ?_⟩
      intro _
      exact ⟨document.tokens, hlex, .inr ⟨hnil, rfl, rfl⟩⟩
  | some last =>
      have hanchors := htokens last (List.mem_of_getLast? hlast)
      refine ⟨hanchors.marks, hanchors.covers.empty_stop, fun hkind => absurd rfl hkind, ?_⟩
      intro _
      exact ⟨document.tokens, hlex, .inl ⟨last, hlast, rfl, rfl⟩⟩

/-- A failure that points at tokens of a source says rightly where it is. -/
theorem Pins.placedIn {source : Source} {failure : Failure} (h : document.Pins failure)
    (hsource : Document.ofSource source = .ok document) : failure.PlacedIn source := by
  cases h with
  | @token token kind htoken hkind =>
      obtain ⟨rfl, hlex⟩ := ofSource_eq_ok_iff.mp hsource
      have hanchors := (Source.anchors_lex document.source).1 document.tokens hlex token htoken
      have hfailure : document.source.Anchors (document.failAt token kind).position
          (document.failAt token kind).span := hanchors
      exact hfailure.placedIn hkind
  | ending => exact placedIn_endFailure hsource

theorem Blames.pins {cursor : Nat} {read rest : List Token} {failure : Failure}
    (h : document.Blames rest failure) (htokens : document.tokens.drop cursor = read ++ rest) :
    document.Pins failure := by
  cases rest with
  | nil =>
      obtain rfl : failure = document.endFailure := h
      exact .ending
  | cons token rest =>
      obtain ⟨expected, rfl⟩ := h
      have hmem : token ∈ document.tokens.drop cursor := by simp [htokens]
      exact .token (List.mem_of_mem_drop hmem) (by simp)

end Document

/-- The comparator of an expression stands at its end. -/
theorem ExprShape.exists_test {used : List Token} {draft : Draft} {test : Test}
    (h : ExprShape used draft) (htest : draft.test? = some test) :
    ∃ front tokens, used = front ++ tokens ∧ TestShape tokens test := by
  cases h with
  | @header keyword left right names test' _ _ hshape =>
      obtain rfl := Option.some.inj htest
      exact ⟨keyword :: left, right, rfl, hshape⟩
  | @message keyword tokens test' _ hshape =>
      obtain rfl := Option.some.inj htest
      exact ⟨[keyword], tokens, rfl, hshape⟩
  | true => cases htest
  | false => cases htest

namespace Parse

variable {α β : Type}

/-- Reading points at the token at which it is stuck or at a token that was refused. -/
theorem Outcome.pins {phrase : Phrase β} {resolve : β → Except Failure α} {document : Document}
    {cursor stop : Nat} {failure : Failure}
    (hrefused : ∀ used said, (∀ token ∈ used, token ∈ document.tokens) → phrase used said →
      resolve said = .error failure → document.Pins failure)
    (h : Outcome phrase resolve document cursor (.error failure stop)) :
    document.Pins failure := by
  cases h with
  | refused used rest htokens hused hfailure =>
      apply hrefused used _ ?_ hused hfailure
      intro token htoken
      have hmem : token ∈ document.tokens.drop cursor := by
        rw [htokens]
        exact List.mem_append_left rest htoken
      exact List.mem_of_mem_drop hmem
  | stuck read rest htokens _ hfailure => exact hfailure.pins htokens

theorem pins_expr {document : Document} (hordered : document.Ordered) {cursor stop : Nat}
    {failure : Failure} (hrun : Parse.expr document cursor = .error failure stop) :
    document.Pins failure := by
  have houtcome := outcome_expr hordered cursor
  rw [hrun] at houtcome
  apply houtcome.pins
  intro used draft hmem hshape hfailure
  obtain ⟨test, htest, hrefuses⟩ := Draft.resolve_eq_error hfailure
  obtain ⟨front, tokens, rfl, htokens⟩ := hshape.exists_test htest
  obtain ⟨token, htoken, kind, hkind, rfl⟩ := hrefuses.exists_failAt htokens
  refine .token (hmem token (List.mem_append_right front htoken)) ?_
  rintro rfl
  cases hkind

theorem pins_stmt {document : Document} (hordered : document.Ordered) {cursor stop : Nat}
    {failure : Failure} (hrun : Parse.stmt document cursor = .error failure stop) :
    document.Pins failure := by
  have houtcome := outcome_stmt hordered cursor
  rw [hrun] at houtcome
  apply houtcome.pins
  intro used stmt _ _ hfailure
  cases hfailure

/-- If the failures of a parser are in their places, so are those of reading the whole source
with it. -/
theorem placedIn_whole {source : Source} {failure : Failure} {parser : Parse α}
    (hparser : ∀ document stop, document.Ordered →
      parser document 0 = .error failure stop → document.Pins failure)
    (h : parser.whole source = .error failure) : failure.PlacedIn source := by
  cases hsource : Document.ofSource source with
  | error failure' =>
      rw [whole, hsource] at h
      obtain rfl : failure' = failure := Except.error.inj h
      exact Source.placedIn_of_lex (Document.ofSource_eq_error_iff.mp hsource)
  | ok document =>
      rcases whole_eq_error hsource h with ⟨stop, hrun⟩ | ⟨_, stop, token, -, htoken, rfl⟩
      · have hpins := hparser document stop (Document.ordered_of_ofSource hsource) hrun
        exact hpins.placedIn hsource
      · have hpins : document.Pins (document.failAt token (.trailingInput token.render)) :=
          .token (List.mem_of_getElem? htoken) (by simp)
        exact hpins.placedIn hsource

/-- All failures of the parser point at tokens or at the end of the input. -/
def Pins (parser : Parse α) : Prop :=
  ∀ ⦃document cursor failure stop⦄, parser document cursor = .error failure stop →
    document.Pins failure

namespace Pins

theorem pure (value : α) : Pins (Pure.pure value) := by
  intro document cursor failure stop hrun
  cases hrun

theorem bind {parser : Parse α} {next : α → Parse β} (h : Pins parser)
    (hnext : ∀ value, Pins (next value)) : Pins (parser >>= next) := by
  intro document cursor failure stop hrun
  cases hparser : parser document cursor with
  | error failure' middle =>
      rw [bind_of_error hparser] at hrun
      cases hrun
      exact h hparser
  | ok value middle =>
      rw [bind_of_ok hparser] at hrun
      exact hnext value hrun

theorem current : Pins Parse.current? := by
  intro document cursor failure stop hrun
  cases hrun

theorem isAtEnd : Pins Parse.isAtEnd := by
  rw [isAtEnd_eq]
  exact current.bind fun _ => .pure _

theorem remaining : Pins Parse.remaining := by
  intro document cursor failure stop hrun
  cases hrun

theorem expect (kind : TokenKind) (text : Option String) : Pins (Parse.expect kind text) := by
  intro document cursor failure stop hrun
  rw [expect_apply] at hrun
  cases htoken : document.tokens[cursor]? with
  | none =>
      rw [htoken] at hrun
      cases hrun
      exact .ending
  | some token =>
      rw [htoken] at hrun
      dsimp only at hrun
      split at hrun
      · cases hrun
      · cases hrun
        exact .token (List.mem_of_getElem? htoken) (by simp)

theorem failExpected (expected : String) : Pins (Parse.failExpected expected : Parse α) := by
  intro document cursor failure stop hrun
  rw [failExpected_apply] at hrun
  cases htoken : document.tokens[cursor]? with
  | none =>
      rw [htoken] at hrun
      cases hrun
      exact .ending
  | some token =>
      rw [htoken] at hrun
      cases hrun
      exact .token (List.mem_of_getElem? htoken) (by simp)

/-- Nothing comes after a parser that always fails. -/
theorem failExpected_bind (expected : String) (next : α → Parse β) :
    Pins (Parse.failExpected expected >>= next) := by
  intro document cursor failure stop hrun
  rw [bind_of_error (failExpected_apply expected document cursor)] at hrun
  cases hrun
  exact failExpected (α := α) expected (failExpected_apply expected document cursor)

theorem expectOther (text : String) : Pins (Parse.expectOther text) :=
  (expect .other (some text)).bind fun _ => pure ()

/-- A sign that is not there is no failure. -/
theorem accept (text : String) : Pins (Parse.accept text) := by
  intro document cursor failure stop hrun
  rw [accept_apply] at hrun
  split at hrun
  · cases hrun
  · cases hrun

end Pins
end Parse

end MailRules

import MailRules.Proofs.Parse.Lexed
import MailRules.Proofs.Parse.Recognition
import MailRules.Proofs.Rule.Comparator

/-!
# Where reading a rule fails

A failure is semantic exactly if the tokens begin with a complete shape, and then it
points at the operator or at the first value that is no pattern. Otherwise it points at
the first token up to which the tokens are not the beginning of any shape. If there is
no such token, the input ends too early.

The parser itself only compares the offsets of the failures of its alternatives. That
this finds the right place is due to the tokens of a source being in order.
-/

namespace MailRules

namespace Document

variable {α : Type}

/-- The failure says why the operator and the values of `test` make no comparator. -/
def Refuses (document : Document) (test : Test) (failure : Failure) : Prop :=
  (test.op.text ∉ Operator.keywords ∧
    failure = document.failAt test.op (.unknownOperator test.op.text)) ∨
  (test.op.text ∈ Operator.keywords ∧
    ∃ before value after fault, test.values = before ++ value :: after ∧
      (∀ earlier ∈ before, ∃ pattern, Pattern.compile earlier.text = .ok pattern) ∧
      Pattern.compile value.text = .error fault ∧
      failure = document.failAt value (.invalidPattern value.text fault))

/-- The failure blames the first token up to which the tokens from `start` on do not
begin the phrase, or the end of the input if there is no such token. -/
def Misplaces (document : Document) (phrase : Phrase α) (start : Nat) (failure : Failure) : Prop :=
  (∃ k token expected, start ≤ k ∧ document.tokens[k]? = some token ∧
    (∀ m, start ≤ m → m < k → phrase.Begins (document.tokens.extract start (m + 1))) ∧
    ¬ phrase.Begins (document.tokens.extract start (k + 1)) ∧
    failure = document.failAt token (.mismatch expected token.render)) ∨
  ((∀ m, start ≤ m → m < document.tokens.length →
    phrase.Begins (document.tokens.extract start (m + 1))) ∧ failure = document.endFailure)

/-- What is blamed is the first place at which the tokens go wrong, if what was read before it
begins the phrase and does not together with the next token. -/
theorem misplaces_of_begins {document : Document} {phrase : Phrase α} {start : Nat}
    {read rest : List Token} {failure : Failure}
    (htokens : document.tokens.drop start = read ++ rest) (hbegins : phrase.Begins read)
    (hstops : ∀ token ∈ rest.head?, ¬ phrase.Begins (read ++ [token]))
    (hfailure : document.Blames rest failure) : document.Misplaces phrase start failure := by
  have hread : ∀ m, start ≤ m → m < start + read.length →
      phrase.Begins (document.tokens.extract start (m + 1)) := by
    intro m hle hlt
    rw [List.extract_eq_take_drop, htokens, List.take_append_of_le_length (by omega)]
    refine Phrase.Begins.of_append (read.drop (m + 1 - start)) ?_
    rw [List.take_append_drop]
    exact hbegins
  cases rest with
  | nil =>
      refine .inr ⟨fun m hle hlt => hread m hle ?_, hfailure⟩
      have hlength := congrArg List.length htokens
      rw [List.length_drop, List.append_nil] at hlength
      omega
  | cons token rest =>
      obtain ⟨expected, hfailure⟩ := hfailure
      refine .inl ⟨start + read.length, token, expected, Nat.le_add_right _ _,
        getElem?_of_drop (drop_add_of_drop htokens), hread, ?_, hfailure⟩
      have hextract :
          document.tokens.extract start (start + read.length + 1) = read ++ [token] := by
        rw [List.extract_eq_take_drop, htokens, Nat.add_assoc, Nat.add_sub_cancel_left,
          List.take_length_add_append]
        rfl
      rw [hextract]
      exact hstops token rfl

/-- Where reading is stuck is the first place at which the tokens go wrong. -/
theorem misplaces_of_stuck {document : Document} {phrase : Phrase α} {start : Nat}
    {read rest : List Token} {failure : Failure}
    (htokens : document.tokens.drop start = read ++ rest) (hstuck : phrase.Stuck read rest)
    (hfailure : document.Blames rest failure) : document.Misplaces phrase start failure :=
  misplaces_of_begins htokens hstuck.begins hstuck.stops hfailure

end Document

namespace Test

/-- Only a refused comparator makes a complete test fail. -/
theorem resolve_eq_error {document : Document} {test : Test} {failure : Failure}
    (h : test.resolve document = .error failure) :
    ∃ refusal, test.comparator = .error refusal ∧ failure = test.failure document refusal := by
  unfold resolve at h
  cases hcomparator : test.comparator with
  | ok comparator =>
      rw [hcomparator] at h
      cases h
  | error refusal =>
      rw [hcomparator] at h
      exact ⟨refusal, rfl, (Except.error.inj h).symm⟩

/-- The failure of a test points at the token that it is refused for. -/
theorem refuses {document : Document} {test : Test} {refusal : Comparator.Refusal}
    (h : test.comparator = .error refusal) :
    document.Refuses test (test.failure document refusal) := by
  rcases Comparator.ofKeyword_eq_error h with ⟨hkeyword, rfl⟩ |
    ⟨hkeyword, before, value, after, fault, hvalues, hbefore, hvalue, rfl⟩
  · exact .inl ⟨hkeyword, rfl⟩
  · obtain ⟨before', rest, hsplit, rfl, hrest⟩ := List.map_eq_append_iff.mp hvalues
    obtain ⟨token, after', rfl, rfl, rfl⟩ := List.map_eq_cons_iff.mp hrest
    refine .inr ⟨hkeyword, before', token, after', fault, hsplit, ?_, hvalue, ?_⟩
    · intro earlier hearlier
      exact hbefore earlier.text (List.mem_map_of_mem hearlier)
    · have hindex : test.values[(before'.map Token.text).length]? = some token := by
        rw [hsplit, List.length_map, List.getElem?_append_right (Nat.le_refl _), Nat.sub_self]
        rfl
      simp only [failure, hindex, Option.getD_some]

theorem refuses_of_map_resolve {α : Type} {document : Document} {test : Test} {failure : Failure}
    {f : Comparator → α} (h : (test.resolve document).map f = .error failure) :
    document.Refuses test failure := by
  obtain ⟨refusal, hrefusal, rfl⟩ := resolve_eq_error (map_eq_error_iff.mp h)
  exact refuses hrefusal

end Test

/-- What is refused is one of the tokens of the comparator. -/
theorem Document.Refuses.exists_failAt {document : Document} {test : Test} {failure : Failure}
    {tokens : List Token} (h : document.Refuses test failure) (hshape : TestShape tokens test) :
    ∃ token ∈ tokens, ∃ kind, kind.category = .semantic ∧
      failure = document.failAt token kind := by
  obtain ⟨_, hvalues⟩ := hshape
  rcases h with ⟨-, rfl⟩ | ⟨-, before, value, after, fault, hsplit, -, -, rfl⟩
  · exact ⟨_, List.mem_cons_self, _, rfl, rfl⟩
  · have hvalue : value ∈ before ++ value :: after := by simp
    rw [← hsplit] at hvalue
    exact ⟨value, List.mem_cons_of_mem _ (hvalues.mem value hvalue), _, rfl, rfl⟩

theorem Document.Refuses.span_mem {document : Document} {test : Test} {failure : Failure}
    {tokens : List Token} (h : document.Refuses test failure) (hshape : TestShape tokens test) :
    ∃ token ∈ tokens, failure.span = token.span := by
  obtain ⟨token, htoken, _, -, rfl⟩ := h.exists_failAt hshape
  exact ⟨token, htoken, rfl⟩

/-- Only a draft with a comparator can be refused, and it is refused for it. -/
theorem Draft.resolve_eq_error {document : Document} {draft : Draft} {failure : Failure}
    (h : draft.resolve document = .error failure) :
    ∃ test, draft.test? = some test ∧ document.Refuses test failure := by
  cases draft with
  | header names test => exact ⟨test, rfl, Test.refuses_of_map_resolve h⟩
  | message test => exact ⟨test, rfl, Test.refuses_of_map_resolve h⟩
  | bool value => cases h

namespace Parse

/-- A draft is refused for its test, so if this stands behind the first token, the failure
lies there as well. -/
theorem refusedLate_of_test {phrase : Phrase Draft} (document : Document)
    (h : ∀ ⦃used draft test⦄, phrase used draft → draft.test? = some test →
      ∃ front tokens, used.tail = front ++ tokens ∧ TestShape tokens test) :
    RefusedLate phrase (Draft.resolve document) := by
  intro used draft failure hused hfailure
  obtain ⟨test, htest, hrefuses⟩ := Draft.resolve_eq_error hfailure
  obtain ⟨front, tokens, htail, hshape⟩ := h hused htest
  obtain ⟨token, htoken, hspan⟩ := hrefuses.span_mem hshape
  exact ⟨token, htail ▸ List.mem_append_right front htoken, hspan⟩

theorem refusedLate_header (document : Document) :
    RefusedLate Phrase.header (Draft.resolve document) := by
  apply refusedLate_of_test
  rintro _ _ test ⟨said, ⟨left, _, rfl, hkeyword, names, tokens, rfl, -, hshape⟩, rfl⟩ htest
  obtain rfl := Option.some.inj htest
  rcases hkeyword with ⟨rfl, -⟩ | ⟨rfl, -⟩
  · exact ⟨names, tokens, rfl, hshape⟩
  · exact ⟨names, tokens, rfl, hshape⟩

theorem refusedLate_message (document : Document) :
    RefusedLate Phrase.message (Draft.resolve document) := by
  apply refusedLate_of_test
  rintro _ _ test ⟨said, ⟨_, tokens, rfl, ⟨rfl, -⟩, hshape⟩, rfl⟩ htest
  obtain rfl := Option.some.inj htest
  exact ⟨[], tokens, rfl, hshape⟩

theorem refusedLate_bool (document : Document) :
    RefusedLate (Phrase.bool.map .bool) (Draft.resolve document) := by
  apply refusedLate_of_test
  rintro _ _ test ⟨value, -, rfl⟩ htest
  cases htest

theorem refusedLate_ok {α : Type} (phrase : Phrase α) : RefusedLate phrase Except.ok := by
  intro used said failure _ h
  cases h

/-- In an ordered document, reading an expression reads its shape. -/
theorem outcome_expr {document : Document} (hordered : document.Ordered) (cursor : Nat) :
    Outcome ExprShape (Draft.resolve document) document cursor (Parse.expr document cursor) := by
  rw [exprShape_eq]
  have hfirst := Outcome.either hordered Phrase.header_apart_message (refusedLate_header document)
    (refusedLate_message document) (.attempt _) (reads_exprHeader document cursor)
    (reads_exprMessage document cursor)
  exact .either hordered Phrase.header_or_message_apart_bool
    ((refusedLate_header document).or (refusedLate_message document)) (refusedLate_bool document)
    (.either (.attempt _) (.attempt _)) hfirst (reads_predBool document cursor)

/-- In an ordered document, reading a statement reads its shape. -/
theorem outcome_stmt {document : Document} (hordered : document.Ordered) (cursor : Nat) :
    Outcome StmtShape Except.ok document cursor (Parse.stmt document cursor) := by
  rw [stmtShape_eq]
  have hfirst := Outcome.either hordered Phrase.label_apart_mark (refusedLate_ok _)
    (refusedLate_ok _) (.attempt _) (reads_stmtLabel document cursor)
    (reads_stmtMark document cursor)
  have hsecond := Outcome.either hordered Phrase.label_or_mark_apart_skip (refusedLate_ok _)
    (refusedLate_ok _) (.either (.attempt _) (.attempt _)) hfirst (reads_stmtSkip document cursor)
  exact .either hordered Phrase.label_or_mark_or_skip_apart_stop (refusedLate_ok _)
    (refusedLate_ok _) (.either (.either (.attempt _) (.attempt _)) (.attempt _)) hsecond
    (reads_stmtStop document cursor)

/-- A complete sequence is refused for what it says; without one, the place of the failure
is determined by the phrase alone. -/
theorem Outcome.placed {α β : Type} {phrase : Phrase β} {resolve : β → Except Failure α}
    {document : Document} {start stop : Nat} {failure : Failure} (hfree : phrase.PrefixFree)
    (hnil : ∀ said, ¬ phrase [] said)
    (h : Outcome phrase resolve document start (.error failure stop)) :
    (∀ said stop', document.Spans phrase start stop' said → resolve said = .error failure) ∧
    ((∀ said stop', ¬ document.Spans phrase start stop' said) →
      document.Misplaces phrase start failure) := by
  cases h with
  | refused used rest htokens hused hfailure =>
      constructor
      · intro said stop' hspans
        obtain ⟨used', rest', htokens', hused', -⟩ := (Document.spans_iff hnil).mp hspans
        obtain ⟨rfl, rfl⟩ := hfree hused hused' (htokens.symm.trans htokens')
        exact hfailure
      · intro hnone
        exact absurd ((Document.spans_iff hnil).mpr ⟨used, rest, htokens, hused, rfl⟩) (hnone _ _)
  | stuck read rest htokens hstuck hfailure =>
      constructor
      · intro said stop' hspans
        obtain ⟨used, rest', htokens', hused, -⟩ := (Document.spans_iff hnil).mp hspans
        exact absurd hused (hstuck.not_complete hfree (htokens'.symm.trans htokens) said)
      · exact fun _ => Document.misplaces_of_stuck htokens hstuck hfailure

end Parse

/-- The failures of reading an expression or a statement from a place in a source, and of
reading the whole source. -/
theorem Document.failures_placed {source : Source} {document : Document}
    (h : Document.ofSource source = .ok document) :
    (∀ start failure stop, Parse.expr document start = .error failure stop →
      (∀ draft stop', document.Spans ExprShape start stop' draft →
        ∃ test, draft.test? = some test ∧ document.Refuses test failure) ∧
      ((∀ draft stop', ¬ document.Spans ExprShape start stop' draft) →
        document.Misplaces ExprShape start failure)) ∧
    (∀ start failure stop, Parse.stmt document start = .error failure stop →
      (∀ stmt stop', ¬ document.Spans StmtShape start stop' stmt) ∧
      document.Misplaces StmtShape start failure) ∧
    (∀ failure, source.parseExpr = .error failure →
      (∃ stop, Parse.expr document 0 = .error failure stop) ∨
      ∃ expr stop token, Parse.expr document 0 = .ok expr stop ∧
        document.tokens[stop]? = some token ∧
        failure = document.failAt token (.trailingInput token.render)) ∧
    ∀ failure, source.parseStmt = .error failure →
      (∃ stop, Parse.stmt document 0 = .error failure stop) ∨
      ∃ stmt stop token, Parse.stmt document 0 = .ok stmt stop ∧
        document.tokens[stop]? = some token ∧
        failure = document.failAt token (.trailingInput token.render) := by
  have hordered := Document.ordered_of_ofSource h
  refine ⟨?_, ?_, ?_, ?_⟩
  · intro start failure stop hrun
    have houtcome := Parse.outcome_expr hordered start
    rw [hrun] at houtcome
    obtain ⟨hcomplete, hnone⟩ := houtcome.placed ExprShape.prefixFree ExprShape.starts.ne_nil
    exact ⟨fun draft stop' hspans => Draft.resolve_eq_error (hcomplete draft stop' hspans), hnone⟩
  · intro start failure stop hrun
    have houtcome := Parse.outcome_stmt hordered start
    rw [hrun] at houtcome
    obtain ⟨hcomplete, hnone⟩ := houtcome.placed StmtShape.prefixFree StmtShape.starts.ne_nil
    have hspans : ∀ stmt stop', ¬ document.Spans StmtShape start stop' stmt := by
      intro stmt stop' hspans
      cases hcomplete stmt stop' hspans
    exact ⟨hspans, hnone hspans⟩
  · exact fun failure hfailure => Parse.whole_eq_error h hfailure
  · exact fun failure hfailure => Parse.whole_eq_error h hfailure

/-- A comparator whose value is no pattern. -/
theorem Document.failures_placed_pattern :
    let source : Source := { text := "message matches `+`" }
    let place (offset : Nat) : Position := ⟨"", ⟨offset, 1, offset + 1⟩⟩
    let op : Token := ⟨.ident, place 8, ⟨8, 15⟩, "matches"⟩
    let value : Token := ⟨.string, place 16, ⟨16, 19⟩, "+"⟩
    let document : Document := ⟨source, [⟨.ident, place 0, ⟨0, 7⟩, "message"⟩, op, value]⟩
    let fault : Pattern.Fault := ⟨.repetitionMissing, ⟨.start, .start⟩, none⟩
    let failure := document.failAt value (.invalidPattern "+" fault)
    Document.ofSource source = .ok document ∧ Parse.expr document 0 = .error failure 0 ∧
      document.Spans ExprShape 0 3 (.message ⟨op, [value]⟩) ∧
      ∃ test, (Draft.message ⟨op, [value]⟩).test? = some test ∧ document.Refuses test failure := by
  intro source place op value document fault failure
  have hlex : source.lex = .ok document.tokens := eq_ok_of_toOption (by decide +kernel)
  have h : Document.ofSource source = .ok document := by
    rw [Document.ofSource, hlex]
    rfl
  have hrun : Parse.expr document 0 = .error failure 0 := by
    unfold failure document op value place fault source
    rfl
  have hspans : document.Spans ExprShape 0 3 (.message ⟨op, [value]⟩) :=
    ⟨by decide, by decide, .message ⟨rfl, rfl⟩ (.test rfl (.one rfl))⟩
  exact ⟨h, hrun, hspans, ((Document.failures_placed h).1 0 failure 0 hrun).1 _ 3 hspans⟩

end MailRules

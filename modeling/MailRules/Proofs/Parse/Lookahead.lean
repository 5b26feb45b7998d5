import MailRules.Proofs.Parse.Passage

/-!
# One token ahead

A parser that never puts its cursor back reads the tokens once and decides by the next one. What
it does is then settled by the tokens that it passes over and the one behind them. A document
that has these in common with the first one is read or refused in the same way, however it goes
on from there.

What such a parser has read when it fails can always be completed, and it blames the next token
for not doing so. This says that no failure comes too late, and the former that none comes too
early. There is one rule for each way of putting parsers together. A parser that is bounded by
the tokens that are left is covered as well if more than these make no difference to it.
-/

namespace MailRules

/-- Up to the index the two documents have the same tokens. If one of them ends before it, so
does the other. -/
def Document.AgreesTo (document other : Document) (index : Nat) : Prop :=
  ∀ i ≤ index, other.tokens[i]? = document.tokens[i]?

theorem Document.AgreesTo.of_le {document other : Document} {index index' : Nat}
    (h : document.AgreesTo other index') (hle : index ≤ index') : document.AgreesTo other index :=
  fun i hi => h i (Nat.le_trans hi hle)

namespace Parse

variable {α β : Type}

/-- The parser reads the phrase with the next token as its only guide. -/
structure Scans (parser : Parse α) (phrase : Phrase α) : Prop where
  begins : phrase.Begins []
  passes : Passes parser phrase
  fails : ∀ ⦃document cursor failure stop⦄, parser document cursor = .error failure stop →
    ∃ read rest, document.tokens.drop cursor = read ++ rest ∧ phrase.Begins read ∧
      document.Blames rest failure ∧ stop = cursor + read.length
  ok_of_agrees : ∀ ⦃document other cursor value stop⦄,
    parser document cursor = .ok value stop → document.AgreesTo other stop →
      parser other cursor = .ok value stop
  error_of_agrees : ∀ ⦃document other cursor failure stop⦄,
    parser document cursor = .error failure stop → document.AgreesTo other stop →
      ∃ failure', parser other cursor = .error failure' stop

/-- More than enough room makes no difference. -/
theorem eq_of_enough {parser : Nat → Parse α} {document : Document} {cursor least : Nat}
    (h : ∀ bound, least ≤ bound → parser (bound + 1) document cursor = parser bound document cursor)
    {bound : Nat} (hbound : least ≤ bound) :
    parser bound document cursor = parser least document cursor := by
  induction hbound with
  | refl => rfl
  | step hle ih => exact (h _ hle).trans ih

/-- Two parsers that go alike, followed by parsers that go alike from there. -/
theorem bind_eq_bind {parser parser' : Parse α} {next next' : α → Parse β} {document : Document}
    {cursor : Nat} (h : parser document cursor = parser' document cursor)
    (hnext : ∀ value stop, parser document cursor = .ok value stop →
      next value document stop = next' value document stop) :
    (parser >>= next) document cursor = (parser' >>= next') document cursor := by
  cases hresult : parser document cursor with
  | ok value stop =>
      rw [bind_of_ok hresult, bind_of_ok (h.symm.trans hresult)]
      exact hnext value stop hresult
  | error failure stop => rw [bind_of_error hresult, bind_of_error (h.symm.trans hresult)]

/-- Nothing comes after a parser that always fails. -/
theorem failExpected_bind_eq (expected : String) (next : α → Parse β) :
    (Parse.failExpected expected >>= next) = Parse.failExpected expected := by
  funext document cursor
  rw [bind_of_error (failExpected_apply expected document cursor), failExpected_apply]

namespace Scans

variable {parser : Parse α} {phrase : Phrase α}

theorem le_of_ok (h : Scans parser phrase) {document : Document} {cursor stop : Nat} {value : α}
    (hrun : parser document cursor = .ok value stop) : cursor ≤ stop := by
  obtain ⟨used, rest, -, -, rfl⟩ := h.passes hrun
  exact Nat.le_add_right _ _

theorem le_of_error (h : Scans parser phrase) {document : Document} {cursor stop : Nat}
    {failure : Failure} (hrun : parser document cursor = .error failure stop) : cursor ≤ stop := by
  obtain ⟨read, rest, -, -, -, rfl⟩ := h.fails hrun
  exact Nat.le_add_right _ _

theorem of_pure {value : α} (h : phrase [] value) : Scans (Pure.pure value) phrase where
  begins := ⟨[], value, h⟩
  passes := .of_pure h
  fails := by
    intro document cursor failure stop hrun
    cases hrun
  ok_of_agrees := by
    intro document other cursor value' stop hrun _
    exact hrun
  error_of_agrees := by
    intro document other cursor failure stop hrun _
    cases hrun

/-- To read a phrase with two parsers, the second one must complete what the first has read. -/
theorem complete {phrase : Phrase β} {first : Phrase α} {next : α → Parse β}
    (h : Scans parser first)
    (hnext : ∀ left said, first left said →
      Scans (next said) fun right value => phrase (left ++ right) value) :
    Scans (parser >>= next) phrase := by
  -- Whatever the first parser could have read, the second one could complete.
  have hbegins : ∀ tokens, first.Begins tokens → phrase.Begins tokens := by
    rintro tokens ⟨more, said, hsaid⟩
    obtain ⟨rest, value, hvalue⟩ := (hnext _ said hsaid).begins
    exact ⟨more ++ rest, value, by simpa using hvalue⟩
  refine ⟨hbegins [] h.begins, ?_, ?_, ?_, ?_⟩
  · exact h.passes.complete fun left said hleft => (hnext left said hleft).passes
  · intro document cursor failure stop hrun
    cases hparser : parser document cursor with
    | error failure' stop' =>
        rw [bind_of_error hparser] at hrun
        obtain ⟨rfl, rfl⟩ := EStateM.Result.error.inj hrun
        obtain ⟨read, rest, htokens, hread, hblames, hstop⟩ := h.fails hparser
        exact ⟨read, rest, htokens, hbegins read hread, hblames, hstop⟩
    | ok said middle =>
        rw [bind_of_ok hparser] at hrun
        obtain ⟨left, rest, htokens, hleft, rfl⟩ := h.passes hparser
        obtain ⟨read, rest', htokens', ⟨more, value, hvalue⟩, hblames, rfl⟩ :=
          (hnext left said hleft).fails hrun
        rw [Document.drop_add_of_drop htokens] at htokens'
        refine ⟨left ++ read, rest', ?_, ⟨more, value, ?_⟩, hblames, ?_⟩
        · rw [htokens, htokens', List.append_assoc]
        · rwa [List.append_assoc]
        · rw [List.length_append, Nat.add_assoc]
  · intro document other cursor value stop hrun hagrees
    obtain ⟨said, middle, hparser, hthen⟩ := bind_eq_ok_iff.mp hrun
    obtain ⟨left, -, -, hleft, -⟩ := h.passes hparser
    have hscans := hnext left said hleft
    have hother := h.ok_of_agrees hparser (hagrees.of_le (hscans.le_of_ok hthen))
    rw [bind_of_ok hother]
    exact hscans.ok_of_agrees hthen hagrees
  · intro document other cursor failure stop hrun hagrees
    cases hparser : parser document cursor with
    | error failure' stop' =>
        rw [bind_of_error hparser] at hrun
        obtain ⟨rfl, rfl⟩ := EStateM.Result.error.inj hrun
        obtain ⟨failure'', hother⟩ := h.error_of_agrees hparser hagrees
        exact ⟨failure'', bind_of_error hother⟩
    | ok said middle =>
        rw [bind_of_ok hparser] at hrun
        obtain ⟨left, -, -, hleft, -⟩ := h.passes hparser
        have hscans := hnext left said hleft
        have hother := h.ok_of_agrees hparser (hagrees.of_le (hscans.le_of_error hrun))
        rw [bind_of_ok hother]
        exact hscans.error_of_agrees hrun hagrees

/-- Looking at the token at the cursor reads nothing. -/
theorem current : Scans Parse.current? fun tokens _ => tokens = [] where
  begins := ⟨[], none, rfl⟩
  passes := .current
  fails := by
    intro document cursor failure stop hrun
    cases hrun
  ok_of_agrees := by
    intro document other cursor value stop hrun hagrees
    obtain ⟨rfl, rfl⟩ := EStateM.Result.ok.inj hrun
    have hsame := hagrees cursor (Nat.le_refl _)
    exact congrArg (fun token => EStateM.Result.ok token cursor) hsame
  error_of_agrees := by
    intro document other cursor failure stop hrun _
    cases hrun

theorem isAtEnd : Scans Parse.isAtEnd fun tokens _ => tokens = [] := by
  rw [isAtEnd_eq]
  refine current.complete ?_
  rintro _ next rfl
  exact .of_pure rfl

theorem failExpected (expected : String) (h : phrase.Begins []) :
    Scans (Parse.failExpected expected) phrase where
  begins := h
  passes := .failExpected expected phrase
  fails := by
    intro document cursor failure stop hrun
    obtain rfl := Restores.failExpected expected hrun
    rw [failExpected_apply, ← List.head?_drop] at hrun
    refine ⟨[], _, rfl, h, ?_, rfl⟩
    obtain ⟨rfl, -⟩ := EStateM.Result.error.inj hrun
    cases document.tokens.drop stop with
    | nil => rfl
    | cons token rest => exact ⟨expected, rfl⟩
  ok_of_agrees := by
    intro document other cursor value stop hrun _
    rw [failExpected_apply] at hrun
    cases hrun
  error_of_agrees := by
    intro document other cursor failure stop hrun _
    obtain rfl := Restores.failExpected expected hrun
    exact ⟨_, failExpected_apply expected other stop⟩

theorem expect (kind : TokenKind) (text : Option String) :
    Scans (Parse.expect kind text) (Phrase.token kind text) where
  begins := Phrase.begins_nil_token kind text
  passes := .expect kind text
  fails := by
    intro document cursor failure stop hrun
    obtain rfl := Restores.expect kind text hrun
    rw [expect_apply, ← List.head?_drop] at hrun
    refine ⟨[], _, rfl, Phrase.begins_nil_token kind text, ?_, rfl⟩
    cases htokens : document.tokens.drop stop with
    | nil =>
        rw [htokens] at hrun
        exact (EStateM.Result.error.inj hrun).1.symm
    | cons token rest =>
        simp only [htokens, List.head?_cons] at hrun
        split at hrun
        · cases hrun
        · exact ⟨_, (EStateM.Result.error.inj hrun).1.symm⟩
  ok_of_agrees := by
    intro document other cursor value stop hrun hagrees
    obtain ⟨used, rest, -, -, rfl⟩ := Passes.expect kind text hrun
    rw [expect_apply] at hrun ⊢
    rw [hagrees cursor (Nat.le_add_right _ _)]
    cases htoken : document.tokens[cursor]? with
    | none =>
        rw [htoken] at hrun
        cases hrun
    | some token =>
        simp only [htoken] at hrun ⊢
        split at hrun
        · next hfits => rw [if_pos hfits, hrun]
        · cases hrun
  error_of_agrees := by
    intro document other cursor failure stop hrun hagrees
    obtain rfl := Restores.expect kind text hrun
    rw [expect_apply] at hrun ⊢
    rw [hagrees stop (Nat.le_refl _)]
    cases htoken : document.tokens[stop]? with
    | none => exact ⟨_, rfl⟩
    | some token =>
        simp only [htoken] at hrun ⊢
        split at hrun
        · cases hrun
        · next hfits => exact ⟨_, if_neg hfits⟩

theorem imp {phrase' : Phrase α} (h : Scans parser phrase)
    (himp : ∀ tokens value, phrase tokens value → phrase' tokens value) :
    Scans parser phrase' := by
  have hbegins : ∀ tokens, phrase.Begins tokens → phrase'.Begins tokens := by
    rintro tokens ⟨rest, value, hvalue⟩
    exact ⟨rest, value, himp _ value hvalue⟩
  refine ⟨hbegins [] h.begins, h.passes.imp himp, ?_, h.ok_of_agrees, h.error_of_agrees⟩
  intro document cursor failure stop hrun
  obtain ⟨read, rest, htokens, hread, hblames, hstop⟩ := h.fails hrun
  exact ⟨read, rest, htokens, hbegins read hread, hblames, hstop⟩

theorem kind (kind : TokenKind) :
    Scans (Parse.expect kind none) fun tokens token => tokens = [token] ∧ token.kind = kind :=
  (expect kind none).imp fun _ _ => Phrase.token_none_iff.mp

theorem expectOther (text : String) :
    Scans (Parse.expectOther text) fun tokens _ =>
      ∃ token, tokens = [token] ∧ token.Is .other text := by
  refine (expect .other (some text)).complete fun left token hleft => .of_pure ?_
  rw [List.append_nil]
  exact ⟨token, Phrase.token_some_iff.mp hleft⟩

/-- Whether a sign is there is seen from the next token, and it is never missed. -/
theorem accept (text : String) :
    Scans (Parse.accept text) fun tokens found =>
      if found then ∃ token, tokens = [token] ∧ token.Is .other text else tokens = [] where
  begins := ⟨[], false, rfl⟩
  passes := by
    refine (Passes.accept text).imp ?_
    rintro tokens (_ | _) h
    · exact h
    · exact ⟨h.choose, Phrase.token_some_iff.mp h.choose_spec⟩
  fails := by
    intro document cursor failure stop hrun
    rw [accept_apply] at hrun
    split at hrun
    · cases hrun
    · cases hrun
  ok_of_agrees := by
    intro document other cursor found stop hrun hagrees
    rw [accept_apply] at hrun ⊢
    cases hexpect : Parse.expect .other (some text) document cursor with
    | ok token stop' =>
        simp only [hexpect] at hrun
        obtain ⟨rfl, rfl⟩ := EStateM.Result.ok.inj hrun
        rw [(expect .other (some text)).ok_of_agrees hexpect hagrees]
    | error failure stop' =>
        simp only [hexpect] at hrun
        obtain ⟨rfl, rfl⟩ := EStateM.Result.ok.inj hrun
        obtain ⟨failure', hother⟩ := (expect .other (some text)).error_of_agrees hexpect hagrees
        rw [hother]
  error_of_agrees := by
    intro document other cursor failure stop hrun _
    rw [accept_apply] at hrun
    split at hrun
    · cases hrun
    · cases hrun

/-- A parser that is bounded by what is left of the document, if this is bound enough. -/
theorem bounded {parser : Nat → Parse α} (least : Nat → Nat)
    (h : ∀ bound, Scans (parser bound) phrase)
    (hstable : ∀ document cursor bound, least (document.tokens.length - cursor) ≤ bound →
      parser (bound + 1) document cursor = parser bound document cursor) :
    Scans (Parse.remaining >>= fun count => parser (least count)) phrase := by
  have hrun : ∀ document cursor bound, least (document.tokens.length - cursor) ≤ bound →
      (Parse.remaining >>= fun count => parser (least count)) document cursor =
        parser bound document cursor := by
    intro document cursor bound hbound
    have hcount : Parse.remaining document cursor =
        .ok (document.tokens.length - cursor) cursor := rfl
    rw [bind_of_ok hcount]
    exact (eq_of_enough (hstable document cursor) hbound).symm
  -- Documents that agree may be of different lengths, but the larger bound does for both.
  have hcommon : ∀ (document other : Document) (cursor : Nat), ∃ bound,
      (Parse.remaining >>= fun count => parser (least count)) document cursor =
        parser bound document cursor ∧
      (Parse.remaining >>= fun count => parser (least count)) other cursor =
        parser bound other cursor :=
    fun document other cursor =>
      ⟨_, hrun document cursor _ (Nat.le_max_left _ _), hrun other cursor _ (Nat.le_max_right _ _)⟩
  refine ⟨(h 0).begins, ?_, ?_, ?_, ?_⟩
  · intro document cursor value stop hresult
    rw [hrun document cursor _ (Nat.le_refl _)] at hresult
    exact (h _).passes hresult
  · intro document cursor failure stop hresult
    rw [hrun document cursor _ (Nat.le_refl _)] at hresult
    exact (h _).fails hresult
  · intro document other cursor value stop hresult hagrees
    obtain ⟨bound, hdocument, hother⟩ := hcommon document other cursor
    rw [hdocument] at hresult
    rw [hother]
    exact (h bound).ok_of_agrees hresult hagrees
  · intro document other cursor failure stop hresult hagrees
    obtain ⟨bound, hdocument, hother⟩ := hcommon document other cursor
    rw [hdocument] at hresult
    rw [hother]
    exact (h bound).error_of_agrees hresult hagrees

end Scans
end Parse
end MailRules

import MailRules.Proofs.Parse.Recognition

/-!
# What a parser passes over

The tokens between the cursor before and the cursor after a successful run are what the
parser has read. Saying what they are needs no prefix free phrases and says nothing about
failures, so it also applies to parsers that read as much as they can, and to several
parsers in turn.

Nothing is assumed of where the cursor is. If it is within the document, it stays there.
-/

namespace MailRules

theorem Document.drop_succ_of_drop {document : Document} {cursor : Nat} {token : Token}
    {rest : List Token} (h : document.tokens.drop cursor = token :: rest) :
    document.tokens.drop (cursor + 1) = rest := by
  rw [← List.drop_drop, h, List.drop_one, List.tail_cons]

namespace Phrase

variable {α β : Type}

/-- No tokens at all, which say `value`. -/
def nothing (value : α) : Phrase α := fun tokens said => tokens = [] ∧ said = value

/-- A sequence of one phrase, and then one of a phrase that depends on what the first says. -/
def andThen (first : Phrase α) (second : α → Phrase β) : Phrase β :=
  fun tokens value =>
    ∃ left right said, tokens = left ++ right ∧ first left said ∧ second said right value

end Phrase

namespace Parse

variable {α β γ : Type}

theorem bind_eq_ok_iff {parser : Parse α} {next : α → Parse β} {document : Document}
    {cursor stop : Nat} {value : β} :
    (parser >>= next) document cursor = .ok value stop ↔
      ∃ said middle, parser document cursor = .ok said middle ∧
        next said document middle = .ok value stop := by
  constructor
  · intro h
    cases hparser : parser document cursor with
    | error failure middle =>
        rw [bind_of_error hparser] at h
        cases h
    | ok said middle =>
        rw [bind_of_ok hparser] at h
        exact ⟨said, middle, rfl, h⟩
  · rintro ⟨said, middle, hparser, hnext⟩
    rw [bind_of_ok hparser, hnext]

/-- No token is left where there is none to look at. -/
theorem isAtEnd_eq :
    Parse.isAtEnd = Parse.current? >>= fun next => Pure.pure next.isNone := by
  funext document cursor
  have hleft : decide (document.tokens.length ≤ cursor) = document.tokens[cursor]?.isNone := by
    rw [Bool.eq_iff_iff, decide_eq_true_iff, Option.isNone_iff_eq_none, List.getElem?_eq_none_iff]
  exact congrArg (fun left => EStateM.Result.ok left cursor) hleft

theorem failExpected_apply (expected : String) (document : Document) (cursor : Nat) :
    (Parse.failExpected expected : Parse α) document cursor =
      .error (match document.tokens[cursor]? with
        | some token => document.failAt token (.mismatch expected token.render)
        | none => document.endFailure) cursor := by
  have hcurrent : Parse.current? document cursor = .ok document.tokens[cursor]? cursor := rfl
  rw [Parse.failExpected, bind_of_ok hcurrent]
  cases document.tokens[cursor]? <;> rfl

/-- A sign is asked for as it is, and whether it is there is the answer. -/
theorem accept_apply (text : String) (document : Document) (cursor : Nat) :
    Parse.accept text document cursor =
      match Parse.expect .other (some text) document cursor with
      | .ok _ stop => .ok true stop
      | .error _ stop => .ok false stop := by
  unfold Parse.accept Parse.orElse Parse.expectOther
  cases hexpect : Parse.expect .other (some text) document cursor with
  | ok token stop =>
      rw [bind_of_ok (bind_of_ok hexpect)]
      rfl
  | error failure stop =>
      rw [bind_of_error (bind_of_error hexpect)]
      rfl

theorem expect_of_drop {document : Document} {cursor : Nat} {token : Token} {rest : List Token}
    {text : Option String} (h : document.tokens.drop cursor = token :: rest)
    (htext : text.all (· = token.text)) :
    Parse.expect token.kind text document cursor = .ok token (cursor + 1) := by
  rw [expect_apply, Document.getElem?_of_drop h]
  exact if_pos ⟨rfl, htext⟩

/-- When the parser succeeds, the tokens that it has passed over say the value. -/
def Passes (parser : Parse α) (phrase : Phrase α) : Prop :=
  ∀ ⦃document cursor value stop⦄, parser document cursor = .ok value stop →
    ∃ used rest, document.tokens.drop cursor = used ++ rest ∧ phrase used value ∧
      stop = cursor + used.length

theorem Accepts.passes {parser : Parse α} {phrase : Phrase α} (h : Accepts parser phrase) :
    Passes parser phrase :=
  fun document cursor value stop hrun => (h document cursor value stop).mp hrun

namespace Passes

variable {parser : Parse α} {phrase : Phrase α}

theorem imp {phrase' : Phrase α} (h : Passes parser phrase)
    (himp : ∀ tokens value, phrase tokens value → phrase' tokens value) :
    Passes parser phrase' := by
  intro document cursor value stop hrun
  obtain ⟨used, rest, htokens, hused, hstop⟩ := h hrun
  exact ⟨used, rest, htokens, himp used value hused, hstop⟩

theorem pure (value : α) : Passes (Pure.pure value) (Phrase.nothing value) := by
  intro document cursor value' stop hrun
  obtain ⟨rfl, rfl⟩ := EStateM.Result.ok.inj hrun
  exact ⟨[], document.tokens.drop cursor, rfl, ⟨rfl, rfl⟩, rfl⟩

theorem of_pure {value : α} (h : phrase [] value) : Passes (Pure.pure value) phrase := by
  refine (pure value).imp ?_
  rintro _ _ ⟨rfl, rfl⟩
  exact h

/-- To read a phrase with two parsers, the second one must complete what the first has read. -/
theorem complete {phrase : Phrase β} {first : Phrase α} {next : α → Parse β}
    (h : Passes parser first)
    (hnext : ∀ left said, first left said →
      Passes (next said) fun right value => phrase (left ++ right) value) :
    Passes (parser >>= next) phrase := by
  intro document cursor value stop hrun
  obtain ⟨said, middle, hparser, hthen⟩ := bind_eq_ok_iff.mp hrun
  obtain ⟨left, rest, htokens, hleft, rfl⟩ := h hparser
  obtain ⟨right, rest', htokens', hphrase, rfl⟩ := hnext left said hleft hthen
  rw [Document.drop_add_of_drop htokens] at htokens'
  refine ⟨left ++ right, rest', ?_, hphrase, ?_⟩
  · rw [htokens, htokens', List.append_assoc]
  · rw [List.length_append, Nat.add_assoc]

theorem bind {next : α → Parse β} {second : α → Phrase β} (h : Passes parser phrase)
    (hnext : ∀ said, Passes (next said) (second said)) :
    Passes (parser >>= next) (phrase.andThen second) :=
  h.complete fun left said hleft => (hnext said).imp fun right _ hright =>
    ⟨left, right, said, rfl, hleft, hright⟩

theorem map (h : Passes parser phrase) (f : α → β) :
    Passes (parser >>= fun value => Pure.pure (f value)) (phrase.map f) := by
  refine (h.bind fun value => pure (f value)).imp ?_
  rintro _ _ ⟨left, _, said, rfl, hleft, rfl, rfl⟩
  exact ⟨said, by simpa using hleft, rfl⟩

/-- Changes of the value one after the other are one change. -/
theorem map_map {phrase : Phrase γ} {f : γ → α} (h : Passes parser (phrase.map f)) (g : α → β) :
    Passes (parser >>= fun value => Pure.pure (g value)) (phrase.map fun said => g (f said)) := by
  refine (h.map g).imp ?_
  rintro tokens _ ⟨_, ⟨said, hsaid, rfl⟩, rfl⟩
  exact ⟨said, hsaid, rfl⟩

theorem attempt (h : Passes parser phrase) : Passes (Parse.attempt parser) phrase := by
  intro document cursor value stop hrun
  unfold Parse.attempt at hrun
  cases hparser : parser document cursor with
  | error failure middle =>
      rw [hparser] at hrun
      cases hrun
  | ok value' middle =>
      rw [hparser] at hrun
      obtain ⟨rfl, rfl⟩ := EStateM.Result.ok.inj hrun
      exact h hparser

theorem expect (kind : TokenKind) (text : Option String) :
    Passes (Parse.expect kind text) (Phrase.token kind text) :=
  ((Reads.expect kind text).accepts_all (Phrase.prefixFree_token kind text)).passes

theorem accept (text : String) :
    Passes (Parse.accept text) fun tokens found =>
      if found then ∃ token, Phrase.token .other (some text) tokens token else tokens = [] := by
  intro document cursor found stop hrun
  rw [accept_apply] at hrun
  cases hexpect : Parse.expect .other (some text) document cursor with
  | ok token stop' =>
      rw [hexpect] at hrun
      obtain ⟨rfl, rfl⟩ := EStateM.Result.ok.inj hrun
      obtain ⟨used, rest, htokens, hused, rfl⟩ := expect .other (some text) hexpect
      exact ⟨used, rest, htokens, ⟨token, hused⟩, rfl⟩
  | error failure stop' =>
      rw [hexpect] at hrun
      obtain ⟨rfl, rfl⟩ := EStateM.Result.ok.inj hrun
      exact ⟨[], document.tokens.drop cursor, rfl, rfl, Restores.expect .other (some text) hexpect⟩

/-- Looking at the token at the cursor reads nothing. -/
theorem current : Passes Parse.current? fun tokens _ => tokens = [] := by
  intro document cursor value stop hrun
  obtain ⟨-, rfl⟩ := EStateM.Result.ok.inj hrun
  exact ⟨[], document.tokens.drop cursor, rfl, rfl, rfl⟩

theorem remaining : Passes Parse.remaining fun tokens _ => tokens = [] := by
  intro document cursor value stop hrun
  obtain ⟨-, rfl⟩ := EStateM.Result.ok.inj hrun
  exact ⟨[], document.tokens.drop cursor, rfl, rfl, rfl⟩

/-- A parser that always fails passes over whatever one likes. -/
theorem failExpected (expected : String) (phrase : Phrase α) :
    Passes (Parse.failExpected expected) phrase := by
  intro document cursor value stop hrun
  rw [failExpected_apply] at hrun
  cases hrun

/-- Within the document, what is passed over lies between the two cursors. -/
theorem spans (h : Passes parser phrase) {document : Document} {cursor stop : Nat} {value : α}
    (hcursor : cursor ≤ document.tokens.length) (hrun : parser document cursor = .ok value stop) :
    document.Spans phrase cursor stop value := by
  obtain ⟨used, rest, htokens, hused, rfl⟩ := h hrun
  have hlength := congrArg List.length htokens
  rw [List.length_drop, List.length_append] at hlength
  refine ⟨Nat.le_add_right _ _, by omega, ?_⟩
  rwa [List.extract_eq_take_drop, htokens, Nat.add_sub_cancel_left, List.take_left]

end Passes

namespace Restores

theorem failExpected (expected : String) : Restores (Parse.failExpected expected : Parse α) := by
  intro document cursor failure stop hrun
  rw [failExpected_apply] at hrun
  exact (EStateM.Result.error.inj hrun).2.symm

/-- A parser tried after one that restores the cursor starts at the same place. -/
theorem orElse {first second : Parse α} (hfirst : Restores first) (hsecond : Restores second) :
    Restores (Parse.orElse first second) := by
  intro document cursor failure stop hrun
  unfold Parse.orElse at hrun
  cases hresult : first document cursor with
  | ok value middle =>
      rw [hresult] at hrun
      cases hrun
  | error failure' middle =>
      obtain rfl := hfirst hresult
      rw [hresult] at hrun
      exact hsecond hrun

end Restores
end Parse
end MailRules

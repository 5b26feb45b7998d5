import MailRules.Proofs.Parse.Outcome

/-!
# Alternatives

The alternatives of the rule grammar are apart: the first token decides which of them
can apply. At most one alternative then gets past the first token, and this is the one
whose failure lies further on. The failure of the others points at the first token, so
comparing offsets finds the alternative that was meant.

Offsets are comparable only in a document whose tokens are in order. Which alternative
succeeds does not depend on them, so acceptance is stated for all documents.
-/

namespace MailRules.Parse

variable {α β ε : Type}

/-- What a complete sequence is refused for lies behind its first token. -/
def RefusedLate (phrase : Phrase β) (resolve : β → Except Failure α) : Prop :=
  ∀ ⦃used said failure⦄, phrase used said → resolve said = .error failure →
    ∃ token ∈ used.tail, failure.span = token.span

theorem RefusedLate.or {first second : Phrase β} {resolve : β → Except Failure α}
    (hfirst : RefusedLate first resolve) (hsecond : RefusedLate second resolve) :
    RefusedLate (first.or second) resolve := by
  rintro used said failure (hused | hused) hfailure
  · exact hfirst hused hfailure
  · exact hsecond hused hfailure

namespace Outcome

variable {first second phrase : Phrase β} {resolve : β → Except Failure α} {document : Document}
  {cursor : Nat}

/-- The outcome stays the same beside a phrase that cannot even begin. -/
theorem or_left {result : EStateM.Result Failure Nat α}
    (h : Outcome first resolve document cursor result)
    (hsecond : second.Stuck [] (document.tokens.drop cursor)) :
    Outcome (first.or second) resolve document cursor result := by
  cases h with
  | accepted used rest htokens hused hvalue => exact .accepted _ _ htokens (.inl hused) hvalue
  | refused used rest htokens hused hfailure => exact .refused _ _ htokens (.inl hused) hfailure
  | @stuck read rest _ _ htokens hstuck hfailure =>
      rw [htokens] at hsecond
      exact .stuck _ _ htokens (hstuck.or_left hsecond) hfailure

theorem or_comm {result : EStateM.Result Failure Nat α}
    (h : Outcome (first.or second) resolve document cursor result) :
    Outcome (second.or first) resolve document cursor result := by
  cases h with
  | accepted used rest htokens hused hvalue => exact .accepted _ _ htokens hused.symm hvalue
  | refused used rest htokens hused hfailure => exact .refused _ _ htokens hused.symm hfailure
  | stuck read rest htokens hstuck hfailure => exact .stuck _ _ htokens hstuck.or_comm hfailure

/-- A failure lies behind the first token, or the first token does not begin the phrase. -/
theorem late_or_stuck (hordered : document.Ordered) (hnil : ∀ said, ¬ phrase [] said)
    (hlate : RefusedLate phrase resolve) {failure : Failure} {cursor' : Nat}
    (h : Outcome phrase resolve document cursor (.error failure cursor')) :
    (∃ token rest, document.tokens.drop cursor = token :: rest ∧ phrase.Begins [token] ∧
      token.span.start < failure.span.start) ∨
    (phrase.Stuck [] (document.tokens.drop cursor) ∧
      document.Blames (document.tokens.drop cursor) failure) := by
  cases h with
  | @refused used rest said _ _ htokens hused hfailure =>
      cases used with
      | nil => exact absurd hused (hnil said)
      | cons token used =>
          obtain ⟨later, hlater, hspan⟩ := hlate hused hfailure
          refine .inl ⟨token, used ++ rest, htokens, Phrase.begins_of_eq_append used hused rfl, ?_⟩
          rw [hspan]
          exact Nat.lt_of_lt_of_le (hordered.start_lt_stop htokens)
            (hordered.stop_le_start htokens (List.mem_append_left rest hlater))
  | @stuck read rest _ _ htokens hstuck hfailure =>
      cases read with
      | nil =>
          obtain rfl : document.tokens.drop cursor = rest := htokens
          exact .inr ⟨hstuck, hfailure⟩
      | cons token read =>
          refine .inl ⟨token, read ++ rest, htokens, ?_, hordered.start_lt htokens hfailure⟩
          exact Phrase.Begins.of_append read hstuck.begins

end Outcome

/-- Of the failures of two phrases that are apart, the one further on is that of the phrase
that got past the first token. -/
theorem Outcome.furthest {first second : Phrase β} {resolve : β → Except Failure α}
    {document : Document} {cursor stop stop' : Nat} {failure failure' : Failure}
    (hordered : document.Ordered) (hapart : first.Apart second)
    (hfirst : RefusedLate first resolve) (hsecond : RefusedLate second resolve)
    (hleft : Outcome first resolve document cursor (.error failure stop))
    (hright : Outcome second resolve document cursor (.error failure' stop')) :
    Outcome (first.or second) resolve document cursor
      (.error (failure.furthest failure') stop') := by
  unfold Failure.furthest
  rcases hleft.late_or_stuck hordered hapart.left_ne_nil hfirst with
    ⟨token, rest, htokens, hbegins, hstart⟩ | ⟨hstuck, hblames⟩
  · rcases hright.late_or_stuck hordered hapart.right_ne_nil hsecond with
      ⟨_, _, htokens', hbegins', -⟩ | ⟨hstuck', hblames'⟩
    · obtain rfl := (List.cons.inj (htokens.symm.trans htokens')).1
      exact absurd hbegins' (hapart.disjoint _ hbegins)
    · rw [htokens] at hblames'
      rw [if_neg (by rw [hblames'.start_eq]; omega)]
      exact (hleft.or_left hstuck').restart
  · rcases hright.late_or_stuck hordered hapart.right_ne_nil hsecond with
      ⟨token, rest, htokens, -, hstart⟩ | ⟨hstuck', -⟩
    · rw [htokens] at hblames
      rw [if_pos (by rw [hblames.start_eq]; omega)]
      exact (hright.or_left hstuck).or_comm
    -- Both point at the same token, and either choice blames it.
    · split
      · exact (hright.or_left hstuck).or_comm
      · exact (hleft.or_left hstuck').restart

/-- In an ordered document two alternatives that are apart read either phrase. -/
theorem Outcome.either {first second : Phrase β} {resolve : β → Except Failure α}
    {document : Document} {cursor : Nat} {left right : Parse α} (hordered : document.Ordered)
    (hapart : first.Apart second) (hfirst : RefusedLate first resolve)
    (hsecond : RefusedLate second resolve) (hrestores : Restores left)
    (hleft : Outcome first resolve document cursor (left document cursor))
    (hright : Outcome second resolve document cursor (right document cursor)) :
    Outcome (first.or second) resolve document cursor
      (Parse.either left right document cursor) := by
  unfold Parse.either
  cases hresult : left document cursor with
  | ok value stop =>
      rw [hresult] at hleft
      cases hleft with
      | accepted used rest htokens hused hvalue => exact .accepted _ _ htokens (.inl hused) hvalue
  | error failure stop =>
      obtain rfl := hrestores hresult
      rw [hresult] at hleft
      dsimp only
      cases hresult' : right document stop with
      | ok value stop' =>
          rw [hresult'] at hright
          cases hright with
          | accepted used rest htokens hused hvalue =>
              exact .accepted _ _ htokens (.inr hused) hvalue
      | error failure' stop' =>
          rw [hresult'] at hright
          exact .furthest hordered hapart hfirst hsecond hleft hright

/-- Alternatives that restore the cursor do so together. -/
theorem Restores.either {left right : Parse α} (hleft : Restores left) (hright : Restores right) :
    Restores (Parse.either left right) := by
  intro document cursor failure stop hrun
  unfold Parse.either at hrun
  cases hresult : left document cursor with
  | ok value stop' =>
      rw [hresult] at hrun
      cases hrun
  | error failure' stop' =>
      obtain rfl := hleft hresult
      rw [hresult] at hrun
      dsimp only at hrun
      cases hresult' : right document stop' with
      | ok value stop'' =>
          rw [hresult'] at hrun
          cases hrun
      | error failure'' stop'' =>
          rw [hresult'] at hrun
          cases hrun
          exact hright hresult'

/-- The parser succeeds exactly on the sequences of the phrase, with what they say. -/
def Accepts (parser : Parse α) (phrase : Phrase α) : Prop :=
  ∀ document cursor value stop, parser document cursor = .ok value stop ↔
    ∃ used rest, document.tokens.drop cursor = used ++ rest ∧ phrase used value ∧
      stop = cursor + used.length

/-- What a parser accepts is the phrase that it reads, less what is refused. -/
theorem Reads.accepts {parser : Parse α} {phrase : Phrase β}
    {resolve : Document → β → Except Failure α} (h : Reads parser phrase resolve)
    (hfree : phrase.PrefixFree) {node : β → Except ε α}
    (hnode : ∀ document said value, resolve document said = .ok value ↔ node said = .ok value) :
    Accepts parser (phrase.resolve node) := by
  intro document cursor value stop
  rw [(h document cursor).eq_ok_iff hfree]
  constructor
  · rintro ⟨used, rest, said, htokens, hused, hvalue, rfl⟩
    exact ⟨used, rest, htokens, ⟨said, hused, (hnode _ _ _).mp hvalue⟩, rfl⟩
  · rintro ⟨used, rest, htokens, ⟨said, hused, hvalue⟩, rfl⟩
    exact ⟨used, rest, said, htokens, hused, (hnode _ _ _).mpr hvalue, rfl⟩

/-- A parser that refuses nothing accepts the whole phrase. -/
theorem Reads.accepts_all {parser : Parse α} {phrase : Phrase α}
    (h : Reads parser phrase fun _ value => .ok value) (hfree : phrase.PrefixFree) :
    Accepts parser phrase := by
  have haccepts := h.accepts hfree fun _ _ _ => Iff.rfl
  rwa [Phrase.resolve_ok] at haccepts

theorem either_of_ok {left right : Parse α} {document : Document} {cursor stop : Nat} {value : α}
    (h : left document cursor = .ok value stop) :
    Parse.either left right document cursor = .ok value stop := by
  simp only [Parse.either, h]

theorem either_eq_ok_iff_of_error {left right : Parse α} {document : Document}
    {cursor stop stop' : Nat} {failure : Failure} {value : α}
    (h : left document cursor = .error failure stop) :
    Parse.either left right document cursor = .ok value stop' ↔
      right document stop = .ok value stop' := by
  simp only [Parse.either, h]
  cases right document stop <;> simp

/-- The second alternative is tried from the same place, so the order of alternatives that are
apart does not matter for what is accepted. -/
theorem Accepts.either {left right : Parse α} {first second : Phrase α} (hleft : Accepts left first)
    (hright : Accepts right second) (hrestores : Restores left) (hapart : first.Apart second) :
    Accepts (Parse.either left right) (first.or second) := by
  intro document cursor value stop
  cases hresult : left document cursor with
  | ok value' stop' =>
      obtain ⟨used, rest, htokens, hused, -⟩ := (hleft _ _ _ _).mp hresult
      rw [either_of_ok hresult, ← hresult, hleft]
      constructor
      · rintro ⟨used', rest', htokens', hused', hstop⟩
        exact ⟨used', rest', htokens', .inl hused', hstop⟩
      · rintro ⟨used', rest', htokens', hused' | hused', hstop⟩
        · exact ⟨used', rest', htokens', hused', hstop⟩
        · exact absurd (htokens.symm.trans htokens') (hapart.not_both hused hused')
  | error failure stop' =>
      obtain rfl := hrestores hresult
      rw [either_eq_ok_iff_of_error hresult, hright]
      constructor
      · rintro ⟨used, rest, htokens, hused, hstop⟩
        exact ⟨used, rest, htokens, .inr hused, hstop⟩
      · rintro ⟨used, rest, htokens, hused | hused, rfl⟩
        · have hok := (hleft document stop' value _).mpr ⟨used, rest, htokens, hused, rfl⟩
          cases hresult.symm.trans hok
        · exact ⟨used, rest, htokens, hused, rfl⟩

end MailRules.Parse

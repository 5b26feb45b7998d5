import MailRules.Parse.Rule
import MailRules.Proofs.Parse.Phrase
import MailRules.Proofs.Result

/-!
# What a parser makes of a phrase

A parser reads a phrase when its outcome is determined by the phrase: a complete
sequence is accepted, or refused for what it says, and otherwise the token at which
reading is stuck is to blame. Refusal is kept apart from getting stuck because only a
complete sequence can be refused.

The rules below compose readings as the combinators compose parsers. Sequences need no
order of the tokens in the source. Alternatives do, since of two failures the one with
the larger offset is reported.
-/

namespace MailRules

namespace Document

/-- The failure for want of something else when only `rest` is left to read. -/
def Blames (document : Document) : (rest : List Token) → Failure → Prop
  | [], failure => failure = document.endFailure
  | token :: _, failure =>
    ∃ expected, failure = document.failAt token (.mismatch expected token.render)

/-- No token is empty, and each ends before the next one begins. -/
structure Ordered (document : Document) : Prop where
  pairwise : document.tokens.Pairwise fun first second => first.span.stop ≤ second.span.start
  nonempty : ∀ token ∈ document.tokens, token.span.start < token.span.stop

theorem Blames.start_eq {document : Document} {token : Token} {rest : List Token}
    {failure : Failure} (h : document.Blames (token :: rest) failure) :
    failure.span.start = token.span.start := by
  obtain ⟨expected, rfl⟩ := h
  rfl

theorem getElem?_of_drop {document : Document} {cursor : Nat} {token : Token}
    {rest : List Token} (h : document.tokens.drop cursor = token :: rest) :
    document.tokens[cursor]? = some token := by
  rw [← List.head?_drop, h, List.head?_cons]

/-- What is left behind a sequence that was read. -/
theorem drop_add_of_drop {document : Document} {cursor : Nat} {used rest : List Token}
    (h : document.tokens.drop cursor = used ++ rest) :
    document.tokens.drop (cursor + used.length) = rest := by
  rw [← List.drop_drop, h, List.drop_left]

theorem Ordered.stop_le_start {document : Document} (h : document.Ordered) {cursor : Nat}
    {token later : Token} {rest : List Token}
    (htokens : document.tokens.drop cursor = token :: rest) (hlater : later ∈ rest) :
    token.span.stop ≤ later.span.start := by
  have hpairs : (token :: rest).Pairwise fun first second =>
      first.span.stop ≤ second.span.start :=
    htokens ▸ h.pairwise.sublist (List.drop_sublist cursor _)
  exact (List.pairwise_cons.mp hpairs).1 later hlater

theorem Ordered.start_lt_stop {document : Document} (h : document.Ordered) {cursor : Nat}
    {token : Token} {rest : List Token}
    (htokens : document.tokens.drop cursor = token :: rest) :
    token.span.start < token.span.stop :=
  h.nonempty token (List.mem_of_getElem? (getElem?_of_drop htokens))

/-- The end of the input lies behind one of the tokens that are left. -/
theorem exists_endFailure_start {document : Document} {cursor : Nat} {token : Token}
    {rest : List Token} (htokens : document.tokens.drop cursor = token :: rest) :
    ∃ last ∈ token :: rest, document.endFailure.span.start = last.span.stop := by
  refine ⟨(token :: rest).getLast (by simp), List.getLast_mem _, ?_⟩
  have hlast : document.tokens.getLast? = some ((token :: rest).getLast (by simp)) := by
    rw [← List.take_append_drop cursor document.tokens, htokens, List.getLast?_append,
      List.getLast?_eq_some_getLast (by simp)]
    rfl
  rw [endFailure, hlast]
  rfl

/-- What is to blame further on lies behind the token at the cursor. -/
theorem Ordered.start_lt {document : Document} (h : document.Ordered) {cursor : Nat}
    {token : Token} {read rest : List Token} {failure : Failure}
    (htokens : document.tokens.drop cursor = token :: (read ++ rest))
    (hfailure : document.Blames rest failure) : token.span.start < failure.span.start := by
  have htoken := h.start_lt_stop htokens
  cases rest with
  | nil =>
      obtain rfl : failure = document.endFailure := hfailure
      obtain ⟨last, hlast, hstart⟩ := exists_endFailure_start htokens
      rw [hstart]
      rcases List.mem_cons.mp hlast with rfl | hmem
      · exact htoken
      · have hbefore := h.stop_le_start htokens hmem
        have hnonempty : last.span.start < last.span.stop :=
          h.nonempty last (List.mem_of_mem_drop (htokens ▸ hlast))
        omega
  | cons later rest =>
      obtain ⟨expected, rfl⟩ := hfailure
      exact Nat.lt_of_lt_of_le htoken (h.stop_le_start htokens (by simp))

end Document

namespace Parse

variable {α β γ δ : Type}

theorem bind_of_ok {parser : Parse α} {next : α → Parse β} {document : Document}
    {cursor cursor' : Nat} {value : α} (h : parser document cursor = .ok value cursor') :
    (parser >>= next) document cursor = next value document cursor' := by
  simp only [bind, ReaderT.bind, EStateM.bind, h]

theorem bind_of_error {parser : Parse α} {next : α → Parse β} {document : Document}
    {cursor cursor' : Nat} {failure : Failure}
    (h : parser document cursor = .error failure cursor') :
    (parser >>= next) document cursor = .error failure cursor' := by
  simp only [bind, ReaderT.bind, EStateM.bind, h]

/-- A token is read exactly if it is there and fits; nothing else moves the cursor. -/
theorem expect_apply (kind : TokenKind) (text : Option String) (document : Document)
    (cursor : Nat) :
    Parse.expect kind text document cursor =
      match document.tokens[cursor]? with
      | none => .error document.endFailure cursor
      | some token =>
        if token.kind = kind ∧ text.all (· = token.text) then
          .ok token (cursor + 1)
        else
          .error (document.failAt token (.mismatch (kind.render text) token.render)) cursor := by
  have hcurrent : Parse.current? document cursor = .ok document.tokens[cursor]? cursor := rfl
  rw [Parse.expect, bind_of_ok hcurrent]
  cases document.tokens[cursor]? with
  | none => rfl
  | some token =>
      dsimp only
      split <;> rfl

theorem expectEnd_apply (document : Document) (cursor : Nat) :
    Parse.expectEnd document cursor =
      match document.tokens[cursor]? with
      | none => .ok () cursor
      | some token => .error (document.failAt token (.trailingInput token.render)) cursor := by
  have hcurrent : Parse.current? document cursor = .ok document.tokens[cursor]? cursor := rfl
  rw [Parse.expectEnd, bind_of_ok hcurrent]
  cases document.tokens[cursor]? <;> rfl

/-- The outcome of reading a phrase from the cursor on. -/
inductive Outcome (phrase : Phrase β) (resolve : β → Except Failure α) (document : Document)
    (cursor : Nat) : EStateM.Result Failure Nat α → Prop where
  | accepted (used rest : List Token) {said : β} {value : α}
      (htokens : document.tokens.drop cursor = used ++ rest) (hused : phrase used said)
      (hvalue : resolve said = .ok value) :
      Outcome phrase resolve document cursor (.ok value (cursor + used.length))
  | refused (used rest : List Token) {said : β} {failure : Failure} {cursor' : Nat}
      (htokens : document.tokens.drop cursor = used ++ rest) (hused : phrase used said)
      (hfailure : resolve said = .error failure) :
      Outcome phrase resolve document cursor (.error failure cursor')
  | stuck (read rest : List Token) {failure : Failure} {cursor' : Nat}
      (htokens : document.tokens.drop cursor = read ++ rest) (hstuck : phrase.Stuck read rest)
      (hfailure : document.Blames rest failure) :
      Outcome phrase resolve document cursor (.error failure cursor')

/-- The parser reads the phrase and makes of each sequence what `resolve` says. -/
def Reads (parser : Parse α) (phrase : Phrase β) (resolve : Document → β → Except Failure α) :
    Prop :=
  ∀ document cursor, Outcome phrase (resolve document) document cursor (parser document cursor)

/-- A parser that puts the cursor back when it fails. -/
def Restores (parser : Parse α) : Prop :=
  ∀ ⦃document cursor failure cursor'⦄,
    parser document cursor = .error failure cursor' → cursor' = cursor

namespace Outcome

variable {phrase : Phrase β} {resolve : β → Except Failure α} {document : Document} {cursor : Nat}

/-- A complete sequence leaves no other outcome than the one it is resolved to. -/
theorem eq_ok_iff {parser : Parse α} (hfree : phrase.PrefixFree)
    (h : Outcome phrase resolve document cursor (parser document cursor)) {value : α}
    {cursor' : Nat} :
    parser document cursor = .ok value cursor' ↔
      ∃ used rest said, document.tokens.drop cursor = used ++ rest ∧ phrase used said ∧
        resolve said = .ok value ∧ cursor' = cursor + used.length := by
  generalize parser document cursor = result at h
  constructor
  · rintro rfl
    cases h with
    | accepted used rest htokens hused hvalue => exact ⟨_, _, _, htokens, hused, hvalue, rfl⟩
  · rintro ⟨used, rest, said, htokens, hused, hvalue, rfl⟩
    cases h with
    | accepted used' rest' htokens' hused' hvalue' =>
        obtain ⟨rfl, rfl⟩ := hfree hused hused' (htokens.symm.trans htokens')
        rw [Except.ok.inj (hvalue.symm.trans hvalue')]
    | refused used' rest' htokens' hused' hfailure =>
        obtain ⟨rfl, rfl⟩ := hfree hused hused' (htokens.symm.trans htokens')
        cases hvalue.symm.trans hfailure
    | stuck read' rest' htokens' hstuck _ =>
        exact absurd hused (hstuck.not_complete hfree (htokens.symm.trans htokens') said)

/-- Where a failed parser leaves the cursor is not part of the outcome. -/
theorem restart {failure : Failure} {stop stop' : Nat}
    (h : Outcome phrase resolve document cursor (.error failure stop)) :
    Outcome phrase resolve document cursor (.error failure stop') := by
  cases h with
  | refused used rest htokens hused hfailure => exact .refused _ _ htokens hused hfailure
  | stuck read rest htokens hstuck hfailure => exact .stuck _ _ htokens hstuck hfailure

/-- Behind a sequence of the first phrase, the outcome for the second is that for both. -/
theorem seq {first : Phrase β} {second : Phrase δ} {used rest : List Token} {said : β}
    (resolve : β → δ → Except Failure γ) {result : EStateM.Result Failure Nat γ}
    (hfree : first.PrefixFree) (htokens : document.tokens.drop cursor = used ++ rest)
    (hused : first used said)
    (h : Outcome second (resolve said) document (cursor + used.length) result) :
    Outcome (first.seq second) (fun both => resolve both.1 both.2) document cursor result := by
  have hrest := Document.drop_add_of_drop htokens
  have hboth : ∀ {used' said'}, second used' said' →
      first.seq second (used ++ used') (said, said') :=
    fun hused' => ⟨used, _, rfl, hused, hused'⟩
  cases h with
  | accepted used' rest' htokens' hused' hvalue =>
      rw [Nat.add_assoc, ← List.length_append]
      refine .accepted (used ++ used') rest' ?_ (hboth hused') hvalue
      rw [htokens, ← hrest, htokens', List.append_assoc]
  | refused used' rest' htokens' hused' hfailure =>
      refine .refused (used ++ used') rest' ?_ (hboth hused') hfailure
      rw [htokens, ← hrest, htokens', List.append_assoc]
  | stuck read rest' htokens' hstuck hfailure =>
      refine .stuck (used ++ read) rest' ?_ (.seq_right hused hfree hstuck) hfailure
      rw [htokens, ← hrest, htokens', List.append_assoc]

/-- Two parsers one after the other read the sequence of their phrases. What the first one
gives is never refused. -/
theorem bind {parser : Parse α} {next : α → Parse γ} {first : Phrase β} {second : Phrase δ}
    {f : β → α} (resolve : β → δ → Except Failure γ) (hfree : first.PrefixFree)
    (hsecond : second.Begins [])
    (hparser : Outcome first (fun said => .ok (f said)) document cursor (parser document cursor))
    (hnext : ∀ used said, first used said →
      Outcome second (resolve said) document (cursor + used.length)
        (next (f said) document (cursor + used.length))) :
    Outcome (first.seq second) (fun both => resolve both.1 both.2) document cursor
      ((parser >>= next) document cursor) := by
  cases hresult : parser document cursor with
  | error failure stop =>
      rw [bind_of_error hresult]
      rw [hresult] at hparser
      cases hparser with
      | refused _ _ _ _ hfailure => cases hfailure
      | stuck read rest htokens hstuck hfailure =>
          exact .stuck _ _ htokens (hstuck.seq_left hfree hsecond) hfailure
  | ok value stop =>
      rw [bind_of_ok hresult]
      rw [hresult] at hparser
      cases hparser with
      | @accepted used rest said _ htokens hused hvalue =>
          obtain rfl : f said = value := Except.ok.inj hvalue
          exact .seq resolve hfree htokens hused (hnext used said hused)

theorem map {parser : Parse α}
    (h : Outcome phrase resolve document cursor (parser document cursor)) (f : α → γ) :
    Outcome phrase (fun said => (resolve said).map f) document cursor
      ((parser >>= fun value => pure (f value)) document cursor) := by
  cases hresult : parser document cursor with
  | ok value cursor' =>
      rw [bind_of_ok hresult]
      rw [hresult] at h
      cases h with
      | accepted used rest htokens hused hvalue =>
          exact .accepted _ _ htokens hused (congrArg (Except.map f) hvalue)
  | error failure cursor' =>
      rw [bind_of_error hresult]
      rw [hresult] at h
      cases h with
      | refused used rest htokens hused hfailure =>
          exact .refused _ _ htokens hused (congrArg (Except.map f) hfailure)
      | stuck read rest htokens hstuck hfailure => exact .stuck _ _ htokens hstuck hfailure

theorem map_said {result : EStateM.Result Failure Nat α}
    (h : Outcome phrase resolve document cursor result) (f : β → δ)
    {resolve' : δ → Except Failure α} (hresolve : ∀ said, resolve' (f said) = resolve said) :
    Outcome (phrase.map f) resolve' document cursor result := by
  cases h with
  | accepted used rest htokens hused hvalue =>
      exact .accepted _ _ htokens ⟨_, hused, rfl⟩ ((hresolve _).trans hvalue)
  | refused used rest htokens hused hfailure =>
      exact .refused _ _ htokens ⟨_, hused, rfl⟩ ((hresolve _).trans hfailure)
  | stuck read rest htokens hstuck hfailure => exact .stuck _ _ htokens (hstuck.map f) hfailure

end Outcome

namespace Reads

/-- A single token is read whenever it is the one that is asked for. -/
theorem expect (kind : TokenKind) (text : Option String) :
    Reads (Parse.expect kind text) (Phrase.token kind text) fun _ token => .ok token := by
  intro document cursor
  have hbegins := Phrase.begins_nil_token kind text
  have hincomplete : ∀ value, ¬ Phrase.token kind text [] value := by
    rintro value ⟨heq, -⟩
    cases heq
  rw [expect_apply]
  cases htokens : document.tokens.drop cursor with
  | nil =>
      have hnone : document.tokens[cursor]? = none := by
        rw [← List.head?_drop, htokens, List.head?_nil]
      rw [hnone]
      exact .stuck [] _ htokens ⟨hbegins, hincomplete, by simp⟩ rfl
  | cons token rest =>
      rw [Document.getElem?_of_drop htokens]
      dsimp only
      split
      · next hfits =>
          exact .accepted [token] _ htokens ⟨rfl, hfits⟩ rfl
      · next hfits =>
          refine .stuck [] _ htokens ⟨hbegins, hincomplete, ?_⟩ ⟨_, rfl⟩
          rintro _ ht ⟨more, value, heq, hvalue⟩
          obtain rfl := Option.some.inj ht
          obtain rfl : token = value := (List.cons.inj heq).1
          exact hfits hvalue

theorem attempt {parser : Parse α} {phrase : Phrase β}
    {resolve : Document → β → Except Failure α} (h : Reads parser phrase resolve) :
    Reads (Parse.attempt parser) phrase resolve := by
  intro document cursor
  have hrun := h document cursor
  unfold Parse.attempt
  cases hresult : parser document cursor with
  | ok value stop =>
      rw [hresult] at hrun
      exact hrun
  | error failure stop =>
      rw [hresult] at hrun
      exact hrun.restart

theorem bind {parser : Parse α} {next : α → Parse γ} {first : Phrase β} {second : Phrase δ}
    {f : β → α} (resolve : β → Document → δ → Except Failure γ) (hfree : first.PrefixFree)
    (hsecond : second.Begins []) (hparser : Reads parser first fun _ said => .ok (f said))
    (hnext : ∀ said, Reads (next (f said)) second (resolve said)) :
    Reads (parser >>= next) (first.seq second) fun document said =>
      resolve said.1 document said.2 :=
  fun document cursor =>
    .bind (fun said => resolve said document) hfree hsecond (hparser document cursor)
      fun _ said _ => hnext said document _

/-- A parser followed by a step that reads nothing, but may refuse what was read. -/
theorem check {parser : Parse α} {next : α → Parse γ} {phrase : Phrase β} {f : β → α}
    {resolve : Document → β → Except Failure γ}
    (hparser : Reads parser phrase fun _ said => .ok (f said))
    (hok : ∀ said document cursor value, resolve document said = .ok value →
      next (f said) document cursor = .ok value cursor)
    (herror : ∀ said document cursor failure, resolve document said = .error failure →
      next (f said) document cursor = .error failure cursor) :
    Reads (parser >>= next) phrase resolve := by
  intro document cursor
  have hrun := hparser document cursor
  cases hresult : parser document cursor with
  | error failure cursor' =>
      rw [bind_of_error hresult]
      rw [hresult] at hrun
      cases hrun with
      | refused _ _ _ _ hfailure => cases hfailure
      | stuck read rest htokens hstuck hfailure => exact .stuck _ _ htokens hstuck hfailure
  | ok value cursor' =>
      rw [bind_of_ok hresult]
      rw [hresult] at hrun
      cases hrun with
      | @accepted used rest said _ htokens hused hvalue =>
          obtain rfl : f said = value := Except.ok.inj hvalue
          cases hresolve : resolve document said with
          | ok value' =>
              rw [hok said document _ value' hresolve]
              exact .accepted _ _ htokens hused hresolve
          | error failure =>
              rw [herror said document _ failure hresolve]
              exact .refused _ _ htokens hused hresolve

/-- A parser that changes what was read into something else. -/
theorem map {parser : Parse α} {phrase : Phrase β} {resolve : Document → β → Except Failure α}
    (h : Reads parser phrase resolve) (f : α → γ) :
    Reads (parser >>= fun value => pure (f value)) phrase fun document said =>
      (resolve document said).map f :=
  fun document cursor => .map (h document cursor) f

/-- The same reading, with another account of what the sequences say. -/
theorem map_said {parser : Parse α} {phrase : Phrase β} {resolve : Document → β → Except Failure α}
    (h : Reads parser phrase resolve) (f : β → δ) {resolve' : Document → δ → Except Failure α}
    (hresolve : ∀ document said, resolve' document (f said) = resolve document said) :
    Reads parser (phrase.map f) resolve' :=
  fun document cursor => .map_said (h document cursor) f (hresolve document)

/-- A parser of one token or, failing that, another one that starts at the same place. -/
theorem orElse {parser next : Parse α} {first second : Phrase β} {f : β → α}
    (hparser : Reads parser first fun _ said => .ok (f said))
    (hrestores : Restores parser) (hone : ∀ used said, first used said → ∃ token, used = [token])
    (hnext : Reads next second fun _ said => .ok (f said)) :
    Reads (Parse.orElse parser next) (first.or second) fun _ said => .ok (f said) := by
  intro document cursor
  have hrun := hparser document cursor
  unfold Parse.orElse
  cases hresult : parser document cursor with
  | ok value cursor' =>
      rw [hresult] at hrun
      cases hrun with
      | accepted used rest htokens hused hvalue => exact .accepted _ _ htokens (.inl hused) hvalue
  | error failure cursor' =>
      obtain rfl := hrestores hresult
      rw [hresult] at hrun
      cases hrun with
      | refused _ _ _ _ hfailure => cases hfailure
      | @stuck read rest _ _ htokens hstuck _ =>
          obtain rfl : read = [] := by
            obtain ⟨more, said, hread⟩ := hstuck.begins
            obtain ⟨token, htoken⟩ := hone _ said hread
            rcases List.append_eq_singleton_iff.mp htoken with ⟨rfl, -⟩ | ⟨rfl, rfl⟩
            · rfl
            · exact absurd (by simpa using hread) (hstuck.incomplete said)
          have hthen := hnext document cursor'
          dsimp only
          generalize next document cursor' = result at hthen
          cases hthen with
          | accepted used' rest' htokens' hused' hvalue' =>
              exact .accepted _ _ htokens' (.inr hused') hvalue'
          | refused _ _ _ _ hfailure' => cases hfailure'
          | @stuck read' rest' _ _ htokens' hstuck' hfailure' =>
              refine .stuck _ _ htokens' (hstuck'.or_left ?_).or_comm hfailure'
              obtain rfl : rest = read' ++ rest' := htokens.symm.trans htokens'
              exact hstuck

end Reads

namespace Restores

/-- Attempting a parser is what makes it restore the cursor. -/
theorem attempt (parser : Parse α) : Restores (Parse.attempt parser) := by
  intro document cursor failure cursor' h
  unfold Parse.attempt at h
  split at h
  · cases h
  · exact (EStateM.Result.error.inj h).2.symm

theorem expect (kind : TokenKind) (text : Option String) : Restores (Parse.expect kind text) := by
  intro document cursor failure cursor' h
  rw [expect_apply] at h
  split at h
  · exact (EStateM.Result.error.inj h).2.symm
  · split at h
    · cases h
    · exact (EStateM.Result.error.inj h).2.symm

theorem map {parser : Parse α} (h : Restores parser) (f : α → γ) :
    Restores (parser >>= fun value => pure (f value)) := by
  intro document cursor failure cursor' hrun
  cases hresult : parser document cursor with
  | ok value cursor'' =>
      rw [bind_of_ok hresult] at hrun
      cases hrun
  | error failure' cursor'' =>
      rw [bind_of_error hresult] at hrun
      cases hrun
      exact h hresult

end Restores
end Parse
end MailRules

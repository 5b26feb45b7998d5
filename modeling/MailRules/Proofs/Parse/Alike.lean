import Mathlib.Data.List.Forall2
import MailRules.Proofs.Parse.Outcome
import MailRules.Proofs.Token.Content

/-!
# Documents that say the same

Two documents are alike when their tokens say the same at whatever places. A parser run on
both from one cursor then has one outcome: the same value and the same cursor, or failures of
the same kind.

Values and kinds of failures are made of contents. The exception is the choice between two
failed alternatives, which compares offsets, and offsets are what differs. In each document a
failure points at a token or at the end of the input, at the same one in both, and the
offsets of tokens in order are ordered like the tokens themselves. So the comparison has one
result as well.
-/

namespace MailRules

namespace Document

/-- The tokens say the same, and in both documents they are in order. -/
structure Alike (first second : Document) : Prop where
  contents : first.tokens.map Token.content = second.tokens.map Token.content
  left : first.Ordered
  right : second.Ordered

/-- The offset at which the token with the index starts, or behind all tokens the offset that
is blamed at the end of the input. -/
def reach (document : Document) (index : Nat) : Nat :=
  match document.tokens[index]? with
  | some token => token.span.start
  | none => document.endFailure.span.start

theorem reach_of_some {document : Document} {index : Nat} {token : Token}
    (h : document.tokens[index]? = some token) : document.reach index = token.span.start := by
  rw [reach, h]

theorem reach_length (document : Document) :
    document.reach document.tokens.length = document.endFailure.span.start := by
  rw [reach, List.getElem?_eq_none (Nat.le_refl _)]

/-- Further on among the tokens is further on in the source. -/
theorem Ordered.reach_lt {document : Document} (h : document.Ordered) {index later : Nat}
    (hlt : index < later) (hle : later ≤ document.tokens.length) :
    document.reach index < document.reach later := by
  have hindex : index < document.tokens.length := by omega
  have htokens := List.drop_eq_getElem_cons hindex
  rw [reach_of_some (List.getElem?_eq_getElem hindex)]
  have htoken := h.start_lt_stop htokens
  by_cases hend : later = document.tokens.length
  · obtain ⟨last, hlast, hstart⟩ := exists_endFailure_start htokens
    rw [hend, reach_length, hstart]
    rcases List.mem_cons.mp hlast with rfl | hmem
    · exact htoken
    · have hbefore := h.stop_le_start htokens hmem
      have hnonempty := h.nonempty last (List.mem_of_mem_drop (htokens ▸ hlast))
      omega
  · have hlater : later < document.tokens.length := by omega
    rw [reach_of_some (List.getElem?_eq_getElem hlater)]
    have hmem : document.tokens[later] ∈ document.tokens.drop (index + 1) := by
      rw [List.mem_drop_iff_getElem]
      exact ⟨later - (index + 1), by omega, by congr; omega⟩
    have hbefore := h.stop_le_start htokens hmem
    omega

theorem Ordered.reach_lt_iff {document : Document} (h : document.Ordered) {index later : Nat}
    (hindex : index ≤ document.tokens.length) (hlater : later ≤ document.tokens.length) :
    document.reach index < document.reach later ↔ index < later := by
  constructor
  · intro hreach
    by_contra hle
    by_cases heq : later = index
    · rw [heq] at hreach
      omega
    · have hlt := h.reach_lt (show later < index by omega) hindex
      omega
  · intro hlt
    exact h.reach_lt hlt hlater

namespace Alike

variable {first second : Document}

theorem length_eq (h : Alike first second) : first.tokens.length = second.tokens.length := by
  have hlength := congrArg List.length h.contents
  rwa [List.length_map, List.length_map] at hlength

/-- At each index there is a token in both documents or in neither, and it says the same. -/
theorem getElem?_cases (h : Alike first second) (index : Nat) :
    (first.tokens[index]? = none ∧ second.tokens[index]? = none) ∨
    ∃ token token', first.tokens[index]? = some token ∧ second.tokens[index]? = some token' ∧
      token.content = token'.content := by
  have hcontent := congrArg (·[index]?) h.contents
  rw [List.getElem?_map, List.getElem?_map] at hcontent
  cases hfirst : first.tokens[index]? with
  | none =>
      rw [hfirst] at hcontent
      exact .inl ⟨rfl, Option.map_eq_none_iff.mp hcontent.symm⟩
  | some token =>
      rw [hfirst] at hcontent
      obtain ⟨token', hsecond, hsame⟩ := Option.map_eq_some_iff.mp hcontent.symm
      exact .inr ⟨token, token', rfl, hsecond, hsame.symm⟩

end Alike

/-- The tokens stand at one index in the two documents. -/
def SameToken (first second : Document) (token token' : Token) : Prop :=
  ∃ index : Nat, first.tokens[index]? = some token ∧ second.tokens[index]? = some token'

/-- The failures are of one kind and point at one token, or both at the end of the input. -/
def SameFailure (first second : Document) (failure failure' : Failure) : Prop :=
  failure.kind = failure'.kind ∧ ∃ index ≤ first.tokens.length,
    failure.span.start = first.reach index ∧ failure'.span.start = second.reach index

namespace SameToken

variable {first second : Document} {token token' : Token}

theorem content_eq (h : SameToken first second token token') (halike : Alike first second) :
    token.content = token'.content := by
  obtain ⟨index, hfirst, hsecond⟩ := h
  rcases halike.getElem?_cases index with ⟨hnone, -⟩ | ⟨_, _, hfirst', hsecond', hcontent⟩
  · cases hfirst.symm.trans hnone
  · obtain rfl := Option.some.inj (hfirst.symm.trans hfirst')
    obtain rfl := Option.some.inj (hsecond.symm.trans hsecond')
    exact hcontent

theorem text_eq (h : SameToken first second token token') (halike : Alike first second) :
    token.text = token'.text :=
  (Token.content_eq_iff.mp (h.content_eq halike)).2

theorem failAt (h : SameToken first second token token') (kind : Failure.Kind) :
    SameFailure first second (first.failAt token kind) (second.failAt token' kind) := by
  obtain ⟨index, hfirst, hsecond⟩ := h
  have hlt : index < first.tokens.length := (List.getElem?_eq_some_iff.mp hfirst).1
  refine ⟨rfl, index, Nat.le_of_lt hlt, ?_, ?_⟩
  · rw [reach_of_some hfirst]
    rfl
  · rw [reach_of_some hsecond]
    rfl

/-- The texts of lists of tokens at the same indices are the same. -/
theorem map_text_eq {items items' : List Token} (halike : Alike first second)
    (h : List.Forall₂ (SameToken first second) items items') :
    items.map Token.text = items'.map Token.text := by
  induction h with
  | nil => rfl
  | cons hitem _ ih => rw [List.map_cons, List.map_cons, hitem.text_eq halike, ih]

/-- Equal positions in such lists hold tokens at equal indices. -/
theorem getD {items items' : List Token}
    (hitems : List.Forall₂ (SameToken first second) items items')
    (h : SameToken first second token token') (position : Nat) :
    SameToken first second (items[position]?.getD token) (items'[position]?.getD token') := by
  induction hitems generalizing position with
  | nil => exact h
  | cons hitem _ ih =>
      cases position with
      | zero => exact hitem
      | succ position => exact ih position

end SameToken

theorem sameFailure_endFailure {first second : Document} (h : Alike first second) :
    SameFailure first second first.endFailure second.endFailure := by
  have hkind : ∀ document : Document, document.endFailure.kind = .unexpectedEnd := by
    intro document
    unfold endFailure
    split <;> rfl
  refine ⟨?_, first.tokens.length, Nat.le_refl _, (reach_length first).symm, ?_⟩
  · rw [hkind, hkind]
  · rw [h.length_eq, reach_length]

/-- Which of two failures lies further on is the same in both documents. -/
theorem SameFailure.furthest {first second : Document} {left left' right right' : Failure}
    (halike : Alike first second) (hleft : SameFailure first second left left')
    (hright : SameFailure first second right right') :
    SameFailure first second (left.furthest right) (left'.furthest right') := by
  obtain ⟨-, index, hindex, hstart, hstart'⟩ := id hleft
  obtain ⟨-, later, hlater, hlate, hlate'⟩ := id hright
  have hfirst := halike.left.reach_lt_iff hindex hlater
  rw [halike.length_eq] at hindex hlater
  have hsecond := halike.right.reach_lt_iff hindex hlater
  unfold Failure.furthest
  rw [hstart, hlate, hstart', hlate']
  by_cases hlt : index < later
  · rw [if_pos (hfirst.mpr hlt), if_pos (hsecond.mpr hlt)]
    exact hright
  · rw [if_neg (mt hfirst.mp hlt), if_neg (mt hsecond.mp hlt)]
    exact hleft

end Document

namespace Parse

open Document (Alike SameToken SameFailure)

variable {α β γ δ : Type} {first second : Document}

/-- Two outcomes with related values and one cursor, or with failures that say the same. -/
inductive SameOutcome (first second : Document) (R : α → β → Prop) :
    EStateM.Result Failure Nat α → EStateM.Result Failure Nat β → Prop where
  | ok {value : α} {value' : β} (h : R value value') (cursor : Nat) :
      SameOutcome first second R (.ok value cursor) (.ok value' cursor)
  | error {failure failure' : Failure} (h : SameFailure first second failure failure')
      (cursor : Nat) : SameOutcome first second R (.error failure cursor) (.error failure' cursor)

/-- The parsers have the same outcome from every cursor of the two documents. -/
def Agree (first second : Document) (R : α → β → Prop) (left : Parse α) (right : Parse β) : Prop :=
  ∀ cursor, SameOutcome first second R (left first cursor) (right second cursor)

namespace Agree

variable {R : α → β → Prop} {S : γ → δ → Prop}

theorem pure {value : α} {value' : β} (h : R value value') :
    Agree first second R (Pure.pure value) (Pure.pure value') := by
  intro cursor
  exact .ok h cursor

theorem bind {left : Parse α} {right : Parse β} {next : α → Parse γ} {next' : β → Parse δ}
    (h : Agree first second R left right)
    (hnext : ∀ value value', R value value' → Agree first second S (next value) (next' value')) :
    Agree first second S (left >>= next) (right >>= next') := by
  intro cursor
  have houtcome := h cursor
  cases hleft : left first cursor with
  | ok value stop =>
      rw [hleft] at houtcome
      cases hright : right second cursor with
      | ok value' stop' =>
          rw [hright] at houtcome
          cases houtcome with
          | ok hvalue =>
              rw [bind_of_ok hleft, bind_of_ok hright]
              exact hnext value value' hvalue stop
      | error failure' stop' =>
          rw [hright] at houtcome
          cases houtcome
  | error failure stop =>
      rw [hleft] at houtcome
      cases hright : right second cursor with
      | ok value' stop' =>
          rw [hright] at houtcome
          cases houtcome
      | error failure' stop' =>
          rw [hright] at houtcome
          cases houtcome with
          | error hfailure =>
              rw [bind_of_error hleft, bind_of_error hright]
              exact .error hfailure stop

theorem map {left : Parse α} {right : Parse β} (h : Agree first second R left right) {f : α → γ}
    {f' : β → δ} (hf : ∀ value value', R value value' → S (f value) (f' value')) :
    Agree first second S (left >>= fun value => Pure.pure (f value))
      (right >>= fun value => Pure.pure (f' value)) :=
  h.bind fun value value' hvalue => pure (hf value value' hvalue)

theorem attempt {left : Parse α} {right : Parse β} (h : Agree first second R left right) :
    Agree first second R (Parse.attempt left) (Parse.attempt right) := by
  intro cursor
  unfold Parse.attempt
  have houtcome := h cursor
  revert houtcome
  generalize left first cursor = result, right second cursor = result'
  rintro (⟨hvalue, stop⟩ | ⟨hfailure, stop⟩)
  · exact .ok hvalue stop
  · exact .error hfailure cursor

theorem orElse {left next : Parse α} {right next' : Parse β}
    (h : Agree first second R left right) (hnext : Agree first second R next next') :
    Agree first second R (Parse.orElse left next) (Parse.orElse right next') := by
  intro cursor
  unfold Parse.orElse
  have houtcome := h cursor
  revert houtcome
  generalize left first cursor = result, right second cursor = result'
  rintro (⟨hvalue, stop⟩ | ⟨-, stop⟩)
  · exact .ok hvalue stop
  · exact hnext stop

theorem either {left next : Parse α} {right next' : Parse β} (halike : Alike first second)
    (h : Agree first second R left right) (hnext : Agree first second R next next') :
    Agree first second R (Parse.either left next) (Parse.either right next') := by
  intro cursor
  unfold Parse.either
  have houtcome := h cursor
  revert houtcome
  generalize left first cursor = result, right second cursor = result'
  rintro (⟨hvalue, stop⟩ | ⟨hfailure, stop⟩)
  · exact .ok hvalue stop
  · have hthen := hnext stop
    dsimp only
    generalize next first stop = result, next' second stop = result' at hthen
    rcases hthen with ⟨hvalue, stop'⟩ | ⟨hfailure', stop'⟩
    · exact .ok hvalue stop'
    · exact .error (hfailure.furthest halike hfailure') stop'

theorem failAt {token token' : Token} (h : SameToken first second token token')
    (kind : Failure.Kind) :
    Agree first second R (Parse.failAt token kind) (Parse.failAt token' kind) := by
  intro cursor
  exact .error (h.failAt kind) cursor

theorem failAtEnd (halike : Alike first second) :
    Agree first second R (do throw (← read).endFailure) (do throw (← read).endFailure) := by
  intro cursor
  exact .error (Document.sameFailure_endFailure halike) cursor

/-- A token is there and fits in both documents or in neither. -/
theorem expect (halike : Alike first second) (kind : TokenKind) (text : Option String) :
    Agree first second (SameToken first second) (Parse.expect kind text)
      (Parse.expect kind text) := by
  intro cursor
  rw [expect_apply, expect_apply]
  rcases halike.getElem?_cases cursor with ⟨hfirst, hsecond⟩ |
    ⟨token, token', hfirst, hsecond, hcontent⟩
  · rw [hfirst, hsecond]
    exact .error (Document.sameFailure_endFailure halike) cursor
  · have htoken : SameToken first second token token' := ⟨cursor, hfirst, hsecond⟩
    obtain ⟨hkind, htext⟩ := Token.content_eq_iff.mp hcontent
    rw [hfirst, hsecond]
    dsimp only
    rw [hkind, htext, Token.render_eq_of_content_eq hcontent]
    split
    · exact .ok htoken (cursor + 1)
    · exact .error (htoken.failAt _) cursor

theorem expectEnd (halike : Alike first second) :
    Agree first second (fun _ _ => True) Parse.expectEnd Parse.expectEnd := by
  intro cursor
  rw [expectEnd_apply, expectEnd_apply]
  rcases halike.getElem?_cases cursor with ⟨hfirst, hsecond⟩ |
    ⟨token, token', hfirst, hsecond, hcontent⟩
  · rw [hfirst, hsecond]
    exact .ok trivial cursor
  · have htoken : SameToken first second token token' := ⟨cursor, hfirst, hsecond⟩
    rw [hfirst, hsecond]
    dsimp only
    rw [Token.render_eq_of_content_eq hcontent]
    exact .error (htoken.failAt _) cursor

theorem remaining (halike : Alike first second) :
    Agree first second (· = ·) Parse.remaining Parse.remaining := by
  intro cursor
  refine .ok ?_ cursor
  rw [halike.length_eq]

theorem expectIdent (halike : Alike first second) (text : String) :
    Agree first second (fun _ _ => True) (Parse.expectIdent text) (Parse.expectIdent text) :=
  (expect halike .ident (some text)).map fun _ _ _ => trivial

theorem expectOther (halike : Alike first second) (text : String) :
    Agree first second (fun _ _ => True) (Parse.expectOther text) (Parse.expectOther text) :=
  (expect halike .other (some text)).map fun _ _ _ => trivial

/-- The strings of a list are at the same indices, and so is what ends the list. -/
theorem listItems (halike : Alike first second) (bound : Nat) :
    Agree first second (List.Forall₂ (SameToken first second)) (Parse.listItems bound)
      (Parse.listItems bound) := by
  induction bound with
  | zero => exact failAtEnd halike
  | succ bound ih =>
      refine (expect halike .string none).bind fun item item' hitem => ?_
      refine (expect halike .other none).bind fun separator separator' hseparator => ?_
      rw [hseparator.text_eq halike,
        Token.render_eq_of_content_eq (hseparator.content_eq halike)]
      split
      · exact pure (.cons hitem .nil)
      · split
        · exact ih.map fun _ _ hitems => .cons hitem hitems
        · exact failAt hseparator _

theorem stringTokens (halike : Alike first second) :
    Agree first second (List.Forall₂ (SameToken first second)) Parse.stringTokens
      Parse.stringTokens := by
  refine .orElse ?_ (.attempt ?_)
  · exact (expect halike .string none).map fun _ _ hitem => .cons hitem .nil
  · refine (expectOther halike "[").bind fun _ _ _ => ?_
    refine (remaining halike).bind ?_
    rintro bound _ rfl
    exact listItems halike bound

theorem strings (halike : Alike first second) :
    Agree first second (· = ·) Parse.strings Parse.strings :=
  (stringTokens halike).map fun _ _ hitems => SameToken.map_text_eq halike hitems

/-- A comparator is made of texts, and what it is refused for stands at the same index. -/
theorem comparator (halike : Alike first second) :
    Agree first second (· = ·) Parse.comparator Parse.comparator := by
  refine (expect halike .ident none).bind fun op op' hop => ?_
  refine (stringTokens halike).bind fun values values' hvalues => ?_
  rw [hop.text_eq halike, SameToken.map_text_eq halike hvalues]
  split
  · exact pure rfl
  · exact failAt hop _
  · next index fault _ =>
      have htoken := SameToken.getD hvalues hop index
      dsimp only
      rw [htoken.text_eq halike]
      exact failAt htoken _

theorem exprHeader (halike : Alike first second) :
    Agree first second (· = ·) Parse.exprHeader Parse.exprHeader := by
  refine .attempt ?_
  refine (orElse (expectIdent halike "header") (expectIdent halike "headers")).bind ?_
  intro _ _ _
  refine (strings halike).bind ?_
  rintro names _ rfl
  refine (comparator halike).map ?_
  rintro test _ rfl
  rfl

theorem exprMessage (halike : Alike first second) :
    Agree first second (· = ·) Parse.exprMessage Parse.exprMessage := by
  refine .attempt ?_
  refine (expectIdent halike "message").bind fun _ _ _ => (comparator halike).map ?_
  rintro test _ rfl
  rfl

theorem predBool (halike : Alike first second) :
    Agree first second (· = ·) Parse.predBool Parse.predBool :=
  .orElse ((expectIdent halike "true").map fun _ _ _ => rfl)
    ((expectIdent halike "false").map fun _ _ _ => rfl)

theorem expr (halike : Alike first second) :
    Agree first second (· = ·) Parse.expr Parse.expr :=
  .either halike (.either halike (exprHeader halike) (exprMessage halike)) (predBool halike)

theorem stmtLabel (halike : Alike first second) :
    Agree first second (· = ·) Parse.stmtLabel Parse.stmtLabel := by
  refine .attempt ?_
  refine (expectIdent halike "label").bind fun _ _ _ => (strings halike).map ?_
  rintro labels _ rfl
  rfl

theorem stmtMark (halike : Alike first second) :
    Agree first second (· = ·) Parse.stmtMark Parse.stmtMark := by
  refine .attempt ?_
  refine (expectIdent halike "mark").bind fun _ _ _ => ?_
  refine (expectIdent halike "as").bind fun _ _ _ => ?_
  exact (expectIdent halike "read").map fun _ _ _ => rfl

theorem stmtSkip (halike : Alike first second) :
    Agree first second (· = ·) Parse.stmtSkip Parse.stmtSkip := by
  refine .attempt ?_
  refine (expectIdent halike "skip").bind fun _ _ _ => ?_
  exact (expectIdent halike "inbox").map fun _ _ _ => rfl

theorem stmtStop (halike : Alike first second) :
    Agree first second (· = ·) Parse.stmtStop Parse.stmtStop :=
  (expectIdent halike "stop").map fun _ _ _ => rfl

theorem stmt (halike : Alike first second) :
    Agree first second (· = ·) Parse.stmt Parse.stmt :=
  .either halike
    (.either halike (.either halike (stmtLabel halike) (stmtMark halike)) (stmtSkip halike))
    (stmtStop halike)

end Agree
end Parse
end MailRules

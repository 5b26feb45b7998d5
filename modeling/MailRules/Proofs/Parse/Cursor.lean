import MailRules.Parse.Step
import MailRules.Proofs.Parse.Passage

/-!
# The discipline of the cursor

A step that fails leaves the cursor where the step began. Token primitives do so because
they look before they move. The productions do so because they are attempted as a whole, or
because they are alternatives that do. For several steps attempted as one it does not
matter what the first ones have read by the time one of them fails.

A step that succeeds moves the cursor over the tokens that say its value and over nothing
else. From the first token on no run, however nested, therefore leaves the document.
-/

namespace MailRules

namespace Step

/-- The step is a single token or a production. -/
def Consumes : Step → Prop
  | .expectEnd | .peek | .failExpected _ | .attempt _ => False
  | _ => True

/-- The step looks at the cursor and does not move it. -/
def Looks : Step → Prop
  | .expectEnd | .peek | .failExpected _ => True
  | _ => False

mutual

/-- What a step reads when it succeeds, and the value that this says. -/
def phrase : Step → Phrase Value
  | .expect kind text => (Phrase.token kind text).map .token
  | .expectIdent text => (Phrase.token .ident (some text)).map fun _ => .nothing
  | .expectOther text => (Phrase.token .other (some text)).map fun _ => .nothing
  | .nextIdent => (Phrase.token .ident none).map .token
  | .nextOther => (Phrase.token .other none).map .token
  | .nextString => (Phrase.token .string none).map .token
  | .expectEnd => (Phrase.nothing ()).map fun _ => .nothing
  | .peek => fun tokens value => tokens = [] ∧ ∃ token, value = .peeked token
  | .failExpected _ => fun _ _ => False
  | .strings => Phrase.map (fun items => .strings (items.map Token.text)) StringShape
  | .listStrings => Phrase.list.map fun items => .strings (items.map Token.text)
  | .expr => Phrase.map .expr ExprTokens
  | .exprHeader => (Phrase.header.resolve Draft.node).map .expr
  | .exprMessage => (Phrase.message.resolve Draft.node).map .expr
  | .predBool => ((Phrase.bool.map .bool).resolve Draft.node).map .expr
  | .stmt => Phrase.map .stmt StmtShape
  | .stmtLabel => Phrase.label.map .stmt
  | .stmtMark => Phrase.mark.map .stmt
  | .stmtSkip => Phrase.skip.map .stmt
  | .stmtStop => Phrase.stop.map .stmt
  | .attempt steps => (phraseAll steps).map .all

/-- One after the other what each of the steps reads, and all the values. -/
def phraseAll : List Step → Phrase (List Value)
  | [] => Phrase.nothing []
  | step :: rest => step.phrase.andThen fun value => (phraseAll rest).map (value :: ·)

end

end Step

theorem StringShape.starts :
    Phrase.Starts StringShape fun token => token.kind = .string ∨ token.Is .other "[" := by
  intro tokens items h
  cases h with
  | one hitem => exact ⟨_, _, rfl, .inl hitem⟩
  | list hopening => exact ⟨_, _, rfl, .inr hopening⟩

theorem Phrase.Starts.resolve {α β ε : Type} {phrase : Phrase α} {p : Token → Prop}
    (h : phrase.Starts p) (f : α → Except ε β) : (phrase.resolve f).Starts p := by
  rintro tokens value ⟨a, ha, -⟩
  exact h ha

namespace Parse

theorem restores_expectEnd : Restores Parse.expectEnd := by
  intro document cursor failure stop hrun
  rw [expectEnd_apply] at hrun
  cases hnext : document.tokens[cursor]? with
  | none =>
      rw [hnext] at hrun
      cases hrun
  | some token =>
      rw [hnext] at hrun
      exact (EStateM.Result.error.inj hrun).2.symm

theorem passes_expectEnd : Passes Parse.expectEnd (Phrase.nothing ()) := by
  intro document cursor value stop hrun
  rw [expectEnd_apply] at hrun
  cases hnext : document.tokens[cursor]? with
  | none =>
      rw [hnext] at hrun
      obtain ⟨-, rfl⟩ := EStateM.Result.ok.inj hrun
      exact ⟨[], document.tokens.drop cursor, rfl, ⟨rfl, rfl⟩, rfl⟩
  | some token =>
      rw [hnext] at hrun
      cases hrun

theorem restores_stringTokens : Restores Parse.stringTokens :=
  .orElse ((Restores.expect .string none).map fun item => [item]) (.attempt _)

theorem restores_predBool : Restores Parse.predBool :=
  .orElse ((restores_expectIdent "true").map _) ((restores_expectIdent "false").map _)

theorem restores_expr : Restores Parse.expr :=
  .either (.either (.attempt _) (.attempt _)) restores_predBool

theorem restores_stmt : Restores Parse.stmt :=
  .either (.either (.either (.attempt _) (.attempt _)) (.attempt _))
    ((restores_expectIdent "stop").map _)

theorem passes_stringTokens : Passes Parse.stringTokens StringShape :=
  (reads_stringTokens.accepts_all StringShape.prefixFree).passes

theorem passes_listTokens : Passes Parse.listTokens Phrase.list :=
  (reads_listTokens.accepts_all Phrase.list_prefixFree).passes

end Parse

namespace Step

open Parse (Passes Restores)

/-- Whatever a step has read before it fails, the cursor goes back to where the step began. -/
theorem restores (step : Step) : Restores step.parse := by
  cases step with
  | expect kind text => exact (Restores.expect kind text).map _
  | expectIdent text => exact (Parse.restores_expectIdent text).map _
  | expectOther text => exact ((Restores.expect .other (some text)).map _).map _
  | nextIdent => exact (Restores.expect .ident none).map _
  | nextOther => exact (Restores.expect .other none).map _
  | nextString => exact (Restores.expect .string none).map _
  | expectEnd => exact Parse.restores_expectEnd.map _
  | peek =>
      intro document cursor failure stop hrun
      cases hrun
  | failExpected expected => exact Restores.failExpected expected
  | strings => exact (Parse.restores_stringTokens.map _).map _
  | listStrings => exact ((Restores.attempt _).map _).map _
  | expr => exact Parse.restores_expr.map _
  | exprHeader => exact (Restores.attempt _).map _
  | exprMessage => exact (Restores.attempt _).map _
  | predBool => exact Parse.restores_predBool.map _
  | stmt => exact Parse.restores_stmt.map _
  | stmtLabel => exact (Restores.attempt _).map _
  | stmtMark => exact (Restores.attempt _).map _
  | stmtSkip => exact (Restores.attempt _).map _
  | stmtStop => exact ((Parse.restores_expectIdent "stop").map _).map _
  | attempt steps => exact .attempt _

mutual

/-- A step that succeeds has read its phrase. -/
theorem passes : ∀ step : Step, Passes step.parse step.phrase
  | .expect kind text => (Passes.expect kind text).map _
  | .expectIdent text => ((Passes.expect .ident (some text)).map _).map_map _
  | .expectOther text => ((Passes.expect .other (some text)).map _).map_map _
  | .nextIdent => (Passes.expect .ident none).map _
  | .nextOther => (Passes.expect .other none).map _
  | .nextString => (Passes.expect .string none).map _
  | .expectEnd => Parse.passes_expectEnd.map _
  | .peek => (Passes.current.map Value.peeked).imp fun _ _ ⟨token, hnil, hvalue⟩ =>
      ⟨hnil, token, hvalue.symm⟩
  | .failExpected expected => Passes.failExpected expected _
  | .strings => (Parse.passes_stringTokens.map _).map_map _
  | .listStrings => (Parse.passes_listTokens.map _).map_map _
  | .expr => Parse.accepts_expr.passes.map _
  | .exprHeader =>
    (Parse.reads_exprHeader.accepts Phrase.header_prefixFree
      Draft.resolve_eq_ok_iff).passes.map _
  | .exprMessage =>
    (Parse.reads_exprMessage.accepts Phrase.message_prefixFree
      Draft.resolve_eq_ok_iff).passes.map _
  | .predBool =>
    (Parse.reads_predBool.accepts (Phrase.bool_prefixFree.map Draft.bool)
      Draft.resolve_eq_ok_iff).passes.map _
  | .stmt => Parse.accepts_stmt.passes.map _
  | .stmtLabel => (Parse.reads_stmtLabel.accepts_all Phrase.label_prefixFree).passes.map _
  | .stmtMark => (Parse.reads_stmtMark.accepts_all Phrase.mark_prefixFree).passes.map _
  | .stmtSkip => (Parse.reads_stmtSkip.accepts_all Phrase.skip_prefixFree).passes.map _
  | .stmtStop => (Parse.reads_stmtStop.accepts_all Phrase.stop_prefixFree).passes.map _
  | .attempt steps => ((passesAll steps).map Value.all).attempt

theorem passesAll : ∀ steps : List Step, Passes (parseAll steps) (phraseAll steps)
  | [] => .pure []
  | step :: rest => (passes step).bind fun value => (passesAll rest).map (value :: ·)

end

theorem phrase_ne_nil {step : Step} (h : step.Consumes) (value : Value) :
    ¬ step.phrase [] value := by
  cases step with
  | expect kind text => exact ((Phrase.starts_token kind text).map _).ne_nil value
  | expectIdent text => exact ((Phrase.starts_token .ident (some text)).map _).ne_nil value
  | expectOther text => exact ((Phrase.starts_token .other (some text)).map _).ne_nil value
  | nextIdent => exact ((Phrase.starts_token .ident none).map _).ne_nil value
  | nextOther => exact ((Phrase.starts_token .other none).map _).ne_nil value
  | nextString => exact ((Phrase.starts_token .string none).map _).ne_nil value
  | expectEnd => exact h.elim
  | peek => exact h.elim
  | failExpected expected => exact h.elim
  | strings => exact (StringShape.starts.map _).ne_nil value
  | listStrings => exact (Phrase.list_starts.map _).ne_nil value
  | expr => exact (ExprTokens.starts.map _).ne_nil value
  | exprHeader => exact ((Phrase.header_starts.resolve _).map _).ne_nil value
  | exprMessage => exact ((Phrase.message_starts.resolve _).map _).ne_nil value
  | predBool => exact (((Phrase.bool_starts.map _).resolve _).map _).ne_nil value
  | stmt => exact (StmtShape.starts.map _).ne_nil value
  | stmtLabel => exact (Phrase.label_starts.map _).ne_nil value
  | stmtMark => exact (Phrase.mark_starts.map _).ne_nil value
  | stmtSkip => exact (Phrase.skip_starts.map _).ne_nil value
  | stmtStop => exact (Phrase.stop_starts.map _).ne_nil value
  | attempt steps => exact h.elim

theorem phrase_eq_nil_of_looks {step : Step} (h : step.Looks) {tokens : List Token}
    {value : Value} (hphrase : step.phrase tokens value) : tokens = [] := by
  cases step with
  | expectEnd =>
      obtain ⟨_, ⟨hnil, -⟩, -⟩ := hphrase
      exact hnil
  | peek => exact hphrase.1
  | failExpected expected => exact hphrase.elim
  | _ => exact h.elim

section Run

variable {document : Document} {cursor stop : Nat} {step : Step} {value : Value}
  {failure : Failure}

theorem run_eq_ok_iff :
    step.run document cursor = (.ok value, stop) ↔ step.parse document cursor = .ok value stop := by
  unfold run
  cases step.parse document cursor <;> simp

theorem run_eq_error_iff :
    step.run document cursor = (.error failure, stop) ↔
      step.parse document cursor = .error failure stop := by
  unfold run
  cases step.parse document cursor <;> simp

/-- A step keeps the cursor within the document. -/
theorem run_le_length (h : cursor ≤ document.tokens.length) (step : Step) :
    (step.run document cursor).2 ≤ document.tokens.length := by
  cases hrun : step.run document cursor with
  | mk result stop =>
      cases result with
      | ok value => exact ((passes step).spans h (run_eq_ok_iff.mp hrun)).2.1
      | error failure => exact (restores step (run_eq_error_iff.mp hrun)).symm ▸ h

/-- A step that looks leaves the cursor where it is, whether it succeeds or fails. -/
theorem run_of_looks (h : step.Looks) : (step.run document cursor).2 = cursor := by
  cases hrun : step.run document cursor with
  | mk result stop =>
      cases result with
      | error failure => exact restores step (run_eq_error_iff.mp hrun)
      | ok value =>
          obtain ⟨used, rest, -, hused, hstop⟩ := passes step (run_eq_ok_iff.mp hrun)
          obtain rfl := phrase_eq_nil_of_looks h hused
          exact hstop

/-- The first step that fails is the failure of all. -/
theorem parseAll_of_error {before after : List Step} {values : List Value} {middle : Nat}
    (hbefore : parseAll before document cursor = .ok values middle)
    (hstep : step.parse document middle = .error failure stop) :
    parseAll (before ++ step :: after) document cursor = .error failure stop := by
  induction before generalizing cursor values with
  | nil =>
      obtain ⟨-, rfl⟩ := EStateM.Result.ok.inj hbefore
      exact Parse.bind_of_error hstep
  | cons first before ih =>
      obtain ⟨value, between, hfirst, hrest⟩ := Parse.bind_eq_ok_iff.mp hbefore
      obtain ⟨values', _, hrest', hvalues⟩ := Parse.bind_eq_ok_iff.mp hrest
      obtain ⟨-, rfl⟩ := EStateM.Result.ok.inj hvalues
      exact (Parse.bind_of_ok hfirst).trans (Parse.bind_of_error (ih hrest'))

end Run

end Step

/-- The cursors that runs of steps get to from the first token on. -/
inductive Document.Reached (document : Document) : Nat → Prop where
  | start : Reached document 0
  | step {cursor : Nat} (h : Reached document cursor) (step : Step) :
      Reached document (step.run document cursor).2

namespace Document.Reached

variable {document : Document} {cursor : Nat}

theorem le_length (h : document.Reached cursor) : cursor ≤ document.tokens.length := by
  induction h with
  | start => exact Nat.zero_le _
  | step _ step ih => exact step.run_le_length ih

/-- The steps of an attempt get to cursors that single steps get to. -/
theorem parseAll {steps : List Step} {values : List Step.Value} {stop : Nat}
    (h : document.Reached cursor) (hsteps : Step.parseAll steps document cursor = .ok values stop) :
    document.Reached stop := by
  induction steps generalizing cursor values with
  | nil =>
      obtain ⟨-, rfl⟩ := EStateM.Result.ok.inj hsteps
      exact h
  | cons first rest ih =>
      obtain ⟨value, middle, hfirst, hrest⟩ := Parse.bind_eq_ok_iff.mp hsteps
      obtain ⟨values', _, hrest', hvalues⟩ := Parse.bind_eq_ok_iff.mp hrest
      obtain ⟨-, rfl⟩ := EStateM.Result.ok.inj hvalues
      have hmiddle := h.step first
      rw [Step.run_eq_ok_iff.mpr hfirst] at hmiddle
      exact ih hmiddle hrest'

theorem runAll (h : document.Reached cursor) (steps : List Step) :
    ∀ outcome ∈ Step.runAll document cursor steps, document.Reached outcome.2 := by
  induction steps generalizing cursor with
  | nil => simp [Step.runAll]
  | cons first rest ih =>
      intro outcome houtcome
      rcases List.mem_cons.mp houtcome with rfl | hrest
      · exact h.step first
      · exact ih (h.step first) outcome hrest

end Document.Reached

/-- The discipline of the cursor, at every cursor that a run gets to. A step that fails is back
where it began; one that succeeds has moved over the tokens of its value, at least one if it is
a token or a production; looking moves nothing. If a step of an attempt fails, it is back where
it began behind the steps before it, and the attempt is back where the first of them began. The
end of the document is never passed. -/
theorem Step.run_keeps_cursor {document : Document} {cursor : Nat}
    (h : document.Reached cursor) :
    (∀ step failure stop, Step.run document cursor step = (.error failure, stop) →
      stop = cursor) ∧
    (∀ step value stop, Step.run document cursor step = (.ok value, stop) →
      document.Spans step.phrase cursor stop value ∧ (step.Consumes → cursor < stop)) ∧
    (∀ step : Step, step.Looks → (step.run document cursor).2 = cursor) ∧
    (∀ before step after values middle failure stop,
      Step.parseAll before document cursor = .ok values middle →
      Step.run document middle step = (.error failure, stop) →
      document.Reached middle ∧ stop = middle ∧
        (Step.attempt (before ++ step :: after)).run document cursor = (.error failure, cursor)) ∧
    cursor ≤ document.tokens.length ∧
    ∀ steps, ∀ outcome ∈ Step.runAll document cursor steps,
      outcome.2 ≤ document.tokens.length := by
  refine ⟨?_, ?_, ?_, ?_, h.le_length, ?_⟩
  · intro step failure stop hrun
    exact step.restores (Step.run_eq_error_iff.mp hrun)
  · intro step value stop hrun
    have hparse := Step.run_eq_ok_iff.mp hrun
    refine ⟨step.passes.spans h.le_length hparse, fun hconsumes => ?_⟩
    obtain ⟨used, rest, -, hused, rfl⟩ := step.passes hparse
    cases used with
    | nil => exact absurd hused (Step.phrase_ne_nil hconsumes value)
    | cons token used => exact Nat.lt_add_of_pos_right (Nat.zero_lt_succ _)
  · exact fun step hlooks => Step.run_of_looks hlooks
  · intro before step after values middle failure stop hbefore hrun
    have hparse := Step.run_eq_error_iff.mp hrun
    refine ⟨h.parseAll hbefore, step.restores hparse, Step.run_eq_error_iff.mpr ?_⟩
    have hall : Step.parseAll (before ++ step :: after) document cursor = .error failure stop :=
      Step.parseAll_of_error hbefore hparse
    rw [Step.parse, Parse.attempt, Parse.bind_of_error hall]
  · exact fun steps outcome houtcome => (h.runAll steps outcome houtcome).le_length

/-- A label is read, and then a comparator whose value is no pattern; both are given back. -/
theorem Step.run_keeps_cursor_pattern :
    let token (kind : TokenKind) (text : String) : Token := ⟨kind, ⟨"", .start⟩, .empty 0, text⟩
    let document : Document := ⟨{ text := "" }, [token .ident "label", token .string "a",
      token .ident "message", token .ident "matches", token .string "+"]⟩
    let fault : Pattern.Fault := ⟨.repetitionMissing, ⟨.start, .start⟩, none⟩
    let failure := document.failAt (token .string "+") (.invalidPattern "+" fault)
    Step.parseAll [.stmtLabel] document 0 = .ok [.stmt (.label ["a"])] 2 ∧
      Step.exprMessage.run document 2 = (.error failure, 2) ∧ document.Reached 2 ∧
      (Step.attempt [.stmtLabel, .exprMessage]).run document 0 = (.error failure, 0) := by
  intro token document fault failure
  have hlabel : Step.parseAll [.stmtLabel] document 0 = .ok [.stmt (.label ["a"])] 2 := rfl
  have hmessage : Step.exprMessage.run document 2 = (.error failure, 2) := by
    unfold failure fault document token
    rfl
  have hstart : document.Reached 0 := .start
  obtain ⟨-, -, -, hattempt, -⟩ := Step.run_keeps_cursor hstart
  obtain ⟨hreached, -, hrun⟩ := hattempt [.stmtLabel] .exprMessage [] _ _ _ _ hlabel hmessage
  exact ⟨hlabel, hmessage, hreached, hrun⟩

end MailRules

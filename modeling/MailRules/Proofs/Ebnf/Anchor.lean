import MailRules.Ebnf.Parse
import MailRules.Proofs.Parse.Anchor

/-!
# Where failures of reading a grammar are said to be

Brackets nest to any depth, and a failure comes up from the innermost of them unchanged. So
what is said of the failures of the two recursive readers holds at every bound, by induction
on it, and with them every failure of reading a grammar points at a token of its source.

This completes what is known of places: of tokens, of lexical failures, and of failures of
reading an expression, a statement or a grammar.
-/

namespace MailRules

namespace Ebnf

open Parse (Pins)

namespace Form

theorem pins_parseTerminal : Pins parseTerminal := by
  refine (Pins.expect .string none).bind fun first => ?_
  refine (Pins.accept "…").bind fun found => ?_
  cases found with
  | true => exact (Pins.expect .string none).bind fun _ => .pure _
  | false => exact .pure _

theorem pins_parseTerms_succ {bound : Nat} (hterms : Pins (parseTerms bound))
    (hbranches : Pins (parseBranches bound)) : Pins (parseTerms (bound + 1)) := by
  rw [parseTerms]
  refine Pins.current.bind fun next => ?_
  cases next with
  | none => exact .pure _
  | some next =>
      dsimp only
      split
      · exact (Pins.expect .ident none).bind fun _ => hterms.bind fun _ => .pure _
      · exact pins_parseTerminal.bind fun _ => hterms.bind fun _ => .pure _
      · split
        · exact .pure _
        · refine (Pins.expectOther _).bind fun _ => hbranches.bind fun _ => ?_
          exact (Pins.expectOther _).bind fun _ => hterms.bind fun _ => .pure _

theorem pins_parseBranches_succ {bound : Nat} (hterms : Pins (parseTerms bound))
    (hbranches : Pins (parseBranches bound)) : Pins (parseBranches (bound + 1)) := by
  rw [parseBranches]
  refine hterms.bind fun items => ?_
  split
  · exact .failExpected_bind "term" _
  · refine (Pins.accept "|").bind fun found => ?_
    cases found with
    | true => exact hbranches.bind fun _ => .pure _
    | false => exact .pure _

/-- However deep a failure lies in brackets, it points at a token. -/
theorem pins_lists (bound : Nat) : Pins (parseTerms bound) ∧ Pins (parseBranches bound) := by
  induction bound with
  | zero => exact ⟨.pure _, .failExpected "term"⟩
  | succ bound ih =>
      exact ⟨pins_parseTerms_succ ih.1 ih.2, pins_parseBranches_succ ih.1 ih.2⟩

end Form

namespace Production

theorem pins_parse : Pins Production.parse := by
  refine (Pins.expect .ident none).bind fun name => ?_
  refine (Pins.expectOther "=").bind fun _ => ?_
  refine (Pins.accept ".").bind fun found => ?_
  cases found with
  | true => exact .pure _
  | false =>
      refine Pins.bind ?_ fun body => (Pins.expectOther ".").bind fun _ => .pure _
      exact Pins.remaining.bind fun bound => (Form.pins_lists _).2.bind fun _ => .pure _

theorem pins_parseAll (bound : Nat) : Pins (parseAll bound) := by
  induction bound with
  | zero => exact .pure _
  | succ bound ih =>
      refine Pins.isAtEnd.bind fun atEnd => ?_
      cases atEnd with
      | true => exact .pure _
      | false => exact pins_parse.bind fun _ => ih.bind fun _ => .pure _

end Production

theorem Grammar.pins_parse : Pins Grammar.parse :=
  Pins.remaining.bind fun bound => (Production.pins_parseAll bound).bind fun _ => .pure _

end Ebnf

namespace Source

/-- The failures of reading a grammar are in their places. -/
theorem placedIn_of_parseGrammar {source : Source} {failure : Failure}
    (h : source.parseGrammar = .error failure) : failure.PlacedIn source := by
  unfold parseGrammar at h
  cases hsource : Document.ofSource source with
  | error failure' =>
      rw [hsource] at h
      obtain rfl : failure' = failure := Except.error.inj h
      exact placedIn_of_lex (Document.ofSource_eq_error_iff.mp hsource)
  | ok document =>
      rw [hsource] at h
      have hread : Ebnf.Grammar.parse.run document = .error failure := h
      unfold Parse.run at hread
      cases hrun : Ebnf.Grammar.parse document 0 with
      | ok grammar stop =>
          rw [hrun] at hread
          cases hread
      | error failure' stop =>
          rw [hrun] at hread
          obtain rfl : failure' = failure := Except.error.inj hread
          exact (Ebnf.Grammar.pins_parse hrun).placedIn hsource

/-- Every token of a source and every failure of lexing it or of reading it as an expression, a
statement or a grammar says rightly where it is. -/
theorem anchored (source : Source) :
    (∀ tokens, source.lex = .ok tokens →
      ∀ token ∈ tokens, source.Anchors token.position token.span) ∧
    (∀ failure, source.lex = .error failure → failure.PlacedIn source) ∧
    (∀ failure, source.parseExpr = .error failure → failure.PlacedIn source) ∧
    (∀ failure, source.parseStmt = .error failure → failure.PlacedIn source) ∧
    ∀ failure, source.parseGrammar = .error failure → failure.PlacedIn source := by
  refine ⟨(anchors_lex source).1, ?_, ?_, ?_, ?_⟩
  · intro failure h
    exact placedIn_of_lex h
  · intro failure h
    exact Parse.placedIn_whole (fun _ _ hordered => Parse.pins_expr hordered) h
  · intro failure h
    exact Parse.placedIn_whole (fun _ _ hordered => Parse.pins_stmt hordered) h
  · intro failure h
    exact placedIn_of_parseGrammar h

/-- The end of the input behind a string of two lines that holds a character of two bytes. -/
theorem anchored_two_lines :
    let source : Source := { name := "rule", text := "header `é\n` is" }
    let failure := Failure.of source .unexpectedEnd ⟨"rule", ⟨13, 2, 3⟩⟩ (.empty 15)
    source.parseExpr = .error failure ∧ failure.PlacedIn source := by
  intro source failure
  have hparse : source.parseExpr = .error failure := by decide +kernel
  exact ⟨hparse, (anchored source).2.2.1 failure hparse⟩

end Source
end MailRules

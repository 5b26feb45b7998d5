import MailRules.Proofs.Ebnf.Shape
import MailRules.Proofs.Parse.Lookahead

/-!
# Reading a grammar with one token ahead

The readers of terms and of branches call each other, once for each pair of brackets, and what
a term is cut off from is decided by the token behind it. At every depth and at every bound they
look no further ahead than that, and what they have read is the beginning of a body.

The bound is what is left of the document, so it is not the same in documents that only begin
alike. It makes no difference: each token read takes two from the bound, and with less to read
than that the readers never come to its end.
-/

namespace MailRules

open Parse (Scans)

namespace Ebnf

namespace Form

/-- Tokens of terms side by side, as many as were read. -/
def TermsShape : Phrase (List Form) := fun tokens items =>
  items = [] ∧ tokens = [] ∨ items ≠ [] ∧ PartShape .branch tokens

/-- Tokens of branches with bars between them. -/
def BranchesShape : Phrase (List Form) := fun tokens _ => PartShape .body tokens

theorem TermsShape.nil : TermsShape [] [] := .inl ⟨rfl, rfl⟩

theorem TermsShape.cons {left right : List Token} {items : List Form} (item : Form)
    (hleft : PartShape .term left) (hright : TermsShape right items) :
    TermsShape (left ++ right) (item :: items) := by
  refine .inr ⟨List.cons_ne_nil _ _, ?_⟩
  rcases hright with ⟨-, rfl⟩ | ⟨-, hright⟩
  · rw [List.append_nil]
    exact .one hleft
  · exact .beside hleft hright

theorem TermsShape.branch {tokens : List Token} {items : List Form} (h : TermsShape tokens items)
    (hne : items ≠ []) : PartShape .branch tokens := by
  rcases h with ⟨rfl, -⟩ | ⟨-, htokens⟩
  · exact absurd rfl hne
  · exact htokens

/-- A single name is a body, so a body can always be completed. -/
theorem branchesShape_begins_nil : BranchesShape.Begins [] := by
  obtain ⟨tokens, token, htoken⟩ := Phrase.begins_nil_token .ident none
  obtain ⟨htokens, hkind⟩ := Phrase.token_none_iff.mp htoken
  refine ⟨tokens, [], ?_⟩
  rw [htokens]
  exact .lone (.one (.name hkind))

theorem scans_parseTerminal : Scans parseTerminal fun tokens _ => PartShape .term tokens := by
  refine (Scans.kind .string).complete ?_
  rintro _ first ⟨rfl, hfirst⟩
  refine (Scans.accept "…").complete fun middle found hfound => ?_
  cases found with
  | true =>
      obtain ⟨dots, rfl, hdots⟩ := hfound
      refine (Scans.kind .string).complete ?_
      rintro _ last ⟨rfl, hlast⟩
      exact .of_pure (.range hfirst hdots hlast)
  | false =>
      obtain rfl : middle = [] := hfound
      exact .of_pure (.terminal hfirst)

theorem scans_parseTerms_succ {bound : Nat} (hterms : Scans (parseTerms bound) TermsShape)
    (hbranches : Scans (parseBranches bound) BranchesShape) :
    Scans (parseTerms (bound + 1)) TermsShape := by
  rw [parseTerms]
  refine Scans.current.complete ?_
  rintro _ next rfl
  cases next with
  | none => exact .of_pure .nil
  | some next =>
      dsimp only
      split
      · refine (Scans.kind .ident).complete ?_
        rintro _ name ⟨rfl, hname⟩
        refine hterms.complete fun more items hitems => .of_pure ?_
        simpa using TermsShape.cons _ (.name hname) hitems
      · refine scans_parseTerminal.complete fun used term hused => ?_
        refine hterms.complete fun more items hitems => .of_pure ?_
        simpa using TermsShape.cons term hused hitems
      · split
        · exact .of_pure .nil
        · next closing wrap hbracket =>
            refine (Scans.expectOther _).complete ?_
            rintro _ _ ⟨before, rfl, hopening, htext⟩
            refine hbranches.complete fun inner _ hinner => ?_
            refine (Scans.expectOther _).complete ?_
            rintro _ _ ⟨after, rfl, hclosing, rfl⟩
            refine hterms.complete fun more items hitems => .of_pure ?_
            have hpair := mem_brackets hbracket
            rw [← htext] at hpair
            simpa using TermsShape.cons _ (.bracket hpair hopening hclosing hinner) hitems

theorem scans_parseBranches_succ {bound : Nat} (hterms : Scans (parseTerms bound) TermsShape)
    (hbranches : Scans (parseBranches bound) BranchesShape) :
    Scans (parseBranches (bound + 1)) BranchesShape := by
  rw [parseBranches]
  refine hterms.complete fun used items hitems => ?_
  split
  · next hempty =>
      -- Nothing has been read of the branch, which could still begin.
      rcases hitems with ⟨-, rfl⟩ | ⟨hne, -⟩
      · rw [Parse.failExpected_bind_eq]
        exact .failExpected "term" branchesShape_begins_nil
      · exact absurd (List.isEmpty_iff.mp hempty) hne
  · next hempty =>
      have hbranch := hitems.branch (mt List.isEmpty_iff.mpr hempty)
      refine (Scans.accept "|").complete fun middle found hfound => ?_
      cases found with
      | true =>
          obtain ⟨bar, rfl, hbar⟩ := hfound
          refine hbranches.complete fun more branches hmore => .of_pure ?_
          rw [List.append_nil]
          exact .barred hbranch hbar hmore
      | false =>
          obtain rfl : middle = [] := hfound
          refine .of_pure ?_
          rw [List.append_nil, List.append_nil]
          exact .lone hbranch

/-- Both readers of lists look one token ahead, however deep the brackets. -/
theorem scans_lists (bound : Nat) :
    Scans (parseTerms bound) TermsShape ∧ Scans (parseBranches bound) BranchesShape := by
  induction bound with
  | zero => exact ⟨.of_pure .nil, .failExpected "term" branchesShape_begins_nil⟩
  | succ bound ih => exact ⟨scans_parseTerms_succ ih.1 ih.2, scans_parseBranches_succ ih.1 ih.2⟩

variable {document : Document} {cursor bound : Nat}

/-- Twice as many as there are tokens left is bound enough for the terms from a cursor on. -/
def StableTerms (bound : Nat) : Prop :=
  ∀ ⦃document : Document⦄ ⦃cursor : Nat⦄, 2 * (document.tokens.length - cursor) ≤ bound →
    parseTerms (bound + 1) document cursor = parseTerms bound document cursor

def StableBranches (bound : Nat) : Prop :=
  ∀ ⦃document : Document⦄ ⦃cursor : Nat⦄, 2 * (document.tokens.length - cursor) + 1 ≤ bound →
    parseBranches (bound + 1) document cursor = parseBranches bound document cursor

theorem StableTerms.succ (hterms : StableTerms bound) (hbranches : StableBranches bound) :
    StableTerms (bound + 1) := by
  intro document cursor hbound
  cases htokens : document.tokens.drop cursor with
  | nil => rw [parseTerms_of_nil htokens, parseTerms_of_nil htokens]
  | cons token rest =>
      have hlength := congrArg List.length htokens
      rw [List.length_drop, List.length_cons] at hlength
      cases hkind : token.kind with
      | ident =>
          rw [parseTerms_of_ident htokens hkind, parseTerms_of_ident htokens hkind]
          exact Parse.bind_eq_bind (hterms (by omega)) fun _ _ _ => rfl
      | string =>
          rw [parseTerms_of_string htokens hkind, parseTerms_of_string htokens hkind]
          refine Parse.bind_eq_bind rfl fun term stop hterm => ?_
          obtain ⟨used, _, -, hused, rfl⟩ := passes_parseTerminal hterm
          obtain ⟨_, more, rfl, -⟩ := hused.opens
          rw [List.length_cons]
          exact Parse.bind_eq_bind (hterms (by omega)) fun _ _ _ => rfl
      | other =>
          cases hbracket : bracket? token.text with
          | none =>
              rw [parseTerms_of_sign htokens hkind hbracket,
                parseTerms_of_sign htokens hkind hbracket]
          | some pair =>
              have hmark := Mark.ofToken_eq_other_iff.mpr ⟨hkind, rfl⟩
              rw [parseTerms_of_bracket htokens hmark hbracket,
                parseTerms_of_bracket htokens hmark hbracket]
              refine Parse.bind_eq_bind (hbranches (by omega)) fun inner stop hinner => ?_
              refine Parse.bind_eq_bind rfl fun _ stop' hclosing => ?_
              have hle := (scans_lists _).2.le_of_ok hinner
              have hle' := (Scans.expectOther _).le_of_ok hclosing
              exact Parse.bind_eq_bind (hterms (by omega)) fun _ _ _ => rfl

theorem StableBranches.succ (hterms : StableTerms bound) (hbranches : StableBranches bound) :
    StableBranches (bound + 1) := by
  intro document cursor hbound
  conv_rhs => rw [parseBranches]
  conv_lhs => rw [parseBranches]
  refine Parse.bind_eq_bind (hterms (by omega)) fun items stop hitems => ?_
  have hle := (scans_lists _).1.le_of_ok hitems
  split
  · rw [Parse.failExpected_bind_eq, Parse.failExpected_bind_eq]
  · refine Parse.bind_eq_bind rfl fun found stop' hfound => ?_
    cases found with
    | true =>
        obtain ⟨used, rest, htokens, ⟨bar, rfl, -⟩, rfl⟩ := (Scans.accept "|").passes hfound
        have hlength := congrArg List.length htokens
        rw [List.length_drop, List.length_append, List.length_singleton] at hlength
        rw [List.length_singleton]
        exact Parse.bind_eq_bind (hbranches (by omega)) fun _ _ _ => rfl
    | false => rfl

theorem stable_lists (bound : Nat) : StableTerms bound ∧ StableBranches bound := by
  induction bound with
  | zero =>
      refine ⟨?_, ?_⟩
      · intro document cursor hbound
        have htokens : document.tokens.drop cursor = [] := List.drop_eq_nil_of_le (by omega)
        rw [parseTerms_of_nil htokens, parseTerms_of_nil htokens]
      · intro document cursor hbound
        omega
  | succ bound ih => exact ⟨ih.1.succ ih.2, .succ ih.1 ih.2⟩

theorem scans_parse : Scans Form.parse fun tokens _ => PartShape .body tokens := by
  have hbody : ∀ bound, Scans (parseBranches bound >>= fun branches => pure (ofBranches branches))
      fun tokens _ => PartShape .body tokens := by
    intro bound
    refine (scans_lists bound).2.complete fun left branches hleft => .of_pure ?_
    rw [List.append_nil]
    exact hleft
  refine Scans.bounded (fun count => 2 * count + 2) hbody ?_
  intro document cursor bound hbound
  exact Parse.bind_eq_bind ((stable_lists bound).2 (by omega)) fun _ _ _ => rfl

end Form

namespace Production

theorem scans_parse : Scans Production.parse fun tokens _ => ProductionShape tokens := by
  refine (Scans.kind .ident).complete ?_
  rintro _ name ⟨rfl, hname⟩
  refine (Scans.expectOther "=").complete ?_
  rintro _ _ ⟨equals, rfl, hequals⟩
  refine (Scans.accept ".").complete fun middle found hfound => ?_
  cases found with
  | true =>
      obtain ⟨dot, rfl, hdot⟩ := hfound
      exact .of_pure (.empty hname hequals hdot)
  | false =>
      obtain rfl : middle = [] := hfound
      refine Form.scans_parse.complete fun body _ hbody => ?_
      refine (Scans.expectOther ".").complete ?_
      rintro _ _ ⟨dot, rfl, hdot⟩
      exact .of_pure (.filled hname hequals hbody hdot)

theorem scans_parseAll (bound : Nat) :
    Scans (parseAll bound) fun tokens _ => DocumentShape tokens := by
  induction bound with
  | zero => exact .of_pure .nil
  | succ bound ih =>
      refine Scans.isAtEnd.complete ?_
      rintro _ atEnd rfl
      cases atEnd with
      | true => exact .of_pure .nil
      | false =>
          refine scans_parse.complete fun left production hleft => ?_
          refine ih.complete fun right _ hright => .of_pure ?_
          simpa using DocumentShape.cons hleft hright

/-- As many as there are tokens left is bound enough for the productions from a cursor on. -/
theorem stable_parseAll {document : Document} {cursor bound : Nat}
    (hbound : document.tokens.length - cursor ≤ bound) :
    parseAll (bound + 1) document cursor = parseAll bound document cursor := by
  induction bound generalizing cursor with
  | zero =>
      have htokens : document.tokens.drop cursor = [] := List.drop_eq_nil_of_le (by omega)
      rw [parseAll_of_nil htokens, parseAll_of_nil htokens]
  | succ bound ih =>
      conv_rhs => rw [parseAll]
      conv_lhs => rw [parseAll]
      refine Parse.bind_eq_bind rfl fun atEnd stop hatEnd => ?_
      cases atEnd with
      | true => rfl
      | false =>
          refine Parse.bind_eq_bind rfl fun production stop' hproduction => ?_
          have hle := Scans.isAtEnd.le_of_ok hatEnd
          obtain ⟨used, rest, htokens, hused, rfl⟩ := passes_parse hproduction
          have hpos := hused.length_pos
          have hlength := congrArg List.length htokens
          rw [List.length_drop, List.length_append] at hlength
          exact Parse.bind_eq_bind (ih (by omega)) fun _ _ _ => rfl

/-- The productions are read up to the end of the document. -/
theorem drop_eq_nil_of_parseAll {document : Document} {cursor bound stop : Nat}
    {productions : List Production} (hbound : document.tokens.length - cursor ≤ bound)
    (hrun : parseAll bound document cursor = .ok productions stop) :
    document.tokens.drop stop = [] := by
  induction bound generalizing cursor productions with
  | zero =>
      have htokens : document.tokens.drop cursor = [] := List.drop_eq_nil_of_le (by omega)
      rw [parseAll_of_nil htokens] at hrun
      obtain ⟨-, rfl⟩ := EStateM.Result.ok.inj hrun
      exact htokens
  | succ bound ih =>
      cases htokens : document.tokens.drop cursor with
      | nil =>
          rw [parseAll_of_nil htokens] at hrun
          obtain ⟨-, rfl⟩ := EStateM.Result.ok.inj hrun
          exact htokens
      | cons token rest =>
          rw [parseAll, Parse.bind_of_ok (isAtEnd_of_drop htokens)] at hrun
          obtain ⟨first, middle, hfirst, hrun⟩ := Parse.bind_eq_ok_iff.mp hrun
          obtain ⟨others, stop', hothers, hrun⟩ := Parse.bind_eq_ok_iff.mp hrun
          obtain ⟨-, rfl⟩ := EStateM.Result.ok.inj hrun
          obtain ⟨used, _, -, hused, rfl⟩ := passes_parse hfirst
          have hpos := hused.length_pos
          exact ih (by omega) hothers

end Production

namespace Grammar

/-- The token sequences that are documents. -/
def Shape : Phrase Grammar := fun tokens _ => DocumentShape tokens

theorem scans_parse : Scans Grammar.parse Shape := by
  have hall : ∀ bound, Scans
      (Production.parseAll bound >>= fun productions => pure (Grammar.mk productions)) Shape := by
    intro bound
    refine (Production.scans_parseAll bound).complete fun left productions hleft => .of_pure ?_
    rw [List.append_nil]
    exact hleft
  refine Scans.bounded (fun count => count) hall ?_
  intro document cursor bound hbound
  exact Parse.bind_eq_bind (Production.stable_parseAll hbound) fun _ _ _ => rfl

end Grammar
end Ebnf
end MailRules

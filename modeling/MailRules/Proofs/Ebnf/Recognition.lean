import MailRules.Proofs.Ebnf.Unparse
import MailRules.Proofs.Parse.Passage

/-!
# What the grammar parser recognises

Reading a grammar and writing one out are inverse to each other. One direction says that the
tokens passed over are those of the result, which needs no bound and no look ahead. The other
direction says that a form is read completely and no further: this depends on the token behind
it, which must not be one that a longer form goes on with.

Each list that is begun takes one from the bound, and so does each of its members. No bracket
is entered and no member is passed without reading a token, so twice the number of tokens of a
form is bound enough to read it.
-/

namespace MailRules

open Parse (Passes)

namespace Ebnf

/-- The tokens are those of the marks. -/
def Written (tokens : List Token) (marks : List Mark) : Prop := tokens.map Mark.ofToken = marks

namespace Written

variable {left right : List Token} {first second : List Mark}

theorem nil : Written [] [] := rfl

theorem append (hleft : Written left first) (hright : Written right second) :
    Written (left ++ right) (first ++ second) := by
  rw [Written, List.map_append, hleft, hright]

theorem ident {token : Token} (h : token.kind = .ident) :
    Written [token] [.ident (.ofToken token)] :=
  congrArg (fun mark => [mark]) (Mark.ofToken_eq_ident_iff.mpr ⟨h, rfl⟩)

theorem string {token : Token} (h : token.kind = .string) :
    Written [token] [.string (.ofToken token)] :=
  congrArg (fun mark => [mark]) (Mark.ofToken_eq_string_iff.mpr ⟨h, rfl⟩)

theorem other {text : String} {tokens : List Token} {token : Token}
    (h : Phrase.token .other (some text) tokens token) : Written tokens [.other text] := by
  obtain ⟨rfl, hkind, htext⟩ := h
  have hsame : text = token.text := by simpa using htext
  exact congrArg (fun mark => [mark]) (Mark.ofToken_eq_other_iff.mpr ⟨hkind, hsame.symm⟩)

end Written

theorem passes_nextIdent :
    Passes Parse.nextIdent fun tokens token => Written tokens [.ident (.ofToken token)] := by
  refine (Passes.expect .ident none).imp ?_
  rintro _ token ⟨rfl, hkind, -⟩
  exact .ident hkind

theorem passes_nextString :
    Passes Parse.nextString fun tokens token => Written tokens [.string (.ofToken token)] := by
  refine (Passes.expect .string none).imp ?_
  rintro _ token ⟨rfl, hkind, -⟩
  exact .string hkind

theorem passes_expectOther (text : String) :
    Passes (Parse.expectOther text) fun tokens _ => Written tokens [.other text] := by
  refine (Passes.expect .other (some text)).complete fun left token h => .of_pure ?_
  rw [List.append_nil]
  exact .other h

theorem passes_accept (text : String) :
    Passes (Parse.accept text) fun tokens found =>
      Written tokens (if found then [.other text] else []) := by
  refine (Passes.accept text).imp ?_
  rintro tokens (_ | _) h
  · exact congrArg (List.map Mark.ofToken) h
  · exact .other h.choose_spec

namespace Form

/-- Tokens of one term. -/
def TermPhrase : Phrase Form := fun tokens form => form.Term ∧ Written tokens form.marks

/-- Tokens of one term after the other. -/
def TermsPhrase : Phrase (List Form) := fun tokens items =>
  (∀ item ∈ items, item.Term) ∧ Written tokens (juxtaposed items)

/-- Tokens of at least one branch, with bars between branches. -/
def BranchesPhrase : Phrase (List Form) := fun tokens branches =>
  branches ≠ [] ∧ (∀ branch ∈ branches, branch.Branch) ∧ Written tokens (barred branches)

theorem TermsPhrase.nil : TermsPhrase [] [] := ⟨by simp, rfl⟩

theorem TermsPhrase.cons {left right : List Token} {item : Form} {items : List Form}
    (hitem : TermPhrase left item) (hitems : TermsPhrase right items) :
    TermsPhrase (left ++ right) (item :: items) :=
  ⟨List.forall_mem_cons.mpr ⟨hitem.1, hitems.1⟩, hitem.2.append hitems.2⟩

theorem BranchesPhrase.singleton {tokens : List Token} {branch : Form}
    (hbranch : branch.Branch ∧ Written tokens branch.marks) : BranchesPhrase tokens [branch] :=
  ⟨List.cons_ne_nil _ _, List.forall_mem_singleton.mpr hbranch.1,
    hbranch.2.trans (List.append_nil _).symm⟩

theorem BranchesPhrase.cons {left bar right : List Token} {branch : Form} {branches : List Form}
    (hbranch : branch.Branch ∧ Written left branch.marks) (hbar : Written bar [.other "|"])
    (hbranches : BranchesPhrase right branches) :
    BranchesPhrase (left ++ (bar ++ right)) (branch :: branches) := by
  obtain ⟨hne, hmembers, hright⟩ := hbranches
  refine ⟨List.cons_ne_nil _ _, List.forall_mem_cons.mpr ⟨hbranch.1, hmembers⟩, ?_⟩
  rw [barred, barredAfter_of_ne_nil hne]
  exact hbranch.2.append (hbar.append hright)

theorem TermsPhrase.branch {tokens : List Token} {items : List Form} (h : TermsPhrase tokens items)
    (hne : items ≠ []) :
    (ofTerms items).Branch ∧ Written tokens (ofTerms items).marks :=
  ⟨branch_iff.mpr ⟨items, hne, h.1, rfl⟩, h.2.trans (marks_ofTerms items).symm⟩

theorem BranchesPhrase.form {tokens : List Token} {branches : List Form}
    (h : BranchesPhrase tokens branches) :
    (ofBranches branches).Normal ∧ Written tokens (ofBranches branches).marks :=
  ⟨normal_iff.mpr ⟨branches, h.1, h.2.1, rfl⟩, h.2.2.trans (marks_ofBranches branches).symm⟩

/-- The tokens of a form are those of its branches. -/
theorem Normal.exists_branches {tokens : List Token} {form : Form} (hnormal : form.Normal)
    (h : Written tokens form.marks) :
    ∃ branches, BranchesPhrase tokens branches ∧ ofBranches branches = form := by
  obtain ⟨branches, hne, hbranches, rfl⟩ := normal_iff.mp hnormal
  exact ⟨branches, ⟨hne, hbranches, h.trans (marks_ofBranches branches)⟩, rfl⟩

theorem passes_parseTerminal : Passes parseTerminal TermPhrase := by
  refine passes_nextString.complete fun _ first hfirst => ?_
  refine (passes_accept "…").complete fun _ found hfound => ?_
  cases found with
  | true =>
      refine passes_nextString.complete fun _ last hlast => .of_pure ⟨?_, ?_⟩
      · exact ⟨.range _ _, id, id⟩
      · exact hfirst.append (hfound.append (hlast.append .nil))
  | false => exact .of_pure ⟨⟨.token _, id, id⟩, hfirst.append (hfound.append .nil)⟩

/-- What a parser of terms has read is a list of terms, whatever its bound. -/
theorem passes_parseTerms_succ {bound : Nat} (hterms : Passes (parseTerms bound) TermsPhrase)
    (hbranches : Passes (parseBranches bound) BranchesPhrase) :
    Passes (parseTerms (bound + 1)) TermsPhrase := by
  rw [parseTerms]
  refine Passes.current.complete fun left next hleft => ?_
  obtain rfl : left = [] := hleft
  cases next with
  | none => exact .of_pure .nil
  | some next =>
      dsimp only
      split
      · refine passes_nextIdent.complete fun used name hname => ?_
        refine hterms.complete fun more items hitems => .of_pure ?_
        have hterm : TermPhrase used (.name (.ofToken name)) := ⟨⟨.name _, id, id⟩, hname⟩
        simpa using TermsPhrase.cons hterm hitems
      · refine passes_parseTerminal.complete fun used term hterm => ?_
        refine hterms.complete fun more items hitems => .of_pure ?_
        simpa using TermsPhrase.cons hterm hitems
      · split
        · exact .of_pure .nil
        · next closing wrap hbracket =>
            refine (passes_expectOther _).complete fun before _ hbefore => ?_
            refine hbranches.complete fun used branches hused => ?_
            refine (passes_expectOther _).complete fun after _ hafter => ?_
            refine hterms.complete fun more items hitems => .of_pure ?_
            obtain ⟨hnormal, hmarks⟩ := hused.form
            have hterm : TermPhrase (before ++ (used ++ after)) (wrap (ofBranches branches)) :=
              ⟨bracket_term hbracket hnormal,
                bracket_marks hbracket ▸ hbefore.append (hmarks.append hafter)⟩
            simpa using TermsPhrase.cons hterm hitems

theorem passes_parseBranches_succ {bound : Nat} (hterms : Passes (parseTerms bound) TermsPhrase)
    (hbranches : Passes (parseBranches bound) BranchesPhrase) :
    Passes (parseBranches (bound + 1)) BranchesPhrase := by
  rw [parseBranches]
  refine hterms.complete fun used items hitems => ?_
  split
  · exact (Passes.failExpected "term" fun _ _ => False).complete fun _ _ h => h.elim
  · next hempty =>
      have hbranch := hitems.branch (mt List.isEmpty_iff.mpr hempty)
      refine (passes_accept "|").complete fun bar found hbar => ?_
      cases found with
      | true =>
          refine hbranches.complete fun more branches hmore => .of_pure ?_
          simpa using BranchesPhrase.cons hbranch hbar hmore
      | false =>
          refine .of_pure ?_
          obtain rfl : bar = [] := List.map_eq_nil_iff.mp hbar
          simpa using BranchesPhrase.singleton hbranch

/-- What is passed over is written out as what is read, at every bound. -/
theorem passes_lists (bound : Nat) :
    Passes (parseTerms bound) TermsPhrase ∧ Passes (parseBranches bound) BranchesPhrase := by
  induction bound with
  | zero => exact ⟨.of_pure .nil, .failExpected "term" _⟩
  | succ bound ih =>
      exact ⟨passes_parseTerms_succ ih.1 ih.2, passes_parseBranches_succ ih.1 ih.2⟩

end Form

section Run

variable {document : Document} {cursor : Nat} {token : Token} {rest : List Token} {text : String}

theorem current?_of_drop (h : document.tokens.drop cursor = token :: rest) :
    Parse.current? document cursor = .ok (some token) cursor := by
  have hcurrent : Parse.current? document cursor = .ok document.tokens[cursor]? cursor := rfl
  rw [hcurrent, Document.getElem?_of_drop h]

theorem current?_of_nil (h : document.tokens.drop cursor = []) :
    Parse.current? document cursor = .ok none cursor := by
  have hcurrent : Parse.current? document cursor = .ok document.tokens[cursor]? cursor := rfl
  rw [hcurrent, ← List.head?_drop, h, List.head?_nil]

theorem isAtEnd_of_drop (h : document.tokens.drop cursor = token :: rest) :
    Parse.isAtEnd document cursor = .ok false cursor := by
  rw [Parse.isAtEnd_eq, Parse.bind_of_ok (current?_of_drop h)]
  rfl

theorem isAtEnd_of_nil (h : document.tokens.drop cursor = []) :
    Parse.isAtEnd document cursor = .ok true cursor := by
  rw [Parse.isAtEnd_eq, Parse.bind_of_ok (current?_of_nil h)]
  rfl

theorem nextIdent_of_drop (h : document.tokens.drop cursor = token :: rest)
    (hkind : token.kind = .ident) : Parse.nextIdent document cursor = .ok token (cursor + 1) := by
  rw [Parse.nextIdent, ← hkind]
  exact Parse.expect_of_drop h rfl

theorem nextString_of_drop (h : document.tokens.drop cursor = token :: rest)
    (hkind : token.kind = .string) :
    Parse.nextString document cursor = .ok token (cursor + 1) := by
  rw [Parse.nextString, ← hkind]
  exact Parse.expect_of_drop h rfl

theorem expect_other_of_drop (h : document.tokens.drop cursor = token :: rest)
    (hmark : Mark.ofToken token = .other text) :
    Parse.expect .other (some text) document cursor = .ok token (cursor + 1) := by
  obtain ⟨hkind, rfl⟩ := Mark.ofToken_eq_other_iff.mp hmark
  rw [← hkind]
  exact Parse.expect_of_drop h (by simp)

theorem expectOther_of_drop (h : document.tokens.drop cursor = token :: rest)
    (hmark : Mark.ofToken token = .other text) :
    Parse.expectOther text document cursor = .ok () (cursor + 1) :=
  Parse.bind_of_ok (expect_other_of_drop h hmark)

theorem accept_of_drop (h : document.tokens.drop cursor = token :: rest)
    (hmark : Mark.ofToken token = .other text) :
    Parse.accept text document cursor = .ok true (cursor + 1) := by
  rw [Parse.accept_apply, expect_other_of_drop h hmark]

theorem accept_of_ne (h : document.tokens.drop cursor = rest)
    (hmark : ∀ token ∈ rest.head?, Mark.ofToken token ≠ .other text) :
    Parse.accept text document cursor = .ok false cursor := by
  rw [Parse.accept_apply, Parse.expect_apply, ← List.head?_drop, h]
  cases hhead : rest.head? with
  | none => rfl
  | some token =>
      have hne : ¬ (token.kind = .other ∧ (some text).all (· = token.text)) := by
        rintro ⟨hkind, htext⟩
        have hsame : text = token.text := by simpa using htext
        exact hmark token hhead (Mark.ofToken_eq_other_iff.mpr ⟨hkind, hsame.symm⟩)
      simp only [if_neg hne]

end Run

namespace Form

variable {document : Document} {cursor bound : Nat} {rest : List Token}

/-- No term begins here, and no range goes on. -/
def EndsTerms (rest : List Token) : Prop :=
  ∀ token ∈ rest.head?, ¬ (Mark.ofToken token).opensTerm ∧ Mark.ofToken token ≠ .other "…"

/-- No branch goes on and no other branch follows. -/
def EndsBranches (rest : List Token) : Prop :=
  EndsTerms rest ∧ ∀ token ∈ rest.head?, Mark.ofToken token ≠ .other "|"

/-- Within the bound all terms are read, and nothing behind them. -/
def ReadsTerms (bound : Nat) : Prop :=
  ∀ ⦃document : Document⦄ ⦃cursor : Nat⦄ ⦃used rest : List Token⦄ ⦃items : List Form⦄,
    document.tokens.drop cursor = used ++ rest → TermsPhrase used items → EndsTerms rest →
      2 * used.length ≤ bound →
      parseTerms bound document cursor = .ok items (cursor + used.length)

/-- Within the bound all branches are read, and nothing behind them. -/
def ReadsBranches (bound : Nat) : Prop :=
  ∀ ⦃document : Document⦄ ⦃cursor : Nat⦄ ⦃used rest : List Token⦄ ⦃branches : List Form⦄,
    document.tokens.drop cursor = used ++ rest → BranchesPhrase used branches →
      EndsBranches rest → 2 * used.length + 1 ≤ bound →
      parseBranches bound document cursor = .ok branches (cursor + used.length)

theorem TermPhrase.opens {tokens : List Token} {item : Form} (h : TermPhrase tokens item) :
    ∃ token more, tokens = token :: more ∧ (Mark.ofToken token).opensTerm := by
  obtain ⟨mark, marks, hmarks, hopens⟩ := h.1.1.opens
  obtain ⟨token, more, rfl, rfl, -⟩ := List.map_eq_cons_iff.mp (h.2.trans hmarks)
  exact ⟨token, more, rfl, hopens⟩

theorem endsTerms_of_mark {token : Token} {mark : Mark} (h : Mark.ofToken token = mark)
    (hopens : ¬ mark.opensTerm) (hdots : mark ≠ .other "…") : EndsTerms (token :: rest) := by
  subst h
  intro _ hhead
  obtain rfl := Option.some.inj hhead
  exact ⟨hopens, hdots⟩

theorem endsBranches_of_mark {token : Token} {mark : Mark} (h : Mark.ofToken token = mark)
    (hopens : ¬ mark.opensTerm) (hdots : mark ≠ .other "…") (hbar : mark ≠ .other "|") :
    EndsBranches (token :: rest) := by
  refine ⟨endsTerms_of_mark h hopens hdots, ?_⟩
  subst h
  intro _ hhead
  obtain rfl := Option.some.inj hhead
  exact hbar

theorem bracket_ends {opening closing : String} {wrap : Form → Form} {token : Token}
    (hbracket : bracket? opening = some (closing, wrap))
    (hmark : Mark.ofToken token = .other closing) : EndsBranches (token :: rest) := by
  rcases bracket_cases hbracket with ⟨-, rfl, -⟩ | ⟨-, rfl, -⟩ | ⟨-, rfl, -⟩ <;>
    exact endsBranches_of_mark hmark (by decide) (by decide) (by decide)

theorem parseTerms_of_nil (h : document.tokens.drop cursor = []) (bound : Nat) :
    parseTerms bound document cursor = .ok [] cursor := by
  cases bound with
  | zero =>
      rw [parseTerms]
      rfl
  | succ bound =>
      rw [parseTerms, Parse.bind_of_ok (current?_of_nil h)]
      rfl

/-- A sign that is no opening bracket begins no term. -/
theorem parseTerms_of_sign {token : Token} (h : document.tokens.drop cursor = token :: rest)
    (hkind : token.kind = .other) (hbracket : bracket? token.text = none) (bound : Nat) :
    parseTerms bound document cursor = .ok [] cursor := by
  cases bound with
  | zero =>
      rw [parseTerms]
      rfl
  | succ bound =>
      rw [parseTerms, Parse.bind_of_ok (current?_of_drop h)]
      simp only [hkind, hbracket]
      rfl

theorem parseTerms_of_ends (h : document.tokens.drop cursor = rest) (hends : EndsTerms rest) :
    parseTerms bound document cursor = .ok [] cursor := by
  cases rest with
  | nil => exact parseTerms_of_nil h bound
  | cons token rest =>
      obtain ⟨hopens, -⟩ := hends token rfl
      cases hmark : Mark.ofToken token with
      | ident | string =>
          rw [hmark] at hopens
          exact absurd rfl hopens
      | other text =>
          obtain ⟨hkind, rfl⟩ := Mark.ofToken_eq_other_iff.mp hmark
          rw [hmark] at hopens
          have hbracket : bracket? token.text = none := by simpa [Mark.opensTerm] using hopens
          exact parseTerms_of_sign h hkind hbracket bound

theorem parseTerms_of_ident {token : Token} (h : document.tokens.drop cursor = token :: rest)
    (hkind : token.kind = .ident) :
    parseTerms (bound + 1) document cursor =
      (parseTerms bound >>= fun items => pure (.name (.ofToken token) :: items)) document
        (cursor + 1) := by
  rw [parseTerms, Parse.bind_of_ok (current?_of_drop h)]
  simp only [hkind]
  rw [Parse.bind_of_ok (nextIdent_of_drop h hkind)]

theorem parseTerms_of_string {token : Token} (h : document.tokens.drop cursor = token :: rest)
    (hkind : token.kind = .string) :
    parseTerms (bound + 1) document cursor =
      (parseTerminal >>= fun term => parseTerms bound >>= fun items => pure (term :: items))
        document cursor := by
  rw [parseTerms, Parse.bind_of_ok (current?_of_drop h)]
  simp only [hkind]

theorem parseTerms_of_bracket {token : Token} {opening closing : String} {wrap : Form → Form}
    (h : document.tokens.drop cursor = token :: rest)
    (hmark : Mark.ofToken token = .other opening)
    (hbracket : bracket? opening = some (closing, wrap)) :
    parseTerms (bound + 1) document cursor =
      (parseBranches bound >>= fun inner => Parse.expectOther closing >>= fun _ =>
        parseTerms bound >>= fun items => pure (wrap (.ofBranches inner) :: items))
        document (cursor + 1) := by
  rw [parseTerms, Parse.bind_of_ok (current?_of_drop h)]
  have hexpect := expectOther_of_drop h hmark
  obtain ⟨hkind, rfl⟩ := Mark.ofToken_eq_other_iff.mp hmark
  simp only [hkind, hbracket]
  rw [Parse.bind_of_ok hexpect]

/-- A string that no range goes on from. -/
theorem parseTerminal_of_string {token : Token} (h : document.tokens.drop cursor = token :: rest)
    (hkind : token.kind = .string)
    (hrest : ∀ token ∈ rest.head?, Mark.ofToken token ≠ .other "…") :
    parseTerminal document cursor = .ok (.token (.ofToken token)) (cursor + 1) := by
  rw [parseTerminal, Parse.bind_of_ok (nextString_of_drop h hkind),
    Parse.bind_of_ok (accept_of_ne (Document.drop_succ_of_drop h) hrest)]
  rfl

theorem parseTerminal_of_range {first dots last : Token}
    (h : document.tokens.drop cursor = first :: dots :: last :: rest)
    (hfirst : first.kind = .string) (hdots : Mark.ofToken dots = .other "…")
    (hlast : last.kind = .string) :
    parseTerminal document cursor =
      .ok (.range (.ofToken first) (.ofToken last)) (cursor + 3) := by
  have hafter := Document.drop_succ_of_drop h
  rw [parseTerminal, Parse.bind_of_ok (nextString_of_drop h hfirst),
    Parse.bind_of_ok (accept_of_drop hafter hdots)]
  exact Parse.bind_of_ok (nextString_of_drop (Document.drop_succ_of_drop hafter) hlast)

/-- A bracket is read if what it encloses is. -/
theorem parseTerms_of_wrap {opening closing : String} {wrap : Form → Form} {inner : Form}
    {left : List Token} (hbracket : bracket? opening = some (closing, wrap))
    (hreads : ReadsBranches bound) (h : document.tokens.drop cursor = left ++ rest)
    (hinner : inner.Normal) (hleft : Written left (wrap inner).marks)
    (hbound : 2 * left.length ≤ bound + 1) :
    parseTerms (bound + 1) document cursor =
      (parseTerms bound >>= fun items => pure (wrap inner :: items)) document
        (cursor + left.length) := by
  rw [bracket_marks hbracket] at hleft
  obtain ⟨before, more, rfl, hbefore, hmore⟩ := List.map_eq_cons_iff.mp hleft
  obtain ⟨used, last, rfl, hused, hlast⟩ := List.map_eq_append_iff.mp hmore
  obtain ⟨after, rfl, hafter⟩ := List.map_eq_singleton_iff.mp hlast
  obtain ⟨branches, hphrase, rfl⟩ := hinner.exists_branches hused
  have hopen : document.tokens.drop cursor = before :: (used ++ after :: rest) := by
    simpa using h
  have hopened := Document.drop_succ_of_drop hopen
  have hlength : (before :: (used ++ [after])).length = used.length + 2 := by simp
  rw [hlength] at hbound ⊢
  have hread := hreads hopened hphrase (bracket_ends hbracket hafter) (by omega)
  have hclose := expectOther_of_drop (Document.drop_add_of_drop hopened) hafter
  have hstop : cursor + (used.length + 2) = cursor + 1 + used.length + 1 := by omega
  rw [hstop, parseTerms_of_bracket hopen hbefore hbracket, Parse.bind_of_ok hread,
    Parse.bind_of_ok hclose]

/-- A term is read, and the terms behind it are read from there. -/
theorem parseTerms_of_term {left : List Token} {item : Form} (hreads : ReadsBranches bound)
    (h : document.tokens.drop cursor = left ++ rest) (hitem : TermPhrase left item)
    (hrest : ∀ token ∈ rest.head?, Mark.ofToken token ≠ .other "…")
    (hbound : 2 * left.length ≤ bound + 1) :
    parseTerms (bound + 1) document cursor =
      (parseTerms bound >>= fun items => pure (item :: items)) document
        (cursor + left.length) := by
  obtain ⟨⟨hnormal, halternative, hsequence⟩, hmarks⟩ := hitem
  cases hnormal with
  | alternative => exact absurd trivial halternative
  | sequence => exact absurd trivial hsequence
  | group hinner =>
      have hbracket : bracket? "(" = some (")", .group) := rfl
      exact parseTerms_of_wrap hbracket hreads h hinner hmarks hbound
  | option hinner =>
      have hbracket : bracket? "[" = some ("]", .option) := rfl
      exact parseTerms_of_wrap hbracket hreads h hinner hmarks hbound
  | repetition hinner =>
      have hbracket : bracket? "\x7b" = some ("\x7d", .repetition) := rfl
      exact parseTerms_of_wrap hbracket hreads h hinner hmarks hbound
  | name symbol =>
      obtain ⟨token, rfl, hmark⟩ := List.map_eq_singleton_iff.mp hmarks
      obtain ⟨hkind, rfl⟩ := Mark.ofToken_eq_ident_iff.mp hmark
      exact parseTerms_of_ident h hkind
  | token symbol =>
      obtain ⟨token, rfl, hmark⟩ := List.map_eq_singleton_iff.mp hmarks
      obtain ⟨hkind, rfl⟩ := Mark.ofToken_eq_string_iff.mp hmark
      rw [parseTerms_of_string h hkind, Parse.bind_of_ok (parseTerminal_of_string h hkind hrest)]
      rfl
  | range first last =>
      obtain ⟨low, _, rfl, hlow, hmore⟩ := List.map_eq_cons_iff.mp hmarks
      obtain ⟨dots, _, rfl, hdots, hmore⟩ := List.map_eq_cons_iff.mp hmore
      obtain ⟨high, rfl, hhigh⟩ := List.map_eq_singleton_iff.mp hmore
      obtain ⟨hlowKind, rfl⟩ := Mark.ofToken_eq_string_iff.mp hlow
      obtain ⟨hhighKind, rfl⟩ := Mark.ofToken_eq_string_iff.mp hhigh
      rw [parseTerms_of_string h hlowKind,
        Parse.bind_of_ok (parseTerminal_of_range h hlowKind hdots hhighKind)]
      rfl

theorem TermsPhrase.uncons {tokens : List Token} {item : Form} {items : List Form}
    (h : TermsPhrase tokens (item :: items)) :
    ∃ left right, tokens = left ++ right ∧ TermPhrase left item ∧ TermsPhrase right items := by
  obtain ⟨hmembers, hmarks⟩ := h
  obtain ⟨hitem, hitems⟩ := List.forall_mem_cons.mp hmembers
  obtain ⟨left, right, rfl, hleft, hright⟩ := List.map_eq_append_iff.mp hmarks
  exact ⟨left, right, rfl, ⟨hitem, hleft⟩, hitems, hright⟩

theorem TermsPhrase.eq_nil {items : List Form} (h : TermsPhrase [] items) : items = [] := by
  cases items with
  | nil => rfl
  | cons item items =>
      obtain ⟨left, right, htokens, hitem, -⟩ := h.uncons
      obtain ⟨token, more, rfl, -⟩ := hitem.opens
      cases htokens

/-- What follows a term is another one or what ends the terms, and neither makes it a range. -/
theorem TermsPhrase.head_ne_dots {tokens : List Token} {items : List Form}
    (h : TermsPhrase tokens items) (hends : EndsTerms rest) :
    ∀ token ∈ (tokens ++ rest).head?, Mark.ofToken token ≠ .other "…" := by
  cases items with
  | nil =>
      obtain rfl : tokens = [] := List.map_eq_nil_iff.mp h.2
      exact fun token htoken => (hends token htoken).2
  | cons item items =>
      obtain ⟨left, right, rfl, hitem, -⟩ := h.uncons
      obtain ⟨token, more, rfl, hopens⟩ := hitem.opens
      intro _ hhead hdots
      obtain rfl := Option.some.inj hhead
      rw [hdots] at hopens
      exact absurd hopens (by decide)

theorem ReadsTerms.succ (hterms : ReadsTerms bound) (hbranches : ReadsBranches bound) :
    ReadsTerms (bound + 1) := by
  intro document cursor used rest items htokens hused hends hbound
  cases items with
  | nil =>
      obtain rfl : used = [] := List.map_eq_nil_iff.mp hused.2
      exact parseTerms_of_ends htokens hends
  | cons item items =>
      obtain ⟨left, right, rfl, hitem, hitems⟩ := hused.uncons
      obtain ⟨token, more, rfl, -⟩ := hitem.opens
      rw [List.append_assoc] at htokens
      rw [List.length_append] at hbound ⊢
      have hmore := hterms (Document.drop_add_of_drop htokens) hitems hends
        (by rw [List.length_cons] at hbound; omega)
      rw [parseTerms_of_term hbranches htokens hitem (hitems.head_ne_dots hends) (by omega),
        Parse.bind_of_ok hmore, Nat.add_assoc]
      rfl

/-- A branch is made of terms, and what follows is the end or another branch behind a bar. -/
theorem BranchesPhrase.uncons {tokens : List Token} {branch : Form} {branches : List Form}
    (h : BranchesPhrase tokens (branch :: branches)) :
    ∃ left right items, tokens = left ++ right ∧ items ≠ [] ∧ TermsPhrase left items ∧
      ofTerms items = branch ∧
      (right = [] ∧ branches = [] ∨
        ∃ bar more, right = bar :: more ∧ Mark.ofToken bar = .other "|" ∧
          BranchesPhrase more branches) := by
  obtain ⟨-, hmembers, hmarks⟩ := h
  obtain ⟨hbranch, hbranches⟩ := List.forall_mem_cons.mp hmembers
  obtain ⟨items, hne, hitems, rfl⟩ := branch_iff.mp hbranch
  obtain ⟨left, right, rfl, hleft, hright⟩ := List.map_eq_append_iff.mp hmarks
  refine ⟨left, right, items, rfl, hne, ⟨hitems, hleft.trans (marks_ofTerms items)⟩, rfl, ?_⟩
  cases branches with
  | nil => exact .inl ⟨List.map_eq_nil_iff.mp hright, rfl⟩
  | cons next branches =>
      rw [barredAfter_of_ne_nil (List.cons_ne_nil _ _)] at hright
      obtain ⟨bar, more, rfl, hbar, hmore⟩ := List.map_eq_cons_iff.mp hright
      exact .inr ⟨bar, more, rfl, hbar, List.cons_ne_nil _ _, hbranches, hmore⟩

/-- With at least one term read, a bar decides whether there is another branch. -/
theorem parseBranches_of_terms {items : List Form} {middle : Nat}
    (hread : parseTerms bound document cursor = .ok items middle) (hne : items ≠ []) :
    parseBranches (bound + 1) document cursor =
      (Parse.accept "|" >>= fun found =>
        if found then
          parseBranches bound >>= fun branches => pure (ofTerms items :: branches)
        else
          pure [ofTerms items]) document middle := by
  have hempty : ¬ items.isEmpty = true := mt List.isEmpty_iff.mp hne
  rw [parseBranches, Parse.bind_of_ok hread, if_neg hempty]

theorem ReadsBranches.succ (hterms : ReadsTerms bound) (hbranches : ReadsBranches bound) :
    ReadsBranches (bound + 1) := by
  intro document cursor used rest branches htokens hused hends hbound
  cases branches with
  | nil => exact absurd rfl hused.1
  | cons branch branches =>
      obtain ⟨left, right, items, rfl, hne, hitems, rfl, hmore⟩ := hused.uncons
      rw [List.append_assoc] at htokens
      have hafter := Document.drop_add_of_drop htokens
      rcases hmore with ⟨rfl, rfl⟩ | ⟨bar, more, rfl, hbar, hmore⟩
      · rw [List.append_nil] at hbound ⊢
        have hread := hterms htokens hitems hends.1 (by omega)
        rw [parseBranches_of_terms hread hne, Parse.bind_of_ok (accept_of_ne hafter hends.2)]
        rfl
      · have hcons : (bar :: more).length = more.length + 1 := rfl
        rw [List.length_append, hcons] at hbound ⊢
        have hread := hterms htokens hitems
          (endsTerms_of_mark hbar (by decide) (by decide)) (by omega)
        have hrest := hbranches (Document.drop_succ_of_drop hafter) hmore hends (by omega)
        rw [parseBranches_of_terms hread hne, Parse.bind_of_ok (accept_of_drop hafter hbar)]
        refine (Parse.bind_of_ok hrest).trans ?_
        have hstop : cursor + left.length + 1 + more.length =
            cursor + (left.length + (more.length + 1)) := by omega
        rw [hstop]
        rfl

/-- Twice the tokens of a form are bound enough to read it. -/
theorem reads (bound : Nat) : ReadsTerms bound ∧ ReadsBranches bound := by
  -- Each of the two parsers calls both with the bound less one, so they go together.
  induction bound with
  | zero =>
      refine ⟨?_, ?_⟩
      · intro document cursor used rest items htokens hused hends hbound
        obtain rfl : used = [] := List.eq_nil_of_length_eq_zero (by omega)
        obtain rfl : items = [] := hused.eq_nil
        exact parseTerms_of_ends htokens hends
      · intro document cursor used rest branches htokens hused hends hbound
        omega
  | succ bound ih => exact ⟨ih.1.succ ih.2, .succ ih.1 ih.2⟩

theorem passes_parse :
    Passes Form.parse fun tokens form => form.Normal ∧ Written tokens form.marks := by
  refine Passes.remaining.complete fun left count hleft => ?_
  obtain rfl : left = [] := hleft
  refine (passes_lists _).2.complete fun used branches hused => .of_pure ?_
  simpa using hused.form

/-- As many tokens as remain are bound enough for any form that they begin with. -/
theorem parse_of_written {used : List Token} {form : Form}
    (h : document.tokens.drop cursor = used ++ rest) (hnormal : form.Normal)
    (hused : Written used form.marks) (hends : EndsBranches rest) :
    Form.parse document cursor = .ok form (cursor + used.length) := by
  obtain ⟨branches, hphrase, rfl⟩ := hnormal.exists_branches hused
  have hremaining : Parse.remaining document cursor =
      .ok (document.tokens.length - cursor) cursor := rfl
  have hlength := congrArg List.length h
  rw [List.length_drop, List.length_append] at hlength
  rw [Form.parse, Parse.bind_of_ok hremaining,
    Parse.bind_of_ok ((reads _).2 h hphrase hends (by omega))]
  rfl

end Form
end Ebnf
end MailRules

import MailRules.Proofs.Ebnf.Inverse
import MailRules.Proofs.Parse.Grammar

/-!
# The tokens of a grammar document

Which tokens make up a document, stated without a parser and without the tree that they stand
for. A document is a sequence of productions, and a production has a name, an equals sign, a body
or none, and a full stop. In a body there are bars between branches, at least one term in each
branch, something in each pair of brackets and a string at either end of a range.

A document in this sense is a grammar written out. The tree is found by collecting the terms
of each branch and the branches of each body.
-/

namespace MailRules.Ebnf

/-- The kinds of brackets. -/
def brackets : List (String × String) := [("(", ")"), ("[", "]"), ("\x7b", "\x7d")]

/-- What a body consists of: terms, terms side by side, and branches with bars between them. -/
inductive Part where
  | term
  | branch
  | body

/-- The tokens are a part of a body. -/
inductive PartShape : Part → List Token → Prop where
  | name {token : Token} (h : token.kind = .ident) : PartShape .term [token]
  | terminal {token : Token} (h : token.kind = .string) : PartShape .term [token]
  | range {first dots last : Token} (hfirst : first.kind = .string) (hdots : dots.Is .other "…")
      (hlast : last.kind = .string) : PartShape .term [first, dots, last]
  | bracket {opening closing : Token} {inner : List Token}
      (hpair : (opening.text, closing.text) ∈ brackets) (hopening : opening.kind = .other)
      (hclosing : closing.kind = .other) (h : PartShape .body inner) :
      PartShape .term (opening :: (inner ++ [closing]))
  | one {tokens : List Token} (h : PartShape .term tokens) : PartShape .branch tokens
  | beside {left right : List Token} (hleft : PartShape .term left)
      (hright : PartShape .branch right) : PartShape .branch (left ++ right)
  | lone {tokens : List Token} (h : PartShape .branch tokens) : PartShape .body tokens
  | barred {left right : List Token} {bar : Token} (hleft : PartShape .branch left)
      (hbar : bar.Is .other "|") (hright : PartShape .body right) :
      PartShape .body (left ++ bar :: right)

/-- The tokens are a production. -/
inductive ProductionShape : List Token → Prop where
  | empty {name equals dot : Token} (hname : name.kind = .ident) (hequals : equals.Is .other "=")
      (hdot : dot.Is .other ".") : ProductionShape [name, equals, dot]
  | filled {name equals dot : Token} {body : List Token} (hname : name.kind = .ident)
      (hequals : equals.Is .other "=") (hbody : PartShape .body body) (hdot : dot.Is .other ".") :
      ProductionShape (name :: equals :: (body ++ [dot]))

/-- The tokens are a document: productions, one after the other. -/
inductive DocumentShape : List Token → Prop where
  | nil : DocumentShape []
  | cons {left right : List Token} (hleft : ProductionShape left) (hright : DocumentShape right) :
      DocumentShape (left ++ right)

namespace Form

theorem exists_bracket {opening closing : String} (h : (opening, closing) ∈ brackets) :
    ∃ wrap, bracket? opening = some (closing, wrap) := by
  simp only [brackets, List.mem_cons, Prod.mk.injEq, List.not_mem_nil, or_false] at h
  rcases h with ⟨rfl, rfl⟩ | ⟨rfl, rfl⟩ | ⟨rfl, rfl⟩
  · exact ⟨.group, rfl⟩
  · exact ⟨.option, rfl⟩
  · exact ⟨.repetition, rfl⟩

theorem mem_brackets {opening closing : String} {wrap : Form → Form}
    (h : bracket? opening = some (closing, wrap)) : (opening, closing) ∈ brackets := by
  rcases bracket_cases h with ⟨rfl, rfl, -⟩ | ⟨rfl, rfl, -⟩ | ⟨rfl, rfl, -⟩ <;> decide

end Form

theorem Written.sign {token : Token} {text : String} (h : token.Is .other text) :
    Written [token] [.other text] :=
  .other (Phrase.token_some_iff.mpr ⟨rfl, h⟩)

/-- The tokens are those of a form that may stand where the part stands. -/
def Part.Written : Part → List Token → Prop
  | .term, tokens => ∃ form, Form.TermPhrase tokens form
  | .branch, tokens => ∃ items, items ≠ [] ∧ Form.TermsPhrase tokens items
  | .body, tokens => ∃ branches, Form.BranchesPhrase tokens branches

/-- Every part of a body is a form written out. -/
theorem PartShape.written {part : Part} {tokens : List Token} (h : PartShape part tokens) :
    part.Written tokens := by
  induction h with
  | name h => exact ⟨.name _, ⟨.name _, id, id⟩, .ident h⟩
  | terminal h => exact ⟨.token _, ⟨.token _, id, id⟩, .string h⟩
  | range hfirst hdots hlast =>
      have hmarks := (Written.string hfirst).append ((Written.sign hdots).append (.string hlast))
      exact ⟨.range _ _, ⟨.range _ _, id, id⟩, hmarks⟩
  | bracket hpair hopening hclosing _ ih =>
      obtain ⟨wrap, hbracket⟩ := Form.exists_bracket hpair
      obtain ⟨branches, hbranches⟩ := ih
      obtain ⟨hnormal, hmarks⟩ := hbranches.form
      refine ⟨wrap (.ofBranches branches), Form.bracket_term hbracket hnormal, ?_⟩
      rw [Form.bracket_marks hbracket]
      have hleft := Written.sign ⟨hopening, rfl⟩
      exact hleft.append (hmarks.append (.sign ⟨hclosing, rfl⟩))
  | one _ ih =>
      obtain ⟨form, hform⟩ := ih
      refine ⟨[form], List.cons_ne_nil _ _, ?_⟩
      simpa using Form.TermsPhrase.cons hform .nil
  | beside _ _ ihleft ihright =>
      obtain ⟨form, hform⟩ := ihleft
      obtain ⟨items, -, hitems⟩ := ihright
      exact ⟨form :: items, List.cons_ne_nil _ _, .cons hform hitems⟩
  | lone _ ih =>
      obtain ⟨items, hne, hitems⟩ := ih
      exact ⟨_, .singleton (hitems.branch hne)⟩
  | barred _ hbar _ ihleft ihright =>
      obtain ⟨items, hne, hitems⟩ := ihleft
      obtain ⟨branches, hbranches⟩ := ihright
      exact ⟨_, .cons (hitems.branch hne) (.sign hbar) hbranches⟩

theorem ProductionShape.exists_production {tokens : List Token} (h : ProductionShape tokens) :
    ∃ production, Production.Shape tokens production := by
  cases h with
  | @empty name equals dot hname hequals hdot =>
      refine ⟨⟨name.text, name.position, none⟩, ?_, ?_⟩
      · rintro _ ⟨⟩
      · exact (Written.ident hname).append ((Written.sign hequals).append (.sign hdot))
  | @filled name equals dot body hname hequals hbody hdot =>
      obtain ⟨branches, hbranches⟩ := hbody.written
      obtain ⟨hnormal, hmarks⟩ := hbranches.form
      refine ⟨⟨name.text, name.position, some (.ofBranches branches)⟩, ?_, ?_⟩
      · rintro _ ⟨⟩
        exact hnormal
      · have hend := hmarks.append (.sign hdot)
        exact (Written.ident hname).append ((Written.sign hequals).append hend)

theorem DocumentShape.exists_productions {tokens : List Token} (h : DocumentShape tokens) :
    ∃ productions : List Production, (∀ production ∈ productions, production.Normal) ∧
      Written tokens (productions.flatMap Production.marks) := by
  induction h with
  | nil => exact ⟨[], by simp, rfl⟩
  | cons hleft _ ih =>
      obtain ⟨production, hnormal, hmarks⟩ := hleft.exists_production
      obtain ⟨productions, hothers, hmore⟩ := ih
      exact ⟨production :: productions, List.forall_mem_cons.mpr ⟨hnormal, hothers⟩,
        hmarks.append hmore⟩

/-- A document is read without fail. -/
theorem DocumentShape.exists_grammar {document : Document} (h : DocumentShape document.tokens) :
    ∃ grammar, Grammar.parse.run document = .ok grammar := by
  obtain ⟨productions, hnormal, hmarks⟩ := h.exists_productions
  refine ⟨⟨productions⟩, Grammar.run_parse_eq_ok_iff.mpr ?_⟩
  rw [Production.exists_parseAll_eq_ok_iff (Nat.sub_le _ _), List.drop_zero]
  exact ⟨hnormal, hmarks⟩

end MailRules.Ebnf

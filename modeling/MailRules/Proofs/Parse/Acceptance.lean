import MailRules.Proofs.Parse.Grammar
import MailRules.Proofs.Rule.Comparator

/-!
# Which token lists are expressions

Two things are asked of a draft so that it becomes an expression. Its operator has to be one
of the keywords, which is a matter of shape. If the keyword is one for patterns, every value
has to compile, which is not.

Both can be told from the tokens. The only word of an expression that can be read as an
operator for patterns is its operator, and the strings behind this word are its values.
-/

namespace MailRules

namespace Token

/-- The token is one of the two operators whose values are patterns. -/
def Searches (token : Token) : Prop := token.Is .ident "matches" ∨ token.Is .ident "match"

/-- Every string behind an operator for patterns is a pattern. -/
def PatternsCompile (tokens : List Token) : Prop :=
  ∀ front op values, tokens = front ++ op :: values → op.Searches →
    ∀ value ∈ values, value.kind = .string → ∃ pattern, Pattern.compile value.text = .ok pattern

theorem not_searches_of_kind {token : Token} (h : token.kind ≠ .ident) : ¬ token.Searches := by
  rintro (h' | h')
  · exact h h'.1
  · exact h h'.1

theorem Is.not_searches {token : Token} {kind : TokenKind} {text : String}
    (h : token.Is kind text) (hmatches : text ≠ "matches") (hmatch : text ≠ "match") :
    ¬ token.Searches := by
  rintro (h' | h')
  · exact hmatches (h.2.symm.trans h'.2)
  · exact hmatch (h.2.symm.trans h'.2)

theorem searches_iff_of_kind {token : Token} (h : token.kind = .ident) :
    token.Searches ↔ token.text = "matches" ∨ token.text = "match" := by
  simp [Searches, Is, h]

theorem patternsCompile_of_not_searches {tokens : List Token}
    (h : ∀ token ∈ tokens, ¬ token.Searches) : PatternsCompile tokens := by
  intro front op values htokens hop
  have hmem : op ∈ tokens := by simp [htokens]
  exact absurd hop (h op hmem)

/-- Where there is one word that can be an operator for patterns, it decides. -/
theorem patternsCompile_append_cons_iff {front rest : List Token} {op : Token}
    (hfront : ∀ token ∈ front, ¬ token.Searches) (hrest : ∀ token ∈ rest, ¬ token.Searches) :
    PatternsCompile (front ++ op :: rest) ↔
      (op.Searches → ∀ value ∈ rest, value.kind = .string →
        ∃ pattern, Pattern.compile value.text = .ok pattern) := by
  constructor
  · intro h
    exact h front op rest rfl
  · intro h front' op' values heq hop'
    rcases Phrase.append_cases heq with ⟨more, rfl, hmore⟩ | ⟨token, more, rfl, hmore⟩
    · cases more with
      | nil =>
          obtain ⟨rfl, rfl⟩ := List.cons.inj hmore
          exact h hop'
      | cons token more =>
          obtain ⟨rfl, rfl⟩ := List.cons.inj hmore
          have hmem : op' ∈ more ++ op' :: values := by simp
          exact absurd hop' (hrest op' hmem)
    · obtain ⟨rfl, rfl⟩ := List.cons.inj hmore
      have hmem : op' ∈ front' ++ op' :: more := by simp
      exact absurd hop' (hfront op' hmem)

end Token

theorem ItemShape.kind_ne_ident {tokens items : List Token} (h : ItemShape tokens items) :
    ∀ token ∈ tokens, token.kind ≠ .ident := by
  induction h with
  | last hitem hclose => simp [hitem, hclose.1]
  | cons hitem hcomma _ ih => simpa [hitem, hcomma.1] using ih

/-- The items of a list are the strings in it. -/
theorem ItemShape.filter_string {tokens items : List Token} (h : ItemShape tokens items) :
    tokens.filter (·.kind = .string) = items := by
  induction h with
  | last hitem hclose => simp [hitem, hclose.1]
  | cons hitem hcomma _ ih => simp [hitem, hcomma.1, ih]

theorem StringShape.kind_ne_ident {tokens items : List Token} (h : StringShape tokens items) :
    ∀ token ∈ tokens, token.kind ≠ .ident := by
  cases h with
  | one hitem => simp [hitem]
  | list hopening h => simpa [hopening.1] using h.kind_ne_ident

theorem StringShape.filter_string {tokens items : List Token} (h : StringShape tokens items) :
    tokens.filter (·.kind = .string) = items := by
  cases h with
  | one hitem => simp [hitem]
  | list hopening h => simpa [hopening.1] using h.filter_string

theorem StringShape.not_searches {tokens items : List Token} (h : StringShape tokens items) :
    ∀ token ∈ tokens, ¬ token.Searches :=
  fun token hmem => Token.not_searches_of_kind (h.kind_ne_ident token hmem)

/-- The operator of the test is one of the keywords. -/
def Test.Known (test : Test) : Prop := test.op.text ∈ Operator.keywords

/-- The operator, if there is one, is one of the keywords. -/
def Draft.Known (draft : Draft) : Prop := ∀ test ∈ draft.test?, test.Known

/-- A test whose operator takes patterns has only patterns. -/
def Test.Compiles (test : Test) : Prop :=
  test.op.text = "matches" ∨ test.op.text = "match" →
    ∀ value ∈ test.values, ∃ pattern, Pattern.compile value.text = .ok pattern

theorem Test.exists_comparator_eq_ok_iff {test : Test} :
    (∃ comparator, test.comparator = .ok comparator) ↔ test.Known ∧ test.Compiles := by
  rw [comparator, Comparator.exists_ofKeyword_eq_ok_iff, List.forall_mem_map]
  exact Iff.rfl

theorem Draft.exists_node_eq_ok_iff {draft : Draft} :
    (∃ expr, draft.node = .ok expr) ↔ draft.Known ∧ ∀ test ∈ draft.test?, test.Compiles := by
  have htest {test : Test} {f : Comparator → Expr} :
      (∃ expr, test.comparator.map f = .ok expr) ↔ test.Known ∧ test.Compiles := by
    rw [← Test.exists_comparator_eq_ok_iff]
    simp only [map_eq_ok_iff]
    constructor
    · rintro ⟨_, comparator, h, -⟩
      exact ⟨comparator, h⟩
    · rintro ⟨comparator, h⟩
      exact ⟨f comparator, comparator, h, rfl⟩
  cases draft with
  | header names test => simpa [node, Known, test?] using htest
  | message test => simpa [node, Known, test?] using htest
  | bool value => simp [node, Known, test?]

/-- Whether the values of a test compile can be told from the tokens of its expression. -/
theorem ExprShape.patternsCompile_iff {tokens : List Token} {draft : Draft}
    (h : ExprShape tokens draft) :
    Token.PatternsCompile tokens ↔ ∀ test ∈ draft.test?, test.Compiles := by
  have htest {front tokens : List Token} {test : Test}
      (hfront : ∀ token ∈ front, ¬ token.Searches) (hshape : TestShape tokens test) :
      Token.PatternsCompile (front ++ tokens) ↔ test.Compiles := by
    obtain ⟨hop, hvalues⟩ := hshape
    rw [Token.patternsCompile_append_cons_iff hfront hvalues.not_searches,
      Token.searches_iff_of_kind hop]
    simp [Test.Compiles, ← hvalues.filter_string]
  cases h with
  | @header keyword left right names test hkeyword hnames hshape =>
      have hfront : ∀ token ∈ keyword :: left, ¬ token.Searches := by
        rw [List.forall_mem_cons]
        refine ⟨?_, hnames.not_searches⟩
        rcases hkeyword with hkeyword | hkeyword
        · exact hkeyword.not_searches (by decide) (by decide)
        · exact hkeyword.not_searches (by decide) (by decide)
      simpa [Draft.test?] using htest hfront hshape
  | @message keyword tokens test hkeyword hshape =>
      have hfront : ∀ token ∈ [keyword], ¬ token.Searches := by
        simpa using hkeyword.not_searches (by decide) (by decide)
      simpa [Draft.test?] using htest hfront hshape
  | true hkeyword =>
      refine iff_of_true (Token.patternsCompile_of_not_searches ?_) (by simp [Draft.test?])
      simpa using hkeyword.not_searches (by decide) (by decide)
  | false hkeyword =>
      refine iff_of_true (Token.patternsCompile_of_not_searches ?_) (by simp [Draft.test?])
      simpa using hkeyword.not_searches (by decide) (by decide)

/-- The tokens are an expression if their shape is that of one with a known operator, and the
values compile where they have to. -/
theorem exists_exprTokens_iff {tokens : List Token} :
    (∃ expr, ExprTokens tokens expr) ↔
      (∃ draft, ExprShape tokens draft ∧ draft.Known) ∧ Token.PatternsCompile tokens := by
  constructor
  · rintro ⟨expr, draft, hshape, hnode⟩
    obtain ⟨hknown, hcompiles⟩ := Draft.exists_node_eq_ok_iff.mp ⟨expr, hnode⟩
    exact ⟨⟨draft, hshape, hknown⟩, hshape.patternsCompile_iff.mpr hcompiles⟩
  · rintro ⟨⟨draft, hshape, hknown⟩, hcompile⟩
    have hcompiles := hshape.patternsCompile_iff.mp hcompile
    obtain ⟨expr, hnode⟩ := Draft.exists_node_eq_ok_iff.mpr ⟨hknown, hcompiles⟩
    exact ⟨expr, draft, hshape, hnode⟩

end MailRules

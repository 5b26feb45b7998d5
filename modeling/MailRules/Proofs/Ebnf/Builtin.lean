import MailRules.Ebnf.Builtin
import MailRules.Proofs.Ebnf.Language
import MailRules.Proofs.Parse.Acceptance
import MailRules.Proofs.Parse.Lexed
import MailRules.Proofs.Parse.Recognition

/-!
# The grammar that comes with the program

The document describes the language that the parser accepts. Nothing in the program connects
the two: the document is only ever shown and checked on its own.

The document is read once, and is the grammar written down here except for positions. Each
production then has an equation for its language, and the equations are solved from the lists
of strings upwards. Only the braces of a list take more than comparing the two descriptions: a
list is defined by what follows each of its strings, while the document repeats a comma with a
string. Both satisfy one equation that has one solution.

The document knows all words of an operator, but it cannot say that the values of some of them
have to be patterns.
-/

namespace MailRules

namespace Ebnf

open scoped Computability

/-- A place for what is not read from anywhere. -/
def Symbol.unplaced (text : String) : Symbol := ⟨text, ⟨"", .start⟩⟩

/-- The grammar of rules as a tree, without positions. -/
def rules : Grammar :=
  let rule (name : String) (body : Form) : Production := ⟨name, ⟨"", .start⟩, some body⟩
  let ref (text : String) : Form := .name (.unplaced text)
  let lit (text : String) : Form := .token (.unplaced text)
  ⟨[rule "Expr" (.alternative [ref "ExprHeader", ref "ExprMessage", ref "PredBool"]),
    rule "ExprHeader" (.sequence [.group (.alternative [lit "header", lit "headers"]),
      ref "StrOrListStr", ref "Comparator"]),
    rule "ExprMessage" (.sequence [lit "message", ref "Comparator"]),
    rule "PredBool" (.alternative [lit "true", lit "false"]),
    rule "Comparator" (.sequence [ref "Operator", ref "StrOrListStr"]),
    rule "Operator" (.alternative (Operator.keywords.map lit)),
    rule "Stmt" (.alternative [ref "StmtLabel", ref "StmtMark", ref "StmtSkip", ref "StmtStop"]),
    rule "StmtLabel" (.sequence [lit "label", ref "StrOrListStr"]),
    rule "StmtMark" (.sequence [lit "mark", lit "as", lit "read"]),
    rule "StmtSkip" (.sequence [lit "skip", lit "inbox"]),
    rule "StmtStop" (lit "stop"),
    rule "StrOrListStr" (.alternative [ref "string", ref "ListStr"]),
    rule "ListStr" (.sequence [lit "[", ref "string",
      .repetition (.sequence [lit ",", ref "string"]), lit "]"]),
    rule "string" (.alternative [ref "quoted", ref "raw"]),
    rule "quoted" (.sequence [lit "\"", .repetition (ref "char"), lit "\""]),
    rule "raw" (.sequence [lit "\x60", .repetition (ref "char"), lit "\x60"]),
    rule "char" (.range (.unplaced "\\u0000") (.unplaced "\\U0010FFFF"))]⟩

/-- The document is read, as the grammar of rules. -/
theorem exists_parseGrammar_builtin :
    ∃ grammar, builtin.parseGrammar = .ok grammar ∧ grammar.sameText rules = true := by
  have h : builtin.parseGrammar.toOption.any (·.sameText rules) = true := by
    unfold Source.parseGrammar Document.ofSource Source.lex builtin builtinText
    dsimp only
    -- Evaluation is quick on the list of characters but gets lost in decoding the string.
    rw [String.toList_ofList]
    decide +kernel
  cases hparse : builtin.parseGrammar with
  | error failure =>
      rw [hparse] at h
      cases h
  | ok grammar =>
      rw [hparse] at h
      exact ⟨grammar, rfl, h⟩

namespace Grammar

theorem language_of_body {grammar : Grammar} {name : String} {body : Form}
    (hname : Ebnf.isLexical name = false)
    (h : grammar.get? name = some ⟨name, ⟨"", .start⟩, some body⟩) :
    grammar.language name = body.language grammar.language :=
  language_of_get? hname h

theorem language_string (grammar : Grammar) :
    grammar.language "string" = (Phrase.token .string none).language :=
  language_of_lexical (by decide)

end Grammar

/-- Strings and commas by turns, up to the closing bracket. The separators behind a string are
the solution of an equation, which is found by repetition. -/
theorem language_itemShape :
    Phrase.language ItemShape = (Phrase.token .string none).language *
      (((Phrase.token .other (some ",")).language * (Phrase.token .string none).language)∗ *
        (Phrase.token .other (some "]")).language) := by
  have hitems : Phrase.language ItemShape =
      (Phrase.token .string none).language * Phrase.separator.language := by
    conv_lhs => rw [itemShape_eq]
    rw [Phrase.language_map, Phrase.language_seq]
  have hseparator : Phrase.separator.language =
      (Phrase.token .other (some ",")).language * (Phrase.token .string none).language *
        Phrase.separator.language + (Phrase.token .other (some "]")).language := by
    conv_lhs => rw [Phrase.separator]
    rw [Phrase.language_or, Phrase.language_map, Phrase.language_map, Phrase.language_seq, hitems,
      mul_assoc, add_comm]
  -- A comma is at least one token, so the equation has no other solution.
  have hnonempty : [] ∉ (Phrase.token .other (some ",")).language *
      (Phrase.token .string none).language := by
    rw [← Phrase.language_seq]
    rintro ⟨said, h⟩
    exact ((Phrase.starts_token .other (some ",")).seq _).ne_nil said h
  rw [hitems, ← (Language.self_eq_mul_add_iff hnonempty).mp hseparator]

namespace Form

theorem anyLanguage_pair (names : String → Language Token) (first second : Form) :
    anyLanguage names [first, second] = first.language names + second.language names := by
  rw [anyLanguage, anyLanguage, anyLanguage, add_zero]

theorem allLanguage_pair (names : String → Language Token) (first second : Form) :
    allLanguage names [first, second] = first.language names * second.language names := by
  rw [allLanguage, allLanguage, allLanguage, mul_one]

/-- What one of several forms describes. -/
theorem mem_anyLanguage_iff {names : String → Language Token} {forms : List Form}
    {tokens : List Token} :
    tokens ∈ anyLanguage names forms ↔ ∃ form ∈ forms, tokens ∈ form.language names := by
  induction forms with
  | nil => simp [anyLanguage]
  | cons form rest ih => rw [anyLanguage, Language.mem_add, ih, List.exists_mem_cons_iff]

end Form

namespace Rules

theorem language_listStr : rules.language "ListStr" = Phrase.list.language := by
  rw [Grammar.language_of_body (by decide) rfl, Phrase.list, Phrase.language_map,
    Phrase.language_seq, language_itemShape, ← Grammar.language_string rules]
  show terminalLanguage "[" * (rules.language "string" * (_∗ * (terminalLanguage "]" * 1))) = _
  rw [mul_one, Form.language, Form.allLanguage_pair]
  rfl

theorem language_strOrListStr : rules.language "StrOrListStr" = Phrase.language StringShape := by
  rw [Grammar.language_of_body (by decide) rfl, stringShape_eq, Phrase.language_or,
    Phrase.language_map, ← language_listStr, ← Grammar.language_string rules]
  exact Form.anyLanguage_pair _ _ _

theorem mem_language_operator_iff {tokens : List Token} :
    tokens ∈ rules.language "Operator" ↔
      ∃ op, tokens = [op] ∧ op.kind = .ident ∧ op.text ∈ Operator.keywords := by
  have hkind : ∀ text ∈ Operator.keywords, terminalKind text = .ident := by decide
  rw [Grammar.language_of_body (by decide) rfl, Form.language, Form.mem_anyLanguage_iff]
  constructor
  · rintro ⟨form, hform, hop⟩
    obtain ⟨text, htext, rfl⟩ := List.mem_map.mp hform
    obtain ⟨op, hop : Phrase.token (terminalKind text) (some text) tokens op⟩ := hop
    rw [hkind text htext] at hop
    obtain ⟨rfl, hop', rfl⟩ := Phrase.token_some_iff.mp hop
    exact ⟨op, rfl, hop', htext⟩
  · rintro ⟨op, rfl, hop, htext⟩
    refine ⟨_, List.mem_map_of_mem htext, op, ?_⟩
    show Phrase.token (terminalKind op.text) (some op.text) [op] op
    rw [hkind op.text htext]
    exact Phrase.token_some_iff.mpr ⟨rfl, hop, rfl⟩

/-- A comparator of the document is a test whose operator is known. -/
theorem mem_language_comparator_iff {tokens : List Token} :
    tokens ∈ rules.language "Comparator" ↔ ∃ test, TestShape tokens test ∧ test.Known := by
  have hlanguage : rules.language "Comparator" =
      rules.language "Operator" * Phrase.language StringShape := by
    rw [Grammar.language_of_body (by decide) rfl, ← language_strOrListStr]
    exact Form.allLanguage_pair _ _ _
  rw [hlanguage, Language.mem_mul]
  constructor
  · rintro ⟨_, hop, values, ⟨items, hvalues⟩, rfl⟩
    obtain ⟨op, rfl, hkind, htext⟩ := mem_language_operator_iff.mp hop
    exact ⟨⟨op, items⟩, .test hkind hvalues, htext⟩
  · rintro ⟨_, ⟨hop, hvalues⟩, hknown⟩
    exact ⟨_, mem_language_operator_iff.mpr ⟨_, rfl, hop, hknown⟩, _, ⟨_, hvalues⟩, rfl⟩

theorem mem_language_exprHeader_iff {tokens : List Token} :
    tokens ∈ rules.language "ExprHeader" ↔ ∃ draft, Phrase.header tokens draft ∧ draft.Known := by
  have hlanguage : rules.language "ExprHeader" =
      Phrase.language ((Phrase.token .ident (some "header")).or
        (Phrase.token .ident (some "headers"))) *
        (Phrase.language StringShape * rules.language "Comparator") := by
    rw [Grammar.language_of_body (by decide) rfl, Phrase.language_or, ← language_strOrListStr]
    show Form.anyLanguage _ _ * (_ * (_ * 1)) = _
    rw [mul_one, Form.anyLanguage_pair]
    rfl
  rw [hlanguage, Language.mem_mul]
  constructor
  · rintro ⟨first, ⟨keyword, hkeyword⟩, _, hrest, rfl⟩
    obtain ⟨left, ⟨names, hnames⟩, right, hright, rfl⟩ := Language.mem_mul.mp hrest
    obtain ⟨test, htest, hknown⟩ := mem_language_comparator_iff.mp hright
    refine ⟨.header names test, ⟨(keyword, names, test), ⟨first, _, rfl, hkeyword, left, right,
      rfl, hnames, htest⟩, rfl⟩, ?_⟩
    simpa [Draft.Known, Draft.test?] using hknown
  · rintro ⟨_, ⟨⟨keyword, names, test⟩, ⟨first, _, rfl, hkeyword, left, right, rfl, hnames,
      htest⟩, rfl⟩, hknown⟩
    refine ⟨first, ⟨keyword, hkeyword⟩, left ++ right, ?_, rfl⟩
    have hright := mem_language_comparator_iff.mpr ⟨test, htest, hknown test rfl⟩
    exact Language.mem_mul.mpr ⟨left, ⟨names, hnames⟩, right, hright, rfl⟩

theorem mem_language_exprMessage_iff {tokens : List Token} :
    tokens ∈ rules.language "ExprMessage" ↔
      ∃ draft, Phrase.message tokens draft ∧ draft.Known := by
  have hlanguage : rules.language "ExprMessage" =
      (Phrase.token .ident (some "message")).language * rules.language "Comparator" := by
    rw [Grammar.language_of_body (by decide) rfl]
    exact Form.allLanguage_pair _ _ _
  rw [hlanguage, Language.mem_mul]
  constructor
  · rintro ⟨first, ⟨keyword, hkeyword⟩, rest, hrest, rfl⟩
    obtain ⟨test, htest, hknown⟩ := mem_language_comparator_iff.mp hrest
    refine ⟨.message test, ⟨(keyword, test), ⟨first, rest, rfl, hkeyword, htest⟩, rfl⟩, ?_⟩
    simpa [Draft.Known, Draft.test?] using hknown
  · rintro ⟨_, ⟨⟨keyword, test⟩, ⟨first, rest, rfl, hkeyword, htest⟩, rfl⟩, hknown⟩
    have hrest := mem_language_comparator_iff.mpr ⟨test, htest, hknown test rfl⟩
    exact ⟨first, ⟨keyword, hkeyword⟩, rest, hrest, rfl⟩

theorem language_predBool : rules.language "PredBool" = Phrase.bool.language := by
  rw [Grammar.language_of_body (by decide) rfl, Phrase.bool, Phrase.language_or,
    Phrase.language_map, Phrase.language_map]
  exact Form.anyLanguage_pair _ _ _

/-- The expressions of the document are those whose operator, if any, is known. -/
theorem mem_language_expr_iff {tokens : List Token} :
    tokens ∈ rules.language "Expr" ↔ ∃ draft, ExprShape tokens draft ∧ draft.Known := by
  have hlanguage : rules.language "Expr" = rules.language "ExprHeader" +
      (rules.language "ExprMessage" + rules.language "PredBool") := by
    rw [Grammar.language_of_body (by decide) rfl]
    show _ + Form.anyLanguage _ _ = _
    rw [Form.anyLanguage_pair]
    rfl
  rw [hlanguage, Language.mem_add, Language.mem_add, mem_language_exprHeader_iff,
    mem_language_exprMessage_iff, language_predBool, exprShape_eq]
  constructor
  · rintro (⟨draft, h, hknown⟩ | ⟨draft, h, hknown⟩ | ⟨value, h⟩)
    · exact ⟨draft, .inl (.inl h), hknown⟩
    · exact ⟨draft, .inl (.inr h), hknown⟩
    · exact ⟨.bool value, .inr ⟨value, h, rfl⟩, by simp [Draft.Known, Draft.test?]⟩
  · rintro ⟨draft, (h | h) | ⟨value, h, -⟩, hknown⟩
    · exact .inl ⟨draft, h, hknown⟩
    · exact .inr (.inl ⟨draft, h, hknown⟩)
    · exact .inr (.inr ⟨value, h⟩)

theorem language_stmtLabel : rules.language "StmtLabel" = Phrase.label.language := by
  rw [Grammar.language_of_body (by decide) rfl, Phrase.label, Phrase.language_map,
    Phrase.language_seq, ← language_strOrListStr]
  exact Form.allLanguage_pair _ _ _

theorem language_stmtMark : rules.language "StmtMark" = Phrase.mark.language := by
  rw [Grammar.language_of_body (by decide) rfl, Phrase.mark, Phrase.language_map,
    Phrase.language_seq, Phrase.language_seq]
  show _ * Form.allLanguage _ _ = _
  rw [Form.allLanguage_pair]
  rfl

theorem language_stmtSkip : rules.language "StmtSkip" = Phrase.skip.language := by
  rw [Grammar.language_of_body (by decide) rfl, Phrase.skip, Phrase.language_map,
    Phrase.language_seq]
  exact Form.allLanguage_pair _ _ _

theorem language_stmtStop : rules.language "StmtStop" = Phrase.stop.language := by
  rw [Grammar.language_of_body (by decide) rfl, Phrase.stop, Phrase.language_map]
  rfl

/-- The statements of the document are all statements. -/
theorem language_stmt : rules.language "Stmt" = Phrase.language StmtShape := by
  rw [Grammar.language_of_body (by decide) rfl, stmtShape_eq, Phrase.language_or,
    Phrase.language_or, Phrase.language_or, ← language_stmtLabel, ← language_stmtMark,
    ← language_stmtSkip, ← language_stmtStop, add_assoc, add_assoc]
  show _ + (_ + Form.anyLanguage _ _) = _
  rw [Form.anyLanguage_pair]
  rfl

end Rules

/-- The grammar that the document is read as describes exactly what the parser accepts, up to
values that are no patterns: the tokens of an expression are those in the language of `Expr`
with patterns behind an operator for patterns, and the tokens of a statement are those in the
language of `Stmt`. -/
theorem builtin_describes :
    ∃ grammar, builtin.parseGrammar = .ok grammar ∧ ∀ document : Document,
      ((∃ expr, Parse.expr.toEnd.run document = .ok expr) ↔
        document.tokens ∈ grammar.language "Expr" ∧ Token.PatternsCompile document.tokens) ∧
      ((∃ stmt, Parse.stmt.toEnd.run document = .ok stmt) ↔
        document.tokens ∈ grammar.language "Stmt") := by
  obtain ⟨grammar, hparse, hsame⟩ := exists_parseGrammar_builtin
  refine ⟨grammar, hparse, fun document => ?_⟩
  rw [Grammar.language_eq_of_sameText hsame, Rules.mem_language_expr_iff, Rules.language_stmt,
    ← exists_exprTokens_iff]
  constructor
  · exact exists_congr fun expr => Parse.accepts_expr.run_toEnd_eq_ok_iff
  · exact exists_congr fun stmt => Parse.accepts_stmt.run_toEnd_eq_ok_iff

end Ebnf
end MailRules

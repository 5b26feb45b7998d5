import MailRules.Proofs.Parse.Lexed
import MailRules.Proofs.Parse.Recognition
import MailRules.Proofs.Rule.Spelling

/-!
# Reading back what is written

Canonical source of a node that was read is read as the same node. Writing looks for a
backtick to choose between two kinds of quotes, and does not escape anything. This is
right because of where strings come from: one with a backtick was itself written between
double quotes, so it can be written there again.
-/

namespace MailRules

/-- What the text of a string token can be, whichever quotes it was written between. -/
theorem Lexeme.expressible {written text rest : List Char}
    (h : Lexeme .string written text rest) : Expressible (String.ofList text) := by
  unfold Expressible
  rw [String.toList_ofList]
  cases h with
  | quoted htext => exact .inr htext
  | raw htext => exact .inl htext

/-- Lexing gives no string that cannot be written. -/
theorem Segmented.expressible {text trailing : List Char} {segments : List Segment}
    (h : Segmented text segments trailing) (source : Source) :
    ∀ before, ∀ token ∈ Segment.tokens source before segments,
      token.kind = .string → Expressible token.text := by
  induction h with
  | last => simp [Segment.tokens]
  | next segment _ hlexeme _ ih =>
      intro before token htoken hkind
      rcases List.mem_cons.mp htoken with rfl | htail
      · have hstring : segment.kind = .string := hkind
        rw [hstring] at hlexeme
        exact hlexeme.expressible
      · exact ih _ token htail hkind

/-- The strings among the tokens can all be written. -/
def Speakable (tokens : List Token) : Prop :=
  ∀ token ∈ tokens, token.kind = .string → Expressible token.text

theorem Document.speakable_of_ofSource {source : Source} {document : Document}
    (h : Document.ofSource source = .ok document) : Speakable document.tokens := by
  obtain ⟨segments, trailing, hsegmented, rfl⟩ := Document.exists_segmented_of_ofSource h
  exact hsegmented.expressible source []

namespace Speakable

variable {tokens : List Token}

theorem writable (h : Speakable tokens) {items : List Token} (hitems : StringShape tokens items) :
    Writable (items.map Token.text) := by
  refine ⟨by simpa using hitems.ne_nil, ?_⟩
  intro value hvalue
  obtain ⟨item, hitem, rfl⟩ := List.mem_map.mp hvalue
  exact h item (hitems.mem item hitem) (hitems.kind_eq item hitem)

theorem test_writable (h : Speakable tokens) {test : Test} (hshape : TestShape tokens test)
    {comparator : Comparator} (hmakes : test.comparator = .ok comparator) :
    Writable comparator.values := by
  obtain ⟨_, hvalues⟩ := hshape
  rw [Comparator.values_of_ofKeyword hmakes]
  exact writable (fun token htoken => h token (List.mem_cons_of_mem _ htoken)) hvalues

/-- What is read from speakable tokens can be written. -/
theorem expr_writable (h : Speakable tokens) {expr : Expr} (hexpr : ExprTokens tokens expr) :
    expr.Writable := by
  obtain ⟨draft, hshape, hnode⟩ := hexpr
  cases hshape with
  | @header keyword left right names test _ hnames htest =>
      have hleft : Speakable left := fun token htoken =>
        h token (List.mem_cons_of_mem _ (List.mem_append_left _ htoken))
      have hright : Speakable right := fun token htoken =>
        h token (List.mem_cons_of_mem _ (List.mem_append_right _ htoken))
      obtain ⟨comparator, hmakes, rfl⟩ := map_eq_ok_iff.mp hnode
      exact ⟨hleft.writable hnames, hright.test_writable htest hmakes⟩
  | @message keyword tokens test _ htest =>
      have hright : Speakable tokens := fun token htoken =>
        h token (List.mem_cons_of_mem _ htoken)
      obtain ⟨comparator, hmakes, rfl⟩ := map_eq_ok_iff.mp hnode
      exact hright.test_writable htest hmakes
  | true =>
      obtain rfl := Except.ok.inj hnode
      trivial
  | false =>
      obtain rfl := Except.ok.inj hnode
      trivial

theorem stmt_writable (h : Speakable tokens) {stmt : Stmt} (hstmt : StmtShape tokens stmt) :
    stmt.Writable := by
  cases hstmt with
  | label _ hlabels =>
      exact writable (fun token htoken => h token (List.mem_cons_of_mem _ htoken)) hlabels
  | mark => trivial
  | skip => trivial
  | stop => trivial

end Speakable

namespace Parse

variable {α : Type} {parser : Parse α} {phrase : Phrase α}

/-- The tokens of a source that is read as a whole are all of what it is read as. -/
theorem Accepts.of_whole (h : Accepts parser phrase) {source : Source} {value : α}
    (hwhole : parser.whole source = .ok value) :
    ∃ tokens, Speakable tokens ∧ phrase tokens value := by
  obtain ⟨document, hsource⟩ := exists_ofSource_of_whole hwhole
  obtain ⟨stop, hparser⟩ := whole_eq_ok hsource hwhole
  obtain ⟨used, rest, htokens, hused, -⟩ := (h document 0 value stop).mp hparser
  rw [List.drop_zero] at htokens
  refine ⟨used, fun token htoken => ?_, hused⟩
  have hmem : token ∈ document.tokens := htokens ▸ List.mem_append_left rest htoken
  exact Document.speakable_of_ofSource hsource token hmem

/-- A text that spells a node is read as this node. -/
theorem Accepts.whole_of_spells (h : Accepts parser phrase) {value : α} {text : String}
    (hspells : Spells phrase value text.toList []) (name : String) :
    parser.whole ⟨name, text⟩ = .ok value := by
  obtain ⟨tokens, hphrase, hlex⟩ := hspells ⟨name, text⟩ .start
  rw [List.append_nil, Piece.ofText_nil] at hlex
  have hsource : Document.ofSource ⟨name, text⟩ = .ok ⟨⟨name, text⟩, tokens ++ []⟩ := by
    rw [Document.ofSource, Source.lex, hlex]
    rfl
  have hparser : parser ⟨⟨name, text⟩, tokens ++ []⟩ 0 = .ok value (0 + tokens.length) :=
    (h _ _ _ _).mpr ⟨tokens, [], rfl, hphrase, rfl⟩
  rw [whole_of_ofSource hsource, hparser]
  simp

/-- If what is read is always writable and what is writable is spelled by its canonical source,
then the writable nodes are exactly those that their canonical source gives back. -/
theorem Accepts.whole_render_iff (h : Accepts parser phrase) {render : α → String}
    {Writable : α → Prop}
    (hread : ∀ {tokens}, Speakable tokens → ∀ {value}, phrase tokens value → Writable value)
    (hwrite : ∀ {value}, Writable value → Spells phrase value (render value).toList [])
    (name : String) (value : α) :
    parser.whole ⟨name, render value⟩ = .ok value ↔ Writable value := by
  constructor
  · intro hwhole
    obtain ⟨tokens, hspeakable, hphrase⟩ := h.of_whole hwhole
    exact hread hspeakable hphrase
  · intro hwritable
    exact h.whole_of_spells (hwrite hwritable) name

end Parse

/-- A node that was read is read again from its canonical source, which is then the
canonical source of what was read. -/
theorem Source.parse_render_of_parse (source : Source) (name : String) :
    (∀ expr, source.parseExpr = .ok expr →
      ∃ again, Source.parseExpr ⟨name, expr.render⟩ = .ok again ∧ again = expr ∧
        again.render = expr.render) ∧
    ∀ stmt, source.parseStmt = .ok stmt →
      ∃ again, Source.parseStmt ⟨name, stmt.render⟩ = .ok again ∧ again = stmt ∧
        again.render = stmt.render := by
  constructor
  · intro expr hexpr
    obtain ⟨tokens, hspeakable, hderives⟩ := Parse.accepts_expr.of_whole hexpr
    have hspells := Spells.expr (hspeakable.expr_writable hderives)
    exact ⟨expr, Parse.accepts_expr.whole_of_spells hspells name, rfl, rfl⟩
  · intro stmt hstmt
    obtain ⟨tokens, hspeakable, hderives⟩ := Parse.accepts_stmt.of_whole hstmt
    have hspells := Spells.stmt (hspeakable.stmt_writable hderives)
    exact ⟨stmt, Parse.accepts_stmt.whole_of_spells hspells name, rfl, rfl⟩

/-- A quoted string with a backtick, a backslash and a protected quote, and an empty string. -/
theorem Source.parse_render_of_parse_quoted :
    let source : Source := { text := "message contains [\"`\\\\\\\"\", ``]" }
    let expr : Expr := .message (.contains ["`\\\\\\\"", ""])
    source.parseExpr = .ok expr ∧
      ∃ again, Source.parseExpr ⟨"", expr.render⟩ = .ok again ∧ again = expr ∧
        again.render = expr.render := by
  intro source expr
  have h : source.parseExpr = .ok expr := eq_ok_of_toOption (by decide +kernel)
  exact ⟨h, (Source.parse_render_of_parse source "").1 expr h⟩

/-- The canonical source of a node, however the node was made, is read as this node exactly if
there is a string in each of its lists and all strings can be written. Otherwise it is refused
or read as another node. -/
theorem Source.parse_render_eq_ok_iff_writable (name : String) :
    (∀ expr : Expr, (Source.parseExpr ⟨name, expr.render⟩ = .ok expr ↔ expr.Writable) ∧
      (¬ expr.Writable → (∃ failure, Source.parseExpr ⟨name, expr.render⟩ = .error failure) ∨
        ∃ other, Source.parseExpr ⟨name, expr.render⟩ = .ok other ∧ other ≠ expr)) ∧
    ∀ stmt : Stmt, (Source.parseStmt ⟨name, stmt.render⟩ = .ok stmt ↔ stmt.Writable) ∧
      (¬ stmt.Writable → (∃ failure, Source.parseStmt ⟨name, stmt.render⟩ = .error failure) ∨
        ∃ other, Source.parseStmt ⟨name, stmt.render⟩ = .ok other ∧ other ≠ stmt) := by
  constructor
  · intro expr
    have hiff : Source.parseExpr ⟨name, expr.render⟩ = .ok expr ↔ expr.Writable :=
      Parse.accepts_expr.whole_render_iff Speakable.expr_writable Spells.expr name expr
    exact ⟨hiff, fun hnot => error_or_ok_of_ne fun hparse => hnot (hiff.mp hparse)⟩
  · intro stmt
    have hiff : Source.parseStmt ⟨name, stmt.render⟩ = .ok stmt ↔ stmt.Writable :=
      Parse.accepts_stmt.whole_render_iff Speakable.stmt_writable Spells.stmt name stmt
    exact ⟨hiff, fun hnot => error_or_ok_of_ne fun hparse => hnot (hiff.mp hparse)⟩

/-- A string that ends its own quotes and goes on as the next one of the list: the canonical
source is read, with one string more. -/
theorem Source.parse_render_eq_ok_iff_writable_split :
    let stmt : Stmt := .label ["`\", \"`", "inbox"]
    Source.parseStmt ⟨"", stmt.render⟩ = .ok (.label ["`", "`", "inbox"]) ∧
      ¬ stmt.Writable ∧ ((∃ failure, Source.parseStmt ⟨"", stmt.render⟩ = .error failure) ∨
        ∃ other, Source.parseStmt ⟨"", stmt.render⟩ = .ok other ∧ other ≠ stmt) := by
  intro stmt
  have hrender : stmt.render = "label [\"`\", \"`\", `inbox`]" := by
    simp only [stmt, Stmt.render, Canonical.strings, List.map, Canonical.string,
      String.contains_char_eq]
    decide
  have hread : Source.parseStmt ⟨"", stmt.render⟩ = .ok (.label ["`", "`", "inbox"]) := by
    rw [hrender]
    exact eq_ok_of_toOption (by decide +kernel)
  obtain ⟨hiff, hother⟩ := (Source.parse_render_eq_ok_iff_writable "").2 stmt
  have hnot : ¬ stmt.Writable := by
    intro hwritable
    have hsame := Except.ok.inj (hread.symm.trans (hiff.mpr hwritable))
    exact absurd hsame (by decide)
  exact ⟨hread, hnot, hother hnot⟩

end MailRules

import MailRules.Proofs.Parse.Acceptance
import MailRules.Proofs.Parse.Lexed
import MailRules.Proofs.Parse.Recognition
import MailRules.Proofs.Token.Content

/-!
# Which token lists mean the same rule

A rule can be written in several ways. The first word of an expression on headers and the
operator each have a second form, and one string can stand in brackets or alone. Writing
everything in the first of these ways is the normal form of a token list. It is taken without
reading the list: what is a keyword is told from where it stands, and strings are left alone
even if they look like one.

Nothing else is lost by reading. The normal form of the tokens of a node is a list of contents
that belongs to the node, and the node can be read back from it. So two token lists are read as
one node exactly if their normal forms are equal.
-/

namespace MailRules

namespace Content

def word (text : String) : Content := ⟨.ident, text⟩

def string (text : String) : Content := ⟨.string, text⟩

def sign (text : String) : Content := ⟨.other, text⟩

/-- Another text for a word. -/
def mapWord (f : String → String) (content : Content) : Content :=
  if content.kind = .ident then { content with text := f content.text } else content

def keywordSynonym : String → String
  | "headers" => "header"
  | text => text

def operatorSynonym : String → String
  | "are" => "is"
  | "contain" => "contains"
  | "match" => "matches"
  | text => text

/-- Leaves out the brackets around single strings. -/
def unbracket : List Content → List Content
  | first :: item :: last :: rest =>
    if first = sign "[" ∧ item.kind = .string ∧ last = sign "]" then
      item :: unbracket rest
    else
      first :: unbracket (item :: last :: rest)
  | contents => contents

/-- The normal form of an expression. Its first word is its keyword, and another word can only
be its operator. -/
def normalExpr : List Content → List Content
  | [] => []
  | first :: rest =>
    unbracket (first.mapWord keywordSynonym :: rest.map (mapWord operatorSynonym))

/-- The normal form of a statement. -/
def normalStmt (contents : List Content) : List Content := unbracket contents

/-- Strings with commas between them and a closing bracket. -/
def ofItems : List String → List Content
  | [] => [sign "]"]
  | [value] => [string value, sign "]"]
  | value :: values => string value :: sign "," :: ofItems values

/-- A single string alone, or strings in brackets. -/
def ofStrings : List String → List Content
  | [value] => [string value]
  | values => sign "[" :: ofItems values

/-- A token that says this, at no particular place. -/
def token (content : Content) : Token :=
  ⟨content.kind, ⟨"", .start⟩, .empty 0, content.text⟩

end Content

open Content

/-- What the comparator is written as in normal form. -/
def Comparator.contents (comparator : Comparator) : List Content :=
  word comparator.operator.keyword :: ofStrings comparator.values

/-- What the expression is written as in normal form. -/
def Expr.contents : Expr → List Content
  | header names test => word "header" :: (ofStrings names ++ test.contents)
  | message test => word "message" :: test.contents
  | bool true => [word "true"]
  | bool false => [word "false"]

/-- What the statement is written as in normal form. -/
def Stmt.contents : Stmt → List Content
  | label labels => word "label" :: ofStrings labels
  | mark => [word "mark", word "as", word "read"]
  | skip => [word "skip", word "inbox"]
  | stop => [word "stop"]

namespace Token

theorem Is.content_eq {token : Token} {kind : TokenKind} {text : String} (h : token.Is kind text) :
    token.content = ⟨kind, text⟩ := by
  rw [content, h.1, h.2]

theorem content_eq_string {token : Token} (h : token.kind = .string) :
    token.content = string token.text := by
  rw [content, h]
  rfl

end Token

namespace Content

theorem unbracket_nil : unbracket [] = [] := rfl

/-- Brackets matter only where one opens. -/
theorem unbracket_cons_of_ne {content : Content} (h : content ≠ sign "[") (rest : List Content) :
    unbracket (content :: rest) = content :: unbracket rest := by
  match rest with
  | [] => rfl
  | [item] => rfl
  | item :: last :: rest => rw [unbracket, if_neg fun hbracket => h hbracket.1]

theorem unbracket_single (text : String) (rest : List Content) :
    unbracket (sign "[" :: string text :: sign "]" :: rest) = string text :: unbracket rest := by
  rw [unbracket, if_pos ⟨rfl, rfl, rfl⟩]

theorem unbracket_several (item : Content) (rest : List Content) :
    unbracket (sign "[" :: item :: sign "," :: rest) =
      sign "[" :: unbracket (item :: sign "," :: rest) := by
  rw [unbracket, if_neg (by simp [sign])]

theorem ofStrings_of_length {values : List String} (h : values.length ≠ 1) :
    ofStrings values = sign "[" :: ofItems values := by
  match values with
  | [] => rfl
  | [value] => exact absurd rfl h
  | value :: other :: values => rfl

theorem ofItems_cons {values : List String} (h : values ≠ []) (value : String) :
    ofItems (value :: values) = string value :: sign "," :: ofItems values := by
  cases values with
  | nil => exact absurd rfl h
  | cons other values => rfl

end Content

/-- The rest of a list is in normal form. -/
theorem ItemShape.unbracket_append {tokens items : List Token} (h : ItemShape tokens items)
    (rest : List Content) :
    unbracket (tokens.map Token.content ++ rest) =
      ofItems (items.map Token.text) ++ unbracket rest := by
  induction h with
  | @last item close hitem hclose =>
      have hcontents : [item, close].map Token.content = [string item.text, sign "]"] := by
        rw [List.map_cons, Token.content_eq_string hitem, List.map_singleton, hclose.content_eq]
        rfl
      rw [hcontents]
      show unbracket (string item.text :: sign "]" :: rest) = _
      rw [unbracket_cons_of_ne (by simp [string, sign]), unbracket_cons_of_ne (by simp [sign])]
      rfl
  | @cons item comma tokens items hitem hcomma h ih =>
      have hne : items.map Token.text ≠ [] := by simpa using h.ne_nil
      rw [List.map_cons, List.map_cons, List.map_cons, Token.content_eq_string hitem,
        hcomma.content_eq, ofItems_cons hne]
      show unbracket (string item.text :: sign "," :: (tokens.map Token.content ++ rest)) = _
      rw [unbracket_cons_of_ne (by simp [string, sign]), unbracket_cons_of_ne (by simp [sign]), ih]
      rfl

/-- A string alone and the same string in brackets have one normal form, and other lists are
their own. -/
theorem StringShape.unbracket_append {tokens items : List Token} (h : StringShape tokens items)
    (rest : List Content) :
    unbracket (tokens.map Token.content ++ rest) =
      ofStrings (items.map Token.text) ++ unbracket rest := by
  cases h with
  | @one item hitem =>
      rw [List.map_singleton, Token.content_eq_string hitem]
      exact unbracket_cons_of_ne (by simp [string, sign]) rest
  | @list opening tokens items hopening h =>
      have hopen : opening.content = sign "[" := hopening.content_eq
      rw [List.map_cons, hopen]
      cases h with
      | @last item close hitem hclose =>
          rw [List.map_cons, Token.content_eq_string hitem, List.map_singleton, hclose.content_eq]
          exact unbracket_single item.text rest
      | @cons item comma tokens items hitem hcomma h =>
          have hitems := (ItemShape.cons hitem hcomma h).unbracket_append rest
          have hlength : ((item :: items).map Token.text).length ≠ 1 := by
            simpa using h.ne_nil
          have hcontent : comma.content = sign "," := hcomma.content_eq
          rw [List.map_cons, List.map_cons, hcontent] at hitems ⊢
          rw [ofStrings_of_length hlength]
          show unbracket (sign "[" :: item.content :: sign "," ::
            (tokens.map Token.content ++ rest)) = _
          rw [unbracket_several]
          exact congrArg (sign "[" :: ·) hitems

theorem StringShape.unbracket_eq {tokens items : List Token} (h : StringShape tokens items) :
    unbracket (tokens.map Token.content) = ofStrings (items.map Token.text) := by
  have happend := h.unbracket_append []
  rwa [List.append_nil, unbracket_nil, List.append_nil] at happend

/-- There are no words in a list of strings. -/
theorem StringShape.map_mapWord {tokens items : List Token} (h : StringShape tokens items)
    (f : String → String) :
    (tokens.map Token.content).map (mapWord f) = tokens.map Token.content := by
  rw [List.map_map]
  apply List.map_congr_left
  intro token htoken
  exact if_neg (h.kind_ne_ident token htoken)

namespace Comparator

/-- The keyword of a comparator is the first of those that it can have been made with. -/
theorem operatorSynonym_of_ofKeyword {keyword : String} {values : List String}
    {comparator : Comparator} (h : ofKeyword keyword values = .ok comparator) :
    operatorSynonym keyword = comparator.operator.keyword := by
  cases hop : Operator.ofKeyword? keyword with
  | none =>
      rw [ofKeyword_of_none hop] at h
      cases h
  | some op =>
      rw [ofKeyword_of_some hop] at h
      rw [operator_of_ofOperator h]
      unfold Operator.ofKeyword? at hop
      split at hop <;> cases hop <;> rfl

end Comparator

/-- The normal form of a test is that of the comparator that it makes. -/
theorem TestShape.unbracket_map {tokens : List Token} {test : Test} {comparator : Comparator}
    (h : TestShape tokens test) (hmakes : test.comparator = .ok comparator) :
    unbracket ((tokens.map Token.content).map (mapWord operatorSynonym)) =
      comparator.contents := by
  cases h with
  | @test op tokens values hop hvalues =>
      have hword : op.content.mapWord operatorSynonym = word comparator.operator.keyword := by
        rw [← Comparator.operatorSynonym_of_ofKeyword hmakes, Token.content, hop]
        rfl
      rw [List.map_cons, List.map_cons, hword, hvalues.map_mapWord,
        unbracket_cons_of_ne (by simp [word, sign]), hvalues.unbracket_eq, Comparator.contents,
        Comparator.values_of_ofKeyword hmakes]

/-- The normal form of the tokens of an expression belongs to the expression. -/
theorem ExprTokens.normalExpr_eq {tokens : List Token} {expr : Expr} (h : ExprTokens tokens expr) :
    normalExpr (tokens.map Token.content) = expr.contents := by
  obtain ⟨draft, hshape, hnode⟩ := h
  cases hshape with
  | @header keyword left right names test hkeyword hnames htest =>
      obtain ⟨comparator, hmakes, rfl⟩ := map_eq_ok_iff.mp hnode
      have hword : keyword.content.mapWord keywordSynonym = word "header" := by
        rcases hkeyword with hkeyword | hkeyword
        · rw [hkeyword.content_eq]
          rfl
        · rw [hkeyword.content_eq]
          rfl
      rw [List.map_cons, normalExpr, hword, List.map_append, List.map_append, hnames.map_mapWord,
        unbracket_cons_of_ne (by simp [word, sign]), hnames.unbracket_append,
        htest.unbracket_map hmakes]
      rfl
  | @message keyword tokens test hkeyword htest =>
      obtain ⟨comparator, hmakes, rfl⟩ := map_eq_ok_iff.mp hnode
      have hword : keyword.content.mapWord keywordSynonym = word "message" := by
        rw [hkeyword.content_eq]
        rfl
      rw [List.map_cons, normalExpr, hword, unbracket_cons_of_ne (by simp [word, sign]),
        htest.unbracket_map hmakes]
      rfl
  | true hkeyword =>
      obtain rfl := Except.ok.inj hnode
      rw [List.map_singleton, hkeyword.content_eq]
      rfl
  | false hkeyword =>
      obtain rfl := Except.ok.inj hnode
      rw [List.map_singleton, hkeyword.content_eq]
      rfl

/-- The normal form of the tokens of a statement belongs to the statement. -/
theorem StmtShape.normalStmt_eq {tokens : List Token} {stmt : Stmt} (h : StmtShape tokens stmt) :
    normalStmt (tokens.map Token.content) = stmt.contents := by
  cases h with
  | @label keyword tokens labels hkeyword hlabels =>
      rw [List.map_cons, hkeyword.content_eq, normalStmt, unbracket_cons_of_ne (by simp [sign]),
        hlabels.unbracket_eq]
      rfl
  | mark hfirst hsecond hthird =>
      rw [List.map_cons, List.map_cons, List.map_singleton, hfirst.content_eq,
        hsecond.content_eq, hthird.content_eq]
      rfl
  | skip hfirst hsecond =>
      rw [List.map_cons, List.map_singleton, hfirst.content_eq, hsecond.content_eq]
      rfl
  | stop hkeyword =>
      rw [List.map_singleton, hkeyword.content_eq]
      rfl

/-- Strings with commas between them are read back. -/
theorem itemShape_ofItems {values : List String} (h : values ≠ []) :
    ItemShape ((ofItems values).map token) (values.map fun value => (string value).token) := by
  induction values with
  | nil => exact absurd rfl h
  | cons value values ih =>
      by_cases hnil : values = []
      · subst hnil
        exact .last rfl ⟨rfl, rfl⟩
      · rw [ofItems_cons hnil]
        exact .cons rfl ⟨rfl, rfl⟩ (ih hnil)

theorem stringShape_ofStrings {values : List String} (h : values ≠ []) :
    StringShape ((ofStrings values).map token) (values.map fun value => (string value).token) := by
  by_cases hlength : values.length = 1
  · obtain ⟨value, rfl⟩ := List.length_eq_one_iff.mp hlength
    exact .one rfl
  · rw [ofStrings_of_length hlength]
    exact .list ⟨rfl, rfl⟩ (itemShape_ofItems h)

theorem Content.map_text_token (values : List String) :
    (values.map fun value => (string value).token).map Token.text = values := by
  rw [List.map_map]
  exact List.map_id values

/-- A comparator with values is read back from what it is written as. -/
theorem Comparator.testShape_contents {comparator : Comparator} (h : comparator.values ≠ []) :
    ∃ test, TestShape (comparator.contents.map token) test ∧ test.comparator = .ok comparator := by
  refine ⟨_, .test rfl (stringShape_ofStrings h), ?_⟩
  rw [Test.comparator, map_text_token]
  exact comparator.ofKeyword_keyword

theorem TestShape.values_ne_nil {tokens : List Token} {test : Test} {comparator : Comparator}
    (h : TestShape tokens test) (hmakes : test.comparator = .ok comparator) :
    comparator.values ≠ [] := by
  cases h with
  | test hop hvalues =>
      rw [Comparator.values_of_ofKeyword hmakes]
      simpa using hvalues.ne_nil

/-- An expression is read back from what it is written as in normal form. -/
theorem ExprTokens.contents {tokens : List Token} {expr : Expr} (h : ExprTokens tokens expr) :
    ExprTokens (expr.contents.map token) expr := by
  obtain ⟨draft, hshape, hnode⟩ := h
  cases hshape with
  | @header keyword left right names test _ hnames htest =>
      obtain ⟨comparator, hmakes, rfl⟩ := map_eq_ok_iff.mp hnode
      obtain ⟨test', htest', hmakes'⟩ :=
        Comparator.testShape_contents (htest.values_ne_nil hmakes)
      have hne : names.map Token.text ≠ [] := by simpa using hnames.ne_nil
      have hkeyword : (word "header").token.Is .ident "header" := ⟨rfl, rfl⟩
      have hread := ExprShape.header (.inl hkeyword) (stringShape_ofStrings hne) htest'
      rw [← List.map_append] at hread
      refine ⟨_, hread, map_eq_ok_iff.mpr ⟨comparator, hmakes', ?_⟩⟩
      rw [map_text_token]
  | @message keyword tokens test _ htest =>
      obtain ⟨comparator, hmakes, rfl⟩ := map_eq_ok_iff.mp hnode
      obtain ⟨test', htest', hmakes'⟩ :=
        Comparator.testShape_contents (htest.values_ne_nil hmakes)
      exact ⟨.message test', .message ⟨rfl, rfl⟩ htest', map_eq_ok_iff.mpr ⟨_, hmakes', rfl⟩⟩
  | true =>
      obtain rfl := Except.ok.inj hnode
      exact ⟨.bool true, .true ⟨rfl, rfl⟩, rfl⟩
  | false =>
      obtain rfl := Except.ok.inj hnode
      exact ⟨.bool false, .false ⟨rfl, rfl⟩, rfl⟩

/-- A statement is read back from what it is written as in normal form. -/
theorem StmtShape.contents {tokens : List Token} {stmt : Stmt} (h : StmtShape tokens stmt) :
    StmtShape (stmt.contents.map token) stmt := by
  cases h with
  | @label keyword tokens labels _ hlabels =>
      have hne : labels.map Token.text ≠ [] := by simpa using hlabels.ne_nil
      have hkeyword : (word "label").token.Is .ident "label" := ⟨rfl, rfl⟩
      have hread := StmtShape.label hkeyword (stringShape_ofStrings hne)
      rwa [map_text_token] at hread
  | mark => exact .mark ⟨rfl, rfl⟩ ⟨rfl, rfl⟩ ⟨rfl, rfl⟩
  | skip => exact .skip ⟨rfl, rfl⟩ ⟨rfl, rfl⟩
  | stop => exact .stop ⟨rfl, rfl⟩

theorem Expr.same_iff {expr expr' : Expr} : expr.same expr' = true ↔ expr = expr' := by
  cases expr with
  | header names test => cases expr' <;> simp [same, Comparator.same_iff]
  | message test => cases expr' <;> simp [same, Comparator.same_iff]
  | bool value => cases expr' <;> simp [same]

/-- If all tokens of a node have one normal form, and the node is read back from it, then reading
loses what the normal form does and nothing else. -/
theorem Parse.Accepts.eq_iff_normal {α : Type} {parser : Parse α} {phrase : Phrase α}
    (haccepts : Accepts parser phrase) {normal : List Content → List Content}
    {contents : α → List Content}
    (hnormal : ∀ {tokens value}, phrase tokens value →
      normal (tokens.map Token.content) = contents value)
    (hcontents : ∀ {tokens value}, phrase tokens value →
      phrase ((contents value).map token) value)
    {document document' : Document} {value value' : α}
    (hrun : parser.toEnd.run document = .ok value)
    (hrun' : parser.toEnd.run document' = .ok value') :
    value = value' ↔
      normal (document.tokens.map Token.content) = normal (document'.tokens.map Token.content) := by
  have h := haccepts.run_toEnd_eq_ok_iff.mp hrun
  have h' := haccepts.run_toEnd_eq_ok_iff.mp hrun'
  rw [hnormal h, hnormal h']
  constructor
  · exact congrArg contents
  · intro heq
    -- One token list is read as both values, so they are equal.
    let again : Document := ⟨document.source, (contents value).map token⟩
    have hagain : parser.toEnd.run again = .ok value :=
      haccepts.run_toEnd_eq_ok_iff.mpr (hcontents h)
    have hagain' : parser.toEnd.run again = .ok value' := by
      apply haccepts.run_toEnd_eq_ok_iff.mpr
      show phrase ((contents value).map token) value'
      rw [heq]
      exact hcontents h'
    exact Except.ok.inj (hagain.symm.trans hagain')

/-- Two token lists are read as equal expressions, or as equal statements, exactly if their normal
forms are equal. -/
theorem Document.same_iff_normal (document document' : Document) :
    (∀ expr expr', Parse.expr.toEnd.run document = .ok expr →
      Parse.expr.toEnd.run document' = .ok expr' →
        (expr.same expr' = true ↔ expr = expr') ∧
        (expr = expr' ↔ normalExpr (document.tokens.map Token.content) =
          normalExpr (document'.tokens.map Token.content))) ∧
    ∀ stmt stmt', Parse.stmt.toEnd.run document = .ok stmt →
      Parse.stmt.toEnd.run document' = .ok stmt' →
        (stmt = stmt' ↔ normalStmt (document.tokens.map Token.content) =
          normalStmt (document'.tokens.map Token.content)) := by
  constructor
  · intro expr expr' hrun hrun'
    exact ⟨Expr.same_iff, Parse.accepts_expr.eq_iff_normal ExprTokens.normalExpr_eq
      ExprTokens.contents hrun hrun'⟩
  · intro stmt stmt' hrun hrun'
    exact Parse.accepts_stmt.eq_iff_normal StmtShape.normalStmt_eq StmtShape.contents hrun hrun'

/-- Both synonyms and a string in brackets make no difference, but a value that spells an operator
is no operator. -/
theorem Document.same_iff_normal_synonyms :
    let document (contents : List Content) : Document := ⟨{ text := "" }, contents.map token⟩
    let several := document [word "headers", sign "[", string "a", sign "]", word "match",
      string "match"]
    let single := document [word "header", string "a", word "matches", string "match"]
    let other := document [word "header", string "a", word "matches", string "matches"]
    ∃ expr expr' expr'', Parse.expr.toEnd.run several = .ok expr ∧
      Parse.expr.toEnd.run single = .ok expr' ∧ Parse.expr.toEnd.run other = .ok expr'' ∧
      expr = expr' ∧ expr.same expr'' = false := by
  intro document several single other
  have hread : ∀ document ∈ [several, single, other],
      (Parse.expr.toEnd.run document).toOption.isSome = true := by decide +kernel
  obtain ⟨expr, hexpr⟩ := Option.isSome_iff_exists.mp (hread several (by simp))
  obtain ⟨expr', hexpr'⟩ := Option.isSome_iff_exists.mp (hread single (by simp))
  obtain ⟨expr'', hexpr''⟩ := Option.isSome_iff_exists.mp (hread other (by simp))
  have hrun := eq_ok_of_toOption hexpr
  have hrun' := eq_ok_of_toOption hexpr'
  have hrun'' := eq_ok_of_toOption hexpr''
  refine ⟨expr, expr', expr'', hrun, hrun', hrun'', ?_, ?_⟩
  · exact ((same_iff_normal several single).1 expr expr' hrun hrun').2.mpr (by decide +kernel)
  · obtain ⟨hsame, hnormal⟩ := (same_iff_normal several other).1 expr expr'' hrun hrun''
    rw [Bool.eq_false_iff, ne_eq, hsame, hnormal]
    decide +kernel

end MailRules

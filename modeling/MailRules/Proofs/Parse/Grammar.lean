import MailRules.Parse.Rule
import MailRules.Proofs.Parse.Phrase

/-!
# The grammar of rules

Which token sequences have the shape of an expression or of a statement, stated without
reference to a parser. The shape of an expression leaves open which word the operator is
and whether the values are patterns. It is a draft of the expression, which becomes one
if the operator and the values make a comparator.

No shape is the beginning of another one. The first token decides between the forms of
an expression or of a statement, and within a list the token after a string decides
whether another one follows.
-/

namespace MailRules

/-- The token is of the kind and has exactly that text. -/
def Token.Is (token : Token) (kind : TokenKind) (text : String) : Prop :=
  token.kind = kind ∧ token.text = text

/-- `string { "," string } "]"`, the rest of a list after its opening bracket. -/
inductive ItemShape : List Token → (items : List Token) → Prop where
  | last {item close : Token} (hitem : item.kind = .string) (hclose : close.Is .other "]") :
      ItemShape [item, close] [item]
  | cons {item comma : Token} {tokens items : List Token} (hitem : item.kind = .string)
      (hcomma : comma.Is .other ",") (h : ItemShape tokens items) :
      ItemShape (item :: comma :: tokens) (item :: items)

/-- `string | "[" string { "," string } "]"` -/
inductive StringShape : List Token → (items : List Token) → Prop where
  | one {item : Token} (hitem : item.kind = .string) : StringShape [item] [item]
  | list {opening : Token} {tokens items : List Token} (hopening : opening.Is .other "[")
      (h : ItemShape tokens items) : StringShape (opening :: tokens) items

/-- A comparator as it is written. -/
structure Test where
  op : Token
  values : List Token

/-- A word and then strings. Any word can stand for the operator. -/
inductive TestShape : List Token → Test → Prop where
  | test {op : Token} {tokens values : List Token} (hop : op.kind = .ident)
      (hvalues : StringShape tokens values) : TestShape (op :: tokens) ⟨op, values⟩

/-- An expression as it is written. -/
inductive Draft where
  | header (names : List Token) (test : Test)
  | message (test : Test)
  | bool (value : Bool)

/-- The forms of an expression. They differ in the first word. -/
inductive ExprShape : List Token → Draft → Prop where
  | header {keyword : Token} {left right names : List Token} {test : Test}
      (hkeyword : keyword.Is .ident "header" ∨ keyword.Is .ident "headers")
      (hnames : StringShape left names) (htest : TestShape right test) :
      ExprShape (keyword :: (left ++ right)) (.header names test)
  | message {keyword : Token} {tokens : List Token} {test : Test}
      (hkeyword : keyword.Is .ident "message") (htest : TestShape tokens test) :
      ExprShape (keyword :: tokens) (.message test)
  | true {keyword : Token} (hkeyword : keyword.Is .ident "true") :
      ExprShape [keyword] (.bool true)
  | false {keyword : Token} (hkeyword : keyword.Is .ident "false") :
      ExprShape [keyword] (.bool false)

/-- The forms of a statement. Nothing about a statement can be refused, so its shape says
which statement it is. -/
inductive StmtShape : List Token → Stmt → Prop where
  | label {keyword : Token} {tokens labels : List Token} (hkeyword : keyword.Is .ident "label")
      (hlabels : StringShape tokens labels) :
      StmtShape (keyword :: tokens) (.label (labels.map Token.text))
  | mark {first second third : Token} (hfirst : first.Is .ident "mark")
      (hsecond : second.Is .ident "as") (hthird : third.Is .ident "read") :
      StmtShape [first, second, third] .mark
  | skip {first second : Token} (hfirst : first.Is .ident "skip")
      (hsecond : second.Is .ident "inbox") : StmtShape [first, second] .skip
  | stop {keyword : Token} (hkeyword : keyword.Is .ident "stop") : StmtShape [keyword] .stop

namespace Test

/-- The comparator that the operator and the values stand for. -/
def comparator (test : Test) : Except Comparator.Refusal Comparator :=
  Comparator.ofKeyword test.op.text (test.values.map Token.text)

/-- The failure that a refusal of the comparator amounts to. -/
def failure (document : Document) (test : Test) : Comparator.Refusal → Failure
  | .unknownOperator => document.failAt test.op (.unknownOperator test.op.text)
  | .invalidPattern index fault =>
    let token := test.values[index]?.getD test.op
    document.failAt token (.invalidPattern token.text fault)

/-- The comparator, or the failure to make one. -/
def resolve (document : Document) (test : Test) : Except Failure Comparator :=
  test.comparator.mapError (test.failure document)

end Test

namespace Draft

/-- The comparator of a draft, if it has one. -/
def test? : Draft → Option Test
  | header _ test | message test => some test
  | bool _ => none

/-- The expression that the draft becomes. -/
def node : Draft → Except Comparator.Refusal Expr
  | header names test => test.comparator.map (.header (names.map Token.text))
  | message test => test.comparator.map .message
  | bool value => .ok (.bool value)

/-- The expression, or the failure to make one. -/
def resolve (document : Document) : Draft → Except Failure Expr
  | header names test => (test.resolve document).map (.header (names.map Token.text))
  | message test => (test.resolve document).map .message
  | bool value => .ok (.bool value)

end Draft

/-- The tokens are the expression: they have the shape of a draft that becomes it. -/
def ExprTokens (tokens : List Token) (expr : Expr) : Prop :=
  ∃ draft, ExprShape tokens draft ∧ draft.node = .ok expr

namespace Phrase

theorem token_some_iff {kind : TokenKind} {text : String} {tokens : List Token} {said : Token} :
    token kind (some text) tokens said ↔ tokens = [said] ∧ said.Is kind text := by
  simp [token, Token.Is, eq_comm]

theorem token_none_iff {kind : TokenKind} {tokens : List Token} {said : Token} :
    token kind none tokens said ↔ tokens = [said] ∧ said.kind = kind := by
  simp [token]

/-- What can follow a string in a list: its end, or another string. -/
def separator : Phrase (List Token) :=
  ((token .other (some "]")).map fun _ => []).or
    (((token .other (some ",")).seq ItemShape).map Prod.snd)

/-- A list in brackets. -/
def list : Phrase (List Token) := ((token .other (some "[")).seq ItemShape).map Prod.snd

def header : Phrase Draft :=
  (((token .ident (some "header")).or (token .ident (some "headers"))).seq
    (seq StringShape TestShape)).map fun said => .header said.2.1 said.2.2

def message : Phrase Draft :=
  ((token .ident (some "message")).seq TestShape).map fun said => .message said.2

def bool : Phrase Bool :=
  ((token .ident (some "true")).map fun _ => true).or
    ((token .ident (some "false")).map fun _ => false)

def label : Phrase Stmt :=
  ((token .ident (some "label")).seq StringShape).map fun said => .label (said.2.map Token.text)

def mark : Phrase Stmt :=
  ((token .ident (some "mark")).seq
    ((token .ident (some "as")).seq (token .ident (some "read")))).map fun _ => .mark

def skip : Phrase Stmt :=
  ((token .ident (some "skip")).seq (token .ident (some "inbox"))).map fun _ => .skip

def stop : Phrase Stmt := (token .ident (some "stop")).map fun _ => .stop

end Phrase

/-- A list goes on with a separator after each of its strings. -/
theorem itemShape_eq :
    ItemShape = ((Phrase.token .string none).seq Phrase.separator).map
      fun said => said.1 :: said.2 := by
  funext tokens items
  apply propext
  constructor
  · intro h
    cases h with
    | @last item close hitem hclose =>
        exact ⟨(item, []), ⟨[item], [close], rfl, Phrase.token_none_iff.mpr ⟨rfl, hitem⟩,
          .inl ⟨close, Phrase.token_some_iff.mpr ⟨rfl, hclose⟩, rfl⟩⟩, rfl⟩
    | @cons item comma tokens items hitem hcomma h =>
        exact ⟨(item, items), ⟨[item], comma :: tokens, rfl,
          Phrase.token_none_iff.mpr ⟨rfl, hitem⟩, .inr ⟨(comma, items), ⟨[comma], tokens, rfl,
            Phrase.token_some_iff.mpr ⟨rfl, hcomma⟩, h⟩, rfl⟩⟩, rfl⟩
  · rintro ⟨⟨item, items⟩, ⟨_, _, rfl, hitem, hrest⟩, rfl⟩
    obtain ⟨rfl, hitem'⟩ := Phrase.token_none_iff.mp hitem
    rcases hrest with ⟨close, hclose, rfl⟩ | ⟨⟨comma, _⟩, ⟨_, tokens, rfl, hcomma, h⟩, rfl⟩
    · obtain ⟨rfl, hclose'⟩ := Phrase.token_some_iff.mp hclose
      exact .last hitem' hclose'
    · obtain ⟨rfl, hcomma'⟩ := Phrase.token_some_iff.mp hcomma
      exact .cons hitem' hcomma' h

theorem stringShape_eq :
    StringShape = ((Phrase.token .string none).map fun item => [item]).or Phrase.list := by
  funext tokens items
  apply propext
  constructor
  · intro h
    cases h with
    | @one item hitem => exact .inl ⟨item, Phrase.token_none_iff.mpr ⟨rfl, hitem⟩, rfl⟩
    | @list opening tokens items hopening h =>
        exact .inr ⟨(opening, items), ⟨[opening], tokens, rfl,
          Phrase.token_some_iff.mpr ⟨rfl, hopening⟩, h⟩, rfl⟩
  · rintro (⟨item, hitem, rfl⟩ | ⟨⟨opening, _⟩, ⟨_, tokens, rfl, hopening, h⟩, rfl⟩)
    · obtain ⟨rfl, hitem'⟩ := Phrase.token_none_iff.mp hitem
      exact .one hitem'
    · obtain ⟨rfl, hopening'⟩ := Phrase.token_some_iff.mp hopening
      exact .list hopening' h

theorem testShape_eq :
    TestShape = ((Phrase.token .ident none).seq StringShape).map
      fun said => ⟨said.1, said.2⟩ := by
  funext tokens test
  apply propext
  constructor
  · rintro ⟨hop, hvalues⟩
    exact ⟨(_, _), ⟨[_], _, rfl, Phrase.token_none_iff.mpr ⟨rfl, hop⟩, hvalues⟩, rfl⟩
  · rintro ⟨⟨op, values⟩, ⟨_, tokens, rfl, hop, hvalues⟩, rfl⟩
    obtain ⟨rfl, hop'⟩ := Phrase.token_none_iff.mp hop
    exact .test hop' hvalues

/-- The forms of an expression in the order in which they are tried. -/
theorem exprShape_eq :
    ExprShape = (Phrase.header.or Phrase.message).or (Phrase.bool.map .bool) := by
  funext tokens draft
  apply propext
  constructor
  · intro h
    cases h with
    | @header keyword left right names test hkeyword hnames htest =>
        have hfirst : ((Phrase.token .ident (some "header")).or
            (Phrase.token .ident (some "headers"))) [keyword] keyword :=
          hkeyword.imp (Phrase.token_some_iff.mpr ⟨rfl, ·⟩) (Phrase.token_some_iff.mpr ⟨rfl, ·⟩)
        exact .inl (.inl ⟨(keyword, names, test), ⟨[keyword], left ++ right, rfl, hfirst,
          left, right, rfl, hnames, htest⟩, rfl⟩)
    | @message keyword tokens test hkeyword htest =>
        exact .inl (.inr ⟨(keyword, test), ⟨[keyword], tokens, rfl,
          Phrase.token_some_iff.mpr ⟨rfl, hkeyword⟩, htest⟩, rfl⟩)
    | @true keyword hkeyword =>
        exact .inr ⟨true, .inl ⟨keyword, Phrase.token_some_iff.mpr ⟨rfl, hkeyword⟩, rfl⟩, rfl⟩
    | @false keyword hkeyword =>
        exact .inr ⟨false, .inr ⟨keyword, Phrase.token_some_iff.mpr ⟨rfl, hkeyword⟩, rfl⟩, rfl⟩
  · rintro ((⟨⟨keyword, names, test⟩, ⟨_, _, rfl, hkeyword, left, right, rfl, hnames, htest⟩, rfl⟩ |
      ⟨⟨keyword, test⟩, ⟨_, tokens, rfl, hkeyword, htest⟩, rfl⟩) |
      ⟨_, ⟨keyword, hkeyword, rfl⟩ | ⟨keyword, hkeyword, rfl⟩, rfl⟩)
    · rcases hkeyword with hkeyword | hkeyword
      · obtain ⟨rfl, hkeyword'⟩ := Phrase.token_some_iff.mp hkeyword
        show ExprShape (keyword :: (left ++ right)) (.header names test)
        exact .header (.inl hkeyword') hnames htest
      · obtain ⟨rfl, hkeyword'⟩ := Phrase.token_some_iff.mp hkeyword
        show ExprShape (keyword :: (left ++ right)) (.header names test)
        exact .header (.inr hkeyword') hnames htest
    · obtain ⟨rfl, hkeyword'⟩ := Phrase.token_some_iff.mp hkeyword
      exact .message hkeyword' htest
    · obtain ⟨rfl, hkeyword'⟩ := Phrase.token_some_iff.mp hkeyword
      exact .true hkeyword'
    · obtain ⟨rfl, hkeyword'⟩ := Phrase.token_some_iff.mp hkeyword
      exact .false hkeyword'

/-- The forms of a statement in the order in which they are tried. -/
theorem stmtShape_eq :
    StmtShape = ((Phrase.label.or Phrase.mark).or Phrase.skip).or Phrase.stop := by
  funext tokens stmt
  apply propext
  constructor
  · intro h
    cases h with
    | @label keyword tokens labels hkeyword hlabels =>
        exact .inl (.inl (.inl ⟨(keyword, labels), ⟨[keyword], tokens, rfl,
          Phrase.token_some_iff.mpr ⟨rfl, hkeyword⟩, hlabels⟩, rfl⟩))
    | @mark first second third hfirst hsecond hthird =>
        exact .inl (.inl (.inr ⟨(first, second, third), ⟨[first], [second, third], rfl,
          Phrase.token_some_iff.mpr ⟨rfl, hfirst⟩, [second], [third], rfl,
          Phrase.token_some_iff.mpr ⟨rfl, hsecond⟩, Phrase.token_some_iff.mpr ⟨rfl, hthird⟩⟩, rfl⟩))
    | @skip first second hfirst hsecond =>
        exact .inl (.inr ⟨(first, second), ⟨[first], [second], rfl,
          Phrase.token_some_iff.mpr ⟨rfl, hfirst⟩, Phrase.token_some_iff.mpr ⟨rfl, hsecond⟩⟩, rfl⟩)
    | @stop keyword hkeyword =>
        exact .inr ⟨keyword, Phrase.token_some_iff.mpr ⟨rfl, hkeyword⟩, rfl⟩
  · rintro (((⟨⟨keyword, labels⟩, ⟨_, tokens, rfl, hkeyword, hlabels⟩, rfl⟩ |
      ⟨⟨first, second, third⟩, ⟨_, _, rfl, hfirst, _, _, rfl, hsecond, hthird⟩, rfl⟩) |
      ⟨⟨first, second⟩, ⟨_, _, rfl, hfirst, hsecond⟩, rfl⟩) | ⟨keyword, hkeyword, rfl⟩)
    · obtain ⟨rfl, hkeyword'⟩ := Phrase.token_some_iff.mp hkeyword
      exact .label hkeyword' hlabels
    · obtain ⟨rfl, hfirst'⟩ := Phrase.token_some_iff.mp hfirst
      obtain ⟨rfl, hsecond'⟩ := Phrase.token_some_iff.mp hsecond
      obtain ⟨rfl, hthird'⟩ := Phrase.token_some_iff.mp hthird
      exact .mark hfirst' hsecond' hthird'
    · obtain ⟨rfl, hfirst'⟩ := Phrase.token_some_iff.mp hfirst
      obtain ⟨rfl, hsecond'⟩ := Phrase.token_some_iff.mp hsecond
      exact .skip hfirst' hsecond'
    · obtain ⟨rfl, hkeyword'⟩ := Phrase.token_some_iff.mp hkeyword
      exact .stop hkeyword'

end MailRules

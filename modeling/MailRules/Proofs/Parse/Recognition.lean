import MailRules.Proofs.Parse.Production

/-!
# The rule parser recognises its grammar

A parser of the rule grammar succeeds exactly on the token sequences that derive a node,
with that node and with the cursor behind the sequence. The tokens can be any tokens;
they need not come from a source. As the parser is a function, what can be derived from
a cursor is unique.
-/

namespace MailRules

/-- The tokens from `start` up to `stop` are a sequence of the phrase. -/
def Document.Spans {α : Type} (document : Document) (phrase : Phrase α) (start stop : Nat)
    (value : α) : Prop :=
  start ≤ stop ∧ stop ≤ document.tokens.length ∧ phrase (document.tokens.extract start stop) value

/-- A sequence between two cursors is a beginning of the tokens from the first one on. -/
theorem Document.spans_iff {α : Type} {document : Document} {phrase : Phrase α}
    (hnil : ∀ value, ¬ phrase [] value) {start stop : Nat} {value : α} :
    document.Spans phrase start stop value ↔
      ∃ used rest, document.tokens.drop start = used ++ rest ∧ phrase used value ∧
        stop = start + used.length := by
  constructor
  · rintro ⟨hle, hlength, hphrase⟩
    rw [List.extract_eq_take_drop] at hphrase
    refine ⟨_, _, (List.take_append_drop (stop - start) _).symm, hphrase, ?_⟩
    rw [List.length_take, List.length_drop]
    omega
  · rintro ⟨used, rest, htokens, hused, rfl⟩
    have hlength := congrArg List.length htokens
    rw [List.length_drop, List.length_append] at hlength
    have hpos : 0 < used.length := by
      cases used with
      | nil => exact absurd hused (hnil value)
      | cons token used => exact Nat.zero_lt_succ _
    refine ⟨Nat.le_add_right _ _, by omega, ?_⟩
    rwa [List.extract_eq_take_drop, htokens, Nat.add_sub_cancel_left, List.take_left]

theorem Test.resolve_eq_ok_iff (document : Document) (test : Test) (comparator : Comparator) :
    test.resolve document = .ok comparator ↔ test.comparator = .ok comparator := by
  unfold resolve
  cases test.comparator with
  | error refusal =>
      constructor
      · intro h
        cases h
      · intro h
        cases h
  | ok comparator' =>
      constructor
      · intro h
        rw [Except.ok.inj h]
      · intro h
        rw [Except.ok.inj h]
        rfl

/-- Whether a draft becomes an expression does not depend on the document. -/
theorem Draft.resolve_eq_ok_iff (document : Document) (draft : Draft) (expr : Expr) :
    draft.resolve document = .ok expr ↔ draft.node = .ok expr := by
  cases draft with
  | header names test => simp only [resolve, node, map_eq_ok_iff, test.resolve_eq_ok_iff document]
  | message test => simp only [resolve, node, map_eq_ok_iff, test.resolve_eq_ok_iff document]
  | bool value => simp only [resolve, node, Except.ok.injEq]

namespace Parse

variable {α : Type}

theorem Accepts.eq_ok_iff_spans {parser : Parse α} {phrase : Phrase α}
    (h : Accepts parser phrase) (hnil : ∀ value, ¬ phrase [] value) (document : Document)
    (start stop : Nat) (value : α) :
    parser document start = .ok value stop ↔ document.Spans phrase start stop value :=
  (h document start value stop).trans (Document.spans_iff hnil).symm

/-- Reading an expression succeeds exactly on the expressions. -/
theorem accepts_expr : Accepts Parse.expr ExprTokens := by
  have hheader := reads_exprHeader.accepts Phrase.header_prefixFree Draft.resolve_eq_ok_iff
  have hmessage := reads_exprMessage.accepts Phrase.message_prefixFree Draft.resolve_eq_ok_iff
  have hbool :=
    reads_predBool.accepts (Phrase.bool_prefixFree.map Draft.bool) Draft.resolve_eq_ok_iff
  have hfirst := hheader.either hmessage (.attempt _) (Phrase.header_apart_message.resolve _)
  rw [← Phrase.resolve_or] at hfirst
  have hall := hfirst.either hbool (.either (.attempt _) (.attempt _))
    (Phrase.header_or_message_apart_bool.resolve _)
  rw [← Phrase.resolve_or, ← exprShape_eq] at hall
  exact hall

/-- Reading a statement succeeds exactly on the statements. -/
theorem accepts_stmt : Accepts Parse.stmt StmtShape := by
  have hlabel := reads_stmtLabel.accepts_all Phrase.label_prefixFree
  have hmark := reads_stmtMark.accepts_all Phrase.mark_prefixFree
  have hskip := reads_stmtSkip.accepts_all Phrase.skip_prefixFree
  have hstop := reads_stmtStop.accepts_all Phrase.stop_prefixFree
  have hfirst := hlabel.either hmark (.attempt _) Phrase.label_apart_mark
  have hsecond := hfirst.either hskip (.either (.attempt _) (.attempt _))
    Phrase.label_or_mark_apart_skip
  rw [stmtShape_eq]
  exact hsecond.either hstop (.either (.either (.attempt _) (.attempt _)) (.attempt _))
    Phrase.label_or_mark_or_skip_apart_stop

end Parse

theorem ExprTokens.starts :
    Phrase.Starts ExprTokens (Phrase.Word ["header", "headers", "message", "true", "false"]) :=
  fun _ _ ⟨_, hshape, _⟩ => ExprShape.starts hshape

/-- No expression and statement can be read from one place. -/
theorem ExprTokens.not_stmtShape {tokens tokens' rest rest' : List Token} {expr : Expr}
    {stmt : Stmt} (hexpr : ExprTokens tokens expr) (hstmt : StmtShape tokens' stmt) :
    tokens ++ rest ≠ tokens' ++ rest' := by
  intro heq
  obtain ⟨first, more, rfl, -, hword⟩ := ExprTokens.starts hexpr
  obtain ⟨first', more', rfl, -, hword'⟩ := StmtShape.starts hstmt
  obtain rfl : first = first' := (List.cons.inj heq).1
  revert hword'
  simp only [List.mem_cons, List.not_mem_nil, or_false] at hword
  rcases hword with h | h | h | h | h <;> rw [h] <;> decide

/-- A parser succeeds with a node exactly if the tokens that it passes over derive this
node. What can be derived from a cursor is unique, and never both an expression and a
statement. -/
theorem Parse.expr_stmt_eq_ok_iff_spans (document : Document) (start : Nat) :
    (∀ expr stop, Parse.expr document start = .ok expr stop ↔
      document.Spans ExprTokens start stop expr) ∧
    (∀ stmt stop, Parse.stmt document start = .ok stmt stop ↔
      document.Spans StmtShape start stop stmt) ∧
    (∀ expr expr' stop stop', document.Spans ExprTokens start stop expr →
      document.Spans ExprTokens start stop' expr' → expr = expr' ∧ stop = stop') ∧
    (∀ stmt stmt' stop stop', document.Spans StmtShape start stop stmt →
      document.Spans StmtShape start stop' stmt' → stmt = stmt' ∧ stop = stop') ∧
    ∀ expr stmt stop stop', document.Spans ExprTokens start stop expr →
      ¬ document.Spans StmtShape start stop' stmt := by
  have hexpr := accepts_expr.eq_ok_iff_spans ExprTokens.starts.ne_nil document start
  have hstmt := accepts_stmt.eq_ok_iff_spans StmtShape.starts.ne_nil document start
  refine ⟨fun expr stop => hexpr stop expr, fun stmt stop => hstmt stop stmt, ?_, ?_, ?_⟩
  · intro expr expr' stop stop' h h'
    have heq := ((hexpr stop expr).mpr h).symm.trans ((hexpr stop' expr').mpr h')
    exact ⟨(EStateM.Result.ok.inj heq).1, (EStateM.Result.ok.inj heq).2⟩
  · intro stmt stmt' stop stop' h h'
    have heq := ((hstmt stop stmt).mpr h).symm.trans ((hstmt stop' stmt').mpr h')
    exact ⟨(EStateM.Result.ok.inj heq).1, (EStateM.Result.ok.inj heq).2⟩
  · rintro expr stmt stop stop' ⟨-, -, h⟩ ⟨-, -, h'⟩
    have heq := (List.take_append_drop (stop - start) (document.tokens.drop start)).trans
      (List.take_append_drop (stop' - start) (document.tokens.drop start)).symm
    exact h.not_stmtShape h' heq

/-- A list that holds the text of its own end, after a string that spells a keyword. -/
theorem Parse.expr_stmt_eq_ok_iff_spans_list :
    let token (kind : TokenKind) (text : String) : Token := ⟨kind, ⟨"", .start⟩, .empty 0, text⟩
    let document : Document := ⟨{ text := "" }, [token .string "true", token .ident "label",
      token .other "[", token .string "a", token .other ",", token .string "]", token .other "]",
      token .ident "true"]⟩
    document.Spans StmtShape 1 7 (.label ["a", "]"]) ∧
      (∀ stmt stop, document.Spans StmtShape 1 stop stmt → .label ["a", "]"] = stmt ∧ 7 = stop) ∧
      ∀ expr stop, ¬ document.Spans ExprTokens 1 stop expr := by
  intro token document
  obtain ⟨-, hstmt, -, hunique, hboth⟩ := Parse.expr_stmt_eq_ok_iff_spans document 1
  have h : document.Spans StmtShape 1 7 (.label ["a", "]"]) := (hstmt _ _).mp rfl
  exact ⟨h, fun stmt stop h' => hunique _ _ _ _ h h', fun expr stop h' => hboth _ _ _ _ h' h⟩

end MailRules

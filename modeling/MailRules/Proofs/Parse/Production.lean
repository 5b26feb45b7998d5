import MailRules.Proofs.Parse.Alternative
import MailRules.Proofs.Parse.Unambiguous

/-!
# What the productions read

Each production of the rule parser reads one phrase of the grammar. A list is read one
string at a time; the bound on its length is the number of tokens that remain, and this
is never what stops the reading. A comparator is read as it is written and only then
looked up, so nothing but a complete comparator is ever refused.
-/

namespace MailRules.Parse

theorem restores_expectIdent (text : String) : Restores (Parse.expectIdent text) :=
  (Restores.expect .ident (some text)).map fun _ => ()

theorem reads_expectIdent (text : String) :
    Reads (Parse.expectIdent text) (Phrase.token .ident (some text)) fun _ _ => .ok () :=
  (Reads.expect .ident (some text)).map fun _ => ()

theorem reads_expectOther (text : String) :
    Reads (Parse.expectOther text) (Phrase.token .other (some text)) fun _ _ => .ok () :=
  (Reads.expect .other (some text)).map fun _ => ()

theorem reads_nextString :
    Reads Parse.nextString (Phrase.token .string none) fun _ item => .ok item :=
  Reads.expect .string none

theorem reads_nextIdent :
    Reads Parse.nextIdent (Phrase.token .ident none) fun _ op => .ok op :=
  Reads.expect .ident none

/-- What stands after a string of a list, if the strings after a comma are read rightly. -/
theorem outcome_separator {document : Document} {cursor : Nat} {item : Token}
    {more : Parse (List Token)}
    (hmore : Outcome ItemShape (fun items => .ok items) document (cursor + 1)
      (more document (cursor + 1))) :
    Outcome Phrase.separator (fun items => .ok (item :: items)) document cursor
      ((Parse.nextOther >>= fun separator =>
        if separator.text = "]" then
          pure [item]
        else if separator.text = "," then
          more >>= fun items => pure (item :: items)
        else
          Parse.failAt separator (.mismatch "OTHER(,) or OTHER(])" separator.render))
        document cursor) := by
  have hnext := expect_apply .other none document cursor
  cases htokens : document.tokens.drop cursor with
  | nil =>
      rw [← List.head?_drop, htokens] at hnext
      have hfail : Parse.nextOther document cursor = .error document.endFailure cursor := hnext
      rw [bind_of_error hfail]
      exact .stuck [] [] htokens (Phrase.separator_stuck (by simp)) rfl
  | cons separator rest =>
      rw [← List.head?_drop, htokens] at hnext
      by_cases hkind : separator.kind = .other
      · have hread : Parse.nextOther document cursor = .ok separator (cursor + 1) :=
          hnext.trans (if_pos ⟨hkind, rfl⟩)
        rw [bind_of_ok hread]
        by_cases hclose : separator.text = "]"
        · rw [if_pos hclose]
          exact .accepted [separator] rest htokens (Phrase.separator_close ⟨hkind, hclose⟩) rfl
        · rw [if_neg hclose]
          by_cases hcomma : separator.text = ","
          · rw [if_pos hcomma]
            have hitems := Outcome.seq (fun _ items => .ok (item :: items))
              (Phrase.prefixFree_token .other (some ",")) htokens
              (Phrase.token_some_iff.mpr ⟨rfl, hkind, hcomma⟩) (hmore.map (item :: ·))
            refine ((hitems.map_said Prod.snd fun _ => rfl).or_left ?_).or_comm
            refine .of_starts ((Phrase.starts_token _ _).map _) Phrase.close_begins_nil ?_
            simp [htokens, Ne.symm hclose]
          · rw [if_neg hcomma]
            refine .stuck [] _ htokens (Phrase.separator_stuck ?_) ⟨_, rfl⟩
            simp [Token.Is, hclose, hcomma]
      · have hfail : Parse.nextOther document cursor = .error (document.failAt separator
            (.mismatch (TokenKind.other.render none) separator.render)) cursor :=
          hnext.trans (if_neg fun h => hkind h.1)
        rw [bind_of_error hfail]
        refine .stuck [] _ htokens (Phrase.separator_stuck ?_) ⟨_, rfl⟩
        simp [Token.Is, hkind]

/-- The strings of a list, as long as no more tokens remain than may be read. -/
theorem outcome_listItems (document : Document) (bound : Nat) :
    ∀ cursor, document.tokens.length - cursor ≤ bound →
      Outcome ItemShape (fun items => .ok items) document cursor
        (Parse.listItems bound document cursor) := by
  induction bound with
  | zero =>
      intro cursor hbound
      have hnil : document.tokens.drop cursor = [] := List.drop_eq_nil_of_le (by omega)
      have hstuck : Phrase.Stuck ItemShape [] [] :=
        ⟨ItemShape.begins_nil, ItemShape.starts.ne_nil, by simp⟩
      exact .stuck [] [] hnil hstuck rfl
  | succ bound ih =>
      intro cursor hbound
      have hitems : Outcome ((Phrase.token .string none).seq Phrase.separator)
          (fun said => .ok (said.1 :: said.2)) document cursor
          (Parse.listItems (bound + 1) document cursor) := by
        refine .bind (fun item items => .ok (item :: items)) (Phrase.prefixFree_token _ _)
          Phrase.separator_begins_nil (reads_nextString document cursor) ?_
        rintro used item ⟨rfl, -⟩
        exact outcome_separator (ih (cursor + 1 + 1) (by omega))
      rw [itemShape_eq]
      exact hitems.map_said (fun said => said.1 :: said.2) fun _ => rfl

/-- The bound on a list is the number of tokens behind its opening bracket. -/
theorem reads_listTokens : Reads Parse.listTokens Phrase.list fun _ items => .ok items := by
  refine .attempt (.map_said ?_ Prod.snd fun _ _ => rfl)
  refine .bind (fun _ _ items => .ok items) (Phrase.prefixFree_token _ _) ItemShape.begins_nil
    (reads_expectOther "[") ?_
  intro _ document cursor
  exact outcome_listItems document _ cursor (Nat.le_refl _)

/-- A list is tried when there is no string, and nothing has been read by then. -/
theorem reads_stringTokens :
    Reads Parse.stringTokens StringShape fun _ items => .ok items := by
  rw [stringShape_eq]
  have hone : Reads (Parse.nextString >>= fun item => pure [item])
      ((Phrase.token .string none).map fun item => [item]) fun _ items => .ok items :=
    (reads_nextString.map fun item => [item]).map_said _ fun _ _ => rfl
  refine .orElse hone ((Restores.expect _ _).map _) ?_ reads_listTokens
  rintro _ _ ⟨item, ⟨rfl, -⟩, rfl⟩
  exact ⟨item, rfl⟩

theorem reads_strings :
    Reads Parse.strings StringShape fun _ items => .ok (items.map Token.text) :=
  reads_stringTokens.map fun items => items.map Token.text

/-- A comparator is read as a test and refused only as a whole. -/
theorem reads_comparator : Reads Parse.comparator TestShape Test.resolve := by
  rw [testShape_eq]
  refine .map_said ?_ _ fun _ _ => rfl
  refine .bind (fun op document values => Test.resolve document ⟨op, values⟩)
    (Phrase.prefixFree_token _ _) StringShape.begins_nil reads_nextIdent fun op => ?_
  refine reads_stringTokens.check ?_ ?_
  · intro values document cursor comparator h
    unfold Test.resolve Test.comparator at h
    cases hcomparator : Comparator.ofKeyword op.text (values.map Token.text) with
    | ok comparator' =>
        rw [hcomparator] at h
        obtain rfl := Except.ok.inj h
        rfl
    | error refusal =>
        rw [hcomparator] at h
        cases h
  · intro values document cursor failure h
    unfold Test.resolve Test.comparator at h
    cases hcomparator : Comparator.ofKeyword op.text (values.map Token.text) with
    | ok comparator' =>
        rw [hcomparator] at h
        cases h
    | error refusal =>
        rw [hcomparator] at h
        obtain rfl := Except.error.inj h
        cases refusal <;> rfl

theorem reads_exprHeader : Reads Parse.exprHeader Phrase.header Draft.resolve := by
  refine .attempt (.map_said ?_ _ fun _ _ => rfl)
  have hkeyword := (reads_expectIdent "header").orElse (restores_expectIdent "header")
    (fun _ said h => ⟨said, h.1⟩) (reads_expectIdent "headers")
  refine .bind (fun _ document said => Draft.resolve document (.header said.1 said.2))
    Phrase.header_or_headers_prefixFree
    (Phrase.begins_nil_seq StringShape.begins_nil TestShape.begins_nil) hkeyword fun _ => ?_
  refine .bind (fun names document test => Draft.resolve document (.header names test))
    StringShape.prefixFree TestShape.begins_nil reads_strings fun names => ?_
  exact reads_comparator.map (Expr.header (names.map Token.text))

theorem reads_exprMessage : Reads Parse.exprMessage Phrase.message Draft.resolve := by
  refine .attempt (.map_said ?_ _ fun _ _ => rfl)
  refine .bind (fun _ document test => Draft.resolve document (.message test))
    (Phrase.prefixFree_token _ _) TestShape.begins_nil (reads_expectIdent "message") fun _ => ?_
  exact reads_comparator.map Expr.message

/-- A word that stands for a truth value. -/
theorem reads_bool (text : String) (value : Bool) :
    Reads (Parse.expectIdent text >>= fun _ => pure (Expr.bool value))
      ((Phrase.token .ident (some text)).map fun _ => value) fun _ value => .ok (.bool value) :=
  ((reads_expectIdent text).map fun _ => Expr.bool value).map_said _ fun _ _ => rfl

theorem reads_predBool : Reads Parse.predBool (Phrase.bool.map .bool) Draft.resolve := by
  have hone : ∀ used value, ((Phrase.token .ident (some "true")).map fun _ => true) used value →
      ∃ token, used = [token] := by
    rintro _ _ ⟨said, ⟨rfl, -⟩, rfl⟩
    exact ⟨said, rfl⟩
  have hbool := (reads_bool "true" true).orElse ((restores_expectIdent "true").map _) hone
    (reads_bool "false" false)
  exact hbool.map_said _ fun _ _ => rfl

theorem reads_stmtLabel : Reads Parse.stmtLabel Phrase.label fun _ stmt => .ok stmt := by
  refine .attempt (.map_said ?_ _ fun _ _ => rfl)
  refine .bind (fun _ _ labels => .ok (Stmt.label (labels.map Token.text)))
    (Phrase.prefixFree_token _ _) StringShape.begins_nil (reads_expectIdent "label") fun _ => ?_
  exact reads_strings.map Stmt.label

theorem reads_stmtMark : Reads Parse.stmtMark Phrase.mark fun _ stmt => .ok stmt := by
  refine .attempt (.map_said ?_ _ fun _ _ => rfl)
  have hbegins := Phrase.begins_nil_token .ident (some "read")
  refine .bind (fun _ _ _ => .ok Stmt.mark) (Phrase.prefixFree_token _ _)
    (Phrase.begins_nil_seq (Phrase.begins_nil_token _ _) hbegins) (reads_expectIdent "mark")
    fun _ => ?_
  refine .bind (fun _ _ _ => .ok Stmt.mark) (Phrase.prefixFree_token _ _) hbegins
    (reads_expectIdent "as") fun _ => ?_
  exact (reads_expectIdent "read").map fun _ => Stmt.mark

theorem reads_stmtSkip : Reads Parse.stmtSkip Phrase.skip fun _ stmt => .ok stmt := by
  refine .attempt (.map_said ?_ _ fun _ _ => rfl)
  refine .bind (fun _ _ _ => .ok Stmt.skip) (Phrase.prefixFree_token _ _)
    (Phrase.begins_nil_token _ _) (reads_expectIdent "skip") fun _ => ?_
  exact (reads_expectIdent "inbox").map fun _ => Stmt.skip

theorem reads_stmtStop : Reads Parse.stmtStop Phrase.stop fun _ stmt => .ok stmt :=
  ((reads_expectIdent "stop").map fun _ => Stmt.stop).map_said _ fun _ _ => rfl

end MailRules.Parse

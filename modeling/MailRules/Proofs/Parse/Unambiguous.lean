import MailRules.Proofs.Parse.Grammar

/-!
# The grammar is unambiguous

Every phrase of the grammar is prefix free, and its alternatives are told apart by their
first token. The kind of the first token separates a string from a list; its text
separates the forms of an expression and of a statement from each other.
-/

namespace MailRules

theorem ItemShape.starts : Phrase.Starts ItemShape fun token => token.kind = .string := by
  intro tokens items h
  cases h with
  | last hitem => exact ⟨_, _, rfl, hitem⟩
  | cons hitem => exact ⟨_, _, rfl, hitem⟩

theorem ItemShape.begins_nil : Phrase.Begins ItemShape [] := by
  rw [itemShape_eq, Phrase.Begins.map]
  refine Phrase.begins_nil_seq (Phrase.begins_nil_token _ _) (Phrase.begins_or.mpr (.inl ?_))
  exact Phrase.Begins.map.mpr (Phrase.begins_nil_token _ _)

/-- The token after a string tells whether the list goes on. -/
theorem ItemShape.prefixFree : Phrase.PrefixFree ItemShape := by
  intro used used' rest rest' items items' h h' heq
  induction h generalizing used' items' with
  | @last item close _ hclose =>
      cases h' with
      | last _ _ =>
          injection heq with hitem heq
          injection heq with hclose' _
          exact ⟨by rw [hitem, hclose'], by rw [hitem]⟩
      | cons _ hcomma _ =>
          injection heq with _ heq
          injection heq with hsame _
          rw [hsame, Token.Is, hcomma.2] at hclose
          simp at hclose
  | @cons item comma tokens items _ hcomma _ ih =>
      cases h' with
      | last _ hclose =>
          injection heq with _ heq
          injection heq with hsame _
          rw [hsame, Token.Is, hclose.2] at hcomma
          simp at hcomma
      | cons _ _ h' =>
          injection heq with hitem heq
          injection heq with hcomma' heq
          obtain ⟨rfl, rfl⟩ := ih h' heq
          exact ⟨by rw [hitem, hcomma'], by rw [hitem]⟩

/-- The strings of a list are among its tokens. -/
theorem ItemShape.mem {tokens items : List Token} (h : ItemShape tokens items) :
    ∀ item ∈ items, item ∈ tokens := by
  induction h with
  | last => simp
  | cons _ _ _ ih =>
      intro item hitem
      rcases List.mem_cons.mp hitem with rfl | hitem
      · exact List.mem_cons_self
      · exact List.mem_cons_of_mem _ (List.mem_cons_of_mem _ (ih item hitem))

theorem ItemShape.kind_eq {tokens items : List Token} (h : ItemShape tokens items) :
    ∀ item ∈ items, item.kind = .string := by
  induction h with
  | last hitem _ => simpa using hitem
  | cons hitem _ _ ih =>
      intro item hmem
      rcases List.mem_cons.mp hmem with rfl | hmem
      · exact hitem
      · exact ih item hmem

theorem ItemShape.ne_nil {tokens items : List Token} (h : ItemShape tokens items) :
    items ≠ [] := by
  cases h <;> exact List.cons_ne_nil _ _

namespace Phrase

theorem separator_close {close : Token} (h : close.Is .other "]") : separator [close] [] :=
  .inl ⟨close, token_some_iff.mpr ⟨rfl, h⟩, rfl⟩

theorem separator_starts :
    separator.Starts fun token => token.Is .other "]" ∨ token.Is .other "," := by
  rintro _ _ (⟨close, hclose, rfl⟩ | ⟨⟨comma, items⟩, ⟨_, tokens, rfl, hcomma, -⟩, rfl⟩)
  · obtain ⟨rfl, hclose'⟩ := token_some_iff.mp hclose
    exact ⟨close, [], rfl, .inl hclose'⟩
  · obtain ⟨rfl, hcomma'⟩ := token_some_iff.mp hcomma
    exact ⟨comma, tokens, rfl, .inr hcomma'⟩

theorem close_begins_nil :
    ((token .other (some "]")).map fun _ => ([] : List Token)).Begins [] :=
  Begins.map.mpr (begins_nil_token _ _)

theorem separator_begins_nil : separator.Begins [] := begins_or.mpr (.inl close_begins_nil)

/-- A list cannot go on after a string with anything but a comma or its end. -/
theorem separator_stuck {rest : List Token}
    (h : ∀ token ∈ rest.head?, ¬ (token.Is .other "]" ∨ token.Is .other ",")) :
    separator.Stuck [] rest :=
  .of_starts separator_starts separator_begins_nil h

theorem list_starts : list.Starts fun token => token.kind = .other := by
  rintro _ _ ⟨said, ⟨_, right, rfl, hopening, -⟩, rfl⟩
  obtain ⟨rfl, hkind, -⟩ := hopening
  exact ⟨said.1, right, rfl, hkind⟩

theorem list_prefixFree : list.PrefixFree :=
  ((prefixFree_token _ _).seq ItemShape.prefixFree).map _

end Phrase

namespace StringShape

theorem begins_nil : Phrase.Begins StringShape [] := by
  rw [stringShape_eq, Phrase.begins_or]
  exact .inl (Phrase.Begins.map.mpr (Phrase.begins_nil_token _ _))

theorem prefixFree : Phrase.PrefixFree StringShape := by
  rw [stringShape_eq]
  refine ((Phrase.prefixFree_token _ _).map _).or Phrase.list_prefixFree ?_
  refine ((Phrase.starts_token _ _).map _).apart Phrase.list_starts ?_
  rintro token ⟨hstring, -⟩ hother
  cases hstring.symm.trans hother

theorem mem {tokens items : List Token} (h : StringShape tokens items) :
    ∀ item ∈ items, item ∈ tokens := by
  cases h with
  | one => simp
  | list _ h => exact fun item hitem => List.mem_cons_of_mem _ (h.mem item hitem)

theorem kind_eq {tokens items : List Token} (h : StringShape tokens items) :
    ∀ item ∈ items, item.kind = .string := by
  cases h with
  | one hitem => simpa using hitem
  | list _ h => exact h.kind_eq

theorem ne_nil {tokens items : List Token} (h : StringShape tokens items) : items ≠ [] := by
  cases h with
  | one => exact List.cons_ne_nil _ _
  | list _ h => exact h.ne_nil

end StringShape

namespace TestShape

theorem begins_nil : Phrase.Begins TestShape [] := by
  rw [testShape_eq, Phrase.Begins.map]
  exact Phrase.begins_nil_seq (Phrase.begins_nil_token _ _) StringShape.begins_nil

theorem prefixFree : Phrase.PrefixFree TestShape := by
  rw [testShape_eq]
  exact ((Phrase.prefixFree_token _ _).seq StringShape.prefixFree).map _

end TestShape

namespace Phrase

/-- The first words of the forms of an expression. -/
theorem header_starts : header.Starts (Word ["header", "headers"]) :=
  (((starts_word "header").or (starts_word "headers")).seq _).map _

theorem message_starts : message.Starts (Word ["message"]) := ((starts_word _).seq _).map _

theorem bool_starts : bool.Starts (Word ["true", "false"]) :=
  ((starts_word "true").map _).or ((starts_word "false").map _)

/-- The first words of the forms of a statement. -/
theorem label_starts : label.Starts (Word ["label"]) := ((starts_word _).seq _).map _

theorem mark_starts : mark.Starts (Word ["mark"]) := ((starts_word _).seq _).map _

theorem skip_starts : skip.Starts (Word ["skip"]) := ((starts_word _).seq _).map _

theorem stop_starts : stop.Starts (Word ["stop"]) := (starts_word _).map _

theorem header_or_headers_prefixFree :
    ((token .ident (some "header")).or (token .ident (some "headers"))).PrefixFree :=
  (prefixFree_token _ _).or (prefixFree_token _ _)
    ((starts_word _).apart_of_words (starts_word _) (by decide))

theorem header_prefixFree : header.PrefixFree :=
  (header_or_headers_prefixFree.seq (StringShape.prefixFree.seq TestShape.prefixFree)).map _

theorem message_prefixFree : message.PrefixFree :=
  ((prefixFree_token _ _).seq TestShape.prefixFree).map _

theorem bool_prefixFree : bool.PrefixFree :=
  ((prefixFree_token _ _).map _).or ((prefixFree_token _ _).map _)
    (((starts_word _).map _).apart_of_words ((starts_word _).map _) (by decide))

theorem label_prefixFree : label.PrefixFree :=
  ((prefixFree_token _ _).seq StringShape.prefixFree).map _

theorem mark_prefixFree : mark.PrefixFree :=
  ((prefixFree_token _ _).seq ((prefixFree_token _ _).seq (prefixFree_token _ _))).map _

theorem skip_prefixFree : skip.PrefixFree :=
  ((prefixFree_token _ _).seq (prefixFree_token _ _)).map _

theorem stop_prefixFree : stop.PrefixFree := (prefixFree_token _ _).map _

theorem header_apart_message : header.Apart message :=
  header_starts.apart_of_words message_starts (by decide)

theorem header_or_message_apart_bool : (header.or message).Apart (bool.map .bool) :=
  (header_starts.or message_starts).apart_of_words (bool_starts.map _) (by decide)

theorem label_apart_mark : label.Apart mark := label_starts.apart_of_words mark_starts (by decide)

theorem label_or_mark_apart_skip : (label.or mark).Apart skip :=
  (label_starts.or mark_starts).apart_of_words skip_starts (by decide)

theorem label_or_mark_or_skip_apart_stop : ((label.or mark).or skip).Apart stop :=
  ((label_starts.or mark_starts).or skip_starts).apart_of_words stop_starts (by decide)

end Phrase

theorem ExprShape.starts :
    Phrase.Starts ExprShape (Phrase.Word ["header", "headers", "message", "true", "false"]) := by
  rw [exprShape_eq]
  exact (Phrase.header_starts.or Phrase.message_starts).or (Phrase.bool_starts.map _)

theorem StmtShape.starts :
    Phrase.Starts StmtShape (Phrase.Word ["label", "mark", "skip", "stop"]) := by
  rw [stmtShape_eq]
  exact ((Phrase.label_starts.or Phrase.mark_starts).or Phrase.skip_starts).or Phrase.stop_starts

/-- No expression is the beginning of another one, whatever its operator. -/
theorem ExprShape.prefixFree : Phrase.PrefixFree ExprShape := by
  rw [exprShape_eq]
  exact (Phrase.header_prefixFree.or Phrase.message_prefixFree Phrase.header_apart_message).or
    (Phrase.bool_prefixFree.map _) Phrase.header_or_message_apart_bool

/-- No statement is the beginning of another one. -/
theorem StmtShape.prefixFree : Phrase.PrefixFree StmtShape := by
  rw [stmtShape_eq]
  exact ((Phrase.label_prefixFree.or Phrase.mark_prefixFree Phrase.label_apart_mark).or
    Phrase.skip_prefixFree Phrase.label_or_mark_apart_skip).or Phrase.stop_prefixFree
    Phrase.label_or_mark_or_skip_apart_stop

end MailRules

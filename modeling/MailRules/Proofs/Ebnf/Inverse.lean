import Mathlib.Data.List.Forall2
import MailRules.Proofs.Ebnf.Recognition

/-!
# Reading and writing a grammar are inverse

A production ends with a full stop that cannot be part of its body. A production is therefore
read completely wherever it stands, and a document is cut into productions in one way only.
Together with what is known of the bodies, a grammar is read from exactly those tokens that
writing it out gives.

What a reader wants to know of the leaves follows from how forms are written. All words and
strings of a body are in its leaves, in the order of the text.
-/

namespace MailRules

open Parse (Passes Accepts)

namespace Ebnf

namespace Production

variable {document : Document} {cursor : Nat}

/-- Tokens of one production. -/
def Shape : Phrase Production := fun tokens production =>
  production.Normal ∧ Written tokens production.marks

theorem passes_parse : Passes Production.parse Shape := by
  refine passes_nextIdent.complete fun _ name hname => ?_
  refine (passes_expectOther "=").complete fun _ _ hequals => ?_
  refine (passes_accept ".").complete fun _ found hdot => ?_
  cases found with
  | true =>
      refine .of_pure ⟨?_, hname.append (hequals.append (hdot.append .nil))⟩
      rintro _ ⟨⟩
  | false =>
      refine Form.passes_parse.complete fun _ body hbody => ?_
      refine (passes_expectOther ".").complete fun _ _ hlast => .of_pure ⟨?_, ?_⟩
      · rintro _ ⟨⟩
        exact hbody.1
      · exact hname.append (hequals.append (hdot.append (hbody.2.append (hlast.append .nil))))

/-- The tokens of a production are its name, an equals sign, its body and a full stop. -/
theorem Shape.split {tokens : List Token} {production : Production}
    (h : Shape tokens production) :
    ∃ name equals body dot, tokens = name :: equals :: (body ++ [dot]) ∧
      (name.kind = .ident ∧ name.text = production.name ∧
        name.position = production.position) ∧
      Mark.ofToken equals = .other "=" ∧ Mark.ofToken dot = .other "." ∧
      Written body ((production.body.map Form.marks).getD []) := by
  obtain ⟨-, hmarks⟩ := h
  obtain ⟨name, _, rfl, hname, hmore⟩ := List.map_eq_cons_iff.mp hmarks
  obtain ⟨equals, _, rfl, hequals, hmore⟩ := List.map_eq_cons_iff.mp hmore
  obtain ⟨body, _, rfl, hbody, hlast⟩ := List.map_eq_append_iff.mp hmore
  obtain ⟨dot, rfl, hdot⟩ := List.map_eq_singleton_iff.mp hlast
  obtain ⟨hkind, hsymbol⟩ := Mark.ofToken_eq_ident_iff.mp hname
  obtain ⟨htext, hposition⟩ := Symbol.mk.inj hsymbol
  exact ⟨name, equals, body, dot, rfl, ⟨hkind, htext, hposition⟩, hequals, hdot, hbody⟩

theorem Shape.length_pos {tokens : List Token} {production : Production}
    (h : Shape tokens production) : 0 < tokens.length := by
  obtain ⟨name, equals, body, dot, rfl, -⟩ := h.split
  exact Nat.zero_lt_succ _

/-- A body begins with a term, so no full stop is taken for the end of an empty one. -/
theorem head_ne_dot {tokens rest : List Token} {form : Form} (hnormal : form.Normal)
    (h : Written tokens form.marks) :
    ∀ token ∈ (tokens ++ rest).head?, Mark.ofToken token ≠ .other "." := by
  obtain ⟨mark, marks, hmarks, hopens⟩ := hnormal.opens
  obtain ⟨token, more, rfl, rfl, -⟩ := List.map_eq_cons_iff.mp (h.trans hmarks)
  intro _ hhead hdot
  obtain rfl := Option.some.inj hhead
  rw [hdot] at hopens
  exact absurd hopens (by decide)

theorem parse_of_shape {used rest : List Token} {production : Production}
    (h : document.tokens.drop cursor = used ++ rest) (hused : Shape used production) :
    Production.parse document cursor = .ok production (cursor + used.length) := by
  obtain ⟨name, equals, tokens, dot, rfl, ⟨hkind, htext, hposition⟩, hequals, hdot, hbody⟩ :=
    hused.split
  obtain ⟨text, position, body⟩ := production
  obtain rfl : name.text = text := htext
  obtain rfl : name.position = position := hposition
  have hname : document.tokens.drop cursor = name :: equals :: (tokens ++ dot :: rest) := by
    simpa using h
  have hafter := Document.drop_succ_of_drop (Document.drop_succ_of_drop hname)
  rw [Production.parse, Parse.bind_of_ok (nextIdent_of_drop hname hkind),
    Parse.bind_of_ok (expectOther_of_drop (Document.drop_succ_of_drop hname) hequals)]
  cases body with
  | none =>
      obtain rfl : tokens = [] := List.map_eq_nil_iff.mp hbody
      rw [Parse.bind_of_ok (accept_of_drop hafter hdot)]
      rfl
  | some form =>
      have hnormal : form.Normal := hused.1 form rfl
      have hends : Form.EndsBranches (dot :: rest) :=
        Form.endsBranches_of_mark hdot (by decide) (by decide) (by decide)
      rw [Parse.bind_of_ok (accept_of_ne hafter (head_ne_dot hnormal hbody))]
      refine (Parse.bind_of_ok (Form.parse_of_written hafter hnormal hbody hends)).trans ?_
      have hclose := expectOther_of_drop (Document.drop_add_of_drop hafter) hdot
      rw [Parse.bind_of_ok hclose]
      have hlength : (name :: equals :: (tokens ++ [dot])).length = tokens.length + 3 := by simp
      have hstop : cursor + 1 + 1 + tokens.length + 1 = cursor + (tokens.length + 3) := by omega
      rw [hlength, hstop]
      rfl

/-- A production is read exactly where its tokens are, whatever follows them. -/
theorem accepts_parse : Accepts Production.parse Shape := by
  intro document cursor production stop
  constructor
  · exact fun hrun => passes_parse hrun
  · rintro ⟨used, rest, htokens, hused, rfl⟩
    exact parse_of_shape htokens hused

theorem parseAll_of_nil (h : document.tokens.drop cursor = []) (bound : Nat) :
    parseAll bound document cursor = .ok [] cursor := by
  cases bound with
  | zero => rfl
  | succ bound =>
      rw [parseAll, Parse.bind_of_ok (isAtEnd_of_nil h)]
      rfl

theorem exists_parseAll_eq_ok_iff_of_nil {productions : List Production}
    (h : document.tokens.drop cursor = []) (bound : Nat) :
    (∃ stop, parseAll bound document cursor = .ok productions stop) ↔
      (∀ production ∈ productions, production.Normal) ∧
        Written (document.tokens.drop cursor) (productions.flatMap marks) := by
  rw [parseAll_of_nil h, h]
  constructor
  · rintro ⟨_, hrun⟩
    obtain ⟨rfl, -⟩ := EStateM.Result.ok.inj hrun
    exact ⟨by simp, rfl⟩
  · rintro ⟨-, hmarks⟩
    cases productions with
    | nil => exact ⟨cursor, rfl⟩
    | cons production productions => cases hmarks

/-- The productions are read one after the other up to the end. -/
theorem exists_parseAll_eq_ok_iff {bound : Nat} {productions : List Production}
    (hbound : document.tokens.length - cursor ≤ bound) :
    (∃ stop, parseAll bound document cursor = .ok productions stop) ↔
      (∀ production ∈ productions, production.Normal) ∧
        Written (document.tokens.drop cursor) (productions.flatMap marks) := by
  induction bound generalizing cursor productions with
  | zero =>
      have hnil : document.tokens.drop cursor = [] := List.drop_eq_nil_of_le (by omega)
      exact exists_parseAll_eq_ok_iff_of_nil hnil 0
  | succ bound ih =>
      cases htokens : document.tokens.drop cursor with
      | nil => exact htokens ▸ exists_parseAll_eq_ok_iff_of_nil htokens (bound + 1)
      | cons token rest =>
          rw [← htokens, parseAll, Parse.bind_of_ok (isAtEnd_of_drop htokens)]
          constructor
          · rintro ⟨stop, hrun⟩
            obtain ⟨first, middle, hfirst, hrun⟩ := Parse.bind_eq_ok_iff.mp hrun
            obtain ⟨others, stop', hothers, hrun⟩ := Parse.bind_eq_ok_iff.mp hrun
            obtain ⟨rfl, -⟩ := EStateM.Result.ok.inj hrun
            obtain ⟨used, more, hdrop, hused, rfl⟩ :=
              (accepts_parse document cursor first middle).mp hfirst
            -- A production has at least its name, so the bound is kept for those behind it.
            have hpos := hused.length_pos
            obtain ⟨hnormal, hmarks⟩ := (ih (by omega)).mp ⟨stop', hothers⟩
            refine ⟨List.forall_mem_cons.mpr ⟨hused.1, hnormal⟩, ?_⟩
            rw [Document.drop_add_of_drop hdrop] at hmarks
            rw [hdrop]
            exact hused.2.append hmarks
          · rintro ⟨hnormal, hmarks⟩
            cases productions with
            | nil =>
                rw [htokens] at hmarks
                cases hmarks
            | cons production productions =>
                obtain ⟨hfirst, hothers⟩ := List.forall_mem_cons.mp hnormal
                obtain ⟨left, right, hdrop, hleft, hright⟩ := List.map_eq_append_iff.mp hmarks
                have hshape : Shape left production := ⟨hfirst, hleft⟩
                have hpos := hshape.length_pos
                have hafter := Document.drop_add_of_drop hdrop
                obtain ⟨stop, hrun⟩ := (ih (by omega)).mpr ⟨hothers, hafter ▸ hright⟩
                have hread := (accepts_parse document cursor production _).mpr
                  ⟨left, right, hdrop, hshape, rfl⟩
                refine ⟨stop, (Parse.bind_of_ok hread).trans ?_⟩
                rw [Parse.bind_of_ok hrun]
                rfl

end Production

/-- The tokens of a production, with its name and with the words and strings of its leaves. -/
def Production.SpelledBy (production : Production) (tokens : List Token) : Prop :=
  ∃ name equals body dot, tokens = name :: equals :: (body ++ [dot]) ∧
    (name.kind = .ident ∧ name.text = production.name ∧ name.position = production.position) ∧
    equals.Is .other "=" ∧ dot.Is .other "." ∧ (production.body = none ↔ body = []) ∧
    production.leaves.flatMap Form.words = (body.filter (·.kind ≠ .other)).map Mark.ofToken

theorem Production.Shape.spelledBy {production : Production} {tokens : List Token}
    (h : Shape tokens production) : production.SpelledBy tokens := by
  obtain ⟨name, equals, body, dot, rfl, hname, hequals, hdot, hbody⟩ := h.split
  have hfilter : (body.filter (·.kind ≠ .other)).map Mark.ofToken =
      (body.map Mark.ofToken).filter Mark.isWord := by
    rw [List.filter_map]
    congr 1
    refine List.filter_congr fun token _ => ?_
    exact (Mark.isWord_ofToken token).symm
  refine ⟨name, equals, body, dot, rfl, hname, Mark.ofToken_eq_other_iff.mp hequals,
    Mark.ofToken_eq_other_iff.mp hdot, ?_, ?_⟩
  · cases hform : production.body with
    | none =>
        rw [hform] at hbody
        simpa using List.map_eq_nil_iff.mp hbody
    | some form =>
        obtain ⟨mark, marks, hmarks, -⟩ := (h.1 form hform).opens
        rw [hform] at hbody
        obtain ⟨token, more, rfl, -⟩ := List.map_eq_cons_iff.mp (hbody.trans hmarks)
        simp
  · rw [hfilter, hbody, leaves]
    cases production.body with
    | none => rfl
    | some form => exact (Form.filter_isWord_marks form).symm

namespace Grammar

/-- What is written out is cut into the tokens of each production. -/
theorem exists_parts {productions : List Production} {tokens : List Token}
    (hnormal : ∀ production ∈ productions, production.Normal)
    (h : Written tokens (productions.flatMap Production.marks)) :
    ∃ parts, tokens = parts.flatten ∧
      List.Forall₂ Production.SpelledBy productions parts := by
  induction productions generalizing tokens with
  | nil => exact ⟨[], List.map_eq_nil_iff.mp h, .nil⟩
  | cons production productions ih =>
      obtain ⟨hfirst, hrest⟩ := List.forall_mem_cons.mp hnormal
      obtain ⟨left, right, rfl, hleft, hright⟩ := List.map_eq_append_iff.mp h
      obtain ⟨parts, rfl, hparts⟩ := ih hrest hright
      exact ⟨left :: parts, rfl, .cons (Production.Shape.spelledBy ⟨hfirst, hleft⟩) hparts⟩

theorem run_parse_eq_ok_iff {document : Document} {grammar : Grammar} :
    Grammar.parse.run document = .ok grammar ↔
      ∃ stop, Production.parseAll document.tokens.length document 0 =
        .ok grammar.productions stop := by
  have hremaining : Parse.remaining document 0 = .ok document.tokens.length 0 := rfl
  rw [Parse.run, Grammar.parse, Parse.bind_of_ok hremaining]
  cases hall : Production.parseAll document.tokens.length document 0 with
  | ok productions stop =>
      rw [Parse.bind_of_ok hall]
      constructor
      · intro h
        obtain rfl := Except.ok.inj h
        exact ⟨stop, rfl⟩
      · rintro ⟨_, h⟩
        obtain ⟨rfl, -⟩ := EStateM.Result.ok.inj h
        rfl
  | error failure stop =>
      rw [Parse.bind_of_error hall]
      constructor
      · intro h
        cases h
      · rintro ⟨_, h⟩
        cases h

/-- The grammar parser succeeds with a grammar exactly if the grammar is in normal form and its
tokens are the given ones, all of them. Each part of the tokens is then one production, with
its name and the words and strings of its leaves in their places. -/
theorem run_parse_eq_ok_iff_written (document : Document) (grammar : Grammar) :
    (Grammar.parse.run document = .ok grammar ↔
      grammar.Normal ∧ document.tokens.map Mark.ofToken = grammar.marks) ∧
    (Grammar.parse.run document = .ok grammar →
      ∃ parts, document.tokens = parts.flatten ∧
        List.Forall₂ Production.SpelledBy grammar.productions parts) := by
  have hiff : Grammar.parse.run document = .ok grammar ↔
      grammar.Normal ∧ Written document.tokens grammar.marks := by
    rw [run_parse_eq_ok_iff, Production.exists_parseAll_eq_ok_iff (by omega), List.drop_zero]
    exact Iff.rfl
  refine ⟨hiff, fun hrun => ?_⟩
  obtain ⟨hnormal, hmarks⟩ := hiff.mp hrun
  exact exists_parts hnormal hmarks

/-- Bars bind less than what stands side by side, and a range is one term. -/
theorem run_parse_eq_ok_iff_written_nested :
    let token (kind : TokenKind) (text : String) : Token := ⟨kind, ⟨"", .start⟩, .empty 0, text⟩
    let symbol (text : String) : Symbol := ⟨text, ⟨"", .start⟩⟩
    let document : Document := ⟨{ text := "" }, [token .ident "A", token .other "=",
      token .string "a", token .other "…", token .string "z", token .other "|",
      token .other "\x7b", token .ident "B", token .other "\x7d", token .ident "C",
      token .other "."]⟩
    let grammar : Grammar := ⟨[⟨"A", ⟨"", .start⟩, some (.alternative
      [.range (symbol "a") (symbol "z"),
        .sequence [.repetition (.name (symbol "B")), .name (symbol "C")]])⟩]⟩
    Grammar.parse.run document = .ok grammar ∧
      ∃ parts, document.tokens = parts.flatten ∧
        List.Forall₂ Production.SpelledBy grammar.productions parts := by
  intro token symbol document grammar
  have hsequence : (Form.sequence
      [.repetition (.name (symbol "B")), .name (symbol "C")]).Normal := by
    refine .sequence (Nat.le_refl 2) ?_ ?_
    · simp [Form.IsAlternative, Form.IsSequence]
    · simpa using ⟨.repetition (.name (symbol "B")), .name (symbol "C")⟩
  have hnormal : grammar.Normal := by
    rintro _ (_ | ⟨_, ⟨⟩⟩) _ ⟨⟩
    refine .alternative (Nat.le_refl 2) ?_ ?_
    · simp [Form.IsAlternative]
    · simpa using ⟨.range (symbol "a") (symbol "z"), hsequence⟩
  obtain ⟨hread, hparts⟩ := run_parse_eq_ok_iff_written document grammar
  have hrun := hread.mpr ⟨hnormal, rfl⟩
  exact ⟨hrun, hparts hrun⟩

end Grammar
end Ebnf
end MailRules

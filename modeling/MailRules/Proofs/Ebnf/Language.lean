import Mathlib.Computability.Language
import Mathlib.Order.FixedPoints
import Mathlib.Order.CompletePartialOrder
import MailRules.Ebnf.Grammar
import MailRules.Proofs.Parse.Phrase

/-!
# The language of a grammar

A grammar document describes sequences of tokens. What stands side by side is concatenated,
bars are unions, and braces are the star, so a body has a language as soon as the names in it
have one. The languages of the names are the least ones that satisfy every production. This is
the usual reading of such documents and knows nothing of a parser.

A terminal that begins with a letter is a word and any other one is a sign. Lexical names are
not looked up, as their productions are about characters; among them only `string` stands for
a token. A range is one of characters and describes no tokens at all.

Where names and terminals stand in the document does not matter to any of this. Grammars that
differ in nothing else have the same language, which makes it possible to compare a grammar
that was read with one that is written down.
-/

namespace MailRules

open scoped Computability

/-- The sequences of a phrase, without what they say. -/
def Phrase.language {α : Type} (phrase : Phrase α) : Language Token :=
  {tokens | ∃ value, phrase tokens value}

namespace Phrase

variable {α β : Type}

theorem language_map (f : α → β) (phrase : Phrase α) :
    (phrase.map f).language = phrase.language := by
  ext tokens
  constructor
  · rintro ⟨_, a, h, -⟩
    exact ⟨a, h⟩
  · rintro ⟨a, h⟩
    exact ⟨f a, a, h, rfl⟩

theorem language_or (first second : Phrase α) :
    (first.or second).language = first.language + second.language := by
  ext tokens
  constructor
  · rintro ⟨value, h | h⟩
    · exact .inl ⟨value, h⟩
    · exact .inr ⟨value, h⟩
  · rintro (⟨value, h⟩ | ⟨value, h⟩)
    · exact ⟨value, .inl h⟩
    · exact ⟨value, .inr h⟩

theorem language_seq (first : Phrase α) (second : Phrase β) :
    (first.seq second).language = first.language * second.language := by
  ext tokens
  rw [Language.mem_mul]
  constructor
  · rintro ⟨⟨a, b⟩, left, right, rfl, hleft, hright⟩
    exact ⟨left, ⟨a, hleft⟩, right, ⟨b, hright⟩, rfl⟩
  · rintro ⟨left, ⟨a, hleft⟩, right, ⟨b, hright⟩, rfl⟩
    exact ⟨(a, b), left, right, rfl, hleft, hright⟩

end Phrase

namespace Ebnf

/-- The kind of the one token that a terminal describes. -/
def terminalKind (text : String) : TokenKind :=
  if text.toList.head?.any Unicode.isAlphabetic then .ident else .other

def terminalLanguage (text : String) : Language Token :=
  (Phrase.token (terminalKind text) (some text)).language

/-- The tokens that a lexical name describes. -/
def lexicalLanguage (name : String) : Language Token :=
  if name = "string" then (Phrase.token .string none).language else 0

namespace Form

mutual

/-- The language of a form, given those of the names. -/
def language (names : String → Language Token) : Form → Language Token
  | alternative branches => anyLanguage names branches
  | sequence items => allLanguage names items
  | group inner => inner.language names
  | option inner => 1 + inner.language names
  | repetition inner => (inner.language names)∗
  | name symbol => names symbol.text
  | token symbol => terminalLanguage symbol.text
  | range _ _ => 0

def anyLanguage (names : String → Language Token) : List Form → Language Token
  | [] => 0
  | form :: rest => form.language names + anyLanguage names rest

def allLanguage (names : String → Language Token) : List Form → Language Token
  | [] => 1
  | form :: rest => form.language names * allLanguage names rest

end

end Form

/-- A production without a body describes the empty sequence. -/
def Production.language (names : String → Language Token) (production : Production) :
    Language Token :=
  production.body.elim 1 (Form.language names)

namespace Form

variable {names names' : String → Language Token}

mutual

/-- A form has no more sequences than its names allow. -/
theorem language_mono (h : names ≤ names') : ∀ form : Form,
    form.language names ≤ form.language names'
  | alternative branches => anyLanguage_mono h branches
  | sequence items => allLanguage_mono h items
  | group inner => language_mono h inner
  | option inner => add_le_add_right (language_mono h inner) 1
  | repetition inner => kstar_mono (language_mono h inner)
  | name symbol => h symbol.text
  | token _ => le_rfl
  | range _ _ => le_rfl

theorem anyLanguage_mono (h : names ≤ names') : ∀ forms : List Form,
    anyLanguage names forms ≤ anyLanguage names' forms
  | [] => le_rfl
  | form :: rest => add_le_add (language_mono h form) (anyLanguage_mono h rest)

theorem allLanguage_mono (h : names ≤ names') : ∀ forms : List Form,
    allLanguage names forms ≤ allLanguage names' forms
  | [] => le_rfl
  | form :: rest => mul_le_mul' (language_mono h form) (allLanguage_mono h rest)

end

end Form

theorem Production.language_mono {names names' : String → Language Token} (h : names ≤ names')
    (production : Production) : production.language names ≤ production.language names' := by
  unfold language
  cases production.body with
  | none => exact le_rfl
  | some form => exact form.language_mono h

namespace Grammar

/-- What the productions make of languages of their names. -/
def expand (grammar : Grammar) (names : String → Language Token) (name : String) :
    Language Token :=
  if Ebnf.isLexical name then lexicalLanguage name
  else (grammar.get? name).elim 0 (Production.language names)

theorem expand_mono (grammar : Grammar) : Monotone grammar.expand := by
  intro names names' h name
  unfold expand
  split
  · exact le_rfl
  · cases grammar.get? name with
    | none => exact le_rfl
    | some production => exact production.language_mono h

/-- The sequences of tokens that a name of the grammar describes, by the least languages that
satisfy its productions. -/
noncomputable def language (grammar : Grammar) : String → Language Token :=
  OrderHom.lfp ⟨grammar.expand, grammar.expand_mono⟩

variable {grammar : Grammar}

/-- The languages of a grammar satisfy its productions. -/
theorem language_eq_expand (grammar : Grammar) (name : String) :
    grammar.language name = grammar.expand grammar.language name :=
  (congrFun (OrderHom.map_lfp ⟨grammar.expand, grammar.expand_mono⟩) name).symm

theorem language_of_lexical {name : String} (h : Ebnf.isLexical name = true) :
    grammar.language name = lexicalLanguage name := by
  rw [language_eq_expand, expand, if_pos h]

/-- A name describes what its production does. -/
theorem language_of_get? {name : String} {production : Production}
    (hname : Ebnf.isLexical name = false) (h : grammar.get? name = some production) :
    grammar.language name = production.language grammar.language := by
  rw [language_eq_expand, expand, if_neg (by simp [hname]), h]
  rfl

end Grammar

namespace Form

mutual

/-- The forms differ in nothing but positions. -/
def sameText : Form → Form → Bool
  | alternative branches, alternative branches' => sameTexts branches branches'
  | sequence items, sequence items' => sameTexts items items'
  | group inner, group inner' => inner.sameText inner'
  | option inner, option inner' => inner.sameText inner'
  | repetition inner, repetition inner' => inner.sameText inner'
  | name symbol, name symbol' => symbol.text = symbol'.text
  | token symbol, token symbol' => symbol.text = symbol'.text
  | range first last, range first' last' => first.text = first'.text && last.text = last'.text
  | _, _ => false

def sameTexts : List Form → List Form → Bool
  | [], [] => true
  | form :: rest, form' :: rest' => form.sameText form' && sameTexts rest rest'
  | _, _ => false

end

mutual

/-- Positions make no difference to the language. -/
theorem language_eq_of_sameText (names : String → Language Token) : ∀ form form' : Form,
    form.sameText form' = true → form.language names = form'.language names
  | alternative branches, form', h => by
      cases form' with
      | alternative branches' => exact anyLanguage_eq_of_sameTexts names branches branches' h
      | _ => cases h
  | sequence items, form', h => by
      cases form' with
      | sequence items' => exact allLanguage_eq_of_sameTexts names items items' h
      | _ => cases h
  | group inner, form', h => by
      cases form' with
      | group inner' => exact language_eq_of_sameText names inner inner' h
      | _ => cases h
  | option inner, form', h => by
      cases form' with
      | option inner' => exact congrArg (1 + ·) (language_eq_of_sameText names inner inner' h)
      | _ => cases h
  | repetition inner, form', h => by
      cases form' with
      | repetition inner' => exact congrArg (·∗) (language_eq_of_sameText names inner inner' h)
      | _ => cases h
  | name _, form', h => by
      cases form' with
      | name symbol' => exact congrArg names (of_decide_eq_true h)
      | _ => cases h
  | token _, form', h => by
      cases form' with
      | token symbol' => exact congrArg terminalLanguage (of_decide_eq_true h)
      | _ => cases h
  | range _ _, form', h => by
      cases form' with
      | range first' last' => rfl
      | _ => cases h

theorem anyLanguage_eq_of_sameTexts (names : String → Language Token) :
    ∀ forms forms' : List Form, sameTexts forms forms' = true →
      anyLanguage names forms = anyLanguage names forms'
  | [], [], _ => rfl
  | form :: rest, form' :: rest', h => by
      obtain ⟨hform, hrest⟩ := Bool.and_eq_true_iff.mp h
      exact congrArg₂ (· + ·) (language_eq_of_sameText names form form' hform)
        (anyLanguage_eq_of_sameTexts names rest rest' hrest)

theorem allLanguage_eq_of_sameTexts (names : String → Language Token) :
    ∀ forms forms' : List Form, sameTexts forms forms' = true →
      allLanguage names forms = allLanguage names forms'
  | [], [], _ => rfl
  | form :: rest, form' :: rest', h => by
      obtain ⟨hform, hrest⟩ := Bool.and_eq_true_iff.mp h
      exact congrArg₂ (· * ·) (language_eq_of_sameText names form form' hform)
        (allLanguage_eq_of_sameTexts names rest rest' hrest)

end

end Form

/-- The productions differ in nothing but positions. -/
def Production.sameText (production production' : Production) : Bool :=
  production.name = production'.name &&
    match production.body, production'.body with
    | none, none => true
    | some form, some form' => form.sameText form'
    | _, _ => false

theorem Production.language_eq_of_sameText {production production' : Production}
    (names : String → Language Token) (h : production.sameText production' = true) :
    production.language names = production'.language names := by
  obtain ⟨name, position, body⟩ := production
  obtain ⟨name', position', body'⟩ := production'
  obtain ⟨-, hbody⟩ := Bool.and_eq_true_iff.mp h
  cases body with
  | none =>
      cases body' with
      | none => rfl
      | some form' => cases hbody
  | some form =>
      cases body' with
      | none => cases hbody
      | some form' => exact Form.language_eq_of_sameText names form form' hbody

namespace Grammar

/-- The grammars differ in nothing but positions. -/
def sameText (grammar grammar' : Grammar) : Bool :=
  grammar.productions.isEqv grammar'.productions Production.sameText

/-- The first production of a name is at the same place in both. -/
theorem elim_find?_eq_of_isEqv (names : String → Language Token) (name : String)
    {productions productions' : List Production}
    (h : productions.isEqv productions' Production.sameText = true) :
    (productions.find? (·.name = name)).elim 0 (Production.language names) =
      (productions'.find? (·.name = name)).elim 0 (Production.language names) := by
  induction productions generalizing productions' with
  | nil =>
      cases productions' with
      | nil => rfl
      | cons production' productions' => cases h
  | cons production productions ih =>
      cases productions' with
      | nil => cases h
      | cons production' productions' =>
          obtain ⟨hfirst, hrest⟩ := Bool.and_eq_true_iff.mp h
          have hname : production.name = production'.name :=
            of_decide_eq_true (Bool.and_eq_true_iff.mp hfirst).1
          by_cases hfound : production'.name = name
          · have hfound' : production.name = name := hname.trans hfound
            rw [List.find?_cons_of_pos (by simpa using hfound'),
              List.find?_cons_of_pos (by simpa using hfound)]
            exact Production.language_eq_of_sameText names hfirst
          · have hfound' : production.name ≠ name := hname ▸ hfound
            rw [List.find?_cons_of_neg (by simpa using hfound'),
              List.find?_cons_of_neg (by simpa using hfound)]
            exact ih hrest

theorem language_eq_of_sameText {grammar grammar' : Grammar}
    (h : grammar.sameText grammar' = true) : grammar.language = grammar'.language := by
  have hexpand : grammar.expand = grammar'.expand := by
    funext names name
    unfold expand
    split
    · rfl
    · exact elim_find?_eq_of_isEqv names name h
  simp only [language, hexpand]

end Grammar

end Ebnf
end MailRules

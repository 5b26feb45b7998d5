import MailRules.Proofs.Parse.Grammar
import MailRules.Proofs.Rule.Comparator
import MailRules.Proofs.Token.Segmentation
import MailRules.Rule.Canonical

/-!
# Canonical source is lexed as what it is meant to be

A text spells a value when lexing it gives tokens that say the value, whatever text
follows. Spellings are put together from left to right, just as phrases are. The layout
of canonical source is a single space between two lexemes.

Only strings need care. One without a backtick can stand between backticks. One with a
backtick has to stand between double quotes as it is, and there it must not end early:
it must be one of the texts that double quotes can hold.
-/

namespace MailRules

/-- The words of canonical source. -/
def Canonical.words : List String :=
  ["header", "headers", "message", "true", "false", "is", "contains", "matches", "label", "mark",
    "as", "read", "skip", "inbox", "stop"]

theorem Canonical.isAlphabetic_of_mem_words {word : String} (h : word ∈ words) :
    word.toList ≠ [] ∧ ∀ c ∈ word.toList, Unicode.isAlphabetic c := by
  have hall : words.all fun word =>
      !word.toList.isEmpty && word.toList.all Unicode.isAlphabetic := by decide
  simpa using List.all_eq_true.mp hall word h

variable {α β γ : Type}

/-- Before `rest`, the text is lexed as tokens that say `value`. -/
def Spells (phrase : Phrase α) (value : α) (text rest : List Char) : Prop :=
  ∀ source place, ∃ tokens, phrase tokens value ∧
    Token.ofPieces source place (Piece.ofText (text ++ rest)) =
      (Token.ofPieces source (place.after text) (Piece.ofText rest)).map (tokens ++ ·)

/-- The string can stand between quotes of one of the two kinds. -/
def Expressible (value : String) : Prop := '\x60' ∉ value.toList ∨ Quotable value.toList

/-- There is a string to be written, and every string can be. -/
def Writable (values : List String) : Prop := values ≠ [] ∧ ∀ value ∈ values, Expressible value

namespace Phrase

/-- A token with exactly that text. -/
def literal (kind : TokenKind) (text : String) : Phrase Unit :=
  (token kind (some text)).map fun _ => ()

def string : Phrase String := (token .string none).map Token.text

/-- The texts of a list or of a single string. -/
def strings : Phrase (List String) := map (List.map Token.text) StringShape

/-- A comparator with the operator and the values that make it. -/
def comparator : Phrase Comparator := resolve Test.comparator TestShape

theorem literal_iff {kind : TokenKind} {text : String} {tokens : List Token} :
    literal kind text tokens () ↔ ∃ token, tokens = [token] ∧ token.Is kind text := by
  constructor
  · rintro ⟨token, htoken, -⟩
    exact ⟨token, token_some_iff.mp htoken⟩
  · rintro ⟨token, htoken⟩
    exact ⟨token, token_some_iff.mpr htoken, rfl⟩

end Phrase

namespace Spells

variable {first : Phrase α} {second : Phrase β} {phrase : Phrase γ}

/-- A spelling for one phrase is one for any phrase with the same tokens. -/
theorem imp {phrase : Phrase α} {phrase' : Phrase β} {a : α} {b : β} {text rest : List Char}
    (h : Spells phrase a text rest) (himp : ∀ tokens, phrase tokens a → phrase' tokens b) :
    Spells phrase' b text rest := by
  intro source place
  obtain ⟨tokens, htokens, hlex⟩ := h source place
  exact ⟨tokens, himp tokens htokens, hlex⟩

/-- Two texts one after the other spell a sequence. -/
theorem seq {a : α} {b : β} {left right rest : List Char}
    (hfirst : Spells first a left (right ++ rest)) (hsecond : Spells second b right rest) :
    Spells (first.seq second) (a, b) (left ++ right) rest := by
  intro source place
  obtain ⟨tokens, ha, hleft⟩ := hfirst source place
  obtain ⟨tokens', hb, hright⟩ := hsecond source (place.after left)
  refine ⟨tokens ++ tokens', ⟨tokens, tokens', rfl, ha, hb⟩, ?_⟩
  rw [List.append_assoc, hleft, hright, Location.after_append]
  cases Token.ofPieces source ((place.after left).after right) (Piece.ofText rest) with
  | ok more => exact congrArg Except.ok (List.append_assoc tokens tokens' more).symm
  | error failure => rfl

/-- A space before a text does not change what the text spells. -/
theorem blank {phrase : Phrase α} {value : α} {text rest : List Char}
    (h : Spells phrase value text rest) : Spells phrase value (' ' :: text) rest := by
  intro source place
  obtain ⟨tokens, htokens, hlex⟩ := h source (place.after [' '])
  refine ⟨tokens, htokens, ?_⟩
  have hblank : LayoutItem [' '] (text ++ rest) := .blank (.inl rfl)
  exact (Token.ofPieces_layoutItem hblank source place).trans hlex

/-- A lexeme spells a token of its kind, with its text. -/
theorem lexeme {kind : TokenKind} {written text rest : List Char}
    (h : Lexeme kind written text rest) :
    Spells ((Phrase.token kind (some (String.ofList text))).map Token.text) (String.ofList text)
      written rest := by
  intro source place
  let token : Token := ⟨kind, source.position place, ⟨place.offset, (place.after written).offset⟩,
    String.ofList text⟩
  have htoken : Phrase.token kind (some (String.ofList text)) [token] token :=
    Phrase.token_some_iff.mpr ⟨rfl, rfl, rfl⟩
  exact ⟨[token], ⟨token, htoken, rfl⟩, Token.ofPieces_lexeme h source place⟩

theorem literal {kind : TokenKind} {text rest : List Char} (h : Lexeme kind text text rest) :
    Spells (Phrase.literal kind (String.ofList text)) () text rest := by
  refine (lexeme h).imp ?_
  rintro _ ⟨token, htoken, -⟩
  exact ⟨token, htoken, rfl⟩

end Spells

/-- An expressible string is a string literal between the quotes that are chosen for it. -/
theorem Expressible.lexeme {value : String} (h : Expressible value) (rest : List Char) :
    Lexeme .string (Canonical.string value).toList value.toList rest := by
  unfold Canonical.string
  rw [String.contains_char_eq]
  by_cases hraw : '\x60' ∈ value.toList
  · rcases h with h | h
    · exact absurd hraw h
    · rw [if_pos (by simpa using hraw)]
      show Lexeme .string ("\"" ++ value ++ "\"").toList value.toList rest
      simpa using Lexeme.quoted h
  · rw [if_neg (by simpa using hraw)]
    show Lexeme .string ("`" ++ value ++ "`").toList value.toList rest
    simpa using Lexeme.raw hraw

namespace Spells

/-- The quotes chosen for a string are right for it. -/
theorem string {value : String} (h : Expressible value) (rest : List Char) :
    Spells Phrase.string value (Canonical.string value).toList rest := by
  have hlexeme := lexeme (h.lexeme rest)
  rw [String.ofList_toList] at hlexeme
  refine hlexeme.imp ?_
  rintro _ ⟨token, htoken, rfl⟩
  exact ⟨token, Phrase.token_none_iff.mpr (Phrase.token_some_iff.mp htoken |>.imp id And.left), rfl⟩

theorem punctuation {c : Char} (hc : c = '[' ∨ c = ']' ∨ c = ',') (rest : List Char) :
    Spells (Phrase.literal .other (String.ofList [c])) () [c] rest := by
  refine literal (.other ?_ ?_ ?_ ?_ (fun hdot => ?_) fun hslash => ?_)
  all_goals rcases hc with rfl | rfl | rfl <;> first | decide | contradiction

/-- The strings of a list with their commas, and the end of the list. -/
theorem items {values : List String} (h : Writable values) (rest : List Char) :
    Spells (Phrase.map (List.map Token.text) ItemShape) values
      ((String.intercalate ", " (values.map Canonical.string)).toList ++ [']']) rest := by
  obtain ⟨hne, hvalues⟩ := h
  induction values with
  | nil => exact absurd rfl hne
  | cons value values ih =>
      have hvalue := hvalues value List.mem_cons_self
      cases values with
      | nil =>
          have hspell := (string hvalue ([']'] ++ rest)).seq (punctuation (.inr (.inl rfl)) rest)
          rw [List.map_singleton, String.intercalate_singleton]
          refine hspell.imp ?_
          rintro _ ⟨_, _, rfl, ⟨item, hitem, rfl⟩, hclose⟩
          obtain ⟨rfl, hitem'⟩ := Phrase.token_none_iff.mp hitem
          obtain ⟨close, rfl, hclose'⟩ := Phrase.literal_iff.mp hclose
          exact ⟨[item], .last hitem' hclose', rfl⟩
      | cons next values =>
          have hmore := ih (by simp) fun other hother =>
            hvalues other (List.mem_cons_of_mem _ hother)
          have hspell := (string hvalue _).seq ((punctuation (.inr (.inr rfl)) _).seq hmore.blank)
          have htext : (String.intercalate ", "
                ((value :: next :: values).map Canonical.string)).toList ++ [']'] =
              (Canonical.string value).toList ++ ([','] ++ ' ' :: ((String.intercalate ", "
                ((next :: values).map Canonical.string)).toList ++ [']'])) := by
            rw [List.map_cons, List.map_cons, String.intercalate_cons_cons]
            simp
          rw [htext]
          refine hspell.imp ?_
          rintro _ ⟨_, _, rfl, ⟨item, hitem, rfl⟩, _, tokens, rfl, hcomma, more, hitems, htexts⟩
          obtain ⟨rfl, hitem'⟩ := Phrase.token_none_iff.mp hitem
          obtain ⟨comma, rfl, hcomma'⟩ := Phrase.literal_iff.mp hcomma
          exact ⟨item :: more, .cons hitem' hcomma' hitems, congrArg (item.text :: ·) htexts⟩

/-- One string is spelled alone, several are spelled in brackets. -/
theorem strings {values : List String} (h : Writable values) (rest : List Char) :
    Spells Phrase.strings values (Canonical.strings values).toList rest := by
  have hlist : ∀ values', Writable values' → Spells Phrase.strings values'
      ("[" ++ String.intercalate ", " (values'.map Canonical.string) ++ "]").toList rest := by
    intro values' h'
    have hspell := (punctuation (.inl rfl) _).seq (items h' rest)
    have htext : ("[" ++ String.intercalate ", " (values'.map Canonical.string) ++ "]").toList =
        ['['] ++ ((String.intercalate ", " (values'.map Canonical.string)).toList ++ [']']) := by
      simp
    rw [htext]
    refine hspell.imp ?_
    rintro _ ⟨_, tokens, rfl, hopening, more, hitems, rfl⟩
    obtain ⟨opening, rfl, hopening'⟩ := Phrase.literal_iff.mp hopening
    exact ⟨more, .list hopening' hitems, rfl⟩
  cases values with
  | nil => exact absurd rfl h.1
  | cons value values =>
      cases values with
      | cons next values => exact hlist _ h
      | nil =>
          refine (string (h.2 value List.mem_cons_self) rest).imp ?_
          rintro _ ⟨item, hitem, rfl⟩
          obtain ⟨rfl, hitem'⟩ := Phrase.token_none_iff.mp hitem
          exact ⟨[item], .one hitem', rfl⟩

/-- A word of canonical source before a space or at the end of the text. -/
theorem word (text : String) (htext : text ∈ Canonical.words) {rest : List Char}
    (hrest : rest = [] ∨ rest.head? = some ' ') :
    Spells (Phrase.literal .ident text) () text.toList rest := by
  obtain ⟨hne, hletters⟩ := Canonical.isAlphabetic_of_mem_words htext
  have hlexeme : Lexeme .ident text.toList text.toList rest := by
    cases hchars : text.toList with
    | nil => exact absurd hchars hne
    | cons c body =>
        rw [hchars] at hletters
        refine .ident (.inl (hletters c List.mem_cons_self)) ?_ ?_
        · intro x hx
          have hx := hletters x (List.mem_cons_of_mem c hx)
          exact .inl (by simp [Unicode.isAlphanumeric, hx])
        · rcases hrest with rfl | hrest
          · simp
          · rw [hrest]
            rintro x hx
            obtain rfl := Option.some.inj hx
            decide
  have hspell := literal hlexeme
  rwa [String.ofList_toList] at hspell

/-- The keyword of a comparator spells an operator that makes the comparator again. -/
theorem comparator {test : Comparator} (h : Writable test.values) (rest : List Char) :
    Spells Phrase.comparator test test.render.toList rest := by
  have hop : test.operator.keyword ∈ Canonical.words := by
    cases test.operator <;> decide
  have hspell := (word _ hop (.inr rfl)).seq (strings h rest).blank
  have htext : test.render.toList = test.operator.keyword.toList ++
      ' ' :: (Canonical.strings test.values).toList := by
    show (test.operator.keyword ++ " " ++ Canonical.strings test.values).toList = _
    simp
  rw [htext]
  refine hspell.imp ?_
  rintro _ ⟨_, tokens, rfl, hkeyword, values, hvalues, htexts⟩
  obtain ⟨op, rfl, hkind, hop'⟩ := Phrase.literal_iff.mp hkeyword
  refine ⟨⟨op, values⟩, .test hkind hvalues, ?_⟩
  have htexts' : values.map Token.text = test.values := htexts
  rw [Test.comparator, hop', htexts', Comparator.ofKeyword_keyword]

end Spells

/-- All strings of the expression can be written. -/
def Expr.Writable : Expr → Prop
  | header names test => MailRules.Writable names ∧ MailRules.Writable test.values
  | message test => MailRules.Writable test.values
  | bool _ => True

/-- All strings of the statement can be written. -/
def Stmt.Writable : Stmt → Prop
  | label labels => MailRules.Writable labels
  | mark | skip | stop => True

namespace Spells

/-- Canonical source of an expression spells it. -/
theorem expr {expr : Expr} (h : expr.Writable) : Spells ExprTokens expr expr.render.toList [] := by
  cases expr with
  | header names test =>
      obtain ⟨hnames, htest⟩ := h
      obtain ⟨keyword, hkeyword, hwords, htext⟩ : ∃ keyword,
          (keyword = "header" ∨ keyword = "headers") ∧ keyword ∈ Canonical.words ∧
          (Expr.header names test).render.toList = keyword.toList ++
            ' ' :: ((Canonical.strings names).toList ++ ' ' :: test.render.toList) := by
        by_cases hone : names.length = 1
        · refine ⟨"header", .inl rfl, by decide, ?_⟩
          simp [Expr.render, hone, toString]
        · refine ⟨"headers", .inr rfl, by decide, ?_⟩
          simp [Expr.render, hone, toString]
      have hspell := (word keyword hwords (.inr rfl)).seq
        ((strings hnames _).seq (comparator htest []).blank).blank
      rw [htext]
      refine hspell.imp ?_
      rintro _ ⟨_, _, rfl, hword, left, right, rfl, ⟨items, hitems, htexts⟩, test', hshape, hmakes⟩
      obtain ⟨token, rfl, htoken⟩ := Phrase.literal_iff.mp hword
      refine ⟨.header items test', ?_, ?_⟩
      · show ExprShape (token :: (left ++ right)) (.header items test')
        refine .header ?_ hitems hshape
        rcases hkeyword with rfl | rfl
        · exact .inl htoken
        · exact .inr htoken
      · have htexts' : items.map Token.text = names := htexts
        have hmakes' : test'.comparator = .ok test := hmakes
        rw [Draft.node, hmakes', htexts']
        rfl
  | message test =>
      have hspell := (word "message" (by decide) (.inr rfl)).seq (comparator h []).blank
      have htext : (Expr.message test).render.toList =
          "message".toList ++ ' ' :: test.render.toList := by
        simp [Expr.render, toString]
      rw [htext]
      refine hspell.imp ?_
      rintro _ ⟨_, tokens, rfl, hword, test', hshape, hmakes⟩
      obtain ⟨token, rfl, htoken⟩ := Phrase.literal_iff.mp hword
      refine ⟨.message test', .message htoken hshape, ?_⟩
      have hmakes' : test'.comparator = .ok test := hmakes
      rw [Draft.node, hmakes']
      rfl
  | bool value =>
      cases value with
      | true =>
          refine (word "true" (by decide) (.inl rfl)).imp ?_
          intro tokens hword
          obtain ⟨token, rfl, htoken⟩ := Phrase.literal_iff.mp hword
          exact ⟨.bool true, .true htoken, rfl⟩
      | false =>
          refine (word "false" (by decide) (.inl rfl)).imp ?_
          intro tokens hword
          obtain ⟨token, rfl, htoken⟩ := Phrase.literal_iff.mp hword
          exact ⟨.bool false, .false htoken, rfl⟩

/-- Canonical source of a statement spells it. -/
theorem stmt {stmt : Stmt} (h : stmt.Writable) : Spells StmtShape stmt stmt.render.toList [] := by
  cases stmt with
  | label labels =>
      have hspell := (word "label" (by decide) (.inr rfl)).seq (strings h []).blank
      have htext : (Stmt.label labels).render.toList =
          "label".toList ++ ' ' :: (Canonical.strings labels).toList := by
        simp [Stmt.render, toString]
      rw [htext]
      refine hspell.imp ?_
      rintro _ ⟨_, tokens, rfl, hword, items, hitems, htexts⟩
      obtain ⟨token, rfl, htoken⟩ := Phrase.literal_iff.mp hword
      have htexts' : items.map Token.text = labels := htexts
      rw [← htexts']
      exact .label htoken hitems
  | mark =>
      have hread := word "read" (by decide) (.inl rfl)
      have hspell := (word "mark" (by decide) (.inr rfl)).seq
        ((word "as" (by decide) (.inr rfl)).seq hread.blank).blank
      refine hspell.imp ?_
      rintro _ ⟨_, _, rfl, hmark, _, _, rfl, has, hread⟩
      obtain ⟨first, rfl, hfirst⟩ := Phrase.literal_iff.mp hmark
      obtain ⟨second, rfl, hsecond⟩ := Phrase.literal_iff.mp has
      obtain ⟨third, rfl, hthird⟩ := Phrase.literal_iff.mp hread
      exact .mark hfirst hsecond hthird
  | skip =>
      have hinbox := word "inbox" (by decide) (.inl rfl)
      have hspell := (word "skip" (by decide) (.inr rfl)).seq hinbox.blank
      refine hspell.imp ?_
      rintro _ ⟨_, _, rfl, hskip, hinbox⟩
      obtain ⟨first, rfl, hfirst⟩ := Phrase.literal_iff.mp hskip
      obtain ⟨second, rfl, hsecond⟩ := Phrase.literal_iff.mp hinbox
      exact .skip hfirst hsecond
  | stop =>
      refine (word "stop" (by decide) (.inl rfl)).imp ?_
      intro tokens hword
      obtain ⟨token, rfl, htoken⟩ := Phrase.literal_iff.mp hword
      exact .stop htoken

end Spells

end MailRules

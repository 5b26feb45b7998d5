import MailRules.Token

/-!
# Phrases

A phrase is a set of token sequences together with what each of them says. The phrases
of the rule language are prefix free: no sequence of a phrase is the beginning of
another one. Reading from left to right is then never ambiguous, neither about where a
phrase ends nor about where reading it gets stuck.

The point at which reading is stuck is a property of the phrase alone. It is the longest
beginning of the phrase among the tokens at hand, so it does not depend on the order in
which a parser tries its alternatives.
-/

namespace MailRules

/-- Token sequences, each with what it says. -/
abbrev Phrase (α : Type) := List Token → α → Prop

namespace Phrase

variable {α β γ ε : Type} {first second : Phrase α}

/-- A single token of the given kind and, if one is given, with exactly that text. -/
def token (kind : TokenKind) (text : Option String) : Phrase Token :=
  fun tokens token => tokens = [token] ∧ token.kind = kind ∧ text.all (· = token.text)

/-- A sequence of the first phrase and then one of the second. -/
def seq (first : Phrase α) (second : Phrase β) : Phrase (α × β) :=
  fun tokens value =>
    ∃ left right, tokens = left ++ right ∧ first left value.1 ∧ second right value.2

/-- A sequence of either phrase. -/
def or (first second : Phrase α) : Phrase α :=
  fun tokens value => first tokens value ∨ second tokens value

/-- The same sequences, which say something else. -/
def map (f : α → β) (phrase : Phrase α) : Phrase β :=
  fun tokens value => ∃ a, phrase tokens a ∧ f a = value

/-- The sequences whose words make sense to `f`, which say what `f` makes of them. -/
def resolve (f : α → Except ε β) (phrase : Phrase α) : Phrase β :=
  fun tokens value => ∃ a, phrase tokens a ∧ f a = .ok value

/-- Some sequence of the phrase begins with `tokens`. -/
def Begins (phrase : Phrase α) (tokens : List Token) : Prop :=
  ∃ rest value, phrase (tokens ++ rest) value

/-- No sequence is the beginning of another one, and each says only one thing. -/
def PrefixFree (phrase : Phrase α) : Prop :=
  ∀ ⦃used used' rest rest' : List Token⦄ ⦃a b : α⦄, phrase used a → phrase used' b →
    used ++ rest = used' ++ rest' → used = used' ∧ a = b

/-- No token begins both phrases, and neither holds of no tokens at all. -/
structure Apart (first second : Phrase α) : Prop where
  left_ne_nil : ∀ value, ¬ first [] value
  right_ne_nil : ∀ value, ¬ second [] value
  disjoint : ∀ token, first.Begins [token] → ¬ second.Begins [token]

/-- Every sequence has a first token, and it satisfies `p`. -/
def Starts (phrase : Phrase α) (p : Token → Prop) : Prop :=
  ∀ ⦃tokens value⦄, phrase tokens value → ∃ first rest, tokens = first :: rest ∧ p first

/-- The token is one of the words. -/
def Word (words : List String) (token : Token) : Prop :=
  token.kind = .ident ∧ token.text ∈ words

/-- Of the tokens `read ++ rest` exactly `read` can be read as part of the phrase, and
more is needed to complete it. -/
structure Stuck (phrase : Phrase α) (read rest : List Token) : Prop where
  begins : phrase.Begins read
  incomplete : ∀ value, ¬ phrase read value
  stops : ∀ token ∈ rest.head?, ¬ phrase.Begins (read ++ [token])

theorem Begins.of_append {phrase : Phrase α} {tokens : List Token} (more : List Token)
    (h : phrase.Begins (tokens ++ more)) : phrase.Begins tokens := by
  obtain ⟨rest, value, h⟩ := h
  exact ⟨more ++ rest, value, by simpa using h⟩

theorem begins_of_eq_append {phrase : Phrase α} {used tokens : List Token} (rest : List Token)
    {value : α} (h : phrase used value) (heq : used = tokens ++ rest) : phrase.Begins tokens :=
  ⟨rest, value, heq ▸ h⟩

theorem Begins.map {phrase : Phrase α} {f : α → β} {tokens : List Token} :
    (phrase.map f).Begins tokens ↔ phrase.Begins tokens := by
  constructor
  · rintro ⟨rest, _, a, h, -⟩
    exact ⟨rest, a, h⟩
  · rintro ⟨rest, a, h⟩
    exact ⟨rest, f a, a, h, rfl⟩

/-- The beginnings of either phrase. -/
theorem begins_or {tokens : List Token} :
    (first.or second).Begins tokens ↔ first.Begins tokens ∨ second.Begins tokens := by
  constructor
  · rintro ⟨rest, value, h | h⟩
    · exact .inl ⟨rest, value, h⟩
    · exact .inr ⟨rest, value, h⟩
  · rintro (⟨rest, value, h⟩ | ⟨rest, value, h⟩)
    · exact ⟨rest, value, .inl h⟩
    · exact ⟨rest, value, .inr h⟩

theorem begins_nil_token (kind : TokenKind) (text : Option String) :
    (token kind text).Begins [] := by
  let said : Token := ⟨kind, ⟨"", .start⟩, .empty 0, text.getD ""⟩
  refine ⟨[said], said, rfl, rfl, ?_⟩
  cases text <;> simp [said]

theorem begins_nil_seq {first : Phrase α} {second : Phrase β} (hfirst : first.Begins [])
    (hsecond : second.Begins []) : (first.seq second).Begins [] := by
  obtain ⟨left, a, hleft⟩ := hfirst
  obtain ⟨right, b, hright⟩ := hsecond
  exact ⟨left ++ right, (a, b), left, right, rfl, hleft, hright⟩

/-- Two beginnings of one token list are comparable. -/
theorem append_cases {left right rest rest' : List Token} (h : left ++ rest = right ++ rest') :
    (∃ more, right = left ++ more ∧ rest = more ++ rest') ∨
      ∃ token more, left = right ++ token :: more ∧ rest' = token :: more ++ rest := by
  rcases List.append_eq_append_iff.mp h with ⟨more, hright, hrest⟩ | ⟨more, hleft, hrest⟩
  · exact .inl ⟨more, hright, hrest⟩
  · cases more with
    | nil => exact .inl ⟨[], by simpa using hleft.symm, by simpa using hrest.symm⟩
    | cons token more => exact .inr ⟨token, more, hleft, hrest⟩

theorem prefixFree_token (kind : TokenKind) (text : Option String) :
    (token kind text).PrefixFree := by
  rintro _ _ rest rest' a b ⟨rfl, -⟩ ⟨rfl, -⟩ heq
  obtain rfl : a = b := (List.cons.inj heq).1
  exact ⟨rfl, rfl⟩

/-- The seam between two prefix free phrases is determined by the first one. -/
theorem PrefixFree.seq {first : Phrase α} {second : Phrase β} (hfirst : first.PrefixFree)
    (hsecond : second.PrefixFree) : (first.seq second).PrefixFree := by
  rintro _ _ rest rest' ⟨a, b⟩ ⟨a', b'⟩ ⟨left, right, rfl, hl, hr⟩ ⟨left', right', rfl, hl', hr'⟩
    heq
  rw [List.append_assoc, List.append_assoc] at heq
  obtain ⟨rfl, rfl⟩ : left = left' ∧ a = a' := hfirst hl hl' heq
  obtain ⟨rfl, rfl⟩ : right = right' ∧ b = b' := hsecond hr hr' (List.append_cancel_left heq)
  exact ⟨rfl, rfl⟩

theorem PrefixFree.map {phrase : Phrase α} (h : phrase.PrefixFree) (f : α → β) :
    (phrase.map f).PrefixFree := by
  rintro used used' rest rest' _ _ ⟨a, ha, rfl⟩ ⟨b, hb, rfl⟩ heq
  obtain ⟨rfl, rfl⟩ := h ha hb heq
  exact ⟨rfl, rfl⟩

theorem Begins.of_resolve {phrase : Phrase α} {f : α → Except ε β} {tokens : List Token}
    (h : (phrase.resolve f).Begins tokens) : phrase.Begins tokens := by
  obtain ⟨rest, _, a, h, -⟩ := h
  exact ⟨rest, a, h⟩

/-- Refusing sequences distributes over alternatives. -/
theorem resolve_or (f : α → Except ε β) :
    (first.or second).resolve f = (first.resolve f).or (second.resolve f) := by
  funext tokens value
  apply propext
  constructor
  · rintro ⟨a, ha | ha, hf⟩
    · exact .inl ⟨a, ha, hf⟩
    · exact .inr ⟨a, ha, hf⟩
  · rintro (⟨a, ha, hf⟩ | ⟨a, ha, hf⟩)
    · exact ⟨a, .inl ha, hf⟩
    · exact ⟨a, .inr ha, hf⟩

theorem resolve_ok (phrase : Phrase α) :
    phrase.resolve (Except.ok : α → Except ε α) = phrase := by
  funext tokens value
  apply propext
  constructor
  · rintro ⟨a, ha, hvalue⟩
    exact Except.ok.inj hvalue ▸ ha
  · exact fun h => ⟨value, h, rfl⟩

theorem Apart.resolve (h : Apart first second) (f : α → Except ε β) :
    Apart (first.resolve f) (second.resolve f) where
  left_ne_nil := fun _ ⟨a, ha, _⟩ => h.left_ne_nil a ha
  right_ne_nil := fun _ ⟨a, ha, _⟩ => h.right_ne_nil a ha
  disjoint := fun token hf hs => h.disjoint token hf.of_resolve hs.of_resolve

theorem Starts.ne_nil {phrase : Phrase α} {p : Token → Prop} (h : phrase.Starts p) (value : α) :
    ¬ phrase [] value := by
  intro hnil
  obtain ⟨first, rest, heq, -⟩ := h hnil
  cases heq

theorem Starts.of_begins {phrase : Phrase α} {p : Token → Prop} {first : Token}
    (h : phrase.Starts p) (hbegins : phrase.Begins [first]) : p first := by
  obtain ⟨rest, value, hphrase⟩ := hbegins
  obtain ⟨first', rest', heq, hp⟩ := h hphrase
  obtain rfl : first = first' := (List.cons.inj heq).1
  exact hp

theorem starts_token (kind : TokenKind) (text : Option String) :
    (token kind text).Starts fun first => first.kind = kind ∧ text.all (· = first.text) := by
  rintro _ said ⟨rfl, hsaid⟩
  exact ⟨said, [], rfl, hsaid⟩

theorem Starts.seq {first : Phrase α} {p : Token → Prop} (h : first.Starts p) (second : Phrase β) :
    (first.seq second).Starts p := by
  rintro _ said ⟨left, right, rfl, hleft, -⟩
  obtain ⟨token, rest, rfl, hp⟩ := h hleft
  exact ⟨token, rest ++ right, rfl, hp⟩

theorem Starts.map {phrase : Phrase α} {p : Token → Prop} (h : phrase.Starts p) (f : α → β) :
    (phrase.map f).Starts p := by
  rintro tokens _ ⟨a, ha, rfl⟩
  exact h ha

theorem starts_word (text : String) : (token .ident (some text)).Starts (Word [text]) := by
  rintro _ said ⟨rfl, hkind, htext⟩
  exact ⟨said, [], rfl, hkind, by simpa [eq_comm] using htext⟩

theorem Starts.or {words words' : List String} (hfirst : first.Starts (Word words))
    (hsecond : second.Starts (Word words')) :
    (first.or second).Starts (Word (words ++ words')) := by
  rintro tokens value (h | h)
  · obtain ⟨token, rest, heq, hkind, hword⟩ := hfirst h
    exact ⟨token, rest, heq, hkind, List.mem_append_left _ hword⟩
  · obtain ⟨token, rest, heq, hkind, hword⟩ := hsecond h
    exact ⟨token, rest, heq, hkind, List.mem_append_right _ hword⟩

theorem Starts.apart {p q : Token → Prop} (hfirst : first.Starts p) (hsecond : second.Starts q)
    (h : ∀ token, p token → ¬ q token) : first.Apart second where
  left_ne_nil := hfirst.ne_nil
  right_ne_nil := hsecond.ne_nil
  disjoint := fun token hf hs => h token (hfirst.of_begins hf) (hsecond.of_begins hs)

/-- Phrases that start with different words are apart. -/
theorem Starts.apart_of_words {words words' : List String} (hfirst : first.Starts (Word words))
    (hsecond : second.Starts (Word words')) (h : ∀ word ∈ words, word ∉ words') :
    first.Apart second :=
  hfirst.apart hsecond fun token hp hq => h token.text hp.2 hq.2

theorem Apart.symm (h : Apart first second) : Apart second first :=
  ⟨h.right_ne_nil, h.left_ne_nil, fun token hs hf => h.disjoint token hf hs⟩

/-- Phrases that are apart do not hold of beginnings of one token list. -/
theorem Apart.not_both (h : Apart first second) {used used' rest rest' : List Token} {a b : α}
    (ha : first used a) (hb : second used' b) : used ++ rest ≠ used' ++ rest' := by
  intro heq
  cases used with
  | nil => exact h.left_ne_nil a ha
  | cons token used =>
      cases used' with
      | nil => exact h.right_ne_nil b hb
      | cons token' used' =>
          obtain rfl : token = token' := (List.cons.inj heq).1
          have hleft : first.Begins [token] := begins_of_eq_append used ha rfl
          exact h.disjoint token hleft (begins_of_eq_append used' hb rfl)

/-- Alternatives that are apart are prefix free together. -/
theorem PrefixFree.or (hfirst : first.PrefixFree) (hsecond : second.PrefixFree)
    (h : Apart first second) : (first.or second).PrefixFree := by
  rintro used used' rest rest' a b (ha | ha) (hb | hb) heq
  · exact hfirst ha hb heq
  · exact absurd heq (h.not_both ha hb)
  · exact absurd heq (h.symm.not_both ha hb)
  · exact hsecond ha hb heq

namespace Stuck

/-- A token that does not start the phrase leaves reading stuck before it. -/
theorem of_starts {phrase : Phrase α} {p : Token → Prop} {rest : List Token}
    (hstarts : phrase.Starts p) (hbegins : phrase.Begins [])
    (h : ∀ token ∈ rest.head?, ¬ p token) : phrase.Stuck [] rest where
  begins := hbegins
  incomplete := hstarts.ne_nil
  stops := fun token ht hread => h token ht (hstarts.of_begins hread)

/-- Where reading is stuck, no beginning of the tokens at hand is complete. -/
theorem not_complete {phrase : Phrase α} {read rest used rest' : List Token}
    (h : phrase.Stuck read rest) (hfree : phrase.PrefixFree) (heq : used ++ rest' = read ++ rest)
    (value : α) : ¬ phrase used value := by
  intro hused
  rcases append_cases heq with ⟨more, rfl, -⟩ | ⟨token, more, rfl, rfl⟩
  · obtain ⟨rest'', value', hread⟩ := h.begins
    have hsplit : used ++ (more ++ rest'') = (used ++ more ++ rest'') ++ [] := by simp
    obtain ⟨hnil, rfl⟩ := hfree hused hread hsplit
    obtain ⟨rfl, -⟩ : more = [] ∧ rest'' = [] := by simpa using hnil
    exact h.incomplete value (by simpa using hused)
  · exact h.stops token rfl (begins_of_eq_append more hused (by simp))

theorem map {phrase : Phrase α} {read rest : List Token} (h : phrase.Stuck read rest)
    (f : α → β) : (phrase.map f).Stuck read rest := by
  refine ⟨Begins.map.mpr h.begins, ?_, fun token ht => mt Begins.map.mp (h.stops token ht)⟩
  rintro _ ⟨value, hread, -⟩
  exact h.incomplete value hread

/-- Before the first phrase is complete, reading both is stuck where reading the first is. -/
theorem seq_left {first : Phrase α} {second : Phrase β} {read rest : List Token}
    (h : first.Stuck read rest) (hfree : first.PrefixFree)
    (hsecond : second.Begins []) : (first.seq second).Stuck read rest := by
  obtain ⟨tokens, b, htokens⟩ := hsecond
  refine ⟨?_, ?_, ?_⟩
  · obtain ⟨more, a, hread⟩ := h.begins
    exact ⟨more ++ tokens, (a, b), read ++ more, tokens, by simp, hread, htokens⟩
  · rintro ⟨a, b⟩ ⟨left, right, rfl, hleft, -⟩
    exact h.not_complete hfree (List.append_assoc ..).symm a hleft
  · rintro token ht ⟨more, ⟨a, b⟩, left, right, heq, hleft, -⟩
    rcases append_cases heq with ⟨more', rfl, -⟩ | ⟨token', more', hread, -⟩
    · exact h.stops token ht ⟨more', a, hleft⟩
    · obtain ⟨rest', rfl⟩ : ∃ rest', rest = token :: rest' := by
        cases rest with
        | nil => cases ht
        | cons t rest' => exact ⟨rest', by rw [Option.some.inj ht]⟩
      have hall : left ++ (token' :: more' ++ rest') = read ++ token :: rest' := by
        have := congrArg (· ++ rest') hread
        simpa using this.symm
      exact h.not_complete hfree hall a hleft

/-- Behind the first phrase, reading both is stuck where reading the second is. -/
theorem seq_right {first : Phrase α} {second : Phrase β} {left read rest : List Token} {a : α}
    (hleft : first left a) (hfree : first.PrefixFree) (h : second.Stuck read rest) :
    (first.seq second).Stuck (left ++ read) rest := by
  refine ⟨?_, ?_, ?_⟩
  · obtain ⟨more, b, hread⟩ := h.begins
    exact ⟨more, (a, b), left, read ++ more, by simp, hleft, hread⟩
  · rintro ⟨a', b⟩ ⟨left', right, heq, hleft', hright⟩
    obtain ⟨rfl, rfl⟩ := hfree hleft hleft' heq
    obtain rfl := List.append_cancel_left heq
    exact h.incomplete b hright
  · rintro token ht ⟨more, ⟨a', b⟩, left', right, heq, hleft', hright⟩
    rw [List.append_assoc, List.append_assoc] at heq
    obtain ⟨rfl, rfl⟩ := hfree hleft hleft' heq
    obtain rfl := List.append_cancel_left heq
    exact h.stops token ht ⟨more, b, by simpa using hright⟩

/-- Beside a phrase that cannot even begin, reading is stuck at the same place. -/
theorem or_left {first second : Phrase α} {read rest : List Token}
    (hfirst : first.Stuck read rest) (hsecond : second.Stuck [] (read ++ rest)) :
    (first.or second).Stuck read rest := by
  refine ⟨begins_or.mpr (.inl hfirst.begins), ?_, ?_⟩
  · rintro value (h | h)
    · exact hfirst.incomplete value h
    · cases read with
      | nil => exact hsecond.incomplete value h
      | cons token read => exact hsecond.stops token rfl (begins_of_eq_append read h rfl)
  · intro token ht
    rw [begins_or, not_or]
    refine ⟨hfirst.stops token ht, fun h => ?_⟩
    cases read with
    | nil => exact hsecond.stops token ht h
    | cons token' read => exact hsecond.stops token' rfl (Begins.of_append (read ++ [token]) h)

theorem or_comm {first second : Phrase α} {read rest : List Token}
    (h : (first.or second).Stuck read rest) : (second.or first).Stuck read rest := by
  refine ⟨begins_or.mpr (begins_or.mp h.begins).symm, fun value hread => ?_, fun token ht => ?_⟩
  · exact h.incomplete value hread.symm
  · exact fun hbegins => h.stops token ht (begins_or.mpr (begins_or.mp hbegins).symm)

end Stuck

end Phrase
end MailRules

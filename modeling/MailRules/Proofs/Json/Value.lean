import MailRules.Proofs.Json.Spacing

/-!
# Values as they are read

A JSON value is given by its tokens. What a reader of messages can tell apart is kept: a string
with its characters, unless halves of characters stand alone in it, and all elements and members
in their order, a name possibly twice. Numbers and the words that are values are all the same.

A value of any depth is passed over as a whole, whatever brackets are open around it.
-/

namespace MailRules.Json

open Json.Token (ofText?)

inductive Value where
  | scalar
  | string (value : Option String)
  | array (elements : List Value)
  | object (members : List (Option String × Value))

namespace Value

mutual

def tokens : Value → List Token
  | scalar => [.scalar]
  | string value => [.string value]
  | array [] => [.openArray, .closeArray]
  | array (element :: rest) => .openArray :: (element.tokens ++ elementsAfter rest)
  | object [] => [.openObject, .closeObject]
  | object ((name, value) :: rest) =>
    .openObject :: .string name :: .colon :: (value.tokens ++ membersAfter rest)

/-- The elements after another one, and the end of the array. -/
def elementsAfter : List Value → List Token
  | [] => [.closeArray]
  | element :: rest => .comma :: (element.tokens ++ elementsAfter rest)

/-- The members after another one, and the end of the object. -/
def membersAfter : List (Option String × Value) → List Token
  | [] => [.closeObject]
  | (name, value) :: rest =>
    .comma :: .string name :: .colon :: (value.tokens ++ membersAfter rest)

end

theorem exists_tokens_eq (value : Value) : ∃ token more, value.tokens = token :: more ∧
    token ≠ .closeArray := by
  cases value with
  | scalar => exact ⟨_, _, rfl, by decide⟩
  | string value => exact ⟨_, _, rfl, by simp⟩
  | array elements => cases elements <;> exact ⟨_, _, by rw [tokens], by decide⟩
  | object members => cases members <;> exact ⟨_, _, by rw [tokens], by decide⟩

mutual

theorem skip?_tokens : ∀ (value : Value) (opened : List Bracket) (rest : List Token),
    skip? .value opened (value.tokens ++ rest) = skip? .rest opened rest
  | scalar, opened, rest => by rw [tokens, List.singleton_append, skip?]
  | string value, opened, rest => by rw [tokens, List.singleton_append, skip?]
  | array [], opened, rest => by
    rw [tokens, List.cons_append, List.singleton_append, skip?]
  | array (element :: more), opened, rest => by
    obtain ⟨token, tokens', htokens, htoken⟩ := element.exists_tokens_eq
    rw [tokens, List.cons_append, List.append_assoc, skip?,
      skip?_tokens element, skip?_elementsAfter more]
    intro tail heq
    rw [htokens] at heq
    exact htoken (List.cons.inj heq).1
  | object [], opened, rest => by
    rw [tokens, List.cons_append, List.singleton_append, skip?]
  | object ((name, value) :: more), opened, rest => by
    rw [tokens, List.cons_append, List.cons_append, List.cons_append, List.append_assoc, skip?,
      skip?_tokens value, skip?_membersAfter more]

theorem skip?_elementsAfter : ∀ (elements : List Value) (opened : List Bracket)
    (rest : List Token),
    skip? .rest (.array :: opened) (elementsAfter elements ++ rest) = skip? .rest opened rest
  | [], opened, rest => by rw [elementsAfter, List.singleton_append, skip?]
  | element :: more, opened, rest => by
    rw [elementsAfter, List.cons_append, List.append_assoc, skip?, skip?_tokens element,
      skip?_elementsAfter more]

theorem skip?_membersAfter : ∀ (members : List (Option String × Value)) (opened : List Bracket)
    (rest : List Token),
    skip? .rest (.object :: opened) (membersAfter members ++ rest) = skip? .rest opened rest
  | [], opened, rest => by rw [membersAfter, List.singleton_append, skip?]
  | (name, value) :: more, opened, rest => by
    rw [membersAfter, List.cons_append, List.cons_append, List.cons_append, List.append_assoc,
      skip?, skip?_tokens value, skip?_membersAfter more]

end

/-- A value is passed over, whatever it holds. -/
theorem skipValue?_tokens (value : Value) (rest : List Token) :
    skipValue? (value.tokens ++ rest) = some rest := by
  rw [skipValue?, skip?_tokens, skip?]

end Value

theorem Apart.cons {token : Token} {rest : List Token} (h : token ≠ .scalar) (hrest : Apart rest) :
    Apart (token :: rest) :=
  List.isChain_cons.mpr ⟨fun _ _ hscalar => absurd hscalar h, hrest⟩

namespace Value

mutual

/-- In a value a scalar has a comma, a closing bracket or nothing after it. -/
theorem apart_tokens_append : ∀ (value : Value) {rest : List Token},
    (∀ token ∈ rest.head?, token ≠ .scalar) → Apart rest → Apart (value.tokens ++ rest)
  | scalar, rest, hfirst, hrest => by
    rw [tokens]
    exact List.isChain_cons.mpr ⟨fun token htoken _ => hfirst token htoken, hrest⟩
  | string value, rest, _, hrest => by
    rw [tokens]
    exact .cons (by simp) hrest
  | array [], rest, _, hrest => by
    rw [tokens]
    exact .cons (by decide) (.cons (by decide) hrest)
  | array (element :: more), rest, _, hrest => by
    rw [tokens, List.cons_append, List.append_assoc]
    obtain ⟨hfirst, hmore⟩ := apart_elementsAfter_append more hrest
    exact .cons (by decide) (apart_tokens_append element hfirst hmore)
  | object [], rest, _, hrest => by
    rw [tokens]
    exact .cons (by decide) (.cons (by decide) hrest)
  | object ((name, value) :: more), rest, _, hrest => by
    rw [tokens, List.cons_append, List.cons_append, List.cons_append, List.append_assoc]
    obtain ⟨hfirst, hmore⟩ := apart_membersAfter_append more hrest
    exact .cons (by decide) (.cons (by simp) (.cons (by decide)
      (apart_tokens_append value hfirst hmore)))

theorem apart_elementsAfter_append : ∀ (elements : List Value) {rest : List Token}, Apart rest →
    (∀ token ∈ (elementsAfter elements ++ rest).head?, token ≠ .scalar) ∧
      Apart (elementsAfter elements ++ rest)
  | [], rest, hrest => by
    rw [elementsAfter]
    exact ⟨by simp, .cons (by decide) hrest⟩
  | element :: more, rest, hrest => by
    rw [elementsAfter, List.cons_append, List.append_assoc]
    obtain ⟨hfirst, hmore⟩ := apart_elementsAfter_append more hrest
    exact ⟨by simp, .cons (by decide) (apart_tokens_append element hfirst hmore)⟩

theorem apart_membersAfter_append : ∀ (members : List (Option String × Value))
    {rest : List Token}, Apart rest →
    (∀ token ∈ (membersAfter members ++ rest).head?, token ≠ .scalar) ∧
      Apart (membersAfter members ++ rest)
  | [], rest, hrest => by
    rw [membersAfter]
    exact ⟨by simp, .cons (by decide) hrest⟩
  | (name, value) :: more, rest, hrest => by
    rw [membersAfter, List.cons_append, List.cons_append, List.cons_append, List.append_assoc]
    obtain ⟨hfirst, hmore⟩ := apart_membersAfter_append more hrest
    exact ⟨by simp, .cons (by decide) (.cons (by simp) (.cons (by decide)
      (apart_tokens_append value hfirst hmore)))⟩

end

theorem apart_tokens (value : Value) : Apart value.tokens := by
  have h : Apart (value.tokens ++ []) := value.apart_tokens_append (by simp) .nil
  rwa [List.append_nil] at h

/-- The text is the value, with white space wherever one likes. -/
def Written (value : Value) (text : List Char) : Prop := Spaced value.tokens text

/-- The tokens of a value are found in a text in which it is written. -/
theorem Written.ofText?_eq {value : Value} {text : List Char} (h : value.Written text) :
    ofText? text = some value.tokens := by
  have hread : ofText? (text ++ []) = (ofText? []).map (value.tokens ++ ·) :=
    Spaced.ofText?_append h value.apart_tokens fun _ => by simp [NoNumber]
  rwa [List.append_nil, ofText?, Option.map_some, List.append_nil] at hread

theorem exists_elementsAfter_eq (elements : List Value) :
    ∃ front, elementsAfter elements = front ++ [.closeArray] := by
  induction elements with
  | nil => exact ⟨[], by rw [elementsAfter, List.nil_append]⟩
  | cons element more ih =>
      obtain ⟨front, hfront⟩ := ih
      exact ⟨.comma :: (element.tokens ++ front), by rw [elementsAfter, hfront]; simp⟩

theorem exists_membersAfter_eq (members : List (Option String × Value)) :
    ∃ front, membersAfter members = front ++ [.closeObject] := by
  induction members with
  | nil => exact ⟨[], by rw [membersAfter, List.nil_append]⟩
  | cons member more ih =>
      obtain ⟨front, hfront⟩ := ih
      exact ⟨.comma :: .string member.1 :: .colon :: (member.2.tokens ++ front), by
        rw [membersAfter, hfront]; simp⟩

/-- The text of any other value has an end of its own. -/
theorem getLast?_tokens_ne {value : Value} (h : value ≠ .scalar) :
    value.tokens.getLast? ≠ some .scalar := by
  cases value with
  | scalar => exact absurd rfl h
  | string value => simp [tokens]
  | array elements =>
      cases elements with
      | nil => simp [tokens]
      | cons element more =>
          obtain ⟨front, hfront⟩ := exists_elementsAfter_eq more
          rw [tokens, hfront, ← List.append_assoc, ← List.cons_append, List.getLast?_concat]
          decide
  | object members =>
      cases members with
      | nil => simp [tokens]
      | cons member more =>
          obtain ⟨front, hfront⟩ := exists_membersAfter_eq more
          rw [tokens, hfront, ← List.append_assoc, ← List.cons_append, ← List.cons_append,
            ← List.cons_append, List.getLast?_concat]
          decide

/-- What comes after the text of a value is read by itself. -/
theorem Written.ofText?_append {value : Value} {text : List Char} (h : value.Written text)
    (hvalue : value ≠ .scalar) (rest : List Char) :
    ofText? (text ++ rest) = (ofText? rest).map (value.tokens ++ ·) :=
  Spaced.ofText?_append h value.apart_tokens fun hlast => absurd hlast (getLast?_tokens_ne hvalue)

/-- A scalar stays one, even if more is added to its text. -/
theorem Written.head?_of_scalar {text rest : List Char} {tokens : List Token}
    (h : Written .scalar text) (htokens : ofText? (text ++ rest) = some tokens) :
    tokens.head? = some .scalar := by
  cases h with
  | cons hgap htoken _ =>
      rw [List.append_assoc, List.append_assoc, ofText?_blank hgap] at htokens
      exact htoken.head?_of_scalar htokens

end Value
end MailRules.Json

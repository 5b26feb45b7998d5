import MailRules.Message.Decode
import MailRules.Proofs.Json.Value

/-!
# Messages read from JSON values

Decoding works on tokens. It is compared here with a reading of the value that the tokens are,
where the members and elements can be looked at one by one: each reader of tokens does to the
tokens of a value what the reading does to the value, and leaves the tokens after it.
-/

namespace MailRules

open Json (Value)

namespace Json.Value

/-- The characters of a string. -/
def text? : Value → Option String
  | string value => value
  | _ => none

/-- A member whose value is a string. -/
def pair? : Option String × Value → Option (String × String)
  | (some name, string (some value)) => some (name, value)
  | _ => none

/-- The members of an object of strings. -/
def pairs? : Value → Option (List (String × String))
  | object members => members.mapM pair?
  | _ => none

end Json.Value

namespace Message

open Json.Value (elementsAfter membersAfter tokens)

/-- The fields with a member put with them. -/
def Fields.add? (fields : Fields) : Option String × Value → Option Fields
  | (none, _) => none
  | (some name, value) =>
    if name = "body" then
      if fields.body.isSome then none
      else value.text?.map fun body => { fields with body := some body }
    else if name = "headers" then
      if fields.headers.isSome then none
      else value.pairs?.map fun pairs => { fields with headers := some (.ofList pairs) }
    else
      some fields

/-- The message that a value describes. -/
def ofValue? : Value → Option Message
  | .object members => (members.foldlM Fields.add? {}).map Fields.toMessage
  | .array [] => some {}
  | .array [body] => body.text?.map fun body => { body }
  | .array [body, headers] =>
    body.text?.bind fun body => headers.pairs?.map fun pairs => { body, headers := .ofList pairs }
  | _ => none

theorem body?_tokens (value : Value) (rest : List Json.Token) :
    body? (value.tokens ++ rest) = value.text?.map (·, rest) := by
  cases value with
  | scalar => rfl
  | string value => cases value <;> rfl
  | array elements => cases elements <;> rfl
  | object members => cases members <;> rfl

theorem headerMembers?_of_pair? {name : Option String} {value : Value}
    (h : Value.pair? (name, value) = none) (headers : Headers) (rest : List Json.Token) :
    headerMembers? headers (.string name :: .colon :: (value.tokens ++ rest)) = none := by
  cases name with
  | none => rfl
  | some name =>
      cases value with
      | scalar => rfl
      | string value =>
          cases value with
          | none => rfl
          | some value => cases h
      | array elements => cases elements <;> rfl
      | object members => cases members <;> rfl

theorem eq_of_pair?_eq_some {name : Option String} {value : Value} {pair : String × String}
    (h : Value.pair? (name, value) = some pair) :
    name = some pair.1 ∧ value = .string (some pair.2) := by
  unfold Value.pair? at h
  split at h
  · next hmember =>
      obtain ⟨rfl, rfl⟩ := Prod.mk.inj hmember
      obtain rfl := Option.some.inj h
      exact ⟨rfl, rfl⟩
  · cases h

theorem headerMembers?_tokens (headers : Headers) (name : Option String) (value : Value)
    (members : List (Option String × Value)) (rest : List Json.Token) :
    headerMembers? headers (.string name :: .colon :: (value.tokens ++
        (membersAfter members ++ rest))) =
      (((name, value) :: members).mapM Value.pair?).map fun pairs =>
        (pairs.foldl (fun headers (name, value) => headers.insert name value) headers, rest) := by
  induction members generalizing headers name value with
  | nil =>
      cases hpair : Value.pair? (name, value) with
      | none => rw [headerMembers?_of_pair? hpair, List.mapM_cons, hpair]; rfl
      | some pair =>
          obtain ⟨rfl, rfl⟩ := eq_of_pair?_eq_some hpair
          rfl
  | cons member members ih =>
      cases hpair : Value.pair? (name, value) with
      | none => rw [headerMembers?_of_pair? hpair, List.mapM_cons, hpair]; rfl
      | some pair =>
          obtain ⟨rfl, rfl⟩ := eq_of_pair?_eq_some hpair
          obtain ⟨next, value⟩ := member
          have hmore := ih (headers.insert pair.1 pair.2) next value
          rw [membersAfter, tokens, List.singleton_append, List.cons_append, List.cons_append,
            List.cons_append, headerMembers?, List.append_assoc, hmore,
            List.mapM_cons (l := (next, value) :: members), hpair]
          cases ((next, value) :: members).mapM Value.pair? <;> rfl

theorem headers?_tokens (value : Value) (rest : List Json.Token) :
    headers? (value.tokens ++ rest) =
      value.pairs?.map fun pairs => (Headers.ofList pairs, rest) := by
  cases value with
  | scalar => rfl
  | string value => rfl
  | array elements => cases elements <;> rfl
  | object members =>
      cases members with
      | nil => rfl
      | cons member members =>
          obtain ⟨name, value⟩ := member
          rw [tokens, List.cons_append, List.cons_append, List.cons_append, List.append_assoc]
          exact headerMembers?_tokens ∅ name value members rest

theorem member?_tokens (fields : Fields) (name : String) (value : Value) (rest : List Json.Token) :
    member? fields name (value.tokens ++ rest) =
      (fields.add? (some name, value)).map (·, rest) := by
  rw [member?, Fields.add?, body?_tokens, headers?_tokens, value.skipValue?_tokens]
  split_ifs
  · rfl
  · cases value.text? <;> rfl
  · rfl
  · cases value.pairs? <;> rfl
  · rfl

/-- The members are put with the fields one after the other. -/
theorem members?_tokens (fields : Fields) {bound : Nat} (name : Option String) (value : Value)
    {members : List (Option String × Value)} (hbound : members.length < bound)
    (rest : List Json.Token) :
    members? fields bound (.string name :: .colon :: (value.tokens ++
        (membersAfter members ++ rest))) =
      (((name, value) :: members).foldlM Fields.add? fields).map (·, rest) := by
  obtain ⟨bound, rfl⟩ := Nat.exists_eq_add_one_of_ne_zero (Nat.ne_of_gt (Nat.zero_lt_of_lt hbound))
  cases name with
  | none => rfl
  | some name =>
      rw [members?, member?_tokens, List.foldlM_cons]
      cases hadd : fields.add? (some name, value) with
      | none => rfl
      | some fields =>
          cases members with
          | nil => rfl
          | cons member members =>
              obtain ⟨next, value⟩ := member
              have hmore := members?_tokens fields next value (Nat.lt_of_succ_lt_succ hbound) rest
              rw [membersAfter, List.cons_append, List.cons_append, List.cons_append,
                List.append_assoc]
              exact hmore

theorem length_lt_length_membersAfter (members : List (Option String × Value)) :
    members.length < (membersAfter members).length := by
  induction members with
  | nil => rw [membersAfter]; decide
  | cons member members ih =>
      rw [membersAfter]
      simp only [List.length_cons, List.length_append]
      omega

theorem eq_of_text?_eq_some {value : Value} {text : String} (h : value.text? = some text) :
    value = .string (some text) := by
  cases value with
  | string value => exact congrArg Value.string h
  | scalar => cases h
  | array elements => cases h
  | object members => cases h

theorem ofTokens?_array (body : Value) (elements : List Value) (rest : List Json.Token) :
    ofTokens? ((Value.array (body :: elements)).tokens ++ rest) =
      (ofValue? (.array (body :: elements))).map (·, rest) := by
  rw [tokens, List.cons_append, List.append_assoc]
  cases hbody : body.text? with
  | none =>
      obtain ⟨token, more, htokens, htoken⟩ := body.exists_tokens_eq
      have hnone : ofValue? (.array (body :: elements)) = none := by
        unfold ofValue?
        split <;> simp_all
      rw [ofTokens?, body?_tokens, hbody, hnone]
      · rfl
      · intro tail heq
        rw [htokens] at heq
        exact htoken (List.cons.inj heq).1
  | some text =>
      obtain rfl := eq_of_text?_eq_some hbody
      match elements with
      | [] => rfl
      | headers :: more =>
          have hread := headers?_tokens headers (elementsAfter more ++ rest)
          rw [tokens, elementsAfter, List.singleton_append, List.cons_append, List.append_assoc,
            ofTokens?, body?, Option.bind_eq_bind, Option.bind_some]
          · simp only [hread]
            cases hpairs : headers.pairs? <;> cases more <;>
              simp [ofValue?, hpairs, elementsAfter, Value.text?]
          · simp

theorem ofTokens?_object (name : Option String) (value : Value)
    (members : List (Option String × Value)) (rest : List Json.Token) :
    ofTokens? ((Value.object ((name, value) :: members)).tokens ++ rest) =
      (ofValue? (.object ((name, value) :: members))).map (·, rest) := by
  -- The reader is bounded by the number of tokens, and a member has more than one.
  have hbound : members.length < (Json.Token.string name :: .colon :: (value.tokens ++
      (membersAfter members ++ rest))).length := by
    have hlength := length_lt_length_membersAfter members
    simp only [List.length_cons, List.length_append]
    omega
  rw [tokens, List.cons_append, List.cons_append, List.cons_append, List.append_assoc, ofTokens?,
    members?_tokens _ name value hbound, ofValue?, Option.map_map, Option.map_map]
  · rfl
  · simp

/-- The tokens of a value are read as the value is. -/
theorem ofTokens?_tokens (value : Value) (rest : List Json.Token) :
    ofTokens? (value.tokens ++ rest) = (ofValue? value).map (·, rest) := by
  cases value with
  | scalar => rfl
  | string value => rfl
  | array elements =>
      cases elements with
      | nil => rfl
      | cons body elements => exact ofTokens?_array body elements rest
  | object members =>
      cases members with
      | nil => rfl
      | cons member members => exact ofTokens?_object member.1 member.2 members rest

end Message
end MailRules

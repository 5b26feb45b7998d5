import MailRules.Proofs.Message.Decode

/-!
# The body and the headers of a decoded message

The members of an object are put into two places. Each takes one member at most and a member that
fits it, and neither is touched by a member of another name, so the order of the members makes no
difference. This is what the fields hold after all members of an object, whatever they held
before.

A message is decoded from an object or from a list, and is given by a body and by pairs of header
names and values. Of the pairs with one name the last one counts.
-/

namespace MailRules

open Json (Blank Value)
open Json.Token (Part ofText?)

namespace Json.Value

/-- An object of strings. -/
def ofPairs (pairs : List (String × String)) : Value :=
  object (pairs.map fun pair => (some pair.1, string (some pair.2)))

/-- The values of the members with a name. -/
def named (name : String) (members : List (Option String × Value)) : List Value :=
  members.filterMap fun member => if member.1 = some name then some member.2 else none

theorem pair?_eq_some_iff {member : Option String × Value} {pair : String × String} :
    pair? member = some pair ↔ member = (some pair.1, string (some pair.2)) := by
  constructor
  · intro h
    obtain ⟨hname, hvalue⟩ := Message.eq_of_pair?_eq_some h
    exact Prod.ext hname hvalue
  · rintro rfl
    rfl

theorem mapM_pair?_eq_some_iff {members : List (Option String × Value)}
    {pairs : List (String × String)} :
    members.mapM pair? = some pairs ↔
      members = pairs.map fun pair => (some pair.1, string (some pair.2)) := by
  induction members generalizing pairs with
  | nil => cases pairs <;> simp
  | cons member members ih =>
      rw [List.mapM_cons, Option.bind_eq_bind, Option.bind_eq_some_iff]
      constructor
      · rintro ⟨pair, hpair, hmore⟩
        obtain ⟨more, hmembers, hpairs⟩ := Option.bind_eq_some_iff.mp hmore
        obtain rfl := Option.some.inj hpairs
        rw [pair?_eq_some_iff.mp hpair, ih.mp hmembers, List.map_cons]
      · intro hmembers
        obtain ⟨pair, more, rfl, hpair, hmore⟩ := List.map_eq_cons_iff.mp hmembers.symm
        exact ⟨pair, pair?_eq_some_iff.mpr hpair.symm, by rw [ih.mpr hmore.symm]; rfl⟩

theorem pairs?_eq_some_iff {value : Value} {pairs : List (String × String)} :
    value.pairs? = some pairs ↔ value = ofPairs pairs := by
  cases value with
  | object members =>
      rw [pairs?, mapM_pair?_eq_some_iff, ofPairs]
      exact ⟨congrArg object, object.inj⟩
  | scalar => exact ⟨nofun, nofun⟩
  | string value => exact ⟨nofun, nofun⟩
  | array elements => exact ⟨nofun, nofun⟩

theorem text?_eq_some_iff {value : Value} {text : String} :
    value.text? = some text ↔ value = string (some text) :=
  ⟨Message.eq_of_text?_eq_some, fun h => by rw [h, text?]⟩

theorem named_append (name : String) (members more : List (Option String × Value)) :
    named name (members ++ more) = named name members ++ named name more :=
  List.filterMap_append

end Json.Value

namespace Headers

theorem get?_foldl_insert (headers : Headers) (pairs : List (String × String)) (name : String) :
    (pairs.foldl (fun headers (name, value) => headers.insert name value) headers).get? name =
      (pairs.reverse.lookup name).or (headers.get? name) := by
  induction pairs generalizing headers with
  | nil => rfl
  | cons pair pairs ih =>
      obtain ⟨other, value⟩ := pair
      rw [List.foldl_cons, ih, get?_insert, List.reverse_cons, List.lookup_append, Option.or_assoc,
        List.lookup_cons]
      by_cases hname : name = other
      · simp [hname]
      · simp [hname, beq_eq_false_iff_ne.mpr hname]

/-- The last pair with a name gives its value. -/
theorem get?_ofList (pairs : List (String × String)) (name : String) :
    (ofList pairs).get? name = pairs.reverse.lookup name := by
  rw [ofList, get?_foldl_insert]
  exact Option.or_none

end Headers

namespace Message

open Json.Value (ofPairs)

/-- A place before and after values are put into it: there is one at most, the place is free for
it and it fits. -/
inductive Filled {α : Type} (read? : Value → Option α) :
    Option α → List Value → Option α → Prop where
  | kept (old : Option α) : Filled read? old [] old
  | given {value : Value} {new : α} (h : read? value = some new) :
      Filled read? none [value] (some new)

section

variable {α : Type} {read? : Value → Option α}

@[simp] theorem filled_nil_iff {old new : Option α} : Filled read? old [] new ↔ new = old :=
  ⟨fun h => by cases h; rfl, by rintro rfl; exact .kept _⟩

@[simp] theorem filled_singleton_iff {old new : Option α} {value : Value} :
    Filled read? old [value] new ↔ old = none ∧ ∃ given, read? value = some given ∧
      new = some given := by
  constructor
  · intro h
    cases h with
    | given h => exact ⟨rfl, _, h, rfl⟩
  · rintro ⟨rfl, given, hgiven, rfl⟩
    exact .given hgiven

/-- Values are put into a place one after the other. -/
theorem filled_append_iff {old new : Option α} {values more : List Value} :
    Filled read? old (values ++ more) new ↔
      ∃ between, Filled read? old values between ∧ Filled read? between more new := by
  constructor
  · intro h
    cases values with
    | nil => exact ⟨old, .kept old, h⟩
    | cons value values =>
        obtain ⟨rfl, rfl⟩ : values = [] ∧ more = [] := by
          cases hvalues : values ++ more with
          | nil => exact List.append_eq_nil_iff.mp hvalues
          | cons => rw [List.cons_append, hvalues] at h; cases h
        exact ⟨new, h, .kept new⟩
  · rintro ⟨between, hfirst, hrest⟩
    cases hfirst with
    | kept => exact hrest
    | given h =>
        cases hrest with
        | kept => exact .given h

theorem Filled.length_le_one {old new : Option α} {values : List Value}
    (h : Filled read? old values new) : values.length ≤ 1 := by
  cases h with
  | kept => exact Nat.zero_le 1
  | given => exact Nat.le_refl 1

theorem Filled.read?_ne_none {old new : Option α} {values : List Value}
    (h : Filled read? old values new) {value : Value}
    (hvalue : value ∈ values) : read? value ≠ none := by
  cases h with
  | kept => exact absurd hvalue List.not_mem_nil
  | given h =>
      obtain rfl := List.mem_singleton.mp hvalue
      exact Option.ne_none_iff_exists'.mpr ⟨_, h⟩

/-- A place is filled with a value that fits it. -/
theorem filled_of_perm {β : Type} {write : β → Value} {made : β → α}
    (hread : ∀ given, read? (write given) = some (made given)) {given : Option β}
    {values : List Value} (h : values.Perm (given.toList.map write)) :
    Filled read? none values (given.map made) := by
  cases given with
  | none =>
      obtain rfl := List.perm_nil.mp h
      exact .kept none
  | some given =>
      obtain rfl := List.perm_singleton.mp h
      exact .given (hread given)

end

/-- One member goes into the place of its name. -/
theorem add?_eq_some_iff {fields after : Fields} {member : Option String × Value} :
    fields.add? member = some after ↔ member.1 ≠ none ∧
      Filled Value.text? fields.body (Value.named "body" [member]) after.body ∧
      Filled (fun value => value.pairs?.map Headers.ofList) fields.headers
        (Value.named "headers" [member]) after.headers := by
  obtain ⟨name, value⟩ := member
  obtain ⟨body, headers⟩ := fields
  obtain ⟨body', headers'⟩ := after
  cases name with
  | none => simp [Fields.add?]
  | some name =>
      by_cases hbody : name = "body"
      · cases body <;> cases hread : value.text? <;>
          simp [Fields.add?, Value.named, hbody, hread, eq_comm]
      · by_cases hheaders : name = "headers"
        · cases headers <;> cases hread : value.pairs? <;>
            simp [Fields.add?, Value.named, hheaders, hread, eq_comm]
        · simp [Fields.add?, Value.named, hbody, hheaders, eq_comm]

/-- The fields after all members: each place is filled by the members with its name. -/
theorem foldlM_add?_eq_some_iff {members : List (Option String × Value)} {fields after : Fields} :
    members.foldlM Fields.add? fields = some after ↔ (∀ member ∈ members, member.1 ≠ none) ∧
      Filled Value.text? fields.body (Value.named "body" members) after.body ∧
      Filled (fun value => value.pairs?.map Headers.ofList) fields.headers
        (Value.named "headers" members) after.headers := by
  induction members generalizing fields with
  | nil =>
      obtain ⟨body, headers⟩ := fields
      obtain ⟨body', headers'⟩ := after
      simp [Value.named, eq_comm]
  | cons member members ih =>
      rw [List.foldlM_cons, Option.bind_eq_bind, Option.bind_eq_some_iff]
      simp only [add?_eq_some_iff, ih, List.forall_mem_cons]
      have hnamed : ∀ name, Value.named name (member :: members) =
          Value.named name [member] ++ Value.named name members :=
        fun name => Value.named_append name [member] members
      rw [hnamed, hnamed, filled_append_iff, filled_append_iff]
      constructor
      · rintro ⟨between, ⟨hname, hbody, hheaders⟩, hnames, hbodies, hothers⟩
        exact ⟨⟨hname, hnames⟩, ⟨_, hbody, hbodies⟩, ⟨_, hheaders, hothers⟩⟩
      · rintro ⟨⟨hname, hnames⟩, ⟨body, hbody, hbodies⟩, ⟨headers, hheaders, hothers⟩⟩
        exact ⟨{ body, headers }, ⟨hname, hbody, hheaders⟩, hnames, hbodies, hothers⟩

/-- The member that gives a body. -/
def bodyMember (body : Option String) : List (Option String × Value) :=
  body.toList.map fun body => (some "body", .string (some body))

/-- The member that gives headers. -/
def headersMember (headers : Option (List (String × String))) : List (Option String × Value) :=
  headers.toList.map fun pairs => (some "headers", ofPairs pairs)

/-- A member of another name is in neither place. -/
def Other (member : Option String × Value) : Prop :=
  ∃ name, member.1 = some name ∧ name ≠ "body" ∧ name ≠ "headers"

theorem named_eq_nil_of_other {others : List (Option String × Value)}
    (h : ∀ member ∈ others, Other member) {name : String}
    (hname : name = "body" ∨ name = "headers") :
    Value.named name others = [] := by
  refine List.filterMap_eq_nil_iff.mpr fun member hmember => if_neg ?_
  obtain ⟨other, hother, hbody, hheaders⟩ := h member hmember
  rcases hname with rfl | rfl <;> simp [hother, hbody, hheaders]

/-- The order of the members makes no difference. -/
theorem foldlM_add?_of_perm {body : Option String} {headers : Option (List (String × String))}
    {others members : List (Option String × Value)} (hothers : ∀ member ∈ others, Other member)
    (hmembers : members.Perm (bodyMember body ++ headersMember headers ++ others)) :
    members.foldlM Fields.add? {} = some { body, headers := headers.map Headers.ofList } := by
  -- At most one member has the name of a place, and one value alone is in one order only.
  have hnamed : ∀ name, (Value.named name members).Perm (Value.named name (bodyMember body) ++
      Value.named name (headersMember headers) ++ Value.named name others) := fun name => by
    rw [← Value.named_append, ← Value.named_append]
    exact hmembers.filterMap _
  refine foldlM_add?_eq_some_iff.mpr ⟨?_, ?_, ?_⟩
  · intro member hmember
    have h := hmembers.mem_iff.mp hmember
    simp only [List.mem_append, bodyMember, headersMember, List.mem_map] at h
    rcases h with (⟨_, _, rfl⟩ | ⟨_, _, rfl⟩) | h
    · simp
    · simp
    · obtain ⟨name, hname, -⟩ := hothers member h
      simp [hname]
  · have h := hnamed "body"
    rw [named_eq_nil_of_other hothers (.inl rfl), List.append_nil] at h
    have hread : ∀ body, Value.text? (.string (some body)) = some (id body) := fun _ => rfl
    have hfilled : Filled Value.text? none (Value.named "body" members) (body.map id) := by
      refine filled_of_perm hread (h.trans ?_)
      cases body <;> cases headers <;> rfl
    rwa [Option.map_id] at hfilled
  · have h := hnamed "headers"
    rw [named_eq_nil_of_other hothers (.inr rfl), List.append_nil] at h
    have hread : ∀ pairs, (ofPairs pairs).pairs?.map Headers.ofList = some (.ofList pairs) :=
      fun pairs => by rw [Value.pairs?_eq_some_iff.mpr rfl, Option.map_some]
    refine filled_of_perm hread (h.trans ?_)
    cases body <;> cases headers <;> rfl

/-- A text is decoded as the value that is written in it is read. -/
theorem decode?_of_written {value : Value} {text : String} (h : value.Written text.toList) :
    decode? text = ofValue? value := by
  have htokens := ofTokens?_tokens value []
  rw [List.append_nil] at htokens
  rw [decode?, h.ofText?_eq, Option.bind_eq_bind, Option.bind_some, htokens]
  cases ofValue? value <;> rfl

theorem decode?_object_eq_none {members : List (Option String × Value)} {text : String}
    (h : (Value.object members).Written text.toList)
    (hnot : ∀ after, members.foldlM Fields.add? {} ≠ some after) : decode? text = none := by
  rw [decode?_of_written h, ofValue?, Option.eq_none_iff_forall_ne_some.mpr hnot]
  rfl

theorem ofValue?_array_eq_none {elements : List Value}
    (h : 2 < elements.length ∨ (∃ value ∈ elements[0]?, ∀ body, value ≠ .string (some body)) ∨
      ∃ value ∈ elements[1]?, ∀ headers, value ≠ ofPairs headers) :
    ofValue? (.array elements) = none := by
  refine Option.eq_none_iff_forall_ne_some.mpr fun message hmessage => ?_
  match elements with
  | [] => simp at h
  | [body] =>
      obtain ⟨text, hbody, -⟩ := Option.map_eq_some_iff.mp hmessage
      simp [Value.text?_eq_some_iff.mp hbody] at h
  | [body, headers] =>
      obtain ⟨text, hbody, hheaders⟩ := Option.bind_eq_some_iff.mp hmessage
      obtain ⟨pairs, hpairs, -⟩ := Option.map_eq_some_iff.mp hheaders
      obtain rfl := Value.text?_eq_some_iff.mp hbody
      obtain rfl := Value.pairs?_eq_some_iff.mp hpairs
      rcases h with h | ⟨value, hvalue, h⟩ | ⟨value, hvalue, h⟩
      · exact absurd h (by simp)
      · exact h text (Option.some.inj hvalue).symm
      · exact h pairs (Option.some.inj hvalue).symm
  | _ :: _ :: _ :: _ => cases hmessage

/-- Nothing but white space may come after a message. -/
theorem decode?_append_eq_none {value : Value} {text rest : String}
    (h : value.Written text.toList) (hrest : ¬ Blank rest.toList) :
    decode? (text ++ rest) = none := by
  rw [decode?, String.toList_append]
  cases htokens : ofText? (text.toList ++ rest.toList) with
  | none => rfl
  | some tokens =>
      by_cases hvalue : value = .scalar
      · subst hvalue
        obtain ⟨more, rfl⟩ := List.head?_eq_some_iff.mp (h.head?_of_scalar htokens)
        rfl
      · rw [h.ofText?_append hvalue] at htokens
        obtain ⟨more, hmore, rfl⟩ := Option.map_eq_some_iff.mp htokens
        cases more with
        | nil => exact absurd (Json.blank_of_ofText? hmore) hrest
        | cons token more =>
            rw [Option.bind_eq_bind, Option.bind_some, ofTokens?_tokens]
            cases ofValue? value <;> rfl

/-- A message is decoded as it was written, in an object or in a list. What describes no message
is refused: a second body or second headers, a value that does not fit, and a text that goes on
after the value. -/
theorem decode?_written :
    (∀ (body : Option String) (headers : Option (List (String × String)))
      (others members : List (Option String × Value)) (text : String),
      (∀ member ∈ others, Other member) →
      members.Perm (bodyMember body ++ headersMember headers ++ others) →
      (Value.object members).Written text.toList →
      decode? text = some { body := body.getD "", headers := .ofList (headers.getD []) }) ∧
    (∀ (body : String) (headers : Option (List (String × String))) (text : String),
      (Value.array (.string (some body) :: headers.toList.map ofPairs)).Written text.toList →
      decode? text = some { body, headers := .ofList (headers.getD []) }) ∧
    (∀ text : String, (Value.array []).Written text.toList → decode? text = some {}) ∧
    (∀ (body : String) (headers : List (String × String)) (name : String),
      header? { body, headers := .ofList headers } name = headers.reverse.lookup name) ∧
    (∀ (members : List (Option String × Value)) (text : String),
      (Value.object members).Written text.toList →
      1 < (Value.named "body" members).length ∨ 1 < (Value.named "headers" members).length ∨
        (∃ value ∈ Value.named "body" members, ∀ body, value ≠ .string (some body)) ∨
        (∃ value ∈ Value.named "headers" members, ∀ headers, value ≠ ofPairs headers) →
      decode? text = none) ∧
    (∀ (elements : List Value) (text : String), (Value.array elements).Written text.toList →
      2 < elements.length ∨ (∃ value ∈ elements[0]?, ∀ body, value ≠ .string (some body)) ∨
        (∃ value ∈ elements[1]?, ∀ headers, value ≠ ofPairs headers) →
      decode? text = none) ∧
    (∀ text : String, Value.scalar.Written text.toList → decode? text = none) ∧
    (∀ (value : Option String) (text : String), (Value.string value).Written text.toList →
      decode? text = none) ∧
    ∀ (value : Value) (text rest : String), value.Written text.toList → ¬ Blank rest.toList →
      decode? (text ++ rest) = none := by
  refine ⟨?_, ?_, ?_, ?_, ?_, ?_, ?_, ?_, ?_⟩
  · intro body headers others members text hothers hmembers hwritten
    rw [decode?_of_written hwritten, ofValue?, foldlM_add?_of_perm hothers hmembers]
    cases headers <;> rfl
  · intro body headers text hwritten
    rw [decode?_of_written hwritten]
    cases headers with
    | none => rfl
    | some pairs =>
        have hpairs : (ofPairs pairs).pairs? = some pairs := Value.pairs?_eq_some_iff.mpr rfl
        simp [ofValue?, Value.text?, hpairs]
  · intro text hwritten
    rw [decode?_of_written hwritten, ofValue?]
  · exact fun _ headers name => Headers.get?_ofList headers name
  · intro members text hwritten hbad
    refine decode?_object_eq_none hwritten fun after hafter => ?_
    obtain ⟨-, hbody, hheaders⟩ := foldlM_add?_eq_some_iff.mp hafter
    rcases hbad with hbad | hbad | ⟨value, hvalue, hbad⟩ | ⟨value, hvalue, hbad⟩
    · exact absurd hbody.length_le_one (Nat.not_le.mpr hbad)
    · exact absurd hheaders.length_le_one (Nat.not_le.mpr hbad)
    · obtain ⟨text, htext⟩ := Option.ne_none_iff_exists'.mp (hbody.read?_ne_none hvalue)
      exact hbad text (Value.text?_eq_some_iff.mp htext)
    · obtain ⟨_, hmap⟩ := Option.ne_none_iff_exists'.mp (hheaders.read?_ne_none hvalue)
      obtain ⟨pairs, hpairs, -⟩ := Option.map_eq_some_iff.mp hmap
      exact hbad pairs (Value.pairs?_eq_some_iff.mp hpairs)
  · intro elements text hwritten hbad
    rw [decode?_of_written hwritten]
    refine ofValue?_array_eq_none hbad
  · exact fun text hwritten => decode?_of_written hwritten
  · exact fun value text hwritten => decode?_of_written hwritten
  · exact fun value text rest hwritten hrest => decode?_append_eq_none hwritten hrest

/-- A name and a character are given by codes, the character by two halves, and the members stand in
another order with one of another name before them. -/
theorem decode?_written_codes :
    decode? ("\x7b\"x\":[-1.5e3], \"headers\" :\x7b\"To\":\"a\",\"To\":\"\\ud83d\\ude00\"\x7d," ++
          "\"b\\u006fdy\":\"hi\"\x7d") =
        some { body := "hi", headers := .ofList [("To", "a"), ("To", "😀")] } ∧
      header? { body := "hi", headers := .ofList [("To", "a"), ("To", "😀")] } "To" = some "😀" := by
  have hcode : ∀ {digits number}, digits.length = 4 →
      hexNumber? digits = some number → Json.CodeUnit digits number :=
    fun hlength hnumber => ⟨hlength, hexNumber?_eq_some_iff.mp hnumber⟩
  have ho : Json.CodeUnit ['0', '0', '6', 'f'] (Part.char 'o').number := hcode rfl (by decide)
  have hhigh : Json.CodeUnit ['d', '8', '3', 'd'] (Part.high 0xd83d).number := hcode rfl (by decide)
  have hlow : Json.CodeUnit ['d', 'e', '0', '0'] (Part.low 0xde00).number := hcode rfl (by decide)
  have hfirst : (Part.high 0xd83d).InRange := ⟨by decide, by decide⟩
  have hlast : (Part.low 0xde00).InRange := ⟨by decide, by decide⟩
  have hpair : Json.MadeUp [.high 0xd83d, .low 0xde00] ['😀'] := .pair (by decide) .nil
  have hface : (Json.Token.string (some "😀")).Written
      ['"', '\\', 'u', 'd', '8', '3', 'd', '\\', 'u', 'd', 'e', '0', '0', '"'] :=
    .string (.code hhigh hfirst (.code hlow hlast .nil)) hpair
  have hbody : (Json.Token.string (some "body")).Written
      ['"', 'b', '\\', 'u', '0', '0', '6', 'f', 'd', 'y', '"'] :=
    .string (.plain (by decide) (by decide) (by decide) (.code ho trivial (.plain (by decide)
      (by decide) (by decide) (.plain (by decide) (by decide) (by decide) .nil))))
      (.char (.char (.char (.char .nil))))
  have hdigit : ∀ {c : Char}, c.isDigit → Json.Digits [c] := fun hc =>
    ⟨List.cons_ne_nil _ _, List.forall_mem_singleton.mpr hc⟩
  have hnumber : Json.Number (['-'] ++ (['1'] ++ (['.', '5'] ++ ('e' :: ([] ++ ['3']))))) :=
    .number (by decide) (.nonzero (by decide) (hdigit rfl)) (.point (hdigit rfl))
      (.power (.inl rfl) (by decide) (hdigit rfl))
  have hsign : ∀ {c token}, (c, token) ∈ Json.signs → token.Written [c] := .sign
  have hopen : Json.Token.openObject.Written ['\x7b'] := hsign (by decide)
  have hclose : Json.Token.closeObject.Written ['\x7d'] := hsign (by decide)
  have hcolon : Json.Token.colon.Written [':'] := hsign (by decide)
  have hcomma : Json.Token.comma.Written [','] := hsign (by decide)
  have hname : ∀ value, (Json.Token.string (some value)).Written (Json.quote value) := .quote
  have htight : ∀ {token tokens written rest}, Json.Token.Written token written →
      Json.Spaced tokens rest → Json.Spaced (token :: tokens) ([] ++ (written ++ rest)) :=
    .cons (by simp [Blank])
  have hblank : ∀ {token tokens written rest}, Json.Token.Written token written →
      Json.Spaced tokens rest → Json.Spaced (token :: tokens) ([' '] ++ (written ++ rest)) :=
    .cons (by simp [Blank])
  have hend : Json.Spaced [] [] := .nil (by simp [Blank])
  have hlist := htight (hsign (by decide : ('[', Json.Token.openArray) ∈ _)) <|
    htight (.number hnumber) <| htight (hsign (by decide : (']', Json.Token.closeArray) ∈ _)) <|
    htight hcomma <| hblank (hname "headers") <| hblank hcolon <| htight hopen <|
    htight (hname "To") <| htight hcolon <| htight (hname "a") <| htight hcomma <|
    htight (hname "To") <| htight hcolon <| htight hface <| htight hclose <| htight hcomma <|
    htight hbody <| htight hcolon <| htight (hname "hi") <| htight hclose hend
  have hwritten := htight hopen <| htight (hname "x") <| htight hcolon hlist
  refine ⟨decode?_written.1 (some "hi") (some [("To", "a"), ("To", "😀")])
    [(some "x", .array [.scalar])] [(some "x", .array [.scalar]),
      (some "headers", ofPairs [("To", "a"), ("To", "😀")]), (some "body", .string (some "hi"))] _
    (List.forall_mem_singleton.mpr ⟨"x", rfl, by decide, by decide⟩)
    (List.reverse_perm [_, _, _]) ?_, ?_⟩
  · unfold Value.Written
    convert hwritten using 1 <;> decide +kernel
  · rw [decode?_written.2.2.2.1]
    decide

end Message
end MailRules

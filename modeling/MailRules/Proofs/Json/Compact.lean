import MailRules.Proofs.Json.Quotation

/-!
# The compact text of a JSON value

A compact text is a value's own. Where such a text ends is clear from the text alone, so one that
is followed by anything else can be read in one way only: the closing quote of a string is the
first that is not escaped, and a comma or a bracket comes after an element or a member that has
ended.
-/

namespace MailRules.Json

/-- A string between quotes ends where it does, whatever follows it. -/
theorem quote_append_inj {value value' : String} {rest rest' : List Char}
    (h : quote value ++ rest = quote value' ++ rest') : value = value' ∧ rest = rest' := by
  have hread : ∀ (value : String) (rest : List Char),
      Token.stringParts? (value.toList.flatMap escape ++ '"' :: rest) =
        some (value.toList.map .char, (value.toList.flatMap escape).length + 1) :=
    fun value rest => (quotation_flatMap_escape value.toList).stringParts?_eq rest
  have hquote : ∀ (value : String) (rest : List Char),
      quote value ++ rest = '"' :: (value.toList.flatMap escape ++ '"' :: rest) :=
    fun value rest => by simp [quote]
  rw [hquote, hquote] at h
  have htext := (List.cons.inj h).2
  have hparts := hread value rest
  rw [htext, hread] at hparts
  have hchars : value'.toList = value.toList :=
    List.map_injective_iff.mpr (fun _ _ => Token.Part.char.inj)
      (Prod.mk.inj (Option.some.inj hparts)).1
  obtain rfl := String.toList_inj.mp hchars
  exact ⟨rfl, (List.cons.inj (List.append_cancel_left htext)).2⟩

/-- The character that a compact text begins with. -/
def initial : Json → Char
  | null => 'n'
  | bool true => 't'
  | bool false => 'f'
  | string _ => '"'
  | array _ => '['
  | object _ => '\x7b'

theorem exists_compactChars_eq_cons (json : Json) :
    ∃ more, json.compactChars = json.initial :: more := by
  cases json with
  | null => exact ⟨_, rfl⟩
  | bool value => cases value <;> exact ⟨_, rfl⟩
  | string value => exact ⟨_, rfl⟩
  | array elements => exact ⟨_, by rw [compactChars]; rfl⟩
  | object members => exact ⟨_, by rw [compactChars]; rfl⟩

theorem initial_eq {json json' : Json} {rest rest' : List Char}
    (h : json.compactChars ++ rest = json'.compactChars ++ rest') :
    json.initial = json'.initial := by
  obtain ⟨more, hmore⟩ := json.exists_compactChars_eq_cons
  obtain ⟨more', hmore'⟩ := json'.exists_compactChars_eq_cons
  rw [hmore, hmore'] at h
  exact (List.cons.inj h).1

/-- The first character tells the kind of a value. -/
theorem kind_of_initial_eq {json json' : Json} (h : json.initial = json'.initial) :
    match json with
    | null => json' = null
    | bool value => json' = bool value
    | string _ => ∃ value, json' = string value
    | array _ => ∃ elements, json' = array elements
    | object _ => ∃ members, json' = object members := by
  rcases json with _ | (_ | _) | _ | _ | _ <;> rcases json' with _ | (_ | _) | _ | _ | _ <;>
    simp [initial] at h ⊢

/-- No element begins as an array ends. -/
theorem initial_ne (json : Json) : json.initial ≠ ']' := by
  unfold initial
  split <;> simp

/-- After an element comes nothing, or a comma and the other elements. -/
theorem compactElements_cons (element : Json) (elements : List Json) :
    compactElements (element :: elements) = element.compactChars ++
      match elements with
      | [] => []
      | _ :: _ => ',' :: compactElements elements := by
  cases elements with
  | nil => simp [compactElements]
  | cons => rw [compactElements]; exact nofun

theorem compactMembers_cons (name : String) (value : Json) (members : List (String × Json)) :
    compactMembers ((name, value) :: members) = quote name ++ (':' :: value.compactChars ++
      match members with
      | [] => []
      | _ :: _ => ',' :: compactMembers members) := by
  cases members with
  | nil => simp [compactMembers]
  | cons => rw [compactMembers]; simp; exact nofun

mutual

/-- A value is found again at the beginning of a text, whatever comes after it. The texts of its
elements and members are followed by more of its own text, so the induction needs the rest. -/
theorem compactChars_append_inj : ∀ (json json' : Json) {rest rest' : List Char},
    json.compactChars ++ rest = json'.compactChars ++ rest' → json = json' ∧ rest = rest'
  | null, json', rest, rest', h => by
    have hkind : json' = null := kind_of_initial_eq (initial_eq h)
    subst hkind
    exact ⟨rfl, List.append_cancel_left h⟩
  | bool value, json', rest, rest', h => by
    have hkind : json' = bool value := kind_of_initial_eq (initial_eq h)
    subst hkind
    exact ⟨rfl, List.append_cancel_left h⟩
  | string value, json', rest, rest', h => by
    obtain ⟨value', rfl⟩ := kind_of_initial_eq (initial_eq h)
    rw [compactChars, compactChars] at h
    obtain ⟨rfl, hrest⟩ := quote_append_inj h
    exact ⟨rfl, hrest⟩
  | array elements, json', rest, rest', h => by
    obtain ⟨elements', rfl⟩ := kind_of_initial_eq (initial_eq h)
    rw [compactChars, compactChars] at h
    obtain ⟨rfl, hrest⟩ := compactElements_append_inj elements elements' (by simpa using h)
    exact ⟨rfl, hrest⟩
  | object members, json', rest, rest', h => by
    obtain ⟨members', rfl⟩ := kind_of_initial_eq (initial_eq h)
    rw [compactChars, compactChars] at h
    obtain ⟨rfl, hrest⟩ := compactMembers_append_inj members members' (by simpa using h)
    exact ⟨rfl, hrest⟩

/-- Elements are found again before the end of an array. -/
theorem compactElements_append_inj : ∀ (elements elements' : List Json) {rest rest' : List Char},
    compactElements elements ++ ']' :: rest = compactElements elements' ++ ']' :: rest' →
      elements = elements' ∧ rest = rest'
  | [], [], rest, rest', h => ⟨rfl, (List.cons.inj h).2⟩
  | [], element' :: more', rest, rest', h => by
    obtain ⟨tail, htail⟩ := element'.exists_compactChars_eq_cons
    rw [compactElements, compactElements_cons, htail] at h
    exact absurd (List.cons.inj h).1.symm element'.initial_ne
  | element :: more, [], rest, rest', h => by
    obtain ⟨tail, htail⟩ := element.exists_compactChars_eq_cons
    rw [compactElements, compactElements_cons, htail] at h
    exact absurd (List.cons.inj h).1 element.initial_ne
  | element :: more, element' :: more', rest, rest', h => by
    rw [compactElements_cons, compactElements_cons, List.append_assoc, List.append_assoc] at h
    obtain ⟨rfl, hafter⟩ := compactChars_append_inj element element' h
    match more, more' with
    | [], [] => exact ⟨rfl, (List.cons.inj hafter).2⟩
    | [], _ :: _ => cases (List.cons.inj hafter).1
    | _ :: _, [] => cases (List.cons.inj hafter).1
    | next :: more, next' :: more' =>
      obtain ⟨hmore, hrest⟩ :=
        compactElements_append_inj (next :: more) (next' :: more') (List.cons.inj hafter).2
      exact ⟨by rw [hmore], hrest⟩

/-- Members are found again before the end of an object. -/
theorem compactMembers_append_inj : ∀ (members members' : List (String × Json))
    {rest rest' : List Char},
    compactMembers members ++ '\x7d' :: rest = compactMembers members' ++ '\x7d' :: rest' →
      members = members' ∧ rest = rest'
  | [], [], rest, rest', h => ⟨rfl, (List.cons.inj h).2⟩
  | [], (name', value') :: more', rest, rest', h => by
    rw [compactMembers, compactMembers_cons] at h
    cases (List.cons.inj h).1
  | (name, value) :: more, [], rest, rest', h => by
    rw [compactMembers, compactMembers_cons] at h
    cases (List.cons.inj h).1
  | (name, value) :: more, (name', value') :: more', rest, rest', h => by
    rw [compactMembers_cons, compactMembers_cons, List.append_assoc,
      List.append_assoc (quote name')] at h
    obtain ⟨rfl, hvalue⟩ := quote_append_inj h
    rw [List.append_assoc, List.append_assoc] at hvalue
    obtain ⟨rfl, hafter⟩ := compactChars_append_inj value value' (List.cons.inj hvalue).2
    match more, more' with
    | [], [] => exact ⟨rfl, (List.cons.inj hafter).2⟩
    | [], _ :: _ => cases (List.cons.inj hafter).1
    | _ :: _, [] => cases (List.cons.inj hafter).1
    | next :: more, next' :: more' =>
      obtain ⟨hmore, hrest⟩ :=
        compactMembers_append_inj (next :: more) (next' :: more') (List.cons.inj hafter).2
      exact ⟨by rw [hmore], hrest⟩

end

/-- Values have the same compact text only if they are the same. -/
theorem compact_inj {json json' : Json} : json.compact = json'.compact ↔ json = json' := by
  refine ⟨fun h => ?_, congrArg compact⟩
  have hchars : json.compactChars = json'.compactChars := String.ofList_inj.mp h
  exact (compactChars_append_inj json json' (congrArg (· ++ []) hchars)).1

end MailRules.Json

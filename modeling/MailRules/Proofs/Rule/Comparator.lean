import MailRules.Proofs.Result
import MailRules.Rule.Comparator

/-!
# Comparators from keywords and values

A comparator is determined by a keyword and values, and gives both back: the values as
they were written, and one of the keywords of its operator. What is refused is either the
keyword, or the first value that is no pattern.
-/

namespace MailRules

namespace Operator

/-- All keywords. -/
def keywords : List String := ["is", "are", "contains", "contain", "matches", "match"]

/-- Every other word is unknown as an operator. -/
theorem ofKeyword?_eq_none_iff {keyword : String} :
    ofKeyword? keyword = none ↔ keyword ∉ keywords := by
  unfold ofKeyword? keywords
  split <;> simp_all

/-- The two words whose values are patterns. -/
theorem ofKeyword?_eq_search_iff {keyword : String} :
    ofKeyword? keyword = some search ↔ keyword = "matches" ∨ keyword = "match" := by
  unfold ofKeyword?
  split <;> simp_all

end Operator

namespace Comparator

theorem compileFrom_cons_of_ok {value : String} {pattern : Pattern}
    (h : Pattern.compile value = .ok pattern) (index : Nat) (rest : List String) :
    compileFrom index (value :: rest) = (compileFrom (index + 1) rest).map (pattern :: ·) := by
  rw [compileFrom, h]
  rfl

theorem compileFrom_cons_of_error {value : String} {fault : Pattern.Fault}
    (h : Pattern.compile value = .error fault) (index : Nat) (rest : List String) :
    compileFrom index (value :: rest) = .error (.invalidPattern index fault) := by
  rw [compileFrom, h]

/-- Patterns are compiled again from their texts. -/
theorem compileFrom_map_text (index : Nat) (patterns : List Pattern) :
    compileFrom index (patterns.map Pattern.text) = .ok patterns := by
  induction patterns generalizing index with
  | nil => rfl
  | cons pattern patterns ih =>
      rw [List.map_cons, compileFrom_cons_of_ok pattern.compile_text, ih]
      rfl

/-- Compiled patterns keep their texts. -/
theorem map_text_of_compileFrom {index : Nat} {values : List String} {patterns : List Pattern}
    (h : compileFrom index values = .ok patterns) : patterns.map Pattern.text = values := by
  induction values generalizing index patterns with
  | nil =>
      obtain rfl := Except.ok.inj h
      rfl
  | cons value rest ih =>
      cases hvalue : Pattern.compile value with
      | error fault =>
          rw [compileFrom_cons_of_error hvalue] at h
          cases h
      | ok pattern =>
          rw [compileFrom_cons_of_ok hvalue] at h
          obtain ⟨others, hothers, rfl⟩ := map_eq_ok_iff.mp h
          rw [List.map_cons, Pattern.text_of_compile hvalue, ih hothers]

/-- The first value that is no pattern is the one that is refused. -/
theorem compileFrom_eq_error {index : Nat} {values : List String} {refusal : Refusal}
    (h : compileFrom index values = .error refusal) :
    ∃ before value after fault, values = before ++ value :: after ∧
      (∀ text ∈ before, ∃ pattern, Pattern.compile text = .ok pattern) ∧
      Pattern.compile value = .error fault ∧
      refusal = .invalidPattern (index + before.length) fault := by
  induction values generalizing index with
  | nil => cases h
  | cons value rest ih =>
      cases hvalue : Pattern.compile value with
      | error fault =>
          rw [compileFrom_cons_of_error hvalue] at h
          exact ⟨[], value, rest, fault, rfl, by simp, hvalue, (Except.error.inj h).symm⟩
      | ok pattern =>
          rw [compileFrom_cons_of_ok hvalue] at h
          obtain ⟨before, bad, after, fault, rfl, hbefore, hbad, rfl⟩ := ih (map_eq_error_iff.mp h)
          refine ⟨value :: before, bad, after, fault, rfl, ?_, hbad, ?_⟩
          · intro text htext
            rcases List.mem_cons.mp htext with rfl | htext
            · exact ⟨pattern, hvalue⟩
            · exact hbefore text htext
          · rw [List.length_cons, Nat.add_assoc, Nat.add_comm 1]

/-- What follows the first value that is no pattern is not looked at. -/
theorem compileFrom_append_of_error {before : List String} {value : String}
    {fault : Pattern.Fault}
    (hbefore : ∀ text ∈ before, ∃ pattern, Pattern.compile text = .ok pattern)
    (hvalue : Pattern.compile value = .error fault) (index : Nat) (after : List String) :
    compileFrom index (before ++ value :: after) =
      .error (.invalidPattern (index + before.length) fault) := by
  induction before generalizing index with
  | nil => exact compileFrom_cons_of_error hvalue index after
  | cons text before ih =>
      obtain ⟨pattern, hpattern⟩ := hbefore text List.mem_cons_self
      have hrest := ih (fun text htext => hbefore text (List.mem_cons_of_mem _ htext)) (index + 1)
      rw [List.cons_append, compileFrom_cons_of_ok hpattern, hrest, List.length_cons,
        Nat.add_assoc, Nat.add_comm 1]
      rfl

theorem ofOperator_search (values : List String) :
    ofOperator .search values = (compileFrom 0 values).map search := rfl

theorem ofKeyword_of_some {keyword : String} {op : Operator}
    (h : Operator.ofKeyword? keyword = some op) (values : List String) :
    ofKeyword keyword values = ofOperator op values := by
  rw [ofKeyword, h]

theorem ofKeyword_of_none {keyword : String} (h : Operator.ofKeyword? keyword = none)
    (values : List String) : ofKeyword keyword values = .error .unknownOperator := by
  rw [ofKeyword, h]

/-- A comparator is what its keyword and its values stand for. -/
theorem ofKeyword_keyword (comparator : Comparator) :
    ofKeyword comparator.operator.keyword comparator.values = .ok comparator := by
  rw [ofKeyword_of_some (Operator.ofKeyword?_keyword _)]
  cases comparator with
  | equal targets => rfl
  | contains targets => rfl
  | search patterns =>
      rw [operator, values, ofOperator_search, compileFrom_map_text]
      rfl

theorem values_of_ofOperator {op : Operator} {values : List String} {comparator : Comparator}
    (h : ofOperator op values = .ok comparator) : comparator.values = values := by
  cases op with
  | equal =>
      obtain rfl := Except.ok.inj h
      rfl
  | contains =>
      obtain rfl := Except.ok.inj h
      rfl
  | search =>
      rw [ofOperator_search] at h
      obtain ⟨patterns, hpatterns, rfl⟩ := map_eq_ok_iff.mp h
      exact map_text_of_compileFrom hpatterns

theorem operator_of_ofOperator {op : Operator} {values : List String} {comparator : Comparator}
    (h : ofOperator op values = .ok comparator) : comparator.operator = op := by
  cases op with
  | equal =>
      obtain rfl := Except.ok.inj h
      rfl
  | contains =>
      obtain rfl := Except.ok.inj h
      rfl
  | search =>
      rw [ofOperator_search] at h
      obtain ⟨patterns, -, rfl⟩ := map_eq_ok_iff.mp h
      rfl

theorem ofKeyword?_of_ofKeyword {keyword : String} {values : List String}
    {comparator : Comparator} (h : ofKeyword keyword values = .ok comparator) :
    Operator.ofKeyword? keyword = some comparator.operator := by
  cases hop : Operator.ofKeyword? keyword with
  | none =>
      rw [ofKeyword_of_none hop] at h
      cases h
  | some op =>
      rw [ofKeyword_of_some hop] at h
      rw [operator_of_ofOperator h]

/-- A comparator keeps the values that it was made of. -/
theorem values_of_ofKeyword {keyword : String} {values : List String} {comparator : Comparator}
    (h : ofKeyword keyword values = .ok comparator) : comparator.values = values := by
  cases hop : Operator.ofKeyword? keyword with
  | none =>
      rw [ofKeyword_of_none hop] at h
      cases h
  | some op =>
      rw [ofKeyword_of_some hop] at h
      exact values_of_ofOperator h

/-- The keyword is refused before any value is looked at. -/
theorem ofKeyword_eq_error {keyword : String} {values : List String} {refusal : Refusal}
    (h : ofKeyword keyword values = .error refusal) :
    (keyword ∉ Operator.keywords ∧ refusal = .unknownOperator) ∨
    (keyword ∈ Operator.keywords ∧ ∃ before value after fault, values = before ++ value :: after ∧
      (∀ text ∈ before, ∃ pattern, Pattern.compile text = .ok pattern) ∧
      Pattern.compile value = .error fault ∧ refusal = .invalidPattern before.length fault) := by
  by_cases hkeyword : keyword ∈ Operator.keywords
  · refine .inr ⟨hkeyword, ?_⟩
    cases hop : Operator.ofKeyword? keyword with
    | none => exact absurd hkeyword (Operator.ofKeyword?_eq_none_iff.mp hop)
    | some op =>
        rw [ofKeyword_of_some hop] at h
        cases op with
        | equal => cases h
        | contains => cases h
        | search =>
            rw [ofOperator_search] at h
            have hbad := compileFrom_eq_error (map_eq_error_iff.mp h)
            simpa only [Nat.zero_add] using hbad
  · rw [ofKeyword_of_none (Operator.ofKeyword?_eq_none_iff.mpr hkeyword)] at h
    exact .inl ⟨hkeyword, (Except.error.inj h).symm⟩

/-- Values are compiled if each of them is a pattern. -/
theorem exists_compileFrom_eq_ok_iff {index : Nat} {values : List String} :
    (∃ patterns, compileFrom index values = .ok patterns) ↔
      ∀ value ∈ values, ∃ pattern, Pattern.compile value = .ok pattern := by
  constructor
  · rintro ⟨patterns, h⟩ value hvalue
    rw [← map_text_of_compileFrom h] at hvalue
    obtain ⟨pattern, -, rfl⟩ := List.mem_map.mp hvalue
    exact ⟨pattern, pattern.compile_text⟩
  · intro hall
    cases h : compileFrom index values with
    | ok patterns => exact ⟨patterns, rfl⟩
    | error refusal =>
        obtain ⟨before, value, after, fault, rfl, -, hbad, -⟩ := compileFrom_eq_error h
        obtain ⟨pattern, hpattern⟩ := hall value (by simp)
        rw [hbad] at hpattern
        cases hpattern

/-- Only a search has to make something of its values. -/
theorem exists_ofOperator_eq_ok_iff {op : Operator} {values : List String} :
    (∃ comparator, ofOperator op values = .ok comparator) ↔
      (op = .search → ∀ value ∈ values, ∃ pattern, Pattern.compile value = .ok pattern) := by
  cases op with
  | equal => exact iff_of_true ⟨_, rfl⟩ (fun hop => by cases hop)
  | contains => exact iff_of_true ⟨_, rfl⟩ (fun hop => by cases hop)
  | search =>
      rw [ofOperator_search, ← @exists_compileFrom_eq_ok_iff 0]
      constructor
      · rintro ⟨comparator, h⟩ -
        obtain ⟨patterns, hpatterns, -⟩ := map_eq_ok_iff.mp h
        exact ⟨patterns, hpatterns⟩
      · intro h
        obtain ⟨patterns, hpatterns⟩ := h rfl
        exact ⟨search patterns, map_eq_ok_iff.mpr ⟨patterns, hpatterns, rfl⟩⟩

/-- A comparator is made of a keyword that is known, and of patterns if the keyword stands for
a search. -/
theorem exists_ofKeyword_eq_ok_iff {keyword : String} {values : List String} :
    (∃ comparator, ofKeyword keyword values = .ok comparator) ↔
      keyword ∈ Operator.keywords ∧ (keyword = "matches" ∨ keyword = "match" →
        ∀ value ∈ values, ∃ pattern, Pattern.compile value = .ok pattern) := by
  rw [← Operator.ofKeyword?_eq_search_iff]
  cases hop : Operator.ofKeyword? keyword with
  | none =>
      rw [ofKeyword_of_none hop]
      have hunknown := Operator.ofKeyword?_eq_none_iff.mp hop
      exact iff_of_false (fun ⟨_, h⟩ => by cases h) fun h => hunknown h.1
  | some op =>
      have hkeyword : keyword ∈ Operator.keywords := by
        apply Decidable.of_not_not
        intro hunknown
        rw [Operator.ofKeyword?_eq_none_iff.mpr hunknown] at hop
        cases hop
      rw [ofKeyword_of_some hop, exists_ofOperator_eq_ok_iff, and_iff_right hkeyword,
        Option.some.injEq]

/-- Patterns with the same texts are the same patterns. -/
theorem zip_all_text_iff {patterns patterns' : List Pattern}
    (hlength : patterns.length = patterns'.length) :
    (patterns.zip patterns').all (fun pair => pair.1.text == pair.2.text) = true ↔
      patterns = patterns' := by
  induction patterns generalizing patterns' with
  | nil => simpa using (List.length_eq_zero_iff.mp hlength.symm).symm
  | cons pattern patterns ih =>
      cases patterns' with
      | nil => cases hlength
      | cons pattern' patterns' =>
          rw [List.zip_cons_cons, List.all_cons, Bool.and_eq_true, ih (Nat.succ.inj hlength),
            beq_iff_eq, ← Pattern.ext_iff_text, List.cons_eq_cons]

/-- The equality of comparators is that of what they are made of. -/
theorem same_iff {comparator comparator' : Comparator} :
    comparator.same comparator' = true ↔ comparator = comparator' := by
  cases comparator with
  | equal targets => cases comparator' <;> simp [same]
  | contains targets => cases comparator' <;> simp [same]
  | search patterns =>
      cases comparator' with
      | equal targets => simp [same]
      | contains targets => simp [same]
      | search patterns' =>
          rw [same, Bool.and_eq_true, beq_iff_eq, search.injEq]
          constructor
          · rintro ⟨hlength, htexts⟩
            exact (zip_all_text_iff hlength).mp htexts
          · intro h
            exact ⟨congrArg List.length h, (zip_all_text_iff (congrArg List.length h)).mpr h⟩

/-- An unknown keyword is refused whatever the values are, and only that is refused so. -/
theorem ofKeyword_eq_unknownOperator_iff {keyword : String} {values : List String} :
    ofKeyword keyword values = .error .unknownOperator ↔ keyword ∉ Operator.keywords := by
  constructor
  · intro h
    rcases ofKeyword_eq_error h with ⟨hkeyword, -⟩ | ⟨_, _, _, _, _, _, _, _, hrefusal⟩
    · exact hkeyword
    · cases hrefusal
  · intro hkeyword
    exact ofKeyword_of_none (Operator.ofKeyword?_eq_none_iff.mpr hkeyword) values

/-- Values are refused for a search only, at the first of them that is no pattern. -/
theorem ofKeyword_eq_invalidPattern_iff {keyword : String} {values : List String} {index : Nat}
    {fault : Pattern.Fault} :
    ofKeyword keyword values = .error (.invalidPattern index fault) ↔
      (keyword = "matches" ∨ keyword = "match") ∧
        ∃ before value after, values = before ++ value :: after ∧ before.length = index ∧
          (∀ text ∈ before, ∃ pattern, Pattern.compile text = .ok pattern) ∧
          Pattern.compile value = .error fault := by
  constructor
  · intro h
    rcases ofKeyword_eq_error h with ⟨-, hrefusal⟩ |
      ⟨hkeyword, before, value, after, _, hvalues, hbefore, hvalue, hrefusal⟩
    · cases hrefusal
    · obtain ⟨rfl, rfl⟩ := Refusal.invalidPattern.inj hrefusal
      refine ⟨?_, before, value, after, hvalues, rfl, hbefore, hvalue⟩
      -- with another keyword these values make a comparator
      apply Decidable.of_not_not
      intro hother
      obtain ⟨comparator, hcomparator⟩ := exists_ofKeyword_eq_ok_iff.mpr
        ⟨hkeyword, fun hsearch => absurd hsearch hother⟩
      rw [h] at hcomparator
      cases hcomparator
  · rintro ⟨hsearch, before, value, after, rfl, rfl, hbefore, hvalue⟩
    rw [ofKeyword_of_some (Operator.ofKeyword?_eq_search_iff.mpr hsearch), ofOperator_search,
      compileFrom_append_of_error hbefore hvalue, Nat.zero_add]
    rfl

/-- What a keyword and values come to: one of the two refusals, or a comparator that has the
operator of the keyword, keeps the values and is made again from what it gives back. -/
theorem ofKeyword_decided_and_rebuilt (keyword : String) (values : List String) :
    (ofKeyword keyword values = .error .unknownOperator ↔ keyword ∉ Operator.keywords) ∧
    (∀ index fault, ofKeyword keyword values = .error (.invalidPattern index fault) ↔
      (keyword = "matches" ∨ keyword = "match") ∧
        ∃ before value after, values = before ++ value :: after ∧ before.length = index ∧
          (∀ text ∈ before, ∃ pattern, Pattern.compile text = .ok pattern) ∧
          Pattern.compile value = .error fault) ∧
    ((∃ comparator, ofKeyword keyword values = .ok comparator) ↔
      keyword ∈ Operator.keywords ∧ (keyword = "matches" ∨ keyword = "match" →
        ∀ value ∈ values, ∃ pattern, Pattern.compile value = .ok pattern)) ∧
    ∀ comparator, ofKeyword keyword values = .ok comparator →
      Operator.ofKeyword? keyword = some comparator.operator ∧ comparator.values = values ∧
        ∃ rebuilt, ofKeyword comparator.operator.keyword comparator.values = .ok rebuilt ∧
          rebuilt.same comparator = true := by
  refine ⟨ofKeyword_eq_unknownOperator_iff, fun _ _ => ofKeyword_eq_invalidPattern_iff,
    exists_ofKeyword_eq_ok_iff, ?_⟩
  intro comparator h
  exact ⟨ofKeyword?_of_ofKeyword h, values_of_ofKeyword h, comparator,
    ofKeyword_keyword comparator, same_iff.mpr rfl⟩

/-- Two patterns, and the second of three values that is none. -/
theorem ofKeyword_decided_and_rebuilt_search :
    (∃ comparator, ofKeyword "match" ["^a", "b$"] = .ok comparator ∧
      comparator.operator = .search ∧ comparator.values = ["^a", "b$"] ∧
      ∃ rebuilt, ofKeyword "matches" ["^a", "b$"] = .ok rebuilt ∧
        rebuilt.same comparator = true) ∧
    ∃ fault, ofKeyword "match" ["ok", "(", "["] = .error (.invalidPattern 1 fault) := by
  have hcompile : ∀ text ∈ ["^a", "b$", "ok"],
      ∃ pattern, (Pattern.compile text).toOption = some pattern := by
    simp only [← Option.isSome_iff_exists]
    decide +kernel
  obtain ⟨fault, hfault⟩ : ∃ fault, Pattern.compile "(" = .error fault := ⟨_, rfl⟩
  constructor
  · obtain ⟨-, -, hmade, hkept⟩ := ofKeyword_decided_and_rebuilt "match" ["^a", "b$"]
    obtain ⟨comparator, h⟩ := hmade.mpr ⟨by decide, fun _ value hvalue => by
      obtain ⟨pattern, hpattern⟩ := hcompile value
        (List.mem_append_left ["ok"] hvalue)
      exact ⟨pattern, eq_ok_of_toOption hpattern⟩⟩
    obtain ⟨hop, hvalues, rebuilt, hrebuilt, hsame⟩ := hkept comparator h
    obtain hop : Operator.search = comparator.operator := Option.some.inj hop
    rw [← hop, hvalues] at hrebuilt
    exact ⟨comparator, h, hop.symm, hvalues, rebuilt, hrebuilt, hsame⟩
  · obtain ⟨pattern, hpattern⟩ := hcompile "ok" (by decide)
    have hok : ∀ text ∈ ["ok"], ∃ pattern, Pattern.compile text = .ok pattern := by
      rintro text htext
      obtain rfl := List.mem_singleton.mp htext
      exact ⟨pattern, eq_ok_of_toOption hpattern⟩
    exact ⟨fault, ((ofKeyword_decided_and_rebuilt _ _).2.1 1 fault).mpr
      ⟨.inr rfl, ["ok"], "(", ["["], rfl, rfl, hok, hfault⟩⟩

end Comparator
end MailRules

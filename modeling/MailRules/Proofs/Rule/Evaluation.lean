import MailRules.Rule.Node

/-!
# When a rule applies

A comparator says that some value found is related to some value written. How the two are
related is a matter of the operator alone: they are the same text, the one contains the other, or
the one has a place where the other, read as a pattern, matches. The evaluation of an expression is
this relation, put together from any value of a header it names, or from the body, with any value
written.

An expression can thus be read without its evaluation in mind. It takes a header that is there and
a value that is written, so neither missing headers nor empty lists can make it apply.
-/

namespace MailRules

/-- The value found is related to the value written in the rule. -/
def Operator.Relates : Operator → (found written : String) → Prop
  | equal, found, written => found = written
  | contains, found, written => ∃ before after, found = before ++ written ++ after
  | search, found, written =>
    ∃ pattern, Pattern.compile written = .ok pattern ∧ pattern.matchesIn found = true

theorem Operator.Relates.contains_of_equal {found written : String}
    (h : equal.Relates found written) : contains.Relates found written :=
  ⟨"", "", by rw [String.empty_append, String.append_empty]; exact h⟩

namespace Comparator

theorem occursIn_iff {part text : List Char} : occursIn part text = true ↔ part <:+: text := by
  induction text with
  | nil => simp [occursIn]
  | cons c rest ih =>
      rw [occursIn, Bool.or_eq_true, List.isPrefixOf_iff_prefix, ih, List.infix_cons_iff]

/-- Occurrence among the characters is containment of the texts. -/
theorem occursIn_toList_iff {found written : String} :
    occursIn written.toList found.toList = true ↔ Operator.contains.Relates found written := by
  rw [occursIn_iff]
  constructor
  · rintro ⟨before, after, h⟩
    refine ⟨String.ofList before, String.ofList after, String.toList_injective ?_⟩
    rw [String.toList_append, String.toList_append, String.toList_ofList, String.toList_ofList, h]
  · rintro ⟨before, after, rfl⟩
    refine ⟨before.toList, after.toList, ?_⟩
    rw [String.toList_append, String.toList_append]

theorem relates_iff {comparator : Comparator} {found : String} :
    comparator.relates found = true ↔
      ∃ written ∈ comparator.values, comparator.operator.Relates found written := by
  cases comparator with
  | equal targets => simp [relates, values, operator, Operator.Relates]
  | contains targets =>
      rw [relates, List.any_eq_true]
      exact exists_congr fun written => and_congr_right fun _ => occursIn_toList_iff
  | search patterns =>
      rw [relates, List.any_eq_true]
      constructor
      · rintro ⟨pattern, hpattern, hmatch⟩
        exact ⟨pattern.text, List.mem_map_of_mem hpattern, pattern, pattern.compile_text, hmatch⟩
      · rintro ⟨written, hwritten, pattern, hcompile, hmatch⟩
        obtain ⟨other, hother, rfl⟩ := List.mem_map.mp hwritten
        obtain rfl : other = pattern := Except.ok.inj (other.compile_text.symm.trans hcompile)
        exact ⟨other, hother, hmatch⟩

/-- A comparator holds if any value found is related to any value written. -/
theorem holds_iff {comparator : Comparator} {found : List String} :
    comparator.holds found = true ↔
      ∃ value ∈ found, ∃ written ∈ comparator.values,
        comparator.operator.Relates value written := by
  rw [holds, List.any_eq_true]
  exact exists_congr fun value => and_congr_right fun _ => relates_iff

end Comparator

namespace Expr

variable {provider : Provider} {names : List String} {test : Comparator}

theorem appliesTo_header_iff :
    (header names test).appliesTo provider = true ↔
      ∃ name ∈ names, ∃ value, provider.header? name = some value ∧
        ∃ written ∈ test.values, test.operator.Relates value written := by
  rw [appliesTo, Comparator.holds_iff]
  constructor
  · rintro ⟨value, hvalue, hrelated⟩
    obtain ⟨name, hname, hheader⟩ := List.mem_filterMap.mp hvalue
    exact ⟨name, hname, value, hheader, hrelated⟩
  · rintro ⟨name, hname, value, hheader, hrelated⟩
    exact ⟨value, List.mem_filterMap.mpr ⟨name, hname, hheader⟩, hrelated⟩

theorem appliesTo_message_iff :
    (message test).appliesTo provider = true ↔
      ∃ written ∈ test.values, test.operator.Relates provider.body written := by
  rw [appliesTo, Comparator.holds_iff]
  simp

/-- A header that is missing might as well not be named. -/
theorem appliesTo_header_of_missing {name : String} (h : provider.header? name = none)
    (before after : List String) :
    (header (before ++ name :: after) test).appliesTo provider =
      (header (before ++ after) test).appliesTo provider := by
  rw [appliesTo, appliesTo, List.filterMap_append, List.filterMap_append,
    List.filterMap_cons_none h]

theorem appliesTo_header_of_values_eq_nil (h : test.values = []) :
    (header names test).appliesTo provider = false := by
  rw [Bool.eq_false_iff, ne_eq, appliesTo_header_iff, h]
  rintro ⟨_, _, _, _, _, hwritten, _⟩
  cases hwritten

theorem appliesTo_message_of_values_eq_nil (h : test.values = []) :
    (message test).appliesTo provider = false := by
  rw [Bool.eq_false_iff, ne_eq, appliesTo_message_iff, h]
  rintro ⟨_, hwritten, _⟩
  cases hwritten

theorem appliesTo_header_contains {values : List String}
    (h : (header names (.equal values)).appliesTo provider = true) :
    (header names (.contains values)).appliesTo provider = true := by
  obtain ⟨name, hname, value, hheader, written, hwritten, hrelated⟩ := appliesTo_header_iff.mp h
  exact appliesTo_header_iff.mpr
    ⟨name, hname, value, hheader, written, hwritten, hrelated.contains_of_equal⟩

theorem appliesTo_message_contains {values : List String}
    (h : (message (.equal values)).appliesTo provider = true) :
    (message (.contains values)).appliesTo provider = true := by
  obtain ⟨written, hwritten, hrelated⟩ := appliesTo_message_iff.mp h
  exact appliesTo_message_iff.mpr ⟨written, hwritten, hrelated.contains_of_equal⟩

/-- An expression applies if a value that it finds is related to a value that it was given. -/
theorem appliesTo_iff_related :
    (∀ (provider : Provider) (names : List String) (test : Comparator),
      (header names test).appliesTo provider = true ↔
        ∃ name ∈ names, ∃ value, provider.header? name = some value ∧
          ∃ written ∈ test.values, test.operator.Relates value written) ∧
    (∀ (provider : Provider) (test : Comparator), (message test).appliesTo provider = true ↔
      ∃ written ∈ test.values, test.operator.Relates provider.body written) ∧
    (∀ (provider : Provider) (value : Bool), (bool value).appliesTo provider = value) ∧
    (∀ (mail : Message) (expr : Expr),
      expr.eval mail = expr.appliesTo { body := mail.body, header? := mail.header? }) ∧
    (∀ (provider : Provider) (name : String), provider.header? name = none →
      ∀ (before after : List String) (test : Comparator),
        (header (before ++ name :: after) test).appliesTo provider =
          (header (before ++ after) test).appliesTo provider) ∧
    (∀ (provider : Provider) (test : Comparator), (header [] test).appliesTo provider = false) ∧
    (∀ test : Comparator, test.values = [] → ∀ (provider : Provider) (names : List String),
      (header names test).appliesTo provider = false ∧
        (message test).appliesTo provider = false) ∧
    ∀ (provider : Provider) (names values : List String),
      ((header names (.equal values)).appliesTo provider = true →
        (header names (.contains values)).appliesTo provider = true) ∧
      ((message (.equal values)).appliesTo provider = true →
        (message (.contains values)).appliesTo provider = true) := by
  refine ⟨fun _ _ _ => appliesTo_header_iff, fun _ _ => appliesTo_message_iff, fun _ _ => rfl,
    fun _ _ => rfl, ?_, fun _ test => ?_, ?_, ?_⟩
  · intro provider name hmissing before after test
    exact appliesTo_header_of_missing hmissing before after
  · cases test <;> rfl
  · intro test hvalues provider names
    exact ⟨appliesTo_header_of_values_eq_nil hvalues, appliesTo_message_of_values_eq_nil hvalues⟩
  · intro provider names values
    exact ⟨appliesTo_header_contains, appliesTo_message_contains⟩

/-- One header is missing, and in the other an occurrence begins too early before the whole one. -/
theorem appliesTo_iff_related_overlap :
    let provider : Provider :=
      { body := "", header? := fun name => if name = "To" then some "aabaab" else none }
    let test : Comparator := .contains ["abaab"]
    (header ["From", "To"] test).appliesTo provider = (header ["To"] test).appliesTo provider ∧
      (header ["To"] test).appliesTo provider = true ∧
      (header ["To"] (.contains [])).appliesTo provider = false ∧
      (message (.contains [""])).appliesTo provider = true := by
  intro provider test
  obtain ⟨hheader, -, -, -, hmissing, -, hnone, hcontains⟩ := appliesTo_iff_related
  refine ⟨hmissing provider "From" rfl [] ["To"] test, ?_, (hnone _ rfl provider ["To"]).1, ?_⟩
  · exact (hheader provider ["To"] test).mpr
      ⟨"To", by simp, "aabaab", rfl, "abaab", by simp [test, Comparator.values], "a", "", rfl⟩
  · exact (hcontains provider [] [""]).2 (by decide)

end Expr
end MailRules

import MailRules.Proofs.Ebnf.Denotation
import MailRules.Proofs.Ebnf.Reachability

/-!
# What verification decides

A grammar is well formed if its names are distinct, its references lead somewhere, the
lexical part refers to itself only, and each terminal and each range stands for something.
Every condition is about the leaves of the productions wherever they occur.

No check depends on another one, so each is compared with its own condition: it has
nothing to say if the condition holds. A grammar is valid if it is well formed, and clean
if furthermore every production has a body and can be reached.
-/

namespace MailRules.Ebnf

/-- The conditions that a grammar and its start symbols must meet. -/
structure Grammar.WellFormed (grammar : Grammar) (start : List String) : Prop where
  distinct : (grammar.productions.map Production.name).Nodup
  start_defined : ∀ name ∈ start, ∃ production ∈ grammar.productions, production.name = name
  start_syntactic : ∀ name ∈ start, ¬ isLexical name
  defined : ∀ production ∈ grammar.productions, ∀ symbol, production.HasLeaf (.name symbol) →
    ∃ target ∈ grammar.productions, target.name = symbol.text
  lexical : ∀ production ∈ grammar.productions, production.isLexical →
    ∀ symbol, production.HasLeaf (.name symbol) → isLexical symbol.text
  token : ∀ production ∈ grammar.productions, ∀ symbol, production.HasLeaf (.token symbol) →
    symbol.text ≠ ""
  range : ∀ production ∈ grammar.productions, ∀ first last,
    production.HasLeaf (.range first last) →
      ∃ low high, Denotes first.text.toList low ∧ Denotes last.text.toList high ∧ low ≤ high

namespace Check

theorem duplicateErrors_eq_nil_iff {earlier productions : List Production} :
    duplicateErrors earlier productions = [] ↔
      (productions.map Production.name).Nodup ∧
        ∀ production ∈ productions, ∀ first ∈ earlier, first.name ≠ production.name := by
  induction productions generalizing earlier with
  | nil => simp [duplicateErrors]
  | cons production rest ih =>
      rw [duplicateErrors]
      cases hfirst : earlier.find? (·.name = production.name) with
      | some first =>
          have hname : first.name = production.name := by simpa using List.find?_some hfirst
          simp only [reduceCtorEq, false_iff, not_and]
          intro _ h
          exact h production List.mem_cons_self first (List.mem_of_find?_eq_some hfirst) hname
      | none =>
          have hfresh : ∀ first ∈ earlier, first.name ≠ production.name := by
            simpa using hfirst
          rw [ih, List.map_cons, List.nodup_cons, List.forall_mem_cons]
          simp only [List.mem_append, List.mem_singleton, List.mem_map]
          constructor
          · rintro ⟨hdistinct, hother⟩
            refine ⟨⟨?_, hdistinct⟩, hfresh, fun other hmem first hfirst =>
              hother other hmem first (.inl hfirst)⟩
            rintro ⟨other, hmem, hsame⟩
            exact hother other hmem production (.inr rfl) hsame.symm
          · rintro ⟨⟨hnew, hdistinct⟩, -, hother⟩
            refine ⟨hdistinct, fun other hmem first hfirst => ?_⟩
            rcases hfirst with hfirst | rfl
            · exact hother other hmem first hfirst
            · exact fun hsame => hnew ⟨other, hmem, hsame.symm⟩

theorem get?_isNone_iff {grammar : Grammar} {name : String} :
    (grammar.get? name).isNone ↔
      ¬ ∃ production ∈ grammar.productions, production.name = name := by
  simp [Grammar.get?]

theorem startError?_eq_none_iff {grammar : Grammar} {name : String} :
    startError? grammar name = none ↔
      (∃ production ∈ grammar.productions, production.name = name) ∧ ¬ isLexical name := by
  unfold startError?
  split_ifs with hlexical hdefined
  · simp [hlexical]
  · simp [get?_isNone_iff.mp hdefined]
  · simpa [hlexical] using get?_isNone_iff.not.mp hdefined

theorem referenceError?_eq_none_iff {grammar : Grammar} {production : Production}
    {symbol : Symbol} :
    referenceError? grammar production symbol = none ↔
      ∃ target ∈ grammar.productions, target.name = symbol.text := by
  rw [← not_iff_not, ← get?_isNone_iff]
  simp [referenceError?]

theorem lexicalError?_eq_none_iff {production : Production} {symbol : Symbol} :
    lexicalError? production symbol = none ↔
      (production.isLexical → isLexical symbol.text) := by
  simp [lexicalError?]

theorem tokenError?_token_eq_none_iff {symbol : Symbol} :
    tokenError? (.token symbol) = none ↔ symbol.text ≠ "" := by
  simp [tokenError?]

theorem tokenError?_range_eq_none_iff {first last : Symbol} :
    tokenError? (.range first last) = none ↔
      ∃ low high, Denotes first.text.toList low ∧ Denotes last.text.toList high ∧
        low ≤ high := by
  simp only [← denoted?_eq_some_iff, tokenError?]
  cases denoted? first.text.toList with
  | none => simp
  | some low =>
      cases denoted? last.text.toList with
      | none => simp
      | some high => simp

theorem emptyWarning?_eq_none_iff {production : Production} :
    emptyWarning? production = none ↔ production.body.isSome := by
  cases h : production.body <;> simp [emptyWarning?, h]

/-- A check of the references has nothing to say if it has nothing to say about any name in
a production. -/
theorem flatMap_references_eq_nil_iff {productions : List Production}
    {report : Production → Symbol → Option String} :
    (productions.flatMap fun production =>
        production.references.filterMap (report production)) = [] ↔
      ∀ production ∈ productions, ∀ symbol, production.HasLeaf (.name symbol) →
        report production symbol = none := by
  simp only [List.flatMap_eq_nil_iff, List.filterMap_eq_nil_iff, Production.mem_references_iff]

theorem flatMap_leaves_eq_nil_iff {productions : List Production}
    {report : Form → Option String} :
    (productions.flatMap fun production => production.leaves.filterMap report) = [] ↔
      ∀ production ∈ productions, ∀ leaf, production.HasLeaf leaf → report leaf = none := by
  simp only [List.flatMap_eq_nil_iff, List.filterMap_eq_nil_iff, Production.mem_leaves_iff]

theorem unreached_eq_nil_iff {productions : List Production} {start : List String} :
    unreached productions start = [] ↔
      ∀ production ∈ productions, Reachable productions start production.name := by
  simp [unreached_eq_filter]

end Check

namespace Grammar

open Check

variable {grammar : Grammar} {start : List String}

theorem errors_verify (grammar : Grammar) (start : List String) :
    (grammar.verify start).errors =
      (run grammar start duplicates).errors ++ (run grammar start .start).errors ++
        (run grammar start references).errors ++ (run grammar start lexical).errors ++
        (run grammar start tokens).errors := by
  simp [verify, all, run]

theorem warnings_verify (grammar : Grammar) (start : List String) :
    (grammar.verify start).warnings =
      (run grammar start reachability).warnings ++ (run grammar start empty).warnings := by
  simp [verify, all, run]

theorem suggestions_verify (grammar : Grammar) (start : List String) :
    (grammar.verify start).suggestions = [] := by
  simp [verify, all, run]

/-- There are no errors exactly in a well-formed grammar. -/
theorem errors_verify_eq_nil_iff :
    (grammar.verify start).errors = [] ↔ grammar.WellFormed start := by
  simp only [errors_verify, run, List.append_eq_nil_iff, duplicateErrors_eq_nil_iff,
    List.filterMap_eq_nil_iff, startError?_eq_none_iff, flatMap_references_eq_nil_iff,
    referenceError?_eq_none_iff, lexicalError?_eq_none_iff, flatMap_leaves_eq_nil_iff]
  constructor
  · rintro ⟨⟨⟨⟨⟨hdistinct, -⟩, hstart⟩, hdefined⟩, hlexical⟩, htokens⟩
    refine ⟨hdistinct, fun name hname => (hstart name hname).1,
      fun name hname => (hstart name hname).2, hdefined, ?_, ?_, ?_⟩
    · exact fun production hmem hlow symbol hleaf => hlexical production hmem symbol hleaf hlow
    · exact fun production hmem symbol hleaf =>
        tokenError?_token_eq_none_iff.mp (htokens production hmem _ hleaf)
    · exact fun production hmem first last hleaf =>
        tokenError?_range_eq_none_iff.mp (htokens production hmem _ hleaf)
  · intro h
    refine ⟨⟨⟨⟨⟨h.distinct, by simp⟩, fun name hname =>
      ⟨h.start_defined name hname, h.start_syntactic name hname⟩⟩, h.defined⟩, ?_⟩, ?_⟩
    · exact fun production hmem symbol hleaf hlow => h.lexical production hmem hlow symbol hleaf
    · intro production hmem leaf hleaf
      cases leaf with
      | token symbol =>
          exact tokenError?_token_eq_none_iff.mpr (h.token production hmem symbol hleaf)
      | range first last =>
          exact tokenError?_range_eq_none_iff.mpr (h.range production hmem first last hleaf)
      | _ => rfl

theorem warnings_verify_eq_nil_iff :
    (grammar.verify start).warnings = [] ↔
      (∀ production ∈ grammar.productions, production.body.isSome) ∧
        ∀ production ∈ grammar.productions,
          Reachable grammar.productions start production.name := by
  simp only [warnings_verify, run, List.append_eq_nil_iff, List.map_eq_nil_iff,
    unreached_eq_nil_iff, List.filterMap_eq_nil_iff, emptyWarning?_eq_none_iff]
  exact and_comm

/-- Verification reports an error exactly if the grammar is not well formed. A grammar without
any finding furthermore has bodies only, and each of its productions can be reached. There
are no suggestions. -/
theorem verify_decides_wellFormed (grammar : Grammar) (start : List String) :
    ((grammar.verify start).isValid ↔ grammar.WellFormed start) ∧
      ((grammar.verify start).isClean ↔ grammar.WellFormed start ∧
        (∀ production ∈ grammar.productions, production.body.isSome) ∧
        ∀ production ∈ grammar.productions,
          Reachable grammar.productions start production.name) ∧
      (grammar.verify start).suggestions = [] := by
  have hvalid : (grammar.verify start).isValid ↔ grammar.WellFormed start := by
    rw [Findings.isValid, List.isEmpty_iff, errors_verify_eq_nil_iff]
  refine ⟨hvalid, ?_, suggestions_verify grammar start⟩
  rw [Findings.isClean, suggestions_verify, Bool.and_eq_true, Bool.and_eq_true, hvalid,
    List.isEmpty_iff, warnings_verify_eq_nil_iff]
  simp

/-- Two productions that only refer to each other are no error, but nothing leads to them. -/
example :
    let refer (name other : String) : Production :=
      ⟨name, ⟨"", .start⟩, some (.name ⟨other, ⟨"", .start⟩⟩)⟩
    let findings := Grammar.verify ⟨[refer "A" "A", refer "B" "C", refer "C" "B"]⟩ ["A"]
    findings.isValid ∧ findings.warnings.length = 2 := by
  cbv

end Grammar
end MailRules.Ebnf

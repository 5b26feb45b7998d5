import Mathlib.Data.List.Find
import Mathlib.Data.List.Nodup
import Mathlib.Data.List.Perm.Basic
import MailRules.Proofs.Ebnf.Closure
import MailRules.Proofs.Ebnf.Report
import MailRules.Proofs.Ebnf.Verification

/-!
# The order of productions and start symbols

Productions are looked up by name, and the first one of a name is found. Where names are distinct,
there is no other one, so every look-up has the same result in whatever order the productions
stand. Each check then says the same about each production, and the findings come in the order of
the productions.

Where a name is defined twice, the order decides which definition is the first, and single findings
do depend on it. The verdict does not, because there is an error in any order.
-/

namespace MailRules.Ebnf

namespace Findings

/-- The same findings, perhaps in another order. -/
structure Perm (first second : Findings) : Prop where
  errors : first.errors.Perm second.errors
  warnings : first.warnings.Perm second.warnings
  suggestions : first.suggestions.Perm second.suggestions

namespace Perm

variable {first second : Findings}

theorem refl (findings : Findings) : findings.Perm findings := ⟨.refl _, .refl _, .refl _⟩

/-- What is the same about each element is the same about all of them. -/
theorem gather {α : Type} {found found' : α → Findings} (h : ∀ x, (found x).Perm (found' x))
    (list : List α) : (Findings.gather found list).Perm (Findings.gather found' list) where
  errors := List.Perm.flatMap_left list fun x _ => (h x).errors
  warnings := List.Perm.flatMap_left list fun x _ => (h x).warnings
  suggestions := List.Perm.flatMap_left list fun x _ => (h x).suggestions

theorem isValid_eq (h : first.Perm second) : first.isValid = second.isValid :=
  h.errors.isEmpty_eq

theorem isClean_eq (h : first.Perm second) : first.isClean = second.isClean := by
  rw [isClean, isClean, h.isValid_eq, h.warnings.isEmpty_eq, h.suggestions.isEmpty_eq]

end Perm
end Findings

namespace Grammar

variable {grammar grammar' : Grammar} {start start' : List String}

/-- Where names are distinct, a production is found by its name wherever it stands. -/
theorem get?_eq_of_perm (h : grammar.productions.Perm grammar'.productions)
    (hdistinct : (grammar.productions.map Production.name).Nodup) (name : String) :
    grammar.get? name = grammar'.get? name := by
  apply List.find?_eq_find?_of_perm h
  rintro first ⟨hfirst, hname⟩ second ⟨hsecond, hname'⟩
  apply List.inj_on_of_nodup_map hdistinct hfirst hsecond
  exact (of_decide_eq_true hname).trans (of_decide_eq_true hname').symm

theorem Closed.of_get?_eq {names : Set String} (h : grammar.Closed start names)
    (hget : ∀ name, grammar.get? name = grammar'.get? name)
    (hstart : ∀ name ∈ start', name ∈ start) : grammar'.Closed start' names where
  start name hname := h.start name (hstart name hname)
  reference name hname production hfound :=
    h.reference name hname production ((hget name).trans hfound)

/-- Which names are reachable depends on what is found by a name, and not on the walk. -/
theorem reachable_eq_of_perm (h : grammar.productions.Perm grammar'.productions)
    (hdistinct : (grammar.productions.map Production.name).Nodup) (hstart : start.Perm start') :
    grammar.reachable start = grammar'.reachable start' := by
  have hget := get?_eq_of_perm h hdistinct
  apply Set.Subset.antisymm
  · have hclosed : grammar'.Closed start' (grammar'.reachable start') := closed_reachable
    apply Closed.reachable_subset
    exact hclosed.of_get?_eq (fun name => (hget name).symm) fun name => hstart.mem_iff.mp
  · have hclosed : grammar.Closed start (grammar.reachable start) := closed_reachable
    apply Closed.reachable_subset
    exact hclosed.of_get?_eq hget fun name => hstart.mem_iff.mpr

end Grammar

namespace Check

variable {grammar grammar' : Grammar} {start start' : List String}

/-- What is said about a name depends only on whether a production of it is found. -/
theorem startError?_congr {name : String} (h : grammar.get? name = grammar'.get? name) :
    startError? grammar name = startError? grammar' name := by
  rw [startError?, startError?, h]

theorem referenceError?_congr {production : Production} {symbol : Symbol}
    (h : grammar.get? symbol.text = grammar'.get? symbol.text) :
    referenceError? grammar production symbol = referenceError? grammar' production symbol := by
  rw [referenceError?, referenceError?, h]

/-- Each check has the same to say about the productions in another order. -/
theorem run_perm (h : grammar.productions.Perm grammar'.productions)
    (hdistinct : (grammar.productions.map Production.name).Nodup) (hstart : start.Perm start')
    (check : Check) : (check.run grammar start).Perm (check.run grammar' start') := by
  have hget := Grammar.get?_eq_of_perm h hdistinct
  cases check with
  | duplicates =>
      have hdistinct' := (h.map Production.name).nodup_iff.mp hdistinct
      have hnone : duplicateErrors [] grammar.productions = [] :=
        duplicateErrors_eq_nil_iff.mpr ⟨hdistinct, by simp⟩
      have hnone' : duplicateErrors [] grammar'.productions = [] :=
        duplicateErrors_eq_nil_iff.mpr ⟨hdistinct', by simp⟩
      rw [run, run, hnone, hnone']
      exact .refl _
  | start =>
      refine ⟨?_, .refl _, .refl _⟩
      have hsame : startError? grammar = startError? grammar' :=
        funext fun name => startError?_congr (hget name)
      rw [run, run, hsame]
      exact hstart.filterMap _
  | references =>
      refine ⟨?_, .refl _, .refl _⟩
      have hsame : referenceError? grammar = referenceError? grammar' :=
        funext fun production => funext fun symbol => referenceError?_congr (hget symbol.text)
      rw [run, run, hsame]
      exact h.flatMap_right _
  | reachability =>
      refine ⟨.refl _, ?_, .refl _⟩
      rw [run_reachability_eq, run_reachability_eq,
        Grammar.reachable_eq_of_perm h hdistinct hstart]
      exact (h.filter _).map _
  | lexical => exact ⟨h.flatMap_right _, .refl _, .refl _⟩
  | tokens => exact ⟨h.flatMap_right _, .refl _, .refl _⟩
  | empty => exact ⟨.refl _, h.filterMap _, .refl _⟩

end Check

namespace Grammar

variable {grammar grammar' : Grammar} {start start' : List String}

/-- A name that is defined twice makes a grammar invalid, wherever its definitions stand. -/
theorem isValid_verify_of_not_nodup (start : List String)
    (h : ¬ (grammar.productions.map Production.name).Nodup) :
    (grammar.verify start).isValid = false := by
  rw [Findings.isValid, ← Bool.not_eq_true, List.isEmpty_iff]
  intro hnone
  exact h (errors_verify_eq_nil_iff.mp hnone).distinct

/-- The order of productions and start symbols does not decide whether a grammar is valid and
whether it is clean. If names are distinct, it does not even matter for a single finding. -/
theorem verify_perm (h : grammar.productions.Perm grammar'.productions)
    (hstart : start.Perm start') :
    (grammar.verify start).isValid = (grammar'.verify start').isValid ∧
      (grammar.verify start).isClean = (grammar'.verify start').isClean ∧
      ((grammar.productions.map Production.name).Nodup →
        (grammar.verify start).Perm (grammar'.verify start')) := by
  have hperm (hdistinct : (grammar.productions.map Production.name).Nodup) :
      (grammar.verify start).Perm (grammar'.verify start') := by
    rw [verify_eq_gather, verify_eq_gather]
    exact .gather (Check.run_perm h hdistinct hstart) Check.all
  by_cases hdistinct : (grammar.productions.map Production.name).Nodup
  · exact ⟨(hperm hdistinct).isValid_eq, (hperm hdistinct).isClean_eq, hperm⟩
  · have hdistinct' : ¬ (grammar'.productions.map Production.name).Nodup := by
      intro hnodup
      exact hdistinct ((h.map Production.name).nodup_iff.mpr hnodup)
    have hinvalid := isValid_verify_of_not_nodup start hdistinct
    have hinvalid' := isValid_verify_of_not_nodup start' hdistinct'
    refine ⟨by rw [hinvalid, hinvalid'], ?_, hperm⟩
    simp only [Findings.isClean, hinvalid, hinvalid', Bool.false_and]

/-- Two errors that follow the productions to which they belong. With a second definition of `A` the
verdict is the same in either order as well, but it is the other definition that comes too late. -/
theorem verify_perm_moved :
    let production (name other : String) (line : Nat) : Production :=
      ⟨name, ⟨"g", ⟨0, line, 1⟩⟩, some (.group (.name ⟨other, ⟨"g", ⟨0, line, 5⟩⟩⟩))⟩
    let a := production "A" "Missing" 1
    let b := production "B" "Lost" 2
    let c := production "C" "A" 3
    let again := production "A" "B" 4
    let missing := "g:1:5: \x60A\x60 references undefined production \x60Missing\x60"
    let lost := "g:2:5: \x60B\x60 references undefined production \x60Lost\x60"
    ((verify ⟨[a, b, c]⟩ ["B", "A"]).errors = [missing, lost] ∧
      (verify ⟨[c, b, a]⟩ ["A", "B"]).errors = [lost, missing] ∧
      (verify ⟨[a, b, c]⟩ ["B", "A"]).Perm (verify ⟨[c, b, a]⟩ ["A", "B"])) ∧
    (verify ⟨[a, again]⟩ ["A"]).isValid = (verify ⟨[again, a]⟩ ["A"]).isValid ∧
      ¬ (verify ⟨[a, again]⟩ ["A"]).Perm (verify ⟨[again, a]⟩ ["A"]) := by
  intro production a b c again missing lost
  refine ⟨⟨by decide, by decide, ?_⟩, ?_, ?_⟩
  · apply (verify_perm (List.reverse_perm [c, b, a]) (List.reverse_perm ["A", "B"])).2.2
    decide
  · exact (verify_perm (.swap again a []) (.refl ["A"])).1
  · intro h
    have hmem : "g:4:1: production \x60A\x60 redefined (first defined at g:1:1)" ∈
        (verify ⟨[again, a]⟩ ["A"]).errors := h.errors.mem_iff.mp (by decide)
    revert hmem
    decide

end Grammar
end MailRules.Ebnf

import Mathlib.Order.Bounds.Basic
import MailRules.Proofs.Ebnf.Reachability

/-!
# The names that the start symbols lead to, as a least set

A set of names is closed if it has the start symbols and, with each name that has a production,
the names used anywhere in the first production of that name. The reachable names are the least
closed set: they are closed, and every closed set has them.

The order in which the walk of the check visits names is nowhere to be seen in this set, so its
warnings follow the productions, and neither the order of the start symbols nor saying one of
them twice makes a difference.
-/

namespace MailRules.Ebnf

namespace Grammar

/-- The names include the start symbols and all names that their first productions refer to. -/
structure Closed (grammar : Grammar) (start : List String) (names : Set String) : Prop where
  start : ∀ name ∈ start, name ∈ names
  reference : ∀ name ∈ names, ∀ production, grammar.get? name = some production →
    ∀ symbol, production.HasLeaf (.name symbol) → symbol.text ∈ names

/-- The names that the start symbols lead to. -/
def reachable (grammar : Grammar) (start : List String) : Set String :=
  {name | Reachable grammar.productions start name}

variable {grammar : Grammar} {start start' : List String}

theorem closed_reachable : grammar.Closed start (grammar.reachable start) where
  start _ h := .start h
  reference _ h _ hfirst _ hleaf := .reference h hfirst hleaf

/-- Every name was put in by a rule that a closed set obeys. -/
theorem Closed.reachable_subset {names : Set String} (h : grammar.Closed start names) :
    grammar.reachable start ⊆ names := by
  intro name hname
  induction hname with
  | start hstart => exact h.start _ hstart
  | reference _ hfirst hleaf ih => exact h.reference _ ih _ hfirst _ hleaf

theorem isLeast_reachable :
    IsLeast {names | grammar.Closed start names} (grammar.reachable start) :=
  ⟨closed_reachable, fun _ h => h.reachable_subset⟩

/-- It matters which names are start symbols, and nothing else about the list of them. -/
theorem reachable_congr (h : ∀ name, name ∈ start' ↔ name ∈ start) :
    grammar.reachable start' = grammar.reachable start := by
  ext name
  constructor
  · exact fun hname => hname.mono fun other hother => .start ((h other).mp hother)
  · exact fun hname => hname.mono fun other hother => .start ((h other).mpr hother)

end Grammar

namespace Check

open Classical in
theorem run_reachability_eq (grammar : Grammar) (start : List String) :
    Check.reachability.run grammar start =
      { warnings := (grammar.productions.filter fun production =>
          production.name ∉ grammar.reachable start).map unreachedWarning } := by
  rw [run, unreached_eq_filter]
  rfl

open Classical in
/-- There is one warning for each production whose name is not in the least closed set, in the
order of the productions. The order of the start symbols and their repetition make no
difference. -/
theorem reachability_warns_outside_least (grammar : Grammar) (start : List String) :
    IsLeast {names | grammar.Closed start names} (grammar.reachable start) ∧
      Check.reachability.run grammar start =
        { warnings := (grammar.productions.filter fun production =>
            production.name ∉ grammar.reachable start).map unreachedWarning } ∧
      ∀ start', (∀ name, name ∈ start' ↔ name ∈ start) →
        Check.reachability.run grammar start' = Check.reachability.run grammar start := by
  refine ⟨Grammar.isLeast_reachable, run_reachability_eq grammar start, ?_⟩
  intro start' hsame
  rw [run_reachability_eq, run_reachability_eq, Grammar.reachable_congr hsame]

/-- Names that refer to each other, a name without a production, and a name with two productions
of which only the first one leads anywhere. -/
theorem reachability_warns_outside_least_cyclic :
    let symbol (text : String) : Symbol := ⟨text, ⟨"", .start⟩⟩
    let production (name : String) (names : List String) : Production :=
      ⟨name, ⟨"", .start⟩, some (.repetition (.sequence (names.map (.name ∘ symbol))))⟩
    let grammar : Grammar := ⟨[production "A" ["B", "Missing"], production "B" ["A", "B"],
      production "C" ["C"], production "A" ["C"]]⟩
    (Check.reachability.run grammar ["A", "Missing"]).warnings =
        ["1:1: production `C` is unreachable"] ∧
      Check.reachability.run grammar ["Missing", "A", "Missing"] =
        Check.reachability.run grammar ["A", "Missing"] := by
  intro symbol production grammar
  obtain ⟨-, -, hsame⟩ := reachability_warns_outside_least grammar ["A", "Missing"]
  have hunreached :
      unreached grammar.productions ["A", "Missing"] = [production "C" ["C"]] := by
    cbv
  refine ⟨?_, hsame _ ?_⟩
  · rw [run, hunreached]
    decide
  · intro name
    simp [or_left_comm]

end Check
end MailRules.Ebnf

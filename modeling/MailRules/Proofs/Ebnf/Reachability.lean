import MailRules.Ebnf.Check
import MailRules.Proofs.Ebnf.Leaf

/-!
# Reachable names

A name is reachable if it is a start symbol or is used in the first production of a
reachable name. A name without a production may be reachable too; it only leads nowhere.

The walk of the check takes the productions of a name away once it has followed this name.
What the name leads to is by then in the queue, so taking its productions away changes
nothing about the names that are still to be found. The invariant of the walk is therefore
reachability itself, from the queue and by the productions that are left.
-/

namespace MailRules.Ebnf

/-- The start symbols lead to the name by references from production to production. -/
inductive Reachable (productions : List Production) (start : List String) : String → Prop where
  | start {name : String} (h : name ∈ start) : Reachable productions start name
  | reference {name : String} {production : Production} {symbol : Symbol}
      (h : Reachable productions start name)
      (hfirst : productions.find? (·.name = name) = some production)
      (hleaf : production.HasLeaf (.name symbol)) : Reachable productions start symbol.text

namespace Reachable

variable {productions : List Production} {start queue : List String} {name other : String}

/-- More start symbols lead to more names. -/
theorem mono {start' : List String} (hstart : ∀ name ∈ start, Reachable productions start' name)
    (h : Reachable productions start name) : Reachable productions start' name := by
  induction h with
  | start h => exact hstart _ h
  | reference _ hfirst hleaf ih => exact .reference ih hfirst hleaf

/-- A start symbol without a production leads to itself only. -/
theorem cons_iff_of_none (hnone : productions.find? (·.name = name) = none) :
    Reachable productions (name :: queue) other ↔
      other = name ∨ Reachable productions queue other := by
  constructor
  · intro h
    induction h with
    | start h => exact (List.mem_cons.mp h).imp_right .start
    | reference _ hfirst hleaf ih =>
        rcases ih with rfl | ih
        · cases hnone.symm.trans hfirst
        · exact .inr (.reference ih hfirst hleaf)
  · rintro (rfl | h)
    · exact .start List.mem_cons_self
    · exact h.mono fun name hname => .start (List.mem_cons_of_mem _ hname)

end Reachable

namespace Check

/-- Taking the productions of one name away keeps the first production of another one. -/
theorem find?_without {name other : String} (h : other ≠ name) (productions : List Production) :
    (without name productions).find? (·.name = other) = productions.find? (·.name = other) := by
  rw [without, List.find?_filter]
  congr 1
  funext production
  by_cases hname : production.name = other
  · simp [hname, h]
  · simp [hname]

theorem find?_without_self (name : String) (productions : List Production) :
    (without name productions).find? (·.name = name) = none := by
  simp [without]

/-- Following a start symbol: what its first production refers to takes its place, and its
productions are needed no more. -/
theorem reachable_cons_iff_of_some {productions : List Production} {queue : List String}
    {name other : String} {production : Production}
    (hsome : productions.find? (·.name = name) = some production) :
    Reachable productions (name :: queue) other ↔
      other = name ∨ Reachable (without name productions)
        (queue ++ production.references.map Symbol.text) other := by
  constructor
  · intro h
    induction h with
    | start h =>
        exact (List.mem_cons.mp h).imp_right fun h => .start (List.mem_append_left _ h)
    | @reference parent production' symbol _ hfirst hleaf ih =>
        refine .inr ?_
        by_cases hparent : parent = name
        · obtain rfl : production = production' := by
            rw [hparent] at hfirst
            exact Option.some.inj (hsome.symm.trans hfirst)
          have hmem := Production.mem_references_iff.mpr hleaf
          exact .start (List.mem_append_right _ (List.mem_map_of_mem hmem))
        · rw [← find?_without hparent] at hfirst
          exact .reference (ih.resolve_left hparent) hfirst hleaf
  · rintro (rfl | h)
    · exact .start List.mem_cons_self
    · have hname : Reachable productions (name :: queue) name := .start List.mem_cons_self
      -- No step goes on from `name` here: its productions have been taken away.
      induction h with
      | start h =>
          rcases List.mem_append.mp h with h | h
          · exact .start (List.mem_cons_of_mem _ h)
          · obtain ⟨symbol, hsymbol, rfl⟩ := List.mem_map.mp h
            exact hname.reference hsome (Production.mem_references_iff.mp hsymbol)
      | @reference parent production' symbol _ hfirst hleaf ih =>
          have hparent : parent ≠ name := by
            rintro rfl
            cases (find?_without_self parent productions).symm.trans hfirst
          rw [find?_without hparent] at hfirst
          exact ih.reference hfirst hleaf

open Classical in
/-- The walk leaves exactly the productions whose names are not reachable, in their order. -/
theorem unreached_eq_filter (pending : List Production) (queue : List String) :
    unreached pending queue =
      pending.filter fun production => ¬ Reachable pending queue production.name := by
  fun_induction unreached pending queue with
  | case1 pending =>
      have hnone : ∀ name, ¬ Reachable pending [] name := by
        intro name h
        induction h with
        | start h => cases h
        | reference _ _ _ ih => exact ih
      exact (List.filter_eq_self.mpr fun production _ => by simp [hnone]).symm
  | case2 pending name queue hnone ih =>
      rw [ih]
      refine List.filter_congr fun production hproduction => ?_
      have hname : production.name ≠ name := by
        simpa using List.find?_eq_none.mp hnone production hproduction
      simp [Reachable.cons_iff_of_none hnone, hname]
  | case3 pending name queue production hsome ih =>
      rw [ih, without, List.filter_filter]
      refine List.filter_congr fun other _ => ?_
      simp [reachable_cons_iff_of_some hsome, without, Bool.and_comm]

end Check
end MailRules.Ebnf

import MailRules.Ebnf.Grammar

/-!
# The leaves of a form

A name, a terminal or a range is a leaf of every form in which it occurs, at any depth and
within brackets of any kind. This is said without an order. The list of the leaves has them
in the order of the text, and has no others.
-/

namespace MailRules.Ebnf

/-- `leaf` is a name, a terminal or a range that occurs in `form`. -/
inductive Form.Leaf : (form leaf : Form) → Prop where
  | name (symbol : Symbol) : Leaf (.name symbol) (.name symbol)
  | token (symbol : Symbol) : Leaf (.token symbol) (.token symbol)
  | range (first last : Symbol) : Leaf (.range first last) (.range first last)
  | group {inner leaf : Form} (h : Leaf inner leaf) : Leaf (.group inner) leaf
  | option {inner leaf : Form} (h : Leaf inner leaf) : Leaf (.option inner) leaf
  | repetition {inner leaf : Form} (h : Leaf inner leaf) : Leaf (.repetition inner) leaf
  | sequence {items : List Form} {item leaf : Form} (hitem : item ∈ items) (h : Leaf item leaf) :
      Leaf (.sequence items) leaf
  | alternative {branches : List Form} {branch leaf : Form} (hbranch : branch ∈ branches)
      (h : Leaf branch leaf) : Leaf (.alternative branches) leaf

namespace Form

theorem leavesAll_eq_flatMap (forms : List Form) : leavesAll forms = forms.flatMap leaves := by
  induction forms with
  | nil => rfl
  | cons form rest ih => rw [leavesAll, ih, List.flatMap_cons]

theorem leaf_of_mem_leaves : ∀ {form leaf : Form}, leaf ∈ form.leaves → form.Leaf leaf
  | .name symbol, leaf, h => List.mem_singleton.mp h ▸ .name symbol
  | .token symbol, leaf, h => List.mem_singleton.mp h ▸ .token symbol
  | .range first last, leaf, h => List.mem_singleton.mp h ▸ .range first last
  | .group inner, leaf, h => .group (leaf_of_mem_leaves h)
  | .option inner, leaf, h => .option (leaf_of_mem_leaves h)
  | .repetition inner, leaf, h => .repetition (leaf_of_mem_leaves h)
  | .sequence items, leaf, h => by
    rw [leaves, leavesAll_eq_flatMap] at h
    obtain ⟨item, hitem, hleaf⟩ := List.mem_flatMap.mp h
    exact .sequence hitem (leaf_of_mem_leaves hleaf)
  | .alternative branches, leaf, h => by
    rw [leaves, leavesAll_eq_flatMap] at h
    obtain ⟨branch, hbranch, hleaf⟩ := List.mem_flatMap.mp h
    exact .alternative hbranch (leaf_of_mem_leaves hleaf)

theorem Leaf.mem_leaves {form leaf : Form} (h : form.Leaf leaf) : leaf ∈ form.leaves := by
  induction h with
  | name symbol => exact List.mem_singleton_self _
  | token symbol => exact List.mem_singleton_self _
  | range first last => exact List.mem_singleton_self _
  | group _ ih => exact ih
  | option _ ih => exact ih
  | repetition _ ih => exact ih
  | sequence hitem _ ih =>
      rw [leaves, leavesAll_eq_flatMap]
      exact List.mem_flatMap.mpr ⟨_, hitem, ih⟩
  | alternative hbranch _ ih =>
      rw [leaves, leavesAll_eq_flatMap]
      exact List.mem_flatMap.mpr ⟨_, hbranch, ih⟩

/-- The list of the leaves has every leaf and nothing else. -/
theorem mem_leaves_iff {form leaf : Form} : leaf ∈ form.leaves ↔ form.Leaf leaf :=
  ⟨leaf_of_mem_leaves, Leaf.mem_leaves⟩

theorem mem_references_iff {form : Form} {symbol : Symbol} :
    symbol ∈ form.references ↔ form.Leaf (.name symbol) := by
  rw [references, List.mem_filterMap, ← mem_leaves_iff]
  constructor
  · rintro ⟨leaf, hleaf, hsymbol⟩
    cases leaf with
    | name symbol' => exact Option.some.inj hsymbol ▸ hleaf
    | _ => cases hsymbol
  · exact fun h => ⟨_, h, rfl⟩

end Form

namespace Production

/-- The leaf occurs in the body of the production. -/
def HasLeaf (production : Production) (leaf : Form) : Prop :=
  ∃ form, production.body = some form ∧ form.Leaf leaf

theorem mem_leaves_iff {production : Production} {leaf : Form} :
    leaf ∈ production.leaves ↔ production.HasLeaf leaf := by
  unfold leaves HasLeaf
  cases production.body with
  | none => simp
  | some form => simp [Form.mem_leaves_iff]

theorem mem_references_iff {production : Production} {symbol : Symbol} :
    symbol ∈ production.references ↔ production.HasLeaf (.name symbol) := by
  unfold references HasLeaf
  cases production.body with
  | none => simp
  | some form => simp [Form.mem_references_iff]

end Production
end MailRules.Ebnf

import MailRules.Proofs.Ebnf.Denotation
import MailRules.Proofs.Ebnf.Leaf

/-!
# What is said about the terminals of a grammar

A range has two bounds, either of which may stand for no character, and if both stand for one they
may be in the wrong order. At most one of these is reported: a bad first bound hides a bad last
one, and the order is only looked at where there is one.

The check goes through all leaves and says about each what is to be said about it alone. Its
errors are therefore cut into one report for each leaf, in the order of the text.
-/

namespace MailRules.Ebnf

/-- What there is to say about the bounds of a range. -/
inductive RangeReport (first last : Symbol) : (report : List String) → Prop where
  | fits {low high : Char} (hlow : Denotes first.text.toList low)
      (hhigh : Denotes last.text.toList high) (h : low ≤ high) : RangeReport first last []
  | reversed {low high : Char} (hlow : Denotes first.text.toList low)
      (hhigh : Denotes last.text.toList high) (h : high < low) :
      RangeReport first last
        [s!"{first.position.render}: empty range `{first.text}` … `{last.text}`"]
  | badFirst (h : ∀ c, ¬ Denotes first.text.toList c) :
      RangeReport first last
        [s!"{first.position.render}: range bound `{first.text}` is not a single character"]
  | badLast {low : Char} (hlow : Denotes first.text.toList low)
      (h : ∀ c, ¬ Denotes last.text.toList c) :
      RangeReport first last
        [s!"{last.position.render}: range bound `{last.text}` is not a single character"]

/-- What there is to say about a leaf. Names are not looked at here. -/
inductive LeafReport : (leaf : Form) → (report : List String) → Prop where
  | name (symbol : Symbol) : LeafReport (.name symbol) []
  | token {symbol : Symbol} (h : symbol.text ≠ "") : LeafReport (.token symbol) []
  | emptyToken {symbol : Symbol} (h : symbol.text = "") :
      LeafReport (.token symbol) [s!"{symbol.position.render}: empty token"]
  | range {first last : Symbol} {report : List String} (h : RangeReport first last report) :
      LeafReport (.range first last) report

/-- A text stands for one character at most. -/
theorem Denotes.unique {text : List Char} {c d : Char} (hc : Denotes text c)
    (hd : Denotes text d) : c = d := by
  have hfound := Check.denoted?_of_denotes hc
  rw [Check.denoted?_of_denotes hd] at hfound
  exact (Option.some.inj hfound).symm

namespace Check

theorem denoted?_eq_none_iff {text : List Char} :
    denoted? text = none ↔ ∀ c, ¬ Denotes text c := by
  simp only [Option.eq_none_iff_forall_ne_some, ne_eq, denoted?_eq_some_iff]

theorem rangeReport_tokenError? (first last : Symbol) :
    RangeReport first last (tokenError? (.range first last)).toList := by
  rw [tokenError?]
  cases hfirst : denoted? first.text.toList with
  | none => exact .badFirst (denoted?_eq_none_iff.mp hfirst)
  | some low =>
      have hlow := denotes_of_denoted? hfirst
      cases hlast : denoted? last.text.toList with
      | none => exact .badLast hlow (denoted?_eq_none_iff.mp hlast)
      | some high =>
          have hhigh := denotes_of_denoted? hlast
          by_cases h : high < low
          · simp only [if_pos h]
            exact .reversed hlow hhigh h
          · simp only [if_neg h]
            exact .fits hlow hhigh (Char.not_lt.mp h)

theorem tokenError?_of_rangeReport {first last : Symbol} {report : List String}
    (h : RangeReport first last report) : report = (tokenError? (.range first last)).toList := by
  rw [tokenError?]
  cases h with
  | fits hlow hhigh h =>
      have hle := Char.not_lt.mpr h
      simp only [denoted?_of_denotes hlow, denoted?_of_denotes hhigh, if_neg hle]
      rfl
  | reversed hlow hhigh h =>
      simp only [denoted?_of_denotes hlow, denoted?_of_denotes hhigh, if_pos h]
      rfl
  | badFirst h =>
      rw [denoted?_eq_none_iff.mpr h]
      rfl
  | badLast hlow h =>
      rw [denoted?_of_denotes hlow, denoted?_eq_none_iff.mpr h]
      rfl

/-- What the check finds wrong with a range is all there is to say about it. -/
theorem rangeReport_iff {first last : Symbol} {report : List String} :
    RangeReport first last report ↔ report = (tokenError? (.range first last)).toList := by
  refine ⟨tokenError?_of_rangeReport, ?_⟩
  rintro rfl
  exact rangeReport_tokenError? first last

/-- Every leaf is looked at, within whatever brackets it stands. -/
theorem leafReport_tokenError? {form leaf : Form} (h : form.Leaf leaf) :
    LeafReport leaf (tokenError? leaf).toList := by
  induction h with
  | name symbol => exact .name symbol
  | token symbol =>
      rw [tokenError?]
      by_cases hempty : symbol.text = ""
      · rw [if_pos (String.isEmpty_iff.mpr hempty)]
        exact .emptyToken hempty
      · rw [if_neg (String.isEmpty_iff.not.mpr hempty)]
        exact .token hempty
  | range first last => exact .range (rangeReport_tokenError? first last)
  | group _ ih => exact ih
  | option _ ih => exact ih
  | repetition _ ih => exact ih
  | sequence _ _ ih => exact ih
  | alternative _ _ ih => exact ih

/-- The errors of the terminals are one report for each leaf, in the order of the text. About a
range there is exactly one thing to say, and a text denotes at most one character. -/
theorem run_tokens_reports (grammar : Grammar) (start : List String) :
    (∀ text c d, Denotes text c → Denotes text d → c = d) ∧
      (∀ first last, ∃! report, RangeReport first last report) ∧
      ∃ reports, List.Forall₂ LeafReport (grammar.productions.flatMap Production.leaves) reports ∧
        run grammar start tokens = { errors := reports.flatten } := by
  refine ⟨fun text c d => Denotes.unique, ?_, ?_⟩
  · intro first last
    refine ⟨_, rangeReport_tokenError? first last, ?_⟩
    intro report h
    exact rangeReport_iff.mp h
  · refine ⟨(grammar.productions.flatMap Production.leaves).map (tokenError? · |>.toList), ?_, ?_⟩
    · rw [List.forall₂_map_right_iff, List.forall₂_same]
      intro leaf hleaf
      obtain ⟨production, _, hmem⟩ := List.mem_flatMap.mp hleaf
      obtain ⟨form, _, h⟩ := Production.mem_leaves_iff.mp hmem
      exact leafReport_tokenError? h
    · rw [run, ← List.flatMap_def, ← List.filterMap_eq_flatMap_toList, List.filterMap_flatMap]

/-- Digits of either case and escapes of different lengths are no obstacle, only the second range
has its bounds the wrong way round. A sign is no digit, and a surrogate is no character. -/
theorem run_tokens_reports_escapes :
    let symbol (text : String) (column : Nat) : Symbol := ⟨text, "g", ⟨0, 1, column⟩⟩
    let leaves : List Form :=
      [.range (symbol "\\u0041" 5) (symbol "\\U0000005a" 16),
        .range (symbol "\\U0000005A" 31) (symbol "\\x41" 46),
        .range (symbol "\\x+4" 55) (symbol "" 64),
        .range (symbol "a" 69) (symbol "\\uD800" 75)]
    let grammar : Grammar := ⟨[⟨"A", ⟨"g", .start⟩, some (.alternative leaves)⟩]⟩
    let errors := ["g:1:31: empty range \x60\\U0000005A\x60 … \x60\\x41\x60",
      "g:1:55: range bound \x60\\x+4\x60 is not a single character",
      "g:1:75: range bound \x60\\uD800\x60 is not a single character"]
    run grammar [] tokens = { errors := errors } ∧
      (∃ reports, List.Forall₂ LeafReport leaves reports ∧ reports.flatten = errors) ∧
      ∀ c, Denotes "\\U0000005a".toList c ↔ c = 'Z' := by
  intro symbol leaves grammar errors
  have hrun : run grammar [] tokens = { errors := errors } := by decide
  obtain ⟨hunique, -, reports, hreports, hflat⟩ := run_tokens_reports grammar []
  have hz : Denotes "\\U0000005a".toList 'Z' := denotes_of_denoted? (by decide)
  refine ⟨hrun, ⟨reports, ?_, ?_⟩, ?_⟩
  · exact hreports
  · exact congrArg Findings.errors (hflat.symm.trans hrun)
  · intro c
    constructor
    · intro hc
      exact hunique _ c 'Z' hc hz
    · rintro rfl
      exact hz

end Check
end MailRules.Ebnf

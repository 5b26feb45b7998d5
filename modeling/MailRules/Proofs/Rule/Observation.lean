import MailRules.Proofs.Json.Compact
import MailRules.Proofs.Rule.Normal
import MailRules.Rule.Canonical
import MailRules.Rule.Json

/-!
# What the JSON of a rule tells

The JSON of a node has everything the node is made of. A comparator on patterns is given by the
texts of the patterns, which is no loss since a text is compiled in one way only. Together with
the compact text being a value's own, two nodes can be compared by their texts.
-/

namespace MailRules

theorem Json.strings_inj {values values' : List String} :
    Json.strings values = Json.strings values' ↔ values = values' := by
  rw [Json.strings, Json.strings, Json.array.injEq]
  exact (List.map_injective_iff.mpr fun _ _ => Json.string.inj).eq_iff

theorem Json.tagged_inj {name name' : String} {value value' : Json} :
    Json.tagged name value = Json.tagged name' value' ↔ name = name' ∧ value = value' := by
  simp [Json.tagged]

theorem Operator.jsonName_inj {op op' : Operator} : op.jsonName = op'.jsonName ↔ op = op' := by
  cases op <;> cases op' <;> decide

/-- A comparator is given by its operator and its values. -/
theorem Comparator.eq_iff_operator_values {comparator comparator' : Comparator} :
    comparator = comparator' ↔
      comparator.operator = comparator'.operator ∧ comparator.values = comparator'.values := by
  have htexts : Function.Injective (List.map Pattern.text) :=
    List.map_injective_iff.mpr fun _ _ => Pattern.ext_iff_text.mpr
  cases comparator <;> cases comparator' <;> simp [operator, values, htexts.eq_iff]

theorem Comparator.toJson_inj {comparator comparator' : Comparator} :
    comparator.toJson = comparator'.toJson ↔ comparator = comparator' := by
  rw [eq_iff_operator_values]
  simp [toJson, Operator.jsonName_inj, Json.strings_inj]

theorem Expr.toJson_inj {expr expr' : Expr} : expr.toJson = expr'.toJson ↔ expr = expr' := by
  cases expr <;> cases expr' <;>
    simp [toJson, Json.tagged_inj, Json.strings_inj, Comparator.toJson_inj]

theorem Stmt.toJson_inj {stmt stmt' : Stmt} : stmt.toJson = stmt'.toJson ↔ stmt = stmt' := by
  cases stmt <;> cases stmt' <;> simp [toJson, Json.tagged_inj, Json.strings_inj]

/-- No name of a kind of expression is one of a kind of statement. -/
theorem Expr.toJson_ne (expr : Expr) (stmt : Stmt) : expr.toJson ≠ stmt.toJson := by
  cases expr <;> cases stmt <;> simp [toJson, Stmt.toJson, Json.tagged_inj]

/-- Nodes are equal exactly if their texts are. What is equal is written alike and applies to the
same, whatever answers for the body and the headers. -/
theorem Expr.same_iff_compact :
    (∀ expr expr' : Expr,
      expr.same expr' = true ↔ expr.toJson.compact = expr'.toJson.compact) ∧
    (∀ stmt stmt' : Stmt, stmt = stmt' ↔ stmt.toJson.compact = stmt'.toJson.compact) ∧
    (∀ (expr : Expr) (stmt : Stmt), expr.toJson.compact ≠ stmt.toJson.compact) ∧
    ∀ expr expr' : Expr, expr.same expr' = true →
      expr.render = expr'.render ∧
        ∀ provider, expr.appliesTo provider = expr'.appliesTo provider := by
  refine ⟨fun expr expr' => ?_, fun stmt stmt' => ?_, fun expr stmt h => ?_,
    fun expr expr' h => ?_⟩
  · rw [same_iff, Json.compact_inj, toJson_inj]
  · rw [Json.compact_inj, Stmt.toJson_inj]
  · exact toJson_ne expr stmt (Json.compact_inj.mp h)
  · obtain rfl := same_iff.mp h
    exact ⟨rfl, fun _ => rfl⟩

/-- Two spellings of one rule, whose pattern has a quote and a backslash. -/
theorem Expr.same_iff_compact_spellings :
    ∃ expr expr', Source.parseExpr { text := "message match `\"\\n`" } = .ok expr ∧
      Source.parseExpr { text := "message matches [`\"\\n`]" } = .ok expr' ∧
      expr.same expr' = true ∧ expr.render = expr'.render ∧
      ∀ provider, expr.appliesTo provider = expr'.appliesTo provider := by
  have hread : ∀ text ∈ ["message match `\"\\n`", "message matches [`\"\\n`]"],
      (Source.parseExpr { text }).toOption.map (fun expr => expr.toJson.compact) =
        some
          "\x7b\"message\":\x7b\"op\":\x7b\"op\":\"match\",\"values\":[\"\\\"\\\\n\"]\x7d\x7d\x7d" := by
    decide +kernel
  obtain ⟨expr, hexpr, hcompact⟩ := Option.map_eq_some_iff.mp (hread _ List.mem_cons_self)
  obtain ⟨expr', hexpr', hcompact'⟩ := Option.map_eq_some_iff.mp
    (hread _ (List.mem_cons_of_mem _ List.mem_cons_self))
  have hsame := (same_iff_compact.1 expr expr').mpr (hcompact.trans hcompact'.symm)
  obtain ⟨hrender, happlies⟩ := same_iff_compact.2.2.2 expr expr' hsame
  exact ⟨expr, expr', eq_ok_of_toOption hexpr, eq_ok_of_toOption hexpr', hsame, hrender, happlies⟩

end MailRules

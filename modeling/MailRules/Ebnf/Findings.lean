/-!
# Findings about a grammar

What the checks of a grammar have to say, in the order in which they say it. A grammar
with errors is invalid; one with any finding is not clean.
-/

namespace MailRules.Ebnf

@[ext]
structure Findings where
  errors : List String := []
  warnings : List String := []
  suggestions : List String := []
  deriving DecidableEq, Repr

namespace Findings

def isValid (findings : Findings) : Bool := findings.errors.isEmpty

def isClean (findings : Findings) : Bool :=
  findings.isValid && findings.warnings.isEmpty && findings.suggestions.isEmpty

/-- Later findings after earlier ones. -/
def append (first second : Findings) : Findings :=
  ⟨first.errors ++ second.errors, first.warnings ++ second.warnings,
    first.suggestions ++ second.suggestions⟩

instance : Append Findings := ⟨append⟩

@[simp] theorem errors_append (first second : Findings) :
    (first ++ second).errors = first.errors ++ second.errors := rfl

@[simp] theorem warnings_append (first second : Findings) :
    (first ++ second).warnings = first.warnings ++ second.warnings := rfl

@[simp] theorem suggestions_append (first second : Findings) :
    (first ++ second).suggestions = first.suggestions ++ second.suggestions := rfl

@[simp] theorem empty_append (findings : Findings) : ({} : Findings) ++ findings = findings := rfl

@[simp] theorem append_empty (findings : Findings) : findings ++ ({} : Findings) = findings := by
  ext1 <;> simp

theorem append_assoc (first second third : Findings) :
    first ++ second ++ third = first ++ (second ++ third) := by
  ext1 <;> simp

end Findings
end MailRules.Ebnf

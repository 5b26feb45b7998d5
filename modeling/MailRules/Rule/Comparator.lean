import MailRules.Pattern

/-!
# Comparators

A comparator relates the values found in a message to the values written in a rule.
It holds as soon as one value found relates to one value written, so nothing found,
or nothing written, never holds.

Each operator has two keywords, for one value and for several, which mean the same.
-/

namespace MailRules

inductive Operator where
  | equal
  | contains
  | search
  deriving DecidableEq, Repr

namespace Operator

def ofKeyword? : String → Option Operator
  | "is" | "are" => some equal
  | "contains" | "contain" => some contains
  | "matches" | "match" => some search
  | _ => none

/-- The keyword used in writing. -/
def keyword : Operator → String
  | equal => "is"
  | contains => "contains"
  | search => "matches"

@[simp] theorem ofKeyword?_keyword (op : Operator) : ofKeyword? op.keyword = some op := by
  cases op <;> rfl

end Operator

inductive Comparator where
  | equal (targets : List String)
  | contains (targets : List String)
  | search (patterns : List Pattern)
  deriving DecidableEq

/-- Why a keyword and values make no comparator. -/
inductive Comparator.Refusal where
  | unknownOperator
  /-- The value at `index` is no pattern. -/
  | invalidPattern (index : Nat) (fault : Pattern.Fault)
  deriving DecidableEq

namespace Comparator

/-- The patterns that the values denote; the first bad one fails the lot. Indices count
from `index`. -/
def compileFrom (index : Nat) : List String → Except Refusal (List Pattern)
  | [] => .ok []
  | value :: rest =>
    match Pattern.compile value with
    | .ok pattern => return pattern :: (← compileFrom (index + 1) rest)
    | .error fault => .error (.invalidPattern index fault)

def ofOperator : Operator → List String → Except Refusal Comparator
  | .equal, values => .ok (equal values)
  | .contains, values => .ok (contains values)
  | .search, values => return search (← compileFrom 0 values)

/-- The comparator that a keyword and values stand for. -/
def ofKeyword (keyword : String) (values : List String) : Except Refusal Comparator :=
  match Operator.ofKeyword? keyword with
  | some op => ofOperator op values
  | none => .error .unknownOperator

def operator : Comparator → Operator
  | equal _ => .equal
  | contains _ => .contains
  | search _ => .search

/-- The values as written in the rule. -/
def values : Comparator → List String
  | equal targets | contains targets => targets
  | search patterns => patterns.map Pattern.text

/-- The comparators are equal. Patterns are compared by their texts, place by place. -/
def same : Comparator → Comparator → Bool
  | equal targets, equal targets' => targets == targets'
  | contains targets, contains targets' => targets == targets'
  | search patterns, search patterns' =>
    patterns.length == patterns'.length &&
      (patterns.zip patterns').all fun pair => pair.1.text == pair.2.text
  | _, _ => false

/-- `part` occurs in `text`. -/
def occursIn (part : List Char) : List Char → Bool
  | [] => part.isEmpty
  | c :: rest => part.isPrefixOf (c :: rest) || occursIn part rest

/-- One value found relates to one value written. -/
def relates (comparator : Comparator) (found : String) : Bool :=
  match comparator with
  | equal targets => targets.any (found == ·)
  | contains targets => targets.any fun target => occursIn target.toList found.toList
  | search patterns => patterns.any (·.matchesIn found)

def holds (comparator : Comparator) (found : List String) : Bool := found.any comparator.relates

end Comparator
end MailRules

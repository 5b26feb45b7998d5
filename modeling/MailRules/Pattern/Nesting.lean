import MailRules.Pattern.Group

/-!
# The nesting limit

Every repetition, group, sequence, list of alternatives, bracket, list of members
and set operator counts as one level. The first node beyond the limit, in order of
appearance, is to blame.
-/

namespace MailRules.Pattern

/-- Enters a level at `extent` below `depth` others. -/
def enter (extent : Extent) (depth : Nat) : Except Fault Nat :=
  if depth < nestingLimit then
    .ok (depth + 1)
  else
    .error { kind := .nestingTooDeep, extent }

namespace Class

mutual

def checkNesting (depth : Nat) : Class → Except Fault Unit
  | .literal _ | .range .. | .named .. | .shorthand .. | .property .. => .ok ()
  | .bracket extent _ body => do body.checkNesting (← enter extent depth)
  | .union extent members =>
    if members.isEmpty then .ok () else do checkAll (← enter extent depth) members
  | .combine extent _ left right => do
    let depth ← enter extent depth
    left.checkNesting depth
    right.checkNesting depth

def checkAll (depth : Nat) : List Class → Except Fault Unit
  | [] => .ok ()
  | member :: rest => do
    member.checkNesting depth
    checkAll depth rest

end

end Class

namespace Node

mutual

def checkNesting (depth : Nat) : Node → Except Fault Unit
  | .empty _ | .flags .. | .literal _ | .dot _ | .assertion .. => .ok ()
  | .chars cls => cls.checkNesting depth
  | .repetition extent _ _ body => do body.checkNesting (← enter extent depth)
  | .group extent _ body => do body.checkNesting (← enter extent depth)
  | .sequence extent items => do checkAll (← enter extent depth) items
  | .alternation extent branches => do checkAll (← enter extent depth) branches

def checkAll (depth : Nat) : List Node → Except Fault Unit
  | [] => .ok ()
  | node :: rest => do
    node.checkNesting depth
    checkAll depth rest

end

end Node
end MailRules.Pattern

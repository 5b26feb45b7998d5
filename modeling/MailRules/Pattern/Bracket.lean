import MailRules.Pattern.Escape

/-!
# Bracketed character classes

Brackets hold characters, ranges, escape sequences for sets, named classes and
further brackets, combined by the operators `&&`, `--` and `~~`. The operators bind
equally and to the left, and less tightly than standing side by side. Right after
the opening, hyphens and then a closing bracket stand for themselves.
-/

namespace MailRules.Pattern.Reader

def namedClass? (name : List Char) : Option NamedClass :=
  match String.ofList name with
  | "alnum" => some .alnum
  | "alpha" => some .alpha
  | "ascii" => some .ascii
  | "blank" => some .blank
  | "cntrl" => some .cntrl
  | "digit" => some .digit
  | "graph" => some .graph
  | "lower" => some .lower
  | "print" => some .print
  | "punct" => some .punct
  | "space" => some .space
  | "upper" => some .upper
  | "word" => some .word
  | "xdigit" => some .xdigit
  | _ => none

/-- A named class such as `[:alpha:]` or `[:^alpha:]`. Anything else is left for a
nested bracket, even if it begins alike. -/
def named? : Reader (Option Class) := do
  let state ← get
  let opens := ['[', ':'].isPrefixOf state.rest
  let text := state.rest.drop 2
  let negated := text.head? == some '^'
  let text := if negated then text.tail else text
  let name := text.takeWhile (· ≠ ':')
  match namedClass? name with
  | some kind =>
    if opens ∧ [':', ']'].isPrefixOf (text.drop name.length) then
      let length := 2 + negated.toNat + name.length + 2
      let here := state.here.after (state.rest.take length)
      set { state with rest := state.rest.drop length, here }
      return some (.named ⟨state.here, here⟩ kind negated)
    return none
  | none => return none

/-- A bracket just opened. -/
structure Opening where
  extent : Extent
  negated : Bool
  /-- Where its first member stands. -/
  inside : Location
  /-- Characters that stand for themselves because they come first. -/
  members : List Class

def literalHere (char : Char) : Reader Class := return .literal { extent := ← next, char }

/-- Hyphens right after the opening. -/
def leadingHyphens (start : Location) : Nat → Reader (List Class)
  | 0 => return []
  | bound + 1 => do
    if (← peek?) = some '-' then
      let hyphen ← literalHere '-'
      if (← advance).isNone then
        fail .classUnclosed (.single start)
      return hyphen :: (← leadingHyphens start bound)
    return []

/-- Moves on within an opening that has to go on. -/
def advanceWithin (start : Location) : Reader Unit := do
  if (← advance).isNone then
    fail .classUnclosed (← since start)

def opening : Reader Opening := do
  let start ← here
  advanceWithin start
  let negated := (← peek?) == some '^'
  if negated then
    advanceWithin start
  let inside ← here
  let hyphens ← leadingHyphens start (← remaining)
  let mut members := hyphens
  if hyphens.isEmpty ∧ (← peek?) = some ']' then
    members := [← literalHere ']']
    advanceWithin start
  return { extent := ← since start, negated, inside, members }

/-- A member that stands alone. -/
def alone : Primitive → Reader Class
  | .literal l => return .literal l
  | .chars cls => return cls
  | .assertion extent _ | .dot extent => fail .classEscapeInvalid extent

/-- A member that bounds a range. -/
def bound : Primitive → Reader Literal
  | .literal l => return l
  | other => fail .classRangeLiteral other.extent

/-- A member or a range. A hyphen before a closing bracket or another hyphen makes
no range. -/
def memberOrRange (opened : Extent) : Reader Class := do
  let first ← member
  skipBlanks
  match ← peek? with
  | none => fail .classUnclosed opened
  | some '-' =>
    let beyond ← peekBeyondBlanks?
    if beyond = some ']' ∨ beyond = some '-' then
      alone first
    else
      if (← advance).isNone then
        fail .classUnclosed opened
      let last ← member
      let extent : Extent := ⟨first.extent.first, last.extent.last⟩
      let first ← bound first
      let last ← bound last
      if last.char < first.char then
        fail .classRangeInvalid extent
      return .range extent first last
  | some _ => alone first

/-- The operator that comes next. -/
def operator? : Reader (Option SetOperator) := do
  match ← peek?, ← peekSecond? with
  | some '&', some '&' => return some .intersection
  | some '-', some '-' => return some .difference
  | some '~', some '~' => return some .symmetricDifference
  | _, _ => return none

/-- The left side of an operator that waits for its right side. -/
abbrev Pending := Option (SetOperator × Class)

def Pending.close : Pending → Class → Class
  | none, right => right
  | some (operator, left), right =>
    .combine ⟨left.extent.first, right.extent.last⟩ operator left right

/-- The body of a bracket up to its closing, members in reverse. -/
def body (opened : Extent) : Nat → Location → List Class → Pending → Reader Class
  | 0, _, _, _ => fail .classUnclosed opened
  | bound + 1, inside, members, pending => do
    skipBlanks
    let side := Class.ofMembers inside members.reverse
    match ← peek? with
    | none => fail .classUnclosed opened
    | some ']' => return pending.close side
    | some '[' =>
      if let some named ← named? then
        body opened bound inside (named :: members) pending
      else
        let nested ← opening
        let inner ← body nested.extent bound nested.inside nested.members.reverse none
        bump
        let cls := .bracket (← since nested.extent.first) nested.negated inner
        body opened bound inside (cls :: members) pending
    | some _ =>
      if let some operator ← operator? then
        bump
        bump
        body opened bound (← here) [] (some (operator, pending.close side))
      else
        let cls ← memberOrRange opened
        body opened bound inside (cls :: members) pending

/-- A bracket, from its opening to its closing. -/
def bracket : Reader Class := do
  let opened ← opening
  let inner ← body opened.extent ((← remaining) + 1) opened.inside opened.members.reverse none
  bump
  return .bracket (← since opened.extent.first) opened.negated inner

end MailRules.Pattern.Reader

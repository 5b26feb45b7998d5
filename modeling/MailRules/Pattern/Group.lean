import MailRules.Pattern.Bracket

/-!
# Groups, alternatives and repetition

A pattern is a list of alternatives, each a sequence of items; a group holds the
same between parentheses. A repetition operator takes the item before it. Flags
that a group does not confine to itself hold to the end of the group around them.
-/

namespace MailRules.Pattern.Reader

def flag? : Char → Option Flag
  | 'i' => some .ignoreCase
  | 'm' => some .multiLine
  | 's' => some .dotMatchesNewline
  | 'U' => some .swapGreed
  | 'u' => some .unicode
  | 'R' => some .crlf
  | 'x' => some .ignoreWhitespace
  | _ => none

/-- The flags read so far, and where each was written. -/
structure FlagsRead where
  changes : List (Flag × Bool × Extent) := []
  negation : Option Extent := none
  /-- The sign read last was the negation. -/
  dangling : Bool := false

/-- Flags up to the colon or the parenthesis that ends them. -/
def flags (read : FlagsRead) : Nat → Reader FlagsRead
  | 0 => return read
  | bound + 1 => do
    let extent ← next
    match ← peek? with
    | none => return read
    | some c =>
      if c = ':' ∨ c = ')' then
        match read.dangling, read.negation with
        | true, some sign => fail .flagDanglingNegation sign
        | _, _ => return read
      let more ←
        if c = '-' then
          if let some earlier := read.negation then
            throw { kind := .flagRepeatedNegation, extent, earlier }
          pure { read with negation := some extent, dangling := true }
        else
          let some flag := flag? c | fail .flagUnrecognized extent
          if let some (_, earlier) := read.changes.lookup flag then
            throw { kind := .flagDuplicate, extent, earlier }
          let changes := read.changes ++ [(flag, read.negation.isNone, extent)]
          pure { read with changes, dangling := false }
      bump
      if (← peek?).isNone then
        fail .flagUnexpectedEnd (← next)
      flags more bound

def isNameStart (c : Char) : Bool := c = '_' || Unicode.isAlphabetic c

def isNameChar (c : Char) : Bool :=
  c = '_' || c = '.' || c = '[' || c = ']' || Unicode.isAlphanumeric c

/-- The characters of a group name up to the `>` that ends it. -/
def nameChars (test : Char → Bool) : Nat → Reader (List Char)
  | 0 => do fail .groupNameUnexpectedEnd (← next)
  | bound + 1 => do
    let extent ← next
    match ← peek? with
    | none => fail .groupNameUnexpectedEnd extent
    | some c =>
      if c = '>' then
        return []
      if !test c then
        fail .groupNameInvalid extent
      bump
      return c :: (← nameChars isNameChar bound)

/-- A group name, which no two groups share. -/
def groupName : Reader Unit := do
  let first ← here
  let name ← nameChars isNameStart ((← remaining) + 1)
  let extent ← since first
  bump
  if name.isEmpty then
    fail .groupNameEmpty (.single first)
  if let some earlier := (← get).names.lookup name then
    throw { kind := .groupNameDuplicate, extent, earlier }
  modify fun state => { state with names := (name, extent) :: state.names }

/-- What an opening parenthesis begins. -/
inductive GroupOpening where
  | group (changes : FlagChanges)
  | flags (changes : FlagChanges)

/-- Everything from an opening parenthesis to the body of its group. Flags without a
body end at their own parenthesis. -/
def groupOpening : Reader GroupOpening := do
  let parenthesis ← next
  bump
  skipBlanks
  if (← accept "?=") || (← accept "?!") || (← accept "?<=") || (← accept "?<!") then
    fail .lookAround (← since parenthesis.first)
  let inside ← here
  if (← accept "?P<") || (← accept "?<") then
    groupName
    return .group []
  if !(← accept "?") then
    return .group []
  if (← peek?).isNone then
    fail .groupUnclosed parenthesis
  let read ← flags {} (← remaining)
  let changes := read.changes.map fun (flag, value, _) => (flag, value)
  let stop ← peek?
  bump
  if stop = some ':' then
    return .group changes
  if changes.isEmpty then
    fail .repetitionMissing (.single inside)
  return .flags changes

/-- How often an operator repeats. -/
structure Count where
  least : Nat
  most : Option Nat

/-- The counts in braces, after the opening brace. -/
def countsWithin (brace : Location) (least : Except Fault Nat) : Reader Count := do
  let orThrow (count : Except Fault Nat) : Reader Nat :=
    match count with
    | .ok n => return n
    | .error fault => throw fault
  match ← peek? with
  | none => fail .countUnclosed (← since brace)
  | some ',' =>
    match ← advance with
    | none => fail .countUnclosed (← since brace)
    | some '}' => return { least := ← orThrow least, most := none }
    | some _ =>
      let least ← orThrow least
      let most ← orThrow (← decimal)
      return { least, most }
  | some _ =>
    let n ← orThrow least
    return { least := n, most := n }

/-- Counts in braces, with the question mark that may follow them. -/
def counts : Reader Count := do
  let brace ← here
  if (← advance).isNone then
    fail .countUnclosed (← since brace)
  let count ← countsWithin brace (← decimal)
  if (← peek?) != some '}' then
    fail .countUnclosed (← since brace)
  if (← advance) = some '?' then
    bump
  if count.most.any (· < count.least) then
    fail .countInvalid (← since brace)
  return count

/-- A repetition operator. A question mark after it changes which match is preferred,
not what matches. -/
def operatorCount (sign : Char) : Reader Count := do
  if sign = '{' then
    counts
  else
    bump
    if (← peek?) = some '?' then
      bump
    return match sign with
      | '?' => { least := 0, most := some 1 }
      | '*' => { least := 0, most := none }
      | _ => { least := 1, most := none }

/-- The operator applied to the last item of a branch. -/
def repeatLast (sign : Char) (items : List Node) : Reader (List Node) := do
  match items with
  | operand :: earlier =>
    if operand.isRepeatable then
      let count ← operatorCount sign
      let extent ← since operand.extent.first
      return .repetition extent count.least count.most operand :: earlier
    else
      fail .repetitionMissing (.single (← here))
  | [] => fail .repetitionMissing (.single (← here))

/-- One branch, or the alternatives that end with it. -/
def close (start first stop : Location) (items finished : List Node) : Node :=
  let last := Node.ofItems ⟨first, stop⟩ items.reverse
  match finished with
  | [] => last
  | _ => .alternation ⟨start, stop⟩ (finished.reverse ++ [last])

/-- Sets whether blanks are skipped, if the changes say so. -/
def applyVerbose (changes : FlagChanges) : Reader Unit := do
  if let some verbose := changes.lookup .ignoreWhitespace then
    modify ({ · with verbose })

/-- The alternatives of a group, or of the whole pattern, from the item that begins at
the present place on: `items` of the branch that began at `first`, and `finished`
branches before it, are given in reverse. A group is read up to its closing
parenthesis. -/
def alternatives (opened : Option Extent) (start : Location) :
    Nat → Location → List Node → List Node → Reader Node
  | 0, first, items, finished => return close start first (← here) items finished
  | bound + 1, first, items, finished => do
    let add (item : Node) : Reader Node :=
      alternatives opened start bound first (item :: items) finished
    skipBlanks
    let stop ← here
    match ← peek? with
    | none =>
      match opened with
      | some parenthesis => fail .groupUnclosed parenthesis
      | none => return close start first stop items finished
    | some ')' =>
      match opened with
      | some _ => return close start first stop items finished
      | none => fail .groupUnopened (← next)
    | some '|' =>
      bump
      let branch := Node.ofItems ⟨first, stop⟩ items.reverse
      alternatives opened start bound (← here) [] (branch :: finished)
    | some '(' =>
      let parenthesis ← next
      match ← groupOpening with
      | .flags changes =>
        applyVerbose changes
        add (.flags (← since stop) changes)
      | .group changes =>
        let outer := (← get).verbose
        applyVerbose changes
        let inside ← here
        let inner ← alternatives (some parenthesis) inside bound inside [] []
        modify ({ · with verbose := outer })
        bump
        add (.group (← since stop) changes inner)
    | some '[' => add (.chars (← bracket))
    | some c =>
      if c = '?' ∨ c = '*' ∨ c = '+' ∨ c = '{' then
        alternatives opened start bound first (← repeatLast c items) finished
      else
        add (← primitive).toNode

end Reader

/-- Reads a whole pattern. -/
def Node.read (text : String) : Except Fault Node :=
  let chars := text.toList
  let reader := Reader.alternatives none .start (chars.length + 1) .start [] []
  match reader.run (Reader.start chars) with
  | .ok node _ => .ok node
  | .error fault _ => .error fault

end MailRules.Pattern

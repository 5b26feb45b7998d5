import MailRules.Pattern.Fault
import MailRules.Unicode.Letter

/-!
# Reading a pattern character by character

The reader keeps the rest of the text, the place where it begins, whether blanks
and comments are to be skipped, and the group names seen so far. Reading on is the
only way to change place, and every loop is bounded by the length of the rest.
-/

namespace MailRules.Pattern

structure Reader.State where
  rest : List Char
  here : Location
  verbose : Bool := false
  names : List (List Char × Extent) := []

abbrev Reader := EStateM Fault Reader.State

namespace Reader

open Unicode (isWhiteSpace)

def start (text : List Char) : State := { rest := text, here := .start }

def fail {α : Type} (kind : Fault.Kind) (extent : Extent) : Reader α :=
  throw { kind, extent }

def here : Reader Location := return (← get).here

/-- A bound for loops that read at least one character each time. -/
def remaining : Reader Nat := return (← get).rest.length

/-- The extent from `first` to the present place. -/
def since (first : Location) : Reader Extent := return ⟨first, ← here⟩

def peek? : Reader (Option Char) := return (← get).rest.head?

/-- The character after the next one. -/
def peekSecond? : Reader (Option Char) := return (← get).rest[1]?

/-- The extent of the next character. -/
def next : Reader Extent := do
  let state ← get
  let stop := match state.rest with
    | [] => state.here
    | c :: _ => state.here.advance c
  return ⟨state.here, stop⟩

/-- Moves past one character. -/
def bump : Reader Unit := modify fun state =>
  match state.rest with
  | [] => state
  | c :: rest => { state with rest, here := state.here.advance c }

/-- The rest of a text after its leading blanks and comments, and where it begins.
A comment runs from `#` to the end of the line. -/
def dropBlanks (inComment : Bool) (place : Location) : List Char → List Char × Location
  | [] => ([], place)
  | c :: rest =>
    if inComment then dropBlanks (c ≠ '\n') (place.advance c) rest
    else if isWhiteSpace c then dropBlanks false (place.advance c) rest
    else if c = '#' then dropBlanks true (place.advance c) rest
    else (c :: rest, place)

/-- Moves past blanks and comments where they are to be skipped. -/
def skipBlanks : Reader Unit := modify fun state =>
  if state.verbose then
    let (rest, here) := dropBlanks false state.here state.rest
    { state with rest, here }
  else
    state

/-- Moves past one character and the blanks after it, and looks at what follows. -/
def advance : Reader (Option Char) := do
  bump
  skipBlanks
  peek?

/-- Like `peekSecond?`, looking beyond blanks where they are to be skipped. Of a
comment only its `#` is looked over. -/
def peekBeyondBlanks? : Reader (Option Char) := do
  let state ← get
  let rest := state.rest.tail
  if state.verbose then
    match rest.dropWhile isWhiteSpace with
    | '#' :: comment => return (comment.dropWhile isWhiteSpace).head?
    | found => return found.head?
  else
    return rest.head?

/-- Moves past `text` if it comes next. -/
def accept (text : String) : Reader Bool := do
  let chars := text.toList
  if chars.isPrefixOf (← get).rest then
    chars.forM fun _ => bump
    return true
  else
    return false

/-- The characters from here on that satisfy `test`, blanks between them skipped. -/
def takeWhile (test : Char → Bool) : Nat → Reader (List Char)
  | 0 => return []
  | bound + 1 => do
    match ← peek? with
    | none => return []
    | some c =>
      if test c then
        let _ ← advance
        return c :: (← takeWhile test bound)
      else
        return []

/-- Moves past white space, and in verbose patterns past comments after it. -/
def skipWhiteSpace : Reader Unit := do
  let _ ← takeWhile isWhiteSpace (← remaining)

/-- A decimal number below 2³², white space allowed around it. -/
def decimal : Reader (Except Fault Nat) := do
  modify fun state =>
    let blanks := state.rest.takeWhile isWhiteSpace
    { state with rest := state.rest.drop blanks.length, here := state.here.after blanks }
  let first ← here
  let digits ← takeWhile Char.isDigit (← remaining)
  let extent ← since first
  skipWhiteSpace
  if digits.isEmpty then
    return .error { kind := .countEmpty, extent }
  let value := digits.foldl (fun n c => 10 * n + (c.toNat - '0'.toNat)) 0
  if value < UInt32.size then
    return .ok value
  else
    return .error { kind := .decimalInvalid, extent }

end Reader
end MailRules.Pattern

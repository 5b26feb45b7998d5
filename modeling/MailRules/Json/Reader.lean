import MailRules.Hexadecimal

/-!
# Reading JSON

A text is cut into the tokens of JSON first. A string keeps its value only if its
escapes make up characters; half of a surrogate pair is allowed where the string is
passed over. A value of no interest is passed over with the open brackets on a stack,
so nothing limits how deeply it is nested.
-/

namespace MailRules.Json

inductive Token where
  | openObject
  | closeObject
  | openArray
  | closeArray
  | colon
  | comma
  | string (value : Option String)
  /-- A number, `true`, `false` or `null`. -/
  | scalar
  deriving DecidableEq, Repr

namespace Token

/-- A character of a string, or half of a surrogate pair. -/
inductive Part where
  | char (c : Char)
  | high (code : Nat)
  | low (code : Nat)

/-- What a code of four digits stands for. -/
def Part.ofCode (code : Nat) : Part :=
  if 0xD800 ≤ code ∧ code < 0xDC00 then high code
  else if 0xDC00 ≤ code ∧ code < 0xE000 then low code
  else char (Char.ofNat code)

def escaped? : Char → Option Char
  | '"' => some '"'
  | '\\' => some '\\'
  | '/' => some '/'
  | 'b' => some '\x08'
  | 'f' => some '\x0C'
  | 'n' => some '\n'
  | 'r' => some '\r'
  | 't' => some '\t'
  | _ => none

/-- The contents of a string after its opening quote, and the number of characters
through its closing quote. -/
def stringParts? : List Char → Option (List Part × Nat)
  | [] => none
  | '"' :: _ => some ([], 1)
  | '\\' :: 'u' :: a :: b :: c :: d :: rest => do
    let code ← hexNumber? [a, b, c, d]
    let (parts, length) ← stringParts? rest
    return (.ofCode code :: parts, length + 6)
  | '\\' :: letter :: rest => do
    let c ← escaped? letter
    let (parts, length) ← stringParts? rest
    return (.char c :: parts, length + 2)
  | c :: rest => do
    if c = '\\' ∨ c < ' ' then
      none
    let (parts, length) ← stringParts? rest
    return (.char c :: parts, length + 1)

/-- The characters that parts stand for, if every surrogate is one of a pair. -/
def chars? : List Part → Option (List Char)
  | [] => some []
  | .char c :: rest => return c :: (← chars? rest)
  | .high h :: .low l :: rest => do
    return Char.ofNat (0x10000 + (h - 0xD800) * 0x400 + (l - 0xDC00)) :: (← chars? rest)
  | _ :: _ => none

def digits (text : List Char) : Nat := (text.takeWhile Char.isDigit).length

/-- The number of characters of the fraction or exponent that a number may have. A sign
that begins one has to be followed by digits. -/
def fractionLength? : List Char → Option Nat
  | '.' :: rest => if digits rest = 0 then none else some (digits rest + 1)
  | _ => some 0

def exponentLength? : List Char → Option Nat
  | e :: rest =>
    if e = 'e' ∨ e = 'E' then
      let sign := if rest.head? = some '+' ∨ rest.head? = some '-' then 1 else 0
      let count := digits (rest.drop sign)
      if count = 0 then none else some (count + sign + 1)
    else
      some 0
  | [] => some 0

/-- The number of characters of the number that a text begins with. -/
def numberLength? (text : List Char) : Option Nat := do
  let minus := if text.head? = some '-' then 1 else 0
  let unsigned := text.drop minus
  let whole ← match unsigned with
    | '0' :: _ => some 1
    | _ => if digits unsigned = 0 then none else some (digits unsigned)
  let fraction ← fractionLength? (unsigned.drop whole)
  let exponent ← exponentLength? (unsigned.drop (whole + fraction))
  return minus + whole + fraction + exponent

def isBlank (c : Char) : Bool := c = ' ' || c = '\t' || c = '\n' || c = '\r'

/-- The token that begins with `c`, if it is no blank, and the number of characters of
`rest` that belong to it. -/
def cut? (c : Char) (rest : List Char) : Option (Option Token × Nat) :=
  if isBlank c then some (none, 0)
  else if c = '\x7b' then some (some openObject, 0)
  else if c = '\x7d' then some (some closeObject, 0)
  else if c = '[' then some (some openArray, 0)
  else if c = ']' then some (some closeArray, 0)
  else if c = ':' then some (some colon, 0)
  else if c = ',' then some (some comma, 0)
  else if c = '"' then
    (stringParts? rest).map fun (parts, length) =>
      (some (string ((chars? parts).map String.ofList)), length)
  else if ['t', 'r', 'u', 'e'].isPrefixOf (c :: rest) then some (some scalar, 3)
  else if ['f', 'a', 'l', 's', 'e'].isPrefixOf (c :: rest) then some (some scalar, 4)
  else if ['n', 'u', 'l', 'l'].isPrefixOf (c :: rest) then some (some scalar, 3)
  else (numberLength? (c :: rest)).map fun length => (some scalar, length - 1)

/-- The tokens of a text. -/
def ofText? : List Char → Option (List Token)
  | [] => some []
  | c :: rest => do
    match cut? c rest with
    | none => none
    | some (token, length) => return token.toList ++ (← ofText? (rest.drop length))
termination_by text => text.length
decreasing_by exact Nat.lt_succ_of_le (List.drop_sublist ..).length_le

end Token

inductive Bracket where
  | array
  | object
  deriving DecidableEq, Repr

/-- What comes next in a text: a value, or what follows one. -/
inductive Due where
  | value
  | rest
  deriving DecidableEq, Repr

/-- The tokens after the end of all open brackets. -/
def skip? : Due → List Bracket → List Token → Option (List Token)
  | .value, opened, .string _ :: rest => skip? .rest opened rest
  | .value, opened, .scalar :: rest => skip? .rest opened rest
  | .value, opened, .openArray :: .closeArray :: rest => skip? .rest opened rest
  | .value, opened, .openArray :: rest => skip? .value (.array :: opened) rest
  | .value, opened, .openObject :: .closeObject :: rest => skip? .rest opened rest
  | .value, opened, .openObject :: .string _ :: .colon :: rest =>
    skip? .value (.object :: opened) rest
  | .rest, [], rest => some rest
  | .rest, .array :: opened, .comma :: rest => skip? .value (.array :: opened) rest
  | .rest, .array :: opened, .closeArray :: rest => skip? .rest opened rest
  | .rest, .object :: opened, .comma :: .string _ :: .colon :: rest =>
    skip? .value (.object :: opened) rest
  | .rest, .object :: opened, .closeObject :: rest => skip? .rest opened rest
  | _, _, _ => none

/-- The tokens after the value that comes next. -/
def skipValue? (tokens : List Token) : Option (List Token) := skip? .value [] tokens

end MailRules.Json

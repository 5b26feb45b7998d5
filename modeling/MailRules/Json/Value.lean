/-!
# JSON values and their texts

The values that are written out: objects keep their members in order, and no numbers
are needed. The compact text has no white space; the pretty text has one member or
element a line, indented by two blanks a level.

In strings only the quote, the backslash and the characters below the blank are
escaped, those with a letter of their own by that letter.
-/

namespace MailRules

inductive Json where
  | null
  | bool (value : Bool)
  | string (value : String)
  | array (elements : List Json)
  | object (members : List (String × Json))

namespace Json

def escape (c : Char) : List Char :=
  if c = '"' then ['\\', '"']
  else if c = '\\' then ['\\', '\\']
  else if c = '\x08' then ['\\', 'b']
  else if c = '\t' then ['\\', 't']
  else if c = '\n' then ['\\', 'n']
  else if c = '\x0C' then ['\\', 'f']
  else if c = '\r' then ['\\', 'r']
  else if c.toNat < 32 then
    ['\\', 'u', '0', '0', Nat.digitChar (c.toNat / 16), Nat.digitChar (c.toNat % 16)]
  else [c]

/-- A string between quotes. -/
def quote (value : String) : List Char := '"' :: value.toList.flatMap escape ++ ['"']

def boolText (value : Bool) : List Char := if value then "true".toList else "false".toList

mutual

def compactChars : Json → List Char
  | null => "null".toList
  | bool value => boolText value
  | string value => quote value
  | array elements => '[' :: compactElements elements ++ [']']
  | object members => '\x7b' :: compactMembers members ++ ['\x7d']

def compactElements : List Json → List Char
  | [] => []
  | [element] => element.compactChars
  | element :: rest => element.compactChars ++ ',' :: compactElements rest

def compactMembers : List (String × Json) → List Char
  | [] => []
  | [(name, value)] => quote name ++ ':' :: value.compactChars
  | (name, value) :: rest => quote name ++ ':' :: value.compactChars ++ ',' :: compactMembers rest

end

/-- The text without white space. -/
def compact (json : Json) : String := String.ofList json.compactChars

/-- A new line at an indentation level. -/
def newline (level : Nat) : List Char := '\n' :: List.replicate (2 * level) ' '

mutual

def prettyChars (level : Nat) : Json → List Char
  | null => "null".toList
  | bool value => boolText value
  | string value => quote value
  | array [] => ['[', ']']
  | array elements => '[' :: prettyElements (level + 1) elements ++ newline level ++ [']']
  | object [] => ['\x7b', '\x7d']
  | object members => '\x7b' :: prettyMembers (level + 1) members ++ newline level ++ ['\x7d']

def prettyElements (level : Nat) : List Json → List Char
  | [] => []
  | [element] => newline level ++ element.prettyChars level
  | element :: rest =>
    newline level ++ element.prettyChars level ++ ',' :: prettyElements level rest

def prettyMembers (level : Nat) : List (String × Json) → List Char
  | [] => []
  | [(name, value)] => newline level ++ quote name ++ ':' :: ' ' :: value.prettyChars level
  | (name, value) :: rest =>
    newline level ++ quote name ++ ':' :: ' ' :: value.prettyChars level ++
      ',' :: prettyMembers level rest

end

/-- The text with one member or element a line. -/
def pretty (json : Json) : String := String.ofList (json.prettyChars 0)

end Json
end MailRules

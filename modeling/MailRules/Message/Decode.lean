import MailRules.Json.Reader
import MailRules.Message

/-!
# Messages written in JSON

A message is an object with a body and headers, either of which may be missing, or a
list of the two that may end early. Other members are passed over. The body is a
string and the headers are an object of strings in which the last of a name counts.
-/

namespace MailRules.Message

open Json (Token)

/-- The members read so far. -/
structure Fields where
  body : Option String := none
  headers : Option Headers := none

namespace Fields

def toMessage (fields : Fields) : Message :=
  { body := fields.body.getD "", headers := fields.headers.getD ∅ }

end Fields

/-- The members of a header object from one name on. -/
def headerMembers? (headers : Headers) : List Token → Option (Headers × List Token)
  | .string (some name) :: .colon :: .string (some value) :: .comma :: rest =>
    headerMembers? (headers.insert name value) rest
  | .string (some name) :: .colon :: .string (some value) :: .closeObject :: rest =>
    some (headers.insert name value, rest)
  | _ => none

def headers? : List Token → Option (Headers × List Token)
  | .openObject :: .closeObject :: rest => some (∅, rest)
  | .openObject :: rest => headerMembers? ∅ rest
  | _ => none

def body? : List Token → Option (String × List Token)
  | .string (some value) :: rest => some (value, rest)
  | _ => none

/-- The value of the member `name`, put with the fields before it. A second body and
second headers are refused. -/
def member? (fields : Fields) (name : String) (tokens : List Token) :
    Option (Fields × List Token) :=
  if name = "body" then
    if fields.body.isSome then
      none
    else
      (body? tokens).map fun (body, rest) => ({ fields with body }, rest)
  else if name = "headers" then
    if fields.headers.isSome then
      none
    else
      (headers? tokens).map fun (headers, rest) => ({ fields with headers }, rest)
  else
    (Json.skipValue? tokens).map fun rest => (fields, rest)

/-- The members of a message from one name on, at most `bound`, and the tokens after the
object. -/
def members? (fields : Fields) : Nat → List Token → Option (Fields × List Token)
  | bound + 1, .string (some name) :: .colon :: rest => do
    match ← member? fields name rest with
    | (fields, .comma :: rest) => members? fields bound rest
    | (fields, .closeObject :: rest) => some (fields, rest)
    | _ => none
  | _, _ => none

/-- The message at the beginning of the tokens, and the tokens after it. -/
def ofTokens? : List Token → Option (Message × List Token)
  | .openObject :: .closeObject :: rest => some ({}, rest)
  | .openObject :: rest => (members? {} rest.length rest).map fun (fields, rest) =>
    (fields.toMessage, rest)
  | .openArray :: .closeArray :: rest => some ({}, rest)
  | .openArray :: rest => do
    match ← body? rest with
    | (body, .closeArray :: rest) => some ({ body }, rest)
    | (body, .comma :: rest) =>
      match ← headers? rest with
      | (headers, .closeArray :: rest) => some ({ body, headers }, rest)
      | _ => none
    | _ => none
  | _ => none

/-- The message that a JSON text describes, if it describes one. -/
def decode? (text : String) : Option Message := do
  match ofTokens? (← Token.ofText? text.toList) with
  | some (message, []) => some message
  | _ => none

end MailRules.Message

/-!
# Command-line arguments

The program has four commands, each of which takes one file at most. Options may stand
before or after the file, `--` ends the options, and none may be given twice among the
arguments of one command. An option takes its value after an equals sign or from the
next argument, which must then not look like an option. The log level alone may also
stand before the command. The first argument that is out of place settles the matter,
whatever comes after it.
-/

namespace MailRules.Command

inductive Request where
  | tokens (file : String)
  | ast (file : String) (asStatement : Bool)
  | eval (file message : String)
  | grammar (file : Option String)
  deriving DecidableEq, Repr

/-- Why arguments ask for nothing that can be run. -/
inductive Halt where
  | version
  | help
  | misuse
  deriving DecidableEq, Repr

/-- The options and the file among the arguments of a command. -/
structure Arguments where
  options : List (String × String) := []
  file : Option String := none

namespace Arguments

def logLevel : String := "--log-level"

/-- An argument that can only be an option. A lone hyphen is a file. -/
def looksLikeOption (argument : String) : Bool :=
  argument.startsWith "-" && argument ≠ "-"

/-- The name of an option and the value attached to it. -/
def splitOption (argument : String) : String × Option String :=
  let (name, value) := argument.toList.span (· ≠ '=')
  (String.ofList name, if value.isEmpty then none else some (String.ofList value.tail))

/-- The option, unless it has been given before. -/
def addOption (arguments : Arguments) (name value : String) : Except Halt Arguments :=
  if (arguments.options.lookup name).isSome then
    .error .misuse
  else
    .ok { arguments with options := (name, value) :: arguments.options }

/-- The file, unless there is one already. -/
def addFile (arguments : Arguments) (file : String) : Except Halt Arguments :=
  match arguments.file with
  | some _ => .error .misuse
  | none => .ok { arguments with file }

/-- Takes an option at the head of the arguments: one of `valued`, with its value, or one
of `flags`. Gives the arguments after it. -/
def takeOption (valued flags : List String) (arguments : Arguments) (argument : String)
    (rest : List String) : Except Halt (Arguments × List String) := do
  let (name, attached) := splitOption argument
  if argument = "--help" ∨ argument.startsWith "-h" then
    throw .help
  else if valued.contains name then
    match attached, rest with
    | some value, _ => return (← arguments.addOption name value, rest)
    | none, value :: rest =>
      if looksLikeOption value then
        throw .misuse
      return (← arguments.addOption name value, rest)
    | none, [] => throw .misuse
  else if flags.contains name ∧ attached.isNone then
    return (← arguments.addOption name "", rest)
  else
    throw .misuse

/-- Collects the arguments of a command, at most `bound` of them. -/
def collect (valued flags : List String) (arguments : Arguments) :
    Nat → List String → Except Halt Arguments
  | 0, _ | _, [] => .ok arguments
  | bound + 1, argument :: rest => do
    if argument = "--" then
      rest.foldlM addFile arguments
    else if looksLikeOption argument then
      let (arguments, rest) ← takeOption valued flags arguments argument rest
      collect valued flags arguments bound rest
    else
      collect valued flags (← arguments.addFile argument) bound rest

def ofList (valued flags : List String) (list : List String) : Except Halt Arguments :=
  collect (logLevel :: valued) flags {} list.length list

/-- The file of a command that cannot do without. -/
def requiredFile (arguments : Arguments) : Except Halt String :=
  match arguments.file with
  | some file => .ok file
  | none => .error .misuse

end Arguments

namespace Request

/-- Everything that can stand where a command is expected. -/
def commands : List String := ["tokens", "ast", "eval", "grammar", "help"]

/-- The request of a command with its arguments. -/
def ofCommand (command : String) (list : List String) : Except Halt Request := do
  match command with
  | "tokens" =>
    let arguments ← Arguments.ofList [] [] list
    return .tokens (← arguments.requiredFile)
  | "ast" =>
    let arguments ← Arguments.ofList [] ["--stmt"] list
    return .ast (← arguments.requiredFile) (arguments.options.lookup "--stmt").isSome
  | "eval" =>
    let arguments ← Arguments.ofList ["--message"] [] list
    let file ← arguments.requiredFile
    match arguments.options.lookup "--message" with
    | some message => return .eval file message
    | none => throw .misuse
  | "grammar" =>
    let arguments ← Arguments.ofList [] [] list
    return .grammar arguments.file
  | "help" => throw (if list = [] ∨ commands.any (list = [·]) then .help else .misuse)
  | _ => throw .misuse

/-- The request after options of the program itself. -/
def afterOptions (options : Arguments) : Nat → List String → Except Halt Request
  | 0, _ | _, [] => .error .misuse
  | bound + 1, argument :: rest => do
    if argument = "--version" ∨ argument.startsWith "-V" then
      throw .version
    else if Arguments.looksLikeOption argument then
      let (options, rest) ← Arguments.takeOption [Arguments.logLevel] [] options argument rest
      afterOptions options bound rest
    else
      ofCommand argument rest

/-- What a list of arguments asks for. -/
def ofArguments (list : List String) : Except Halt Request := afterOptions {} list.length list

/-- The files that a request reads. -/
def files : Request → List String
  | .tokens file | .ast file _ => [file]
  | .eval file message => [file, message]
  | .grammar file => file.toList

end Request
end MailRules.Command

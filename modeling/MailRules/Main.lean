import MailRules.Command.Run

/-!
# The program

Reads the files that the arguments name, runs the command and prints what it left.
Called by the name of the verifier, the program is the verifier.
-/

namespace MailRules.Main

/-- The contents of those files that can be read. -/
def readFiles (names : List String) : IO (List (String × ByteArray)) := do
  let mut files := []
  for name in names do
    try
      files := (name, ← IO.FS.readBinFile name) :: files
    catch _ =>
      pure ()
  return files

/-- Colours are for terminals that can show them, unless they are declined. -/
def wantsColors : IO Bool := do
  let terminal ← IO.getEnv "TERM"
  let declined ← IO.getEnv "NO_COLOR"
  return declined.isNone && terminal.any (· ≠ "dumb")

end MailRules.Main

def main (arguments : List String) : IO UInt32 := do
  let isVerifier := (← IO.appPath).fileName = some "validate_grammar"
  let names :=
    if isVerifier then
      arguments.take 1
    else
      match MailRules.Command.Request.ofArguments arguments with
      | .ok request => request.files
      | .error _ => []
  let files ← MailRules.Main.readFiles names
  let environment : MailRules.Command.Environment :=
    { read := fun name => files.lookup name, colored := ← MailRules.Main.wantsColors }
  let run := if isVerifier then MailRules.Command.runVerifier else MailRules.Command.run
  let outcome := run environment arguments
  IO.print outcome.stdout
  IO.eprint outcome.stderr
  return outcome.exitCode.toUInt32

import MailRules.Command.Arguments

/-!
# Requests from arguments

What does not look like an option is the file of a command, wherever it stands. An option is a
flag or takes the next argument as its value. From this the requests are computed whose files
are given as plain arguments.
-/

namespace MailRules

namespace Command

namespace Arguments

/-- The end of the options looks like an option itself. -/
theorem ne_of_looksLikeOption {argument : String} (h : looksLikeOption argument = false) :
    argument ≠ "--" := by
  rintro rfl
  exact absurd h (by decide +kernel)

@[simp] theorem collect_nil (valued flags : List String) (arguments : Arguments) (bound : Nat) :
    collect valued flags arguments bound [] = .ok arguments := by
  cases bound <;> rfl

/-- What does not look like an option is the file. -/
theorem collect_file (valued flags : List String) {arguments : Arguments}
    (hnone : arguments.file = none) (bound : Nat) {file : String}
    (hfile : looksLikeOption file = false) (rest : List String) :
    collect valued flags arguments (bound + 1) (file :: rest) =
      collect valued flags { arguments with file } bound rest := by
  rw [collect, if_neg (ne_of_looksLikeOption hfile), hfile, addFile, hnone]
  rfl

/-- A file alone is all that there is. -/
theorem ofList_file (valued flags : List String) {file : String}
    (hfile : looksLikeOption file = false) : ofList valued flags [file] = .ok { file } := by
  rw [ofList, List.length_singleton, collect_file _ _ rfl 0 hfile, collect_nil]

theorem collect_option (valued flags : List String) (arguments : Arguments) (bound : Nat)
    {argument : String} (hdashes : argument ≠ "--") (hoption : looksLikeOption argument = true)
    (rest : List String) :
    collect valued flags arguments (bound + 1) (argument :: rest) =
      (takeOption valued flags arguments argument rest).bind fun taken =>
        collect valued flags taken.1 bound taken.2 := by
  rw [collect, if_neg hdashes, if_pos hoption]
  rfl

/-- An option without an equals sign takes its value from the next argument. -/
theorem takeOption_valued {valued flags : List String} {arguments : Arguments}
    {name value : String} (hname : splitOption name = (name, none))
    (hhelp : ¬ (name = "--help" ∨ name.startsWith "-h")) (hvalued : valued.contains name = true)
    (hvalue : looksLikeOption value = false) (rest : List String) :
    takeOption valued flags arguments name (value :: rest) =
      (arguments.addOption name value).map (·, rest) := by
  simp only [takeOption, hname, if_neg hhelp, hvalued, if_true, hvalue]
  rfl

theorem takeOption_flag {valued flags : List String} {arguments : Arguments} {name : String}
    (hname : splitOption name = (name, none))
    (hhelp : ¬ (name = "--help" ∨ name.startsWith "-h")) (hvalued : valued.contains name = false)
    (hflag : flags.contains name = true) (rest : List String) :
    takeOption valued flags arguments name rest =
      (arguments.addOption name "").map (·, rest) := by
  simp only [takeOption, hname, if_neg hhelp, hvalued, hflag]
  rfl

end Arguments

namespace Request

open Arguments (looksLikeOption)

theorem ofArguments_cons {command : String} (hcommand : command ∈ commands)
    (rest : List String) : ofArguments (command :: rest) = ofCommand command rest := by
  have hstart : ¬ (command = "--version" ∨ command.startsWith "-V") ∧
      looksLikeOption command = false := by
    revert command
    decide +kernel
  rw [ofArguments, List.length_cons, afterOptions, if_neg hstart.1, hstart.2]
  rfl

variable {file : String} (hfile : looksLikeOption file = false)

include hfile

theorem ofArguments_tokens : ofArguments ["tokens", file] = .ok (.tokens file) := by
  rw [ofArguments_cons (by decide)]
  show (Arguments.ofList [] [] [file] >>= _) = _
  rw [Arguments.ofList_file _ _ hfile]
  rfl

theorem ofArguments_ast : ofArguments ["ast", file] = .ok (.ast file false) := by
  rw [ofArguments_cons (by decide)]
  show (Arguments.ofList [] ["--stmt"] [file] >>= _) = _
  rw [Arguments.ofList_file _ _ hfile]
  rfl

theorem ofArguments_grammar : ofArguments ["grammar", file] = .ok (.grammar (some file)) := by
  rw [ofArguments_cons (by decide)]
  show (Arguments.ofList [] [] [file] >>= _) = _
  rw [Arguments.ofList_file _ _ hfile]
  rfl

theorem ofArguments_ast_stmt : ofArguments ["ast", "--stmt", file] = .ok (.ast file true) := by
  have hlist : Arguments.ofList [] ["--stmt"] ["--stmt", file] =
      .ok { options := [("--stmt", "")], file := some file } := by
    rw [Arguments.ofList, List.length_cons, Arguments.collect_option _ _ _ _ (by decide)
      (by decide +kernel), Arguments.takeOption_flag (by decide +kernel) (by decide +kernel)
      (by decide) (by decide)]
    exact Arguments.collect_file _ _ rfl _ hfile []
  rw [ofArguments_cons (by decide)]
  show (Arguments.ofList [] ["--stmt"] ["--stmt", file] >>= _) = _
  rw [hlist]
  rfl

theorem ofArguments_eval {message : String} (hmessage : looksLikeOption message = false) :
    ofArguments ["eval", file, "--message", message] = .ok (.eval file message) := by
  have hlist : Arguments.ofList ["--message"] [] [file, "--message", message] =
      .ok { options := [("--message", message)], file := some file } := by
    rw [Arguments.ofList, List.length_cons, List.length_cons,
      Arguments.collect_file _ _ rfl _ hfile, Arguments.collect_option _ _ _ _ (by decide)
      (by decide +kernel), Arguments.takeOption_valued (by decide +kernel) (by decide +kernel)
      (by decide) hmessage]
    rfl
  rw [ofArguments_cons (by decide)]
  show (Arguments.ofList ["--message"] [] [file, "--message", message] >>= _) = _
  rw [hlist]
  rfl

end Request

end Command
end MailRules

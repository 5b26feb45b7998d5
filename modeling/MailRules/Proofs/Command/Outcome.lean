import Mathlib.Logic.Basic
import MailRules.Command.Run
import MailRules.Proofs.Command.Arguments
import MailRules.Proofs.Parse.Lexed
import MailRules.Proofs.Parse.Recognition
import MailRules.Proofs.Result

/-!
# What the commands leave

A command comes to a result if its files can be read and what they hold can be made out, and
then it leaves the result; otherwise it leaves the code 2 and prints nothing. Nothing is printed
before the last step that can fail, so there is no third case.

Which files come to a result is a matter of their contents. A file cannot be both an expression
and a statement, and a file that is one of them has tokens.
-/

namespace MailRules

/-- No source is both an expression and a statement. -/
theorem Source.parseStmt_ne_of_parseExpr {source : Source} {expr : Expr} {stmt : Stmt}
    (hexpr : source.parseExpr = .ok expr) : source.parseStmt ≠ .ok stmt := by
  intro hstmt
  obtain ⟨document, hsource⟩ := Parse.exists_ofSource_of_whole hexpr
  rw [parseExpr, Parse.whole_eq_run_toEnd hsource] at hexpr
  rw [parseStmt, Parse.whole_eq_run_toEnd hsource] at hstmt
  have htokens : ExprTokens document.tokens expr := Parse.accepts_expr.run_toEnd_eq_ok_iff.mp hexpr
  have hshape : StmtShape document.tokens stmt := Parse.accepts_stmt.run_toEnd_eq_ok_iff.mp hstmt
  exact htokens.not_stmtShape hshape (Eq.refl (document.tokens ++ []))

namespace Command

namespace Environment

/-- The file is there, and its bytes are those of the text. -/
def Holds (environment : Environment) (file text : String) : Prop :=
  ∃ bytes, environment.read file = some bytes ∧ String.fromUTF8? bytes = some text

/-- The text of the file is read as the value. -/
def Gives {α : Type} (environment : Environment) (read : Source → Except Failure α) (file : String)
    (value : α) : Prop :=
  ∃ text, environment.Holds file text ∧ read ⟨file, text⟩ = .ok value

/-- The text of the file is the message in JSON. -/
def Decodes (environment : Environment) (file : String) (message : Message) : Prop :=
  ∃ text, environment.Holds file text ∧ Message.decode? text = some message

theorem text_eq_ok_iff {environment : Environment} {file text : String} :
    environment.text file = .ok text ↔ environment.Holds file text := by
  have hbind : (environment.read file).bind String.fromUTF8? = some text ↔
      environment.Holds file text := Option.bind_eq_some_iff
  rw [← hbind, Environment.text]
  cases (environment.read file).bind String.fromUTF8? <;> simp

/-- A file with the bytes of a text holds the text. -/
theorem holds_of_toUTF8 {environment : Environment} {file text : String}
    (h : environment.read file = some text.toUTF8) : environment.Holds file text := by
  refine ⟨text.toUTF8, h, ?_⟩
  rw [String.fromUTF8?, String.toUTF8_eq_toByteArray, dif_pos text.isValidUTF8]
  rfl

theorem Holds.unique {environment : Environment} {file text text' : String}
    (h : environment.Holds file text) (h' : environment.Holds file text') : text = text' := by
  have heq := (text_eq_ok_iff.mpr h).symm.trans (text_eq_ok_iff.mpr h')
  exact Except.ok.inj heq

end Environment

theorem bind_eq_ok_iff {ε α β : Type} {result : Except ε α} {next : α → Except ε β} {value : β} :
    (result >>= next) = .ok value ↔ ∃ a, result = .ok a ∧ next a = .ok value := by
  cases result with
  | error failure => exact ⟨nofun, nofun⟩
  | ok a => exact ⟨fun h => ⟨a, rfl, h⟩, fun ⟨_, ha, h⟩ => by rw [Except.ok.inj ha]; exact h⟩

theorem orFailure_eq_ok_iff {α : Type} {result : Except Failure α} {value : α} :
    orFailure result = .ok value ↔ result = .ok value := by
  cases result with
  | error failure => exact ⟨nofun, nofun⟩
  | ok a => exact ⟨fun h => congrArg Except.ok (Except.ok.inj h),
      fun h => congrArg Except.ok (Except.ok.inj h)⟩

variable {environment : Environment} {file : String}

/-- A file that can be read gives what its text is read as. -/
theorem gives_iff {α : Type} {read : Source → Except Failure α} {value : α} :
    (environment.source file >>= fun source => orFailure (read source)) = .ok value ↔
      environment.Gives read file value := by
  rw [bind_eq_ok_iff]
  constructor
  · rintro ⟨source, hsource, hread⟩
    obtain ⟨text, htext, hpure⟩ := bind_eq_ok_iff.mp hsource
    obtain rfl := Except.ok.inj hpure
    exact ⟨text, Environment.text_eq_ok_iff.mp htext, orFailure_eq_ok_iff.mp hread⟩
  · rintro ⟨text, htext, hread⟩
    have hsource : environment.source file = .ok ⟨file, text⟩ :=
      bind_eq_ok_iff.mpr ⟨text, Environment.text_eq_ok_iff.mpr htext, rfl⟩
    exact ⟨_, hsource, orFailure_eq_ok_iff.mpr hread⟩

theorem gives_bind_iff {α β : Type} {read : Source → Except Failure α}
    {next : α → Except Trouble β} {value : β} :
    (do let source ← environment.source file
        let a ← orFailure (read source)
        next a) = .ok value ↔ ∃ a, environment.Gives read file a ∧ next a = .ok value := by
  rw [← bind_assoc, bind_eq_ok_iff]
  simp only [gives_iff]

theorem gives_map_iff {α β : Type} {read : Source → Except Failure α} {f : α → β} {value : β} :
    environment.Gives (fun source => (read source).map f) file value ↔
      ∃ a, environment.Gives read file a ∧ f a = value := by
  simp only [Environment.Gives, map_eq_ok_iff]
  constructor
  · rintro ⟨text, htext, a, ha, hvalue⟩
    exact ⟨a, ⟨text, htext, ha⟩, hvalue⟩
  · rintro ⟨a, ⟨text, htext, ha⟩, hvalue⟩
    exact ⟨text, htext, a, ha, hvalue⟩

theorem tokens_eq_ok_iff {outcome : Outcome} : tokens environment file = .ok outcome ↔
    ∃ tokens, environment.Gives Source.lex file tokens ∧
      { exitCode := 0, stdout := Output.tokens environment.colored tokens } = outcome := by
  rw [tokens, gives_bind_iff]
  simp only [pure, Except.pure, Except.ok.injEq]

theorem ast_eq_ok_iff {outcome : Outcome} : ast environment file false = .ok outcome ↔
    ∃ expr, environment.Gives Source.parseExpr file expr ∧
      { exitCode := 0, stdout := expr.toJson.pretty ++ "\n" } = outcome := by
  rw [ast]
  simp only [Bool.false_eq_true, if_false, gives_bind_iff, gives_map_iff, pure, Except.pure,
    Except.ok.injEq, exists_exists_and_eq_and]

theorem ast_stmt_eq_ok_iff {outcome : Outcome} : ast environment file true = .ok outcome ↔
    ∃ stmt, environment.Gives Source.parseStmt file stmt ∧
      { exitCode := 0, stdout := stmt.toJson.pretty ++ "\n" } = outcome := by
  rw [ast]
  simp only [if_true, gives_bind_iff, gives_map_iff, pure, Except.pure,
    Except.ok.injEq, exists_exists_and_eq_and]

theorem eval_eq_ok_iff {message : String} {outcome : Outcome} :
    eval environment file message = .ok outcome ↔
      ∃ expr decoded, environment.Gives Source.parseExpr file expr ∧
        environment.Decodes message decoded ∧
        { exitCode := if expr.eval decoded then 0 else 1
          stdout := Output.verdict environment.colored (expr.eval decoded) } = outcome := by
  rw [eval, gives_bind_iff]
  refine exists_congr fun expr => ?_
  rw [bind_eq_ok_iff, exists_and_left]
  refine and_congr_right fun _ => ?_
  simp only [Environment.text_eq_ok_iff]
  constructor
  · rintro ⟨text, htext, h⟩
    cases hdecode : Message.decode? text with
    | none => rw [hdecode] at h; cases h
    | some decoded =>
        rw [hdecode] at h
        exact ⟨decoded, ⟨text, htext, hdecode⟩, Except.ok.inj h⟩
  · rintro ⟨decoded, ⟨text, htext, hdecode⟩, h⟩
    refine ⟨text, htext, ?_⟩
    rw [hdecode]
    exact congrArg Except.ok h

theorem findings_eq_ok_iff {result : Ebnf.Findings} :
    findings environment (some file) = .ok result ↔
      ∃ grammar, environment.Gives Source.parseGrammar file grammar ∧
        grammar.verify Ebnf.builtinStart = result := by
  have hverify : (fun source : Source => source.verifyGrammar Ebnf.builtinStart) =
      fun source => source.parseGrammar.map (·.verify Ebnf.builtinStart) := by
    funext source
    rw [Source.verifyGrammar]
    cases source.parseGrammar <;> rfl
  rw [← gives_map_iff, ← hverify]
  exact gives_iff

/-- The result of a request is left if there is one, and nothing is printed otherwise. -/
theorem run_of_request (environment : Environment) {arguments : List String} {request : Request}
    (h : Request.ofArguments arguments = .ok request) :
    (∀ outcome, request.perform environment = .ok outcome →
      run environment arguments = outcome) ∧
    ((∀ outcome, request.perform environment ≠ .ok outcome) →
      (run environment arguments).exitCode = 2 ∧ (run environment arguments).stdout = "") := by
  simp only [run, h]
  cases request.perform environment with
  | ok outcome => exact ⟨fun _ h => Except.ok.inj h, fun h => absurd rfl (h outcome)⟩
  | error trouble => exact ⟨nofun, fun _ => ⟨rfl, rfl⟩⟩

theorem verdict_plain (matched : Bool) :
    Output.verdict false matched = if matched then "true\n" else "false\n" := by
  cases matched <;> decide +kernel

/-- A request whose results all have the code 0 has another code only if there is no result. -/
theorem exits_of_request (environment : Environment) {α : Type} {arguments : List String}
    {request : Request} (h : Request.ofArguments arguments = .ok request) {given : α → Prop}
    {shown : α → Outcome}
    (hperform : ∀ {outcome}, request.perform environment = .ok outcome ↔
      ∃ a, given a ∧ shown a = outcome) (hzero : ∀ a, (shown a).exitCode = 0) :
    ((run environment arguments).exitCode = 0 ↔ ∃ a, given a) ∧
      ((run environment arguments).exitCode ≠ 0 →
        (run environment arguments).exitCode = 2 ∧ (run environment arguments).stdout = "") := by
  obtain ⟨hdone, hsilent⟩ := run_of_request environment h
  by_cases hgiven : ∃ a, given a
  · obtain ⟨a, ha⟩ := hgiven
    have hrun := hdone _ (hperform.mpr ⟨a, ha, rfl⟩)
    rw [hrun]
    exact ⟨iff_of_true (hzero a) ⟨a, ha⟩, fun hne => absurd (hzero a) hne⟩
  · obtain ⟨hcode, hstdout⟩ := hsilent fun outcome houtcome => by
      obtain ⟨a, ha, -⟩ := hperform.mp houtcome
      exact hgiven ⟨a, ha⟩
    exact ⟨iff_of_false (by rw [hcode]; decide) hgiven, fun _ => ⟨hcode, hstdout⟩⟩

/-- Evaluation leaves the verdict, and nothing if there is none. -/
theorem run_eval (hplain : environment.colored = false)
    (hfile : Arguments.looksLikeOption file = false) {message : String}
    (hmessage : Arguments.looksLikeOption message = false) :
    (∀ expr decoded, environment.Gives Source.parseExpr file expr →
      environment.Decodes message decoded →
      run environment ["eval", file, "--message", message] =
        { exitCode := if expr.eval decoded then 0 else 1
          stdout := if expr.eval decoded then "true\n" else "false\n" }) ∧
    ((¬ ∃ expr decoded, environment.Gives Source.parseExpr file expr ∧
        environment.Decodes message decoded) →
      (run environment ["eval", file, "--message", message]).exitCode = 2 ∧
        (run environment ["eval", file, "--message", message]).stdout = "") := by
  obtain ⟨hdone, hsilent⟩ := run_of_request environment
    (Request.ofArguments_eval hfile hmessage)
  constructor
  · intro expr decoded hexpr hdecoded
    rw [hdone _ (eval_eq_ok_iff.mpr ⟨expr, decoded, hexpr, hdecoded, rfl⟩), hplain, verdict_plain]
  · intro hnone
    refine hsilent fun outcome houtcome => ?_
    obtain ⟨expr, decoded, hexpr, hdecoded, -⟩ := eval_eq_ok_iff.mp houtcome
    exact hnone ⟨expr, decoded, hexpr, hdecoded⟩

/-- A document that is a grammar is reported on alike by both programs. -/
theorem run_grammar_of_gives (hfile : Arguments.looksLikeOption file = false)
    {grammar : Ebnf.Grammar} (h : environment.Gives Source.parseGrammar file grammar) :
    run environment ["grammar", file] =
        reported environment (grammar.verify Ebnf.builtinStart) ∧
      runVerifier environment [file] =
        { reported environment (grammar.verify Ebnf.builtinStart) with
          stdout := s!"Validating grammar file: {file}\n" } := by
  have hfindings := findings_eq_ok_iff.mpr ⟨grammar, h, rfl⟩
  constructor
  · refine (run_of_request environment (Request.ofArguments_grammar hfile)).1 _ ?_
    show (findings environment (some file) >>= _) = _
    rw [hfindings]
    rfl
  · simp only [runVerifier, List.head?_cons, hfindings]

/-- Any other file is reported on by neither. -/
theorem run_grammar_of_not_gives (hfile : Arguments.looksLikeOption file = false)
    (h : ¬ ∃ grammar, environment.Gives Source.parseGrammar file grammar) :
    (run environment ["grammar", file]).exitCode = 2 ∧
      (runVerifier environment [file]).exitCode = 1 := by
  obtain ⟨trouble, htrouble⟩ : ∃ trouble, findings environment (some file) = .error trouble := by
    cases hfindings : findings environment (some file) with
    | error trouble => exact ⟨trouble, rfl⟩
    | ok result =>
        obtain ⟨grammar, hgrammar, -⟩ := findings_eq_ok_iff.mp hfindings
        exact absurd ⟨grammar, hgrammar⟩ h
  constructor
  · obtain ⟨-, hsilent⟩ := run_of_request environment (Request.ofArguments_grammar hfile)
    refine (hsilent fun outcome houtcome => ?_).1
    obtain ⟨result, hresult, -⟩ := bind_eq_ok_iff.mp
      (show (findings environment (some file) >>= _) = .ok outcome from houtcome)
    rw [htrouble] at hresult
    cases hresult
  · simp only [runVerifier, List.head?_cons, htrouble]

/-- The commands agree with what their files hold, and with each other. -/
theorem run_agrees (environment : Environment) (hplain : environment.colored = false)
    (file : String) (hfile : Arguments.looksLikeOption file = false) :
    (∀ message : String, Arguments.looksLikeOption message = false →
      (∀ expr decoded, environment.Gives Source.parseExpr file expr →
        environment.Decodes message decoded →
        (run environment ["eval", file, "--message", message]).exitCode =
            (if expr.eval decoded then 0 else 1) ∧
          (run environment ["eval", file, "--message", message]).stdout =
            if expr.eval decoded then "true\n" else "false\n") ∧
      ((¬ ∃ expr decoded, environment.Gives Source.parseExpr file expr ∧
          environment.Decodes message decoded) →
        (run environment ["eval", file, "--message", message]).exitCode = 2 ∧
          (run environment ["eval", file, "--message", message]).stdout = "")) ∧
    (((run environment ["ast", file]).exitCode = 0 ↔
        ∃ expr, environment.Gives Source.parseExpr file expr) ∧
      ((run environment ["ast", file]).exitCode ≠ 0 →
        (run environment ["ast", file]).exitCode = 2 ∧
          (run environment ["ast", file]).stdout = "")) ∧
    (((run environment ["ast", "--stmt", file]).exitCode = 0 ↔
        ∃ stmt, environment.Gives Source.parseStmt file stmt) ∧
      ((run environment ["ast", "--stmt", file]).exitCode ≠ 0 →
        (run environment ["ast", "--stmt", file]).exitCode = 2 ∧
          (run environment ["ast", "--stmt", file]).stdout = "")) ∧
    ((run environment ["ast", file]).exitCode ≠ 0 ∨
      (run environment ["ast", "--stmt", file]).exitCode ≠ 0) ∧
    ((run environment ["ast", file]).exitCode = 0 ∨
        (run environment ["ast", "--stmt", file]).exitCode = 0 →
      (run environment ["tokens", file]).exitCode = 0) ∧
    ((run environment ["grammar", file]).exitCode = 0 ↔
      (runVerifier environment [file]).exitCode = 0) ∧
    ∀ grammar, environment.Gives Source.parseGrammar file grammar →
      let findings := grammar.verify Ebnf.builtinStart
      (run environment ["grammar", file]).stderr = Output.report false findings ∧
      (runVerifier environment [file]).stderr = Output.report false findings ∧
      (findings.errors ≠ [] → (run environment ["grammar", file]).exitCode = 1 ∧
        (runVerifier environment [file]).exitCode = 1) := by
  have hexpr := exits_of_request environment (Request.ofArguments_ast hfile)
    ast_eq_ok_iff fun _ => rfl
  have hstmt := exits_of_request environment (Request.ofArguments_ast_stmt hfile)
    ast_stmt_eq_ok_iff fun _ => rfl
  have htokens := exits_of_request environment (Request.ofArguments_tokens hfile)
    tokens_eq_ok_iff fun _ => rfl
  refine ⟨fun message hmessage => ?_, hexpr, hstmt, ?_, ?_, ?_, fun grammar hgrammar => ?_⟩
  · obtain ⟨hdone, hsilent⟩ := run_eval hplain hfile hmessage
    refine ⟨fun expr decoded hexpr hdecoded => ?_, hsilent⟩
    rw [hdone expr decoded hexpr hdecoded]
    exact ⟨rfl, rfl⟩
  · rw [← not_and_or, hexpr.1, hstmt.1]
    rintro ⟨⟨expr, text, htext, hparse⟩, stmt, text', htext', hparse'⟩
    obtain rfl := htext.unique htext'
    exact Source.parseStmt_ne_of_parseExpr hparse hparse'
  · rw [hexpr.1, hstmt.1, htokens.1]
    rintro (⟨expr, text, htext, hparse⟩ | ⟨stmt, text, htext, hparse⟩)
    · obtain ⟨tokens, hlex⟩ := Parse.exists_lex_of_whole hparse
      exact ⟨tokens, text, htext, hlex⟩
    · obtain ⟨tokens, hlex⟩ := Parse.exists_lex_of_whole hparse
      exact ⟨tokens, text, htext, hlex⟩
  · by_cases hgrammar : ∃ grammar, environment.Gives Source.parseGrammar file grammar
    · obtain ⟨grammar, hgrammar⟩ := hgrammar
      obtain ⟨hrun, hverifier⟩ := run_grammar_of_gives hfile hgrammar
      rw [hrun, hverifier]
    · obtain ⟨hrun, hverifier⟩ := run_grammar_of_not_gives hfile hgrammar
      rw [hrun, hverifier]
      decide
  · obtain ⟨hrun, hverifier⟩ := run_grammar_of_gives hfile hgrammar
    rw [hrun, hverifier]
    refine ⟨by rw [reported, hplain], by rw [reported, hplain], fun herrors => ?_⟩
    simp [reported, Ebnf.Findings.isValid, herrors]

/-- A rule that applies to a message, and a grammar that wants a start symbol. -/
theorem run_agrees_files :
    let environment : Environment := { read := fun file =>
      ([("rule", "message contains \"rose\""), ("mail", "\x7b\"body\":\"a rose\"\x7d"),
        ("doc", "Expr = \"x\" .")].lookup file).map String.toUTF8 }
    (run environment ["eval", "rule", "--message", "mail"]).exitCode = 0 ∧
      (run environment ["eval", "rule", "--message", "mail"]).stdout = "true\n" ∧
      (run environment ["tokens", "rule"]).exitCode = 0 ∧
      (run environment ["grammar", "doc"]).exitCode = 1 ∧
      (runVerifier environment ["doc"]).exitCode = 1 := by
  intro environment
  have hexpr : environment.Gives Source.parseExpr "rule" (.message (.contains ["rose"])) :=
    ⟨_, Environment.holds_of_toUTF8 rfl, eq_ok_of_toOption (by decide +kernel)⟩
  have hdecoded : environment.Decodes "mail" { body := "a rose" } :=
    ⟨_, Environment.holds_of_toUTF8 rfl, by decide +kernel⟩
  have hverify : (Source.parseGrammar ⟨"doc", "Expr = \"x\" ."⟩).toOption.map
      (fun grammar => (grammar.verify Ebnf.builtinStart).errors.isEmpty) = some false := by
    decide +kernel
  obtain ⟨grammar, hparse, herrors⟩ := Option.map_eq_some_iff.mp hverify
  have hgrammar : environment.Gives Source.parseGrammar "doc" grammar :=
    ⟨_, Environment.holds_of_toUTF8 rfl, eq_ok_of_toOption hparse⟩
  obtain ⟨heval, hast, -, -, htokens, -, -⟩ := run_agrees environment rfl "rule" (by decide +kernel)
  obtain ⟨-, -, -, -, -, -, hreport⟩ := run_agrees environment rfl "doc" (by decide +kernel)
  obtain ⟨hcode, hstdout⟩ := (heval "mail" (by decide +kernel)).1 _ _ hexpr hdecoded
  obtain ⟨hrun, hverifier⟩ := (hreport grammar hgrammar).2.2 (by simpa using herrors)
  exact ⟨hcode, hstdout, htokens (.inl (hast.1.mpr ⟨_, hexpr⟩)), hrun, hverifier⟩

end Command
end MailRules

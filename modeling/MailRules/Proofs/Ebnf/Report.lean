import Mathlib.Data.List.Basic
import Mathlib.Tactic.Tauto
import MailRules.Ebnf.Report

/-!
# Checks only add to an account

A check that reports into an account neither reads what is there nor changes it: what it adds is the
same whatever the account holds. This is a contract with one rule for each way of composing
actions, so that it holds of a loop if it holds of the body, and of the walk through a form because
this is a loop over the leaves.

Each check therefore adds what it finds on its own. For a sequence of checks and of messages from
elsewhere this follows by induction, and a verdict that is lost is never regained.
-/

namespace MailRules.Ebnf

namespace Findings

theorem isValid_append (first second : Findings) :
    (first ++ second).isValid = (first.isValid && second.isValid) := by
  rw [Bool.eq_iff_iff]
  simp [isValid]

theorem isClean_append (first second : Findings) :
    (first ++ second).isClean = (first.isClean && second.isClean) := by
  rw [Bool.eq_iff_iff]
  simp only [isClean, isValid_append, Bool.and_eq_true, List.isEmpty_iff, warnings_append,
    suggestions_append, List.append_eq_nil_iff]
  tauto

/-- The findings about all elements of a list, in its order. -/
def gather {α : Type} (found : α → Findings) (list : List α) : Findings where
  errors := list.flatMap fun x => (found x).errors
  warnings := list.flatMap fun x => (found x).warnings
  suggestions := list.flatMap fun x => (found x).suggestions

theorem gather_cons {α : Type} (found : α → Findings) (x : α) (rest : List α) :
    gather found (x :: rest) = found x ++ gather found rest := by
  ext1 <;> simp [gather]

end Findings

/-- The messages, and no findings of another kind. -/
def Severity.only : Severity → List String → Findings
  | error, messages => { errors := messages }
  | warning, messages => { warnings := messages }
  | suggestion, messages => { suggestions := messages }

theorem Severity.only_nil (severity : Severity) : severity.only [] = {} := by
  cases severity <;> rfl

theorem Severity.only_append (severity : Severity) (first second : List String) :
    severity.only (first ++ second) = severity.only first ++ severity.only second := by
  cases severity <;> rfl

theorem Severity.gather_only {α : Type} (severity : Severity) (messages : α → List String)
    (list : List α) :
    Findings.gather (fun x => severity.only (messages x)) list =
      severity.only (list.flatMap messages) := by
  induction list with
  | nil => exact severity.only_nil.symm
  | cons x rest ih => rw [Findings.gather_cons, ih, List.flatMap_cons, severity.only_append]

theorem Findings.add_eq_append (findings : Findings) (message : String) (severity : Severity) :
    findings.add message severity = findings ++ severity.only [message] := by
  cases severity with
  | error => ext1 <;> simp [add, Severity.only]
  | warning => ext1 <;> simp [add, Severity.only]
  | suggestion => ext1 <;> simp [add, Severity.only]

/-- Whatever an account holds, the action adds these findings to it and does nothing else. -/
def Adds (action : StateM Findings Unit) (found : Findings) : Prop :=
  ∀ earlier : Findings, action.run earlier = ((), earlier ++ found)

namespace Adds

variable {action next : StateM Findings Unit} {found found' : Findings} {α : Type}

theorem nothing : Adds (pure ()) {} := by
  intro earlier
  rw [Findings.append_empty]
  rfl

theorem report (severity : Severity) (message : String) :
    Adds (severity.report message) (severity.only [message]) := by
  intro earlier
  rw [← Findings.add_eq_append]
  rfl

theorem andThen (h : Adds action found) (hnext : Adds next found') :
    Adds (action >>= fun _ => next) (found ++ found') := by
  intro earlier
  rw [StateT.run_bind, h earlier]
  exact (hnext (earlier ++ found)).trans (by rw [Findings.append_assoc])

/-- What the steps of a loop add, one after the other. -/
theorem forM {step : α → StateM Findings Unit} {found : α → Findings}
    (h : ∀ x, Adds (step x) (found x)) (list : List α) :
    Adds (list.forM step) (Findings.gather found list) := by
  induction list with
  | nil => exact nothing
  | cons x rest ih =>
      rw [Findings.gather_cons]
      exact (h x).andThen ih

/-- A loop of which all steps report the same kind of messages. -/
theorem forM_only {severity : Severity} {step : α → StateM Findings Unit}
    {messages : α → List String} (h : ∀ x, Adds (step x) (severity.only (messages x)))
    (list : List α) : Adds (list.forM step) (severity.only (list.flatMap messages)) := by
  rw [← severity.gather_only]
  exact forM h list

theorem reportIfAny (severity : Severity) (message? : Option String) :
    Adds (message?.forM severity.report) (severity.only message?.toList) := by
  cases message? with
  | none =>
      rw [Option.toList_none, severity.only_nil]
      exact nothing
  | some message => exact report severity message

/-- What an action adds is seen on an account without findings. -/
theorem run_empty (h : Adds action found) : (action.run {}).2 = found := by
  rw [h {}, Findings.empty_append]

end Adds

section Walk

variable {m : Type → Type} [Monad m] [LawfulMonad m] (visit : Form → m Unit)

namespace Form

mutual

/-- Walking through a form is a loop over its leaves. -/
theorem walk_eq_forM : (form : Form) → form.walk visit = form.leaves.forM visit
  | alternative branches => walkAll_eq_forM branches
  | sequence items => walkAll_eq_forM items
  | group inner => walk_eq_forM inner
  | option inner => walk_eq_forM inner
  | repetition inner => walk_eq_forM inner
  | name symbol => by simp [walk, leaves]
  | token symbol => by simp [walk, leaves]
  | range first last => by simp [walk, leaves]

theorem walkAll_eq_forM : (forms : List Form) → walkAll visit forms = (leavesAll forms).forM visit
  | [] => rfl
  | form :: rest => by
    rw [walkAll, leavesAll, walk_eq_forM form, walkAll_eq_forM rest]
    exact List.forM_append.symm

end

end Form

theorem Production.walk_eq_forM (production : Production) :
    production.walk visit = production.leaves.forM visit := by
  unfold walk leaves
  cases production.body with
  | none => rfl
  | some form => exact form.walk_eq_forM visit

end Walk

theorem Form.run_collect (leaf : Form) (names : List Symbol) :
    leaf.collect.run names = ((), names ++ leaf.reference?.toList) := by
  unfold collect
  cases leaf.reference? with
  | none => exact Prod.ext rfl (List.append_nil names).symm
  | some name => rfl

theorem Form.run_forM_collect (leaves : List Form) (names : List Symbol) :
    (leaves.forM collect).run names = ((), names ++ leaves.filterMap reference?) := by
  induction leaves generalizing names with
  | nil => exact Prod.ext rfl (List.append_nil names).symm
  | cons leaf rest ih =>
      rw [List.forM_eq_forM, List.forM_cons, StateT.run_bind, run_collect]
      refine (ih _).trans (Prod.ext rfl ?_)
      simp only [List.filterMap_eq_flatMap_toList, List.flatMap_cons, List.append_assoc]

/-- A walk that collects the names has them in the end. -/
theorem Production.collectNames_eq (production : Production) :
    production.collectNames = production.references := by
  rw [collectNames, walk_eq_forM, Form.run_forM_collect]
  unfold leaves references
  cases production.body with
  | none => rfl
  | some form => rfl

namespace Check

variable {grammar : Grammar} {start : List String}

theorem adds_reportDuplicates (seen productions : List Production) :
    Adds (reportDuplicates seen productions)
      (Severity.error.only (duplicateErrors seen productions)) := by
  induction productions generalizing seen with
  | nil => exact .nothing
  | cons production rest ih =>
      rw [reportDuplicates, duplicateErrors]
      cases seen.find? (·.name = production.name) with
      | some first => exact (Adds.report .error _).andThen (ih seen)
      | none => exact ih (seen ++ [production])

/-- What is reported about the names of the productions, one after the other. -/
theorem adds_references (productions : List Production)
    (error? : Production → Symbol → Option String) :
    Adds (productions.forM fun production => production.collectNames.forM fun name =>
        (error? production name).forM Severity.error.report)
      (Severity.error.only (productions.flatMap fun production =>
        production.references.filterMap (error? production))) := by
  refine Adds.forM_only (fun production => ?_) productions
  rw [production.collectNames_eq, List.filterMap_eq_flatMap_toList]
  exact Adds.forM_only (fun name => Adds.reportIfAny .error _) production.references

/-- Productions that are not lexical may be left out, as nothing is said about them. -/
theorem flatMap_lexicalError? (productions : List Production) :
    ((productions.filter Production.isLexical).flatMap fun production =>
        production.references.filterMap (lexicalError? production)) =
      productions.flatMap fun production =>
        production.references.filterMap (lexicalError? production) := by
  induction productions with
  | nil => rfl
  | cons production rest ih =>
      rw [List.flatMap_cons, List.filter_cons]
      cases hlexical : production.isLexical with
      | true =>
          rw [if_pos rfl, List.flatMap_cons, ih]
      | false =>
          have hnone : production.references.filterMap (lexicalError? production) = [] := by
            apply List.filterMap_eq_nil_iff.mpr
            intro name _
            simp [lexicalError?, hlexical]
          rw [hnone]
          exact ih

/-- Each check adds what it finds on its own, whatever has been reported before. -/
theorem adds_report (check : Check) :
    Adds (check.report grammar start) (check.run grammar start) := by
  cases check with
  | duplicates => exact adds_reportDuplicates [] grammar.productions
  | start =>
      rw [run, List.filterMap_eq_flatMap_toList]
      exact Adds.forM_only (fun name => Adds.reportIfAny .error _) start
  | references => exact adds_references grammar.productions (referenceError? grammar)
  | reachability =>
      rw [run, List.map_eq_flatMap]
      exact Adds.forM_only (fun production => Adds.report .warning _) _
  | lexical =>
      rw [run, ← flatMap_lexicalError?]
      exact adds_references _ lexicalError?
  | tokens =>
      change Adds _ (Severity.error.only _)
      refine Adds.forM_only (fun production => ?_) grammar.productions
      rw [production.walk_eq_forM, List.filterMap_eq_flatMap_toList]
      exact Adds.forM_only (fun leaf => Adds.reportIfAny .error _) production.leaves
  | empty =>
      rw [run, List.filterMap_eq_flatMap_toList]
      exact Adds.forM_only (fun production => Adds.reportIfAny .warning _) grammar.productions

theorem suggestions_run (check : Check) : (check.run grammar start).suggestions = [] := by
  cases check <;> rfl

end Check

theorem Grammar.foldl_run_eq (grammar : Grammar) (start : List String) (checks : List Check)
    (earlier : Findings) :
    checks.foldl (fun findings check => findings ++ check.run grammar start) earlier =
      earlier ++ Findings.gather (Check.run grammar start) checks := by
  induction checks generalizing earlier with
  | nil => exact earlier.append_empty.symm
  | cons check rest ih =>
      rw [List.foldl_cons, ih, Findings.gather_cons, Findings.append_assoc]

theorem Grammar.verify_eq_gather (grammar : Grammar) (start : List String) :
    grammar.verify start = Findings.gather (Check.run grammar start) Check.all := by
  rw [verify, foldl_run_eq, Findings.empty_append]

/-- Verification finds what the checks report into a new account, one after the other. -/
theorem Grammar.verify_eq_report (grammar : Grammar) (start : List String) :
    grammar.verify start = ((grammar.report start).run {}).2 := by
  rw [verify_eq_gather]
  exact (Adds.forM (fun _ => Check.adds_report _) Check.all).run_empty.symm

namespace Event

variable {grammar : Grammar} {start : List String}

/-- What an event makes of an account without findings. -/
def alone (grammar : Grammar) (start : List String) (event : Event) : Findings :=
  ((event.perform grammar start).run {}).2

theorem alone_check (kind : Check) : alone grammar start (.check kind) = kind.run grammar start :=
  (Check.adds_report kind).run_empty

theorem alone_message (severity : Severity) (text : String) :
    alone grammar start (.message severity text) = severity.only [text] :=
  (Adds.report severity text).run_empty

theorem adds_perform (event : Event) :
    Adds (event.perform grammar start) (event.alone grammar start) := by
  cases event with
  | check kind =>
      rw [alone_check]
      exact Check.adds_report kind
  | message severity text =>
      rw [alone_message]
      exact Adds.report severity text

/-- After any events, an account holds what it held before and then what each event says on its
own. -/
theorem run_forM_perform (events : List Event) (earlier : Findings) :
    ((events.forM (perform grammar start)).run earlier).2 =
      earlier ++ Findings.gather (alone grammar start) events :=
  congrArg Prod.snd (Adds.forM adds_perform events earlier)

/-- Checks only add to an account, and each adds what it would report into an empty one, which is
what it finds. So does any sequence of checks and messages, in which a verdict once lost is never
regained, and so does verification, which makes each of the seven checks once. -/
theorem perform_only_adds (grammar : Grammar) (start : List String) :
    (∀ check : Check, ((check.report grammar start).run {}).2 = check.run grammar start) ∧
    (∀ (check : Check) (earlier : Findings),
      ((check.report grammar start).run earlier).2 =
        { errors := earlier.errors ++ ((check.report grammar start).run {}).2.errors
          warnings := earlier.warnings ++ ((check.report grammar start).run {}).2.warnings
          suggestions := earlier.suggestions }) ∧
    (∀ severity text, alone grammar start (.message severity text) = severity.only [text]) ∧
    (∀ (events : List Event) (earlier : Findings),
      let later := ((events.forM (perform grammar start)).run earlier).2
      later =
          { errors := earlier.errors ++
              events.flatMap fun event => (event.alone grammar start).errors
            warnings := earlier.warnings ++
              events.flatMap fun event => (event.alone grammar start).warnings
            suggestions := earlier.suggestions ++
              events.flatMap fun event => (event.alone grammar start).suggestions } ∧
        (earlier.isValid = false → later.isValid = false) ∧
        (earlier.isClean = false → later.isClean = false)) ∧
    Check.all = [.duplicates, .start, .references, .reachability, .lexical, .tokens, .empty] ∧
      grammar.verify start = ((grammar.report start).run {}).2 ∧
      (grammar.verify start).errors =
        Check.all.flatMap (fun check => ((check.report grammar start).run {}).2.errors) ∧
      (grammar.verify start).warnings =
        Check.all.flatMap (fun check => ((check.report grammar start).run {}).2.warnings) := by
  have hcheck (check : Check) :
      ((check.report grammar start).run {}).2 = check.run grammar start := alone_check check
  have hverify := grammar.verify_eq_gather start
  refine ⟨hcheck, ?_, alone_message, ?_, rfl, grammar.verify_eq_report start, ?_, ?_⟩
  · intro check earlier
    rw [hcheck, Check.adds_report check earlier]
    ext1
    · rfl
    · rfl
    · rw [Findings.suggestions_append, check.suggestions_run, List.append_nil]
  · intro events earlier later
    have hlater : later = earlier ++ Findings.gather (alone grammar start) events :=
      run_forM_perform events earlier
    refine ⟨hlater, ?_, ?_⟩
    · intro hinvalid
      rw [hlater, Findings.isValid_append, hinvalid, Bool.false_and]
    · intro hunclean
      rw [hlater, Findings.isClean_append, hunclean, Bool.false_and]
  · rw [hverify]
    simp only [hcheck]
    rfl
  · rw [hverify]
    simp only [hcheck]
    rfl

/-- A check that is made twice says the same twice. What was wrong before is still there, though
neither check has anything to do with it. Verification makes each check once, and three of the
seven find something. -/
theorem perform_only_adds_repeated :
    let place : Position := ⟨"g", .start⟩
    let grammar : Grammar :=
      ⟨[⟨"A", place, some (.group (.token ⟨"", place⟩))⟩, ⟨"B", place, none⟩]⟩
    let events : List Event := [.check .tokens, .message .suggestion "give B a body",
      .check .empty, .check .tokens]
    let earlier : Findings := { errors := ["no such file"], warnings := ["old"] }
    let later := ((events.forM (perform grammar ["A"])).run earlier).2
    later = { errors := ["no such file", "g:1:1: empty token", "g:1:1: empty token"]
              warnings := ["old", "g:1:1: production \x60B\x60 is empty"]
              suggestions := ["give B a body"] } ∧
      earlier.isValid = false ∧ later.isValid = false ∧
      (grammar.verify ["A"]).errors = ["g:1:1: empty token"] ∧
      (grammar.verify ["A"]).warnings =
        ["g:1:1: production \x60B\x60 is unreachable", "g:1:1: production \x60B\x60 is empty"] := by
  intro place grammar events earlier later
  obtain ⟨hcheck, -, -, hevents, hall, -, herrors, hwarnings⟩ := perform_only_adds grammar ["A"]
  obtain ⟨-, hvalid, -⟩ := hevents events earlier
  have hinvalid : earlier.isValid = false := rfl
  have hunreached : Check.unreached grammar.productions ["A"] = [⟨"B", place, none⟩] := by
    cbv
  refine ⟨?_, hinvalid, hvalid hinvalid, ?_, ?_⟩
  · decide
  · rw [herrors, hall]
    simp only [hcheck]
    decide +kernel
  · rw [hwarnings, hall]
    simp only [hcheck, List.flatMap_cons, List.flatMap_nil, Check.run, hunreached]
    decide +kernel

end Event
end MailRules.Ebnf

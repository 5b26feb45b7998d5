import MailRules.Ebnf.Check

/-!
# Reporting into an account

A check can also report what it finds while it goes through the grammar. It then adds to an account
that may hold findings already, from other checks or from whoever asked for them, and terminals are
reported from within the walk through a form.
-/

namespace MailRules.Ebnf

inductive Severity where
  | error
  | warning
  | suggestion
  deriving DecidableEq, Repr

/-- A message at the end of those of its kind. -/
def Findings.add (findings : Findings) (message : String) : Severity → Findings
  | .error => { findings with errors := findings.errors ++ [message] }
  | .warning => { findings with warnings := findings.warnings ++ [message] }
  | .suggestion => { findings with suggestions := findings.suggestions ++ [message] }

def Severity.report (severity : Severity) (message : String) : StateM Findings Unit :=
  modify (·.add message severity)

section Walk

variable {m : Type → Type} [Monad m]

namespace Form

mutual

/-- Visits the names, terminals and ranges in a form, in the order of the text. -/
def walk (visit : Form → m Unit) : Form → m Unit
  | alternative branches => walkAll visit branches
  | sequence items => walkAll visit items
  | group inner | option inner | repetition inner => inner.walk visit
  | name symbol => visit (name symbol)
  | token symbol => visit (token symbol)
  | range first last => visit (range first last)

def walkAll (visit : Form → m Unit) : List Form → m Unit
  | [] => pure ()
  | form :: rest => do
    form.walk visit
    walkAll visit rest

end

end Form

/-- Visits the leaves of the body, if there is one. -/
def Production.walk (visit : Form → m Unit) (production : Production) : m Unit :=
  production.body.forM (Form.walk visit)

end Walk

/-- Puts a leaf that is a name behind those that have been put down. -/
def Form.collect (leaf : Form) : StateM (List Symbol) Unit :=
  leaf.reference?.forM fun name => modify (· ++ [name])

/-- The names in the body, as they come on a walk through it. -/
def Production.collectNames (production : Production) : List Symbol :=
  ((production.walk Form.collect).run []).2

namespace Check

/-- Goes through the productions, of which it has `seen` the first ones of their names. -/
def reportDuplicates (seen : List Production) : List Production → StateM Findings Unit
  | [] => pure ()
  | production :: rest =>
    match seen.find? (·.name = production.name) with
    | some first => do
      Severity.error.report (duplicateError production first)
      reportDuplicates seen rest
    | none => reportDuplicates (seen ++ [production]) rest

/-- Reports what a check finds in a grammar with the given start symbols. -/
def report (grammar : Grammar) (start : List String) : Check → StateM Findings Unit
  | duplicates => reportDuplicates [] grammar.productions
  | .start => start.forM fun name => (startError? grammar name).forM Severity.error.report
  | references =>
    grammar.productions.forM fun production =>
      production.collectNames.forM fun name =>
        (referenceError? grammar production name).forM Severity.error.report
  | reachability =>
    (unreached grammar.productions start).forM fun production =>
      Severity.warning.report (unreachedWarning production)
  | lexical =>
    (grammar.productions.filter Production.isLexical).forM fun production =>
      production.collectNames.forM fun name =>
        (lexicalError? production name).forM Severity.error.report
  | tokens =>
    grammar.productions.forM <| Production.walk fun leaf =>
      (tokenError? leaf).forM Severity.error.report
  | empty =>
    grammar.productions.forM fun production =>
      (emptyWarning? production).forM Severity.warning.report

end Check

/-- Reports what all checks find, one after the other. -/
def Grammar.report (grammar : Grammar) (start : List String) : StateM Findings Unit :=
  Check.all.forM (Check.report grammar start)

/-- Something that adds to an account: a check, or a message from elsewhere. -/
inductive Event where
  | check (kind : Check)
  | message (severity : Severity) (text : String)
  deriving DecidableEq, Repr

/-- What happens to an account of a grammar with the given start symbols. -/
def Event.perform (grammar : Grammar) (start : List String) : Event → StateM Findings Unit
  | .check kind => kind.report grammar start
  | .message severity text => severity.report text

end MailRules.Ebnf

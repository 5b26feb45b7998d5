import MailRules.Message
import MailRules.Rule.Comparator

/-!
# Expressions and statements

A rule pairs an expression, which decides whether it applies to a message, with
statements, which say what is to be done. Statements do nothing by themselves.
-/

namespace MailRules

inductive Expr where
  /-- The values of those of the named headers that the message has. -/
  | header (names : List String) (test : Comparator)
  /-- The body of the message. -/
  | message (test : Comparator)
  /-- The same for every message. -/
  | bool (value : Bool)
  deriving DecidableEq

inductive Stmt where
  | label (labels : List String)
  | mark
  | skip
  | stop
  deriving DecidableEq, Repr

namespace Expr

/-- The expressions are equal, which for their comparators is a matter of texts. -/
def same : Expr → Expr → Bool
  | header names test, header names' test' => names == names' && test.same test'
  | message test, message test' => test.same test'
  | bool value, bool value' => value == value'
  | _, _ => false

/-- The expression applies to what the provider gives. -/
def appliesTo (provider : Provider) : Expr → Bool
  | header names test => test.holds (names.filterMap provider.header?)
  | message test => test.holds [provider.body]
  | bool value => value

/-- The expression applies to the message. -/
def eval (message : Message) (expr : Expr) : Bool := expr.appliesTo message.provider

end Expr
end MailRules

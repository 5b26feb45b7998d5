import MailRules.Rule.Node

/-!
# Canonical source

Every expression and statement has one preferred way of being written. Strings stand
between backticks, which leave everything inside as it is, unless they hold a backtick
themselves; one string stands alone, several stand in brackets.
-/

namespace MailRules.Canonical

def string (value : String) : String :=
  if value.contains '\x60' then s!"\"{value}\"" else s!"`{value}`"

def strings : List String → String
  | [value] => string value
  | values => "[" ++ String.intercalate ", " (values.map string) ++ "]"

end Canonical

namespace Comparator

def render (comparator : Comparator) : String :=
  s!"{comparator.operator.keyword} {Canonical.strings comparator.values}"

end Comparator

namespace Expr

def render : Expr → String
  | header names test =>
    let keyword := if names.length = 1 then "header" else "headers"
    s!"{keyword} {Canonical.strings names} {test.render}"
  | message test => s!"message {test.render}"
  | bool true => "true"
  | bool false => "false"

end Expr

namespace Stmt

def render : Stmt → String
  | label labels => s!"label {Canonical.strings labels}"
  | mark => "mark as read"
  | skip => "skip inbox"
  | stop => "stop"

end Stmt
end MailRules

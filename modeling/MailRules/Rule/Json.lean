import MailRules.Json.Value
import MailRules.Rule.Node

/-!
# Rules as JSON

An expression or statement is an object with a single member, named for its kind.
-/

namespace MailRules

namespace Json

def strings (values : List String) : Json := .array (values.map .string)

/-- An object with a single member. -/
def tagged (name : String) (value : Json) : Json := .object [(name, value)]

end Json

namespace Operator

def jsonName : Operator → String
  | equal => "equal"
  | contains => "contains"
  | search => "match"

end Operator

namespace Comparator

def toJson (comparator : Comparator) : Json :=
  .object [
    ("op", .string comparator.operator.jsonName),
    ("values", .strings comparator.values)]

end Comparator

namespace Expr

def toJson : Expr → Json
  | header names test => .tagged "header" (.object [
      ("headers", .strings names),
      ("op", test.toJson)])
  | message test => .tagged "message" (.object [("op", test.toJson)])
  | bool value => .tagged "bool" (.bool value)

end Expr

namespace Stmt

def toJson : Stmt → Json
  | label labels => .tagged "label" (.object [("labels", .strings labels)])
  | mark => .tagged "mark" .null
  | skip => .tagged "skip" .null
  | stop => .tagged "stop" .null

end Stmt
end MailRules

import MailRules.Unicode.Ranges

/-!
# Named sets of characters

A property, or one value of a property, goes by several names. They are kept in
the form in which names are compared: small letters without blanks, hyphens and
low lines.
-/

namespace MailRules.Unicode

structure PropertyValue where
  names : List String
  set : CharSet

namespace PropertyValue

def find? (values : List PropertyValue) (name : String) : Option PropertyValue :=
  values.find? (·.names.contains name)

end PropertyValue
end MailRules.Unicode

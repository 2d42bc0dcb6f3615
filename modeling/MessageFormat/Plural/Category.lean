import MessageFormat.Plural.Operands

/-!
Plural categories.
-/

set_option autoImplicit false

namespace MessageFormat

inductive PluralCategory where
  | zero | one | two | few | many | other
deriving DecidableEq, Repr

namespace PluralCategory

def text : PluralCategory → String
  | .zero => "zero"
  | .one => "one"
  | .two => "two"
  | .few => "few"
  | .many => "many"
  | .other => "other"

def all : List PluralCategory := [.zero, .one, .two, .few, .many, .other]

/-- Any other name counts as `other`. -/
def ofText (s : String) : PluralCategory := (all.find? (·.text == s)).getD .other

end PluralCategory
end MessageFormat

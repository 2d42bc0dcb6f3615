import MessageFormat.Format.Duration
import MessageFormat.Format.Relative
import MessageFormat.Pattern.Basic

/-!
The formatters that every pattern can name.
-/

set_option autoImplicit false

namespace MessageFormat.Format

open MessageFormat.Locale (Context)

inductive Builtin where
  | number | date | time | dateTime | list | duration | relativeTime | numberRange | dateRange
deriving DecidableEq, Repr

namespace Builtin

/-- Names are compared in lower case. -/
def ofName? (name : String) : Option Builtin :=
  match Text.lowerString name with
  | "number" => some .number
  | "date" => some .date
  | "time" => some .time
  | "datetime" => some .dateTime
  | "list" => some .list
  | "duration" => some .duration
  | "relativetime" => some .relativeTime
  | "numberrange" => some .numberRange
  | "daterange" => some .dateRange
  | _ => none

def apply (context : Context) (g : Graph) (call : FormatterCall) (value : Value) :
    Builtin → Outcome String
  | .number => Format.number context g call.skeleton call.style value
  | .date => moment context g .date call.style value
  | .time => moment context g .time call.style value
  | .dateTime => moment context g .dateTime call.style value
  | .list => Format.list context g call.style value
  | .duration => Format.duration context g call.style value
  | .relativeTime => Format.relativeTime context call.style value
  | .numberRange => Format.numberRange context g call.skeleton call.style value
  | .dateRange => Format.dateRange context g call.style value

end Builtin
end MessageFormat.Format

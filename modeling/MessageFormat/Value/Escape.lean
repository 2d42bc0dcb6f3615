import MessageFormat.Text.Entity
import MessageFormat.Value.Text

/-!
Arguments without markup. Texts are escaped; numbers, dates and times stay as they are; what is left becomes
its escaped text.
-/

set_option autoImplicit false

namespace MessageFormat

def escapeText (s : String) : String := String.ofList (Text.escapeOnce s.toList)

namespace Graph

mutual

def escape (g : Graph) : Value → Value
  | .text s => .text (escapeText s)
  | .list items | .tuple items => .list (escapeAll g items)
  | v@(.null) | v@(.bool _) | v@(.int _) | v@(.float _) | v@(.decimal _) | v@(.date _) | v@(.time _)
  | v@(.moment _) | v@(.duration _) => v
  | v => .text (String.ofList (Text.escapeOnce (g.text v)))

def escapeAll (g : Graph) : List Value → List Value
  | [] => []
  | v :: vs => escape g v :: escapeAll g vs

end

/-- Names are kept as they are. -/
def escapeEntries (g : Graph) (entries : List (Value × Value)) : List (Value × Value) :=
  entries.map fun e => (e.1, g.escape e.2)

end Graph
end MessageFormat

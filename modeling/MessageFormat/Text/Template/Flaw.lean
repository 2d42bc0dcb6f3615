import MessageFormat.Fault
import MessageFormat.Text.Quoted

/-!
What can be wrong with a template, and with what a template asks of its items.
-/

set_option autoImplicit false

namespace MessageFormat.Text.Template

inductive Flaw where
  | loneBrace (brace : Char)
  | braceInName
  | openField
  | openStyle
  | missingConversion
  | textAfterConversion
  | unknownConversion (mark : Char)
  | tooManyDigits
  | countedAfterNumbered
  | numberedAfterCounted
  | unknownName (name : List Char)
  | missingItem (place : Nat)
  | openIndex
  | textAfterIndex
  | emptyStep
  | noAttribute (name : List Char)
  | indexByName
  | indexOutOfRange
  | nestedTooDeep
  | bothSeparators
  | missingPrecision
  | badLayout (layout : List Char)
  | separatorWith (separator kind : Char)
  | unknownKind (kind : Char)
  | signed (sign : Char)
  | zeroUnsigned
  | alternate
  | alignedAfterSign
  | outOfMemory
deriving DecidableEq, Repr

namespace Flaw

/-- A character by itself if it prints up to `last`, else by its number. -/
def shown (last : Nat) (c : Char) : String :=
  if 32 < c.toNat && c.toNat ≤ last then String.singleton c
  else String.ofList ('\\' :: 'x' :: hexDigits 1 c.toNat)

def message : Flaw → String
  | .loneBrace brace => s!"Single '{brace}' encountered in format string"
  | .braceInName => "unexpected '\x7b' in field name"
  | .openField => "expected '\x7d' before end of string"
  | .openStyle => "unmatched '\x7b' in format spec"
  | .missingConversion => "end of string while looking for conversion specifier"
  | .textAfterConversion => "expected ':' after conversion specifier"
  | .unknownConversion mark => s!"Unknown conversion specifier {shown 126 mark}"
  | .tooManyDigits => "Too many decimal digits in format string"
  | .countedAfterNumbered =>
    "cannot switch from manual field specification to automatic field numbering"
  | .numberedAfterCounted =>
    "cannot switch from automatic field numbering to manual field specification"
  | .unknownName name => String.ofList (quote name)
  | .missingItem place => s!"Replacement index {place} out of range for positional args tuple"
  | .openIndex => "Missing ']' in format string"
  | .textAfterIndex => "Only '.' or '[' may follow ']' in format field specifier"
  | .emptyStep => "Empty attribute in format string"
  | .noAttribute name => s!"'str' object has no attribute '{String.ofList name}'"
  | .indexByName => "string indices must be integers, not 'str'"
  | .indexOutOfRange => "string index out of range"
  | .nestedTooDeep => "Max string recursion exceeded"
  | .bothSeparators => "Cannot specify both ',' and '_'."
  | .missingPrecision => "Format specifier missing precision"
  | .badLayout layout =>
    s!"Invalid format specifier '{String.ofList layout}' for object of type 'str'"
  | .separatorWith separator kind => s!"Cannot specify '{separator}' with '{shown 127 kind}'."
  | .unknownKind kind => s!"Unknown format code '{shown 127 kind}' for object of type 'str'"
  | .signed sign =>
    if sign = ' ' then "Space not allowed in string format specifier"
    else "Sign not allowed in string format specifier"
  | .zeroUnsigned => "Negative zero coercion (z) not allowed in string format specifier"
  | .alternate => "Alternate form (#) not allowed in string format specifier"
  | .alignedAfterSign => "'=' alignment not allowed in string format specifier"
  | .outOfMemory => ""

def kind : Flaw → FaultKind
  | .unknownName _ => .key
  | .missingItem _ | .indexOutOfRange => .index
  | .noAttribute _ => .attribute
  | .indexByName => .type
  | .outOfMemory => .memory
  | _ => .value

def fault (f : Flaw) : Fault := ⟨f.kind, f.message⟩

end Flaw
end MessageFormat.Text.Template

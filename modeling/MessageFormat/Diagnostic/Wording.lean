import MessageFormat.Diagnostic.Basic

/-!
What is said about each fault.
-/

set_option autoImplicit false

namespace MessageFormat

/-- What can be wrong with a pattern's text, with the words of the pattern that the message needs. -/
inductive Flaw where
  | expectedClosingBrace
  | expectedArgumentName
  | expectedFormatterName
  | expectedCaseBody (key : String)
  | expectedCaseKey (construct : String)
  | emptyCases (construct : String)
  | invalidOffset (text : String)
  | expectedRangeEnd (formatter : String)
  | expectedTagName
  | expectedTagEnd (tag : String)
  | unclosedTag (tag : String)
  | mismatchedTag (expected found : String)
  | unexpectedClosingTag (tag : String)
  | nestingDepthExceeded (limit : Int)
deriving DecidableEq, Repr

namespace Flaw

def code : Flaw → Diagnostic.Code
  | .expectedClosingBrace => .expectedClosingBrace
  | .expectedArgumentName => .expectedArgumentName
  | .expectedFormatterName => .expectedFormatterName
  | .expectedCaseBody _ => .expectedCaseBody
  | .expectedCaseKey _ => .expectedCaseKey
  | .emptyCases _ => .emptyCases
  | .invalidOffset _ => .invalidOffset
  | .expectedRangeEnd _ => .expectedRangeEnd
  | .expectedTagName => .expectedTagName
  | .expectedTagEnd _ => .expectedTagEnd
  | .unclosedTag _ => .unclosedTag
  | .mismatchedTag .. => .mismatchedTag
  | .unexpectedClosingTag _ => .unexpectedClosingTag
  | .nestingDepthExceeded _ => .nestingDepthExceeded

def message (place : String) : Flaw → String
  | .expectedClosingBrace => s!"Expected closing brace for '\x7b' {place}"
  | .expectedArgumentName => s!"Expected argument name {place}"
  | .expectedFormatterName => s!"Expected formatter name {place}"
  | .expectedCaseBody key => s!"Expected '\x7b' after key '{key}' {place}"
  | .expectedCaseKey construct => s!"Expected case key in {construct} {place}"
  | .emptyCases construct => s!"'{construct}' element requires cases {place}"
  | .invalidOffset text => s!"Invalid plural offset '{text}' {place}"
  | .expectedRangeEnd formatter => s!"Expected end argument for {formatter} {place}"
  | .expectedTagName => s!"Expected tag name {place}"
  | .expectedTagEnd tag => s!"Expected '>' after tag name '{tag}' {place}"
  | .unclosedTag tag => s!"Unclosed tag '<{tag}>' starting {place}"
  | .mismatchedTag expected found =>
    s!"Mismatched closing tag '</{found}>' {place}, expected '</{expected}>'"
  | .unexpectedClosingTag tag => s!"Unexpected closing tag '</{tag}>' {place}"
  | .nestingDepthExceeded limit => s!"Nesting depth limit ({limit}) exceeded {place}"

def hint? : Flaw → Option String
  | .expectedClosingBrace =>
    some "Close the placeholder with '\x7d' or escape a literal brace as '\x7b'"
  | .expectedArgumentName => some "Argument names use letters, digits, '_', '-' and '.'"
  | .expectedFormatterName => some "Use e.g. \x7bcount, number\x7d or \x7bcount, plural, ...\x7d"
  | .expectedCaseBody key => some s!"Write the case as {key} \x7b...\x7d"
  | .emptyCases _ => some "Add at least an 'other \x7b...\x7d' case"
  | .invalidOffset _ => some "Offsets are integers, e.g. offset:1"
  | .expectedRangeEnd formatter => some s!"Use \x7bstart, {formatter}, end\x7d"
  | .unclosedTag tag => some s!"Add a matching '</{tag}>'"
  | .mismatchedTag .. => some "Close tags in the reverse order they were opened"
  | .nestingDepthExceeded _ => some "Flatten the pattern or raise max_nesting_depth"
  | .expectedCaseKey _ | .expectedTagName | .expectedTagEnd _ | .unexpectedClosingTag _ => none

def tagName? : Flaw → Option String
  | .expectedTagEnd tag | .unclosedTag tag | .mismatchedTag _ tag | .unexpectedClosingTag tag =>
    some tag
  | _ => none

def construct? : Flaw → Option String
  | .expectedCaseKey construct | .emptyCases construct => some construct
  | .invalidOffset _ => some "plural"
  | _ => none

def diagnostic (flaw : Flaw) (span : Span) : Diagnostic where
  code := flaw.code
  message := flaw.message s!"at line {span.line}, column {span.column}"
  span := some span
  hint := flaw.hint?
  tagName := flaw.tagName?
  construct := flaw.construct?

end Flaw

namespace Diagnostic

def otherOptionNotFound (construct : String) : Diagnostic where
  code := .otherOptionNotFound
  message := s!"'other' option not found in {construct} pattern."
  hint := some "Add an 'other \x7b...\x7d' case"
  construct := some construct

def missingVariable (name : String) : Diagnostic where
  code := .missingVariable
  message := s!"Missing required variable '{name}'."
  hint := some s!"Pass '{name}' in the arguments mapping"
  variableName := some name

def maxDepthExceeded (limit : Int) : Diagnostic where
  code := .maxDepthExceeded
  message := s!"Maximum evaluation depth ({limit}) exceeded"
  hint := some "The AST nests deeper than the formatter allows"

/-- Code point order. -/
def sortedNames (names : List String) : List String := names.mergeSort fun a b => decide (a ≤ b)

def listedLocales : Nat := 20

/-- The first locales in order, and their number if there are more. -/
def localeListing (available : List String) : String :=
  let names := sortedNames available
  let listing := ", ".intercalate (names.take listedLocales)
  let listing := if listing.isEmpty then "none" else listing
  if listedLocales < names.length then s!"{listing}, ... ({names.length} total)" else listing

def unsupportedLocale (locale : String) (available : List String) : Diagnostic where
  code := .unsupportedLocale
  message :=
    s!"The locale '{locale}' is not supported. Available locales: {localeListing available}"
  hint := some "Configure a fallback locale the locale data backend provides"
  locale := some locale

end Diagnostic
end MessageFormat

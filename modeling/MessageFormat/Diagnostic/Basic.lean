/-!
Diagnostics: a code, a message, and what the message is about.
-/

set_option autoImplicit false

namespace MessageFormat

/-- A place in a pattern: offsets from zero, the end excluded; lines and columns from one. -/
structure Span where
  start : Int
  stop : Int
  line : Int
  column : Int
deriving DecidableEq, Repr

/-- Why four numbers are no span. -/
inductive Span.Fault where
  | negativeStart (given : Int)
  | endBeforeStart (given start : Int)
  | lineTooSmall (given : Int)
  | columnTooSmall (given : Int)
deriving DecidableEq, Repr

def Span.Fault.message : Span.Fault → String
  | .negativeStart n => s!"SourceSpan.start must be >= 0, got {n}"
  | .endBeforeStart n start => s!"SourceSpan.end ({n}) must be >= start ({start})"
  | .lineTooSmall n => s!"SourceSpan.line must be >= 1 (1-indexed), got {n}"
  | .columnTooSmall n => s!"SourceSpan.column must be >= 1 (1-indexed), got {n}"

def Span.check (s : Span) : Except Span.Fault Span :=
  if s.start < 0 then .error (.negativeStart s.start)
  else if s.stop < s.start then .error (.endBeforeStart s.stop s.start)
  else if s.line < 1 then .error (.lineTooSmall s.line)
  else if s.column < 1 then .error (.columnTooSmall s.column)
  else .ok s

namespace Diagnostic

inductive Code where
  | expectedClosingBrace | expectedArgumentName | expectedFormatterName | expectedCaseBody
  | expectedCaseKey | emptyCases | invalidOffset | expectedTagName | expectedTagEnd | unclosedTag
  | mismatchedTag | unexpectedClosingTag | expectedRangeEnd | nestingDepthExceeded
  | otherOptionNotFound | missingVariable | maxDepthExceeded
  | unsupportedLocale
deriving DecidableEq, Repr

namespace Code

def name : Code → String
  | .expectedClosingBrace => "EXPECTED_CLOSING_BRACE"
  | .expectedArgumentName => "EXPECTED_ARGUMENT_NAME"
  | .expectedFormatterName => "EXPECTED_FORMATTER_NAME"
  | .expectedCaseBody => "EXPECTED_CASE_BODY"
  | .expectedCaseKey => "EXPECTED_CASE_KEY"
  | .emptyCases => "EMPTY_CASES"
  | .invalidOffset => "INVALID_OFFSET"
  | .expectedTagName => "EXPECTED_TAG_NAME"
  | .expectedTagEnd => "EXPECTED_TAG_END"
  | .unclosedTag => "UNCLOSED_TAG"
  | .mismatchedTag => "MISMATCHED_TAG"
  | .unexpectedClosingTag => "UNEXPECTED_CLOSING_TAG"
  | .expectedRangeEnd => "EXPECTED_RANGE_END"
  | .nestingDepthExceeded => "NESTING_DEPTH_EXCEEDED"
  | .otherOptionNotFound => "OTHER_OPTION_NOT_FOUND"
  | .missingVariable => "MISSING_VARIABLE"
  | .maxDepthExceeded => "MAX_DEPTH_EXCEEDED"
  | .unsupportedLocale => "UNSUPPORTED_LOCALE"

/-- Faults of a pattern's text from 1001, of its evaluation from 2001, of a locale from 3001. -/
def number : Code → Nat
  | .expectedClosingBrace => 1001
  | .expectedArgumentName => 1002
  | .expectedFormatterName => 1003
  | .expectedCaseBody => 1004
  | .expectedCaseKey => 1005
  | .emptyCases => 1006
  | .invalidOffset => 1007
  | .expectedTagName => 1008
  | .expectedTagEnd => 1009
  | .unclosedTag => 1010
  | .mismatchedTag => 1011
  | .unexpectedClosingTag => 1012
  | .expectedRangeEnd => 1013
  | .nestingDepthExceeded => 1014
  | .otherOptionNotFound => 2001
  | .missingVariable => 2002
  | .maxDepthExceeded => 2003
  | .unsupportedLocale => 3001

def category (c : Code) : String := if 3000 ≤ c.number then "locale" else "pattern"

def all : List Code :=
  [.expectedClosingBrace, .expectedArgumentName, .expectedFormatterName, .expectedCaseBody,
   .expectedCaseKey, .emptyCases, .invalidOffset, .expectedTagName, .expectedTagEnd, .unclosedTag,
   .mismatchedTag, .unexpectedClosingTag, .expectedRangeEnd, .nestingDepthExceeded,
   .otherOptionNotFound, .missingVariable, .maxDepthExceeded, .unsupportedLocale]

def ofName? (name : String) : Option Code := all.find? (·.name == name)

end Code
end Diagnostic

structure Diagnostic where
  code : Diagnostic.Code
  message : String
  span : Option Span := none
  hint : Option String := none
  tagName : Option String := none
  variableName : Option String := none
  construct : Option String := none
  locale : Option String := none
deriving DecidableEq, Repr

end MessageFormat

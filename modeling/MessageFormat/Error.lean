import MessageFormat.Diagnostic.Report
import MessageFormat.Diagnostic.Wording
import MessageFormat.Fault

/-!
Why a message is not formatted: causes, and the reports that are made of them.
-/

set_option autoImplicit false

namespace MessageFormat

inductive Error where
  | malformed (flaw : Flaw) (span : Span)
  | oversized (size limit : Int)
  | missingOption (construct : String)
  | missingVariable (name : String)
  | tooDeep (limit : Int)
  | unsupportedLocale (requested : String) (available : List String)
  | foreignNode (kind : String)
  | stackExhausted
  | fault (fault : Fault)
deriving DecidableEq, Repr

/-- The kinds of failure that this library names itself. -/
inductive FailureKind where
  | messageFormat | pattern | malformed | resolution | missingOption | missingVariable
  | depthLimit | invalidLocale
deriving DecidableEq, Repr

namespace FailureKind

def name : FailureKind → String
  | .messageFormat => "MessageFormatError"
  | .pattern => "PatternError"
  | .malformed => "PatternSyntaxError"
  | .resolution => "PatternResolutionError"
  | .missingOption => "MissingOptionError"
  | .missingVariable => "MissingVariableError"
  | .depthLimit => "DepthLimitExceededError"
  | .invalidLocale => "InvalidLocaleError"

def all : List FailureKind :=
  [.messageFormat, .pattern, .malformed, .resolution, .missingOption, .missingVariable, .depthLimit,
   .invalidLocale]

def ofName? (s : String) : Option FailureKind := all.find? (·.name == s)

/-- The wider kinds of a kind, the nearest first. -/
def wider : FailureKind → List FailureKind
  | .messageFormat => []
  | .pattern | .invalidLocale => [.messageFormat]
  | .malformed | .resolution => [.pattern, .messageFormat]
  | .missingOption | .missingVariable | .depthLimit => [.resolution, .pattern, .messageFormat]

end FailureKind

/-- What a failure says: a diagnostic, or a text alone. -/
inductive Detail where
  | diagnostic (d : Diagnostic)
  | text (s : String)
deriving DecidableEq, Repr

/-- A failure with its kind; a failure about a locale names it and what there is instead. -/
structure Failure where
  kind : FailureKind
  detail : Detail
  locale : String := ""
  available : List String := []
deriving DecidableEq, Repr

/-- What can be read off a failure. -/
inductive Attribute where
  | number (n : Option Int)
  | text (s : Option String)
deriving DecidableEq, Repr

namespace Failure

def diagnostic? (f : Failure) : Option Diagnostic :=
  match f.detail with
  | .diagnostic d => some d
  | .text _ => none

def message (f : Failure) : String :=
  match f.detail with
  | .diagnostic d => d.render
  | .text s => s

/-- The parts of the diagnostic that a failure of this kind shows by itself. -/
def attributes (f : Failure) : List (String × Attribute) :=
  let d := f.diagnostic?
  let span := d.bind (·.span)
  match f.kind with
  | .malformed =>
    [("line", .number (span.map (·.line))), ("column", .number (span.map (·.column))),
     ("tag_name", .text (d.bind (·.tagName)))]
  | .missingOption => [("construct", .text (d.bind (·.construct)))]
  | .missingVariable => [("variable_name", .text (d.bind (·.variableName)))]
  | .invalidLocale => [("locale", .text (some f.locale))]
  | _ => []

end Failure

namespace Error

/-- The failure that this library names, if it is one. -/
def failure? : Error → Option Failure
  | .malformed flaw span => some { kind := .malformed, detail := .diagnostic (flaw.diagnostic span) }
  | .missingOption construct =>
    some { kind := .missingOption, detail := .diagnostic (.otherOptionNotFound construct) }
  | .missingVariable name =>
    some { kind := .missingVariable, detail := .diagnostic (.missingVariable name) }
  | .tooDeep limit => some { kind := .depthLimit, detail := .diagnostic (.maxDepthExceeded limit) }
  | .unsupportedLocale requested available =>
    some {
      kind := .invalidLocale, detail := .diagnostic (.unsupportedLocale requested available),
      locale := requested, available := available }
  | .oversized .. | .foreignNode _ | .stackExhausted | .fault _ => none

/-- A comma after every third digit, for digits from the last to the first; `k` stand since the last
comma. -/
def groupReversed : Nat → List Char → List Char
  | _, [] => []
  | 3, c :: r => ',' :: c :: groupReversed 1 r
  | k, c :: r => c :: groupReversed (k + 1) r

/-- Digits in groups of three. -/
def groupDigits (n : Int) : String :=
  let digits := (Text.natDigits n.natAbs).reverse
  String.ofList ((if n < 0 then ['-'] else []) ++ (groupReversed 0 digits).reverse)

/-- The name of the kind of any error. -/
def kindName (e : Error) : String :=
  match e.failure? with
  | some f => f.kind.name
  | none => match e with
    | .oversized .. => "ValueError"
    | .foreignNode _ => "TypeError"
    | .fault f => f.kind.name
    | _ => "RecursionError"

def message (e : Error) : String :=
  match e.failure? with
  | some f => f.message
  | none => match e with
    | .oversized size limit =>
      s!"Pattern size ({groupDigits size} characters) exceeds maximum ({groupDigits limit} " ++
        "characters). Configure max_source_size in MessageParser constructor to increase limit."
    | .foreignNode kind => s!"Unknown AST node: {kind}"
    | .fault f => f.message
    | _ => "maximum recursion depth exceeded"

end Error
end MessageFormat

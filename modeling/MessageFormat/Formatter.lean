import MessageFormat.Evaluator
import MessageFormat.Locale.Resolver
import MessageFormat.Options
import MessageFormat.Pattern.Cache
import MessageFormat.Value.Escape
import MessageFormat.Value.Flatten

/-!
Formatters: patterns and arguments in, text out, for one locale under one set of options.
-/

set_option autoImplicit false

namespace MessageFormat

def Error.ofRejection : Pattern.Rejection → Error
  | .oversized size limit => .oversized size limit
  | .malformed flaw span => .malformed flaw span

/-- The message that a text is the pattern of. -/
def Message.ofPattern (settings : Pattern.Settings) (pattern : String) : Except Error Message :=
  (settings.parse pattern.toList).mapError Error.ofRejection

/-- How arguments are taken: by their names, by names that join nested ones, or as parts of markup. -/
inductive Mode where
  | message | complex | markup
deriving DecidableEq, Repr

def Mode.ofName? : String → Option Mode
  | "message" => some .message
  | "complex" => some .complex
  | "html" => some .markup
  | _ => none

structure Formatter where
  options : Options
  context : Locale.Context
  customFormatters : Registry CustomFormatter := {}
  tagHandlers : Registry TagHandler := {}

namespace Formatter

/-- There must be data of some kind for a locale of the chain. -/
def build (backend : Locale.Backend) (options : Options) (locale : String) :
    Except Error Formatter := do
  let resolver := Locale.Resolver.build backend locale options.fallbackLocale
  let _ ← resolver.resolveAny.result
  let customFormatters ← (Registry.ofOffers options.customFormatters).mapError .fault
  let tagHandlers ← (Registry.ofOffers options.tagHandlers).mapError .fault
  let context := Locale.Context.build backend locale options.fallbackLocale
  return { options, context, customFormatters, tagHandlers }

def locale (f : Formatter) : String := f.context.requested

def chain (f : Formatter) : List String := f.context.chain

/-- A tuple of texts as it is displayed. -/
def displayNames (names : List String) : List Char :=
  ({} : Graph).display (.tuple (names.map Value.text))

protected def toString (f : Formatter) : String :=
  "MessageFormatter(locale=" ++ Text.quoteString f.locale ++ ", chain=" ++
    String.ofList (displayNames f.chain) ++ ")"

/-- The message of a pattern, from the cache if there is one. -/
def parse (f : Formatter) (cache : Option Pattern.Cache) (pattern : String) :
    Except Error Message × Option Pattern.Cache :=
  let parsed := Message.ofPattern f.options.patternSettings
  match cache with
  | none => (parsed pattern, none)
  | some cache =>
    let key : Pattern.Cache.Key := ⟨pattern, f.options.ignoreTags⟩
    let (message, cache) := cache.getOrCompute key fun cache => (parsed pattern, cache)
    (message, some cache)

def arguments (f : Formatter) (mode : Mode) (g : Graph) (value : Value) : Arguments :=
  match mode with
  | .message => .ofValue g value
  | .complex =>
    .named ((g.flatten f.options.nestedSeparator value).map fun e => (.text e.1, e.2))
  | .markup => .named (g.escapeEntries ((g.view value).getD []))

/-- The text of a parsed message. -/
def formatMessage (f : Formatter) (mode : Mode) (g : Graph) (value : Value) (message : Message) :
    Outcome String :=
  let evaluator : Evaluator := {
    context := f.context, graph := g, arguments := f.arguments mode g value,
    customFormatters := f.customFormatters, tagHandlers := f.tagHandlers,
    requireAllVariables := f.options.requireAllVariables, markup := mode == .markup }
  evaluator.message f.options.maxNestingDepth message

def format (f : Formatter) (cache : Option Pattern.Cache) (mode : Mode) (pattern : String)
    (g : Graph) (value : Value) : Outcome String × Option Pattern.Cache :=
  match f.parse cache pattern with
  | (.ok message, cache) => (f.formatMessage mode g value message, cache)
  | (.error e, cache) => (Outcome.fail e, cache)

end Formatter
end MessageFormat

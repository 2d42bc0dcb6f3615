import MessageFormat.Formatter

/-!
Formatters by locale. Each is made when it is first asked for; all share one cache of patterns. Spellings
that differ in case, separators or blanks around them are one locale.
-/

set_option autoImplicit false

namespace MessageFormat

structure Provider where
  backend : Locale.Backend
  options : Options
  cache : Option Pattern.Cache
  formatters : List (String × Formatter) := []

namespace Provider

def build (backend : Locale.Backend) (options : Options) : Except Fault Provider := do
  let cache ← Pattern.Cache.ofCapacity options.cacheSize
  return { backend, options, cache := if options.enableCache then some cache else none }

def key (locale : String) : String := Text.lowerString (Locale.hyphenated locale)

def find? (p : Provider) (locale : String) : Option Formatter :=
  (p.formatters.find? fun e => e.1 == key locale).map (·.2)

def contains (p : Provider) (locale : String) : Bool := (p.find? locale).isSome

def size (p : Provider) : Nat := p.formatters.length

/-- The locales as they were first asked for. -/
def locales (p : Provider) : List String := p.formatters.map fun e => e.2.locale

def formatter (p : Provider) (locale : String) : Except Error Formatter × Provider :=
  match p.find? locale with
  | some f => (.ok f, p)
  | none =>
    match Formatter.build p.backend p.options (Locale.hyphenated locale) with
    | .ok f => (.ok f, { p with formatters := p.formatters ++ [(key locale, f)] })
    | .error e => (.error e, p)

/-- Makes formatters up to the first one that cannot be made. -/
def prepare (p : Provider) : List String → Except Error Unit × Provider
  | [] => (.ok (), p)
  | locale :: locales =>
    match p.formatter locale with
    | (.ok _, p) => prepare p locales
    | (.error e, p) => (.error e, p)

def format (p : Provider) (locale : String) (mode : Mode) (pattern : String) (g : Graph)
    (value : Value) : Outcome String × Provider :=
  match p.formatter locale with
  | (.error e, p) => (Outcome.fail e, p)
  | (.ok f, p) =>
    let (outcome, cache) := f.format p.cache mode pattern g value
    (outcome, { p with cache })

/-- Whether a pattern is cached; without a cache there is no such question. -/
def isCached (p : Provider) (key : Option Pattern.Cache.Key) : Except Fault Bool :=
  match p.cache with
  | none => .error ⟨.type, "argument of type 'NoneType' is not iterable"⟩
  | some cache => .ok ((key.map cache.contains).getD false)

end Provider
end MessageFormat

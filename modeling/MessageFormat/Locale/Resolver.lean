import MessageFormat.Error
import MessageFormat.Locale.Backend
import MessageFormat.Locale.Tag

/-!
From a requested locale to the locales that have data. An answer is kept, and one that is not the request
itself is warned of once.
-/

set_option autoImplicit false

namespace MessageFormat.Locale

structure Resolver where
  backend : Backend
  requested : String
  chain : List String
  known : List (DataKind × Option String) := []

/-- The answer of a resolver, its warnings, and the resolver that remembers it. -/
structure Resolution (α : Type) where
  result : α
  warnings : List String
  resolver : Resolver

namespace Resolver

def build (backend : Backend) (requested fallback : String) : Resolver :=
  { backend, requested, chain := Locale.chain requested fallback }

def known? (r : Resolver) (kind : DataKind) : Option (Option String) :=
  (r.known.find? fun k => k.1 == kind).map (·.2)

def warningsFor (r : Resolver) (kind : DataKind) (resolved : Option String) : List String :=
  match resolved with
  | none => []
  | some locale =>
    if r.chain.head? = some locale then []
    else [s!"Locale '{r.requested}' has no {kind.text} data; using '{locale}'"]

/-- The first locale of the chain with data of a kind. -/
def resolve (r : Resolver) (kind : DataKind) : Resolution (Option String) :=
  match r.known? kind with
  | some resolved => ⟨resolved, [], r⟩
  | none =>
    let resolved := r.backend.firstWith kind r.chain
    ⟨resolved, r.warningsFor kind resolved, { r with known := r.known ++ [(kind, resolved)] }⟩

def unsupported (r : Resolver) : Error := .unsupportedLocale r.requested r.backend.available

/-- The answer for the first of these kinds that has one. -/
def resolveFirst (r : Resolver) : List DataKind → Resolution (Except Error String)
  | [] => ⟨.error r.unsupported, [], r⟩
  | kind :: kinds =>
    let one := r.resolve kind
    match one.result with
    | some locale => ⟨.ok locale, one.warnings, one.resolver⟩
    | none =>
      let more := one.resolver.resolveFirst kinds
      ⟨more.result, one.warnings ++ more.warnings, more.resolver⟩

def resolveAny (r : Resolver) : Resolution (Except Error String) := r.resolveFirst DataKind.all

end Resolver

/-- One kind of data for a locale that must have some. -/
def resolve (backend : Backend) (requested fallback : String) (kind : DataKind) :
    Except Error String :=
  match backend.firstWith kind (Locale.chain requested fallback) with
  | some locale => .ok locale
  | none => .error (.unsupportedLocale requested backend.available)

end MessageFormat.Locale

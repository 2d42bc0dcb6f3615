import MessageFormat.Fault
import MessageFormat.Locale.Tag
import MessageFormat.Text.Quoted

/-!
Locale identifiers taken apart: a language, and perhaps a script, a territory and a variant.
-/

set_option autoImplicit false

namespace MessageFormat.Locale.Cldr

open Text

structure Identifier where
  language : List Char
  script : Option (List Char) := none
  territory : Option (List Char) := none
  variant : Option (List Char) := none
deriving DecidableEq, Repr

namespace Identifier

def isTitle (s : List Char) : Bool := s.length == 4 && s.all isLetter

def isTerritory (s : List Char) : Bool :=
  (s.length == 2 && s.all isLetter) || (s.length == 3 && s.all isDigit)

def isVariant (s : List Char) : Bool :=
  match s with
  | c :: _ => (s.length == 4 && isDigit c) || (5 ≤ s.length && isLetter c)
  | [] => false

def title : List Char → List Char
  | [] => []
  | c :: r => upper [c] ++ lower r

/-- The first part, if it is of a kind, and what is left. -/
def takePart (isKind : List Char → Bool) : List (List Char) → Option (List Char) × List (List Char)
  | [] => (none, [])
  | p :: r => if isKind p then (some p, r) else (none, p :: r)

/-- Reads an identifier whose parts are joined with low lines; what follows a point or an at sign is not
looked at. -/
def read (id : String) : Except Fault Identifier :=
  let plain := (cut '.' (cut '@' id.toList).1).1
  match pieces (· == '_') plain with
  | [] => .error (.value "expected only letters, got ''")
  | language :: parts =>
    let language := lower language
    if language.isEmpty || !language.all isLetter then
      .error (.value ("expected only letters, got " ++ String.ofList (quote language)))
    else
      let (script, parts) := takePart isTitle parts
      let (territory, parts) := takePart isTerritory parts
      let (variant, parts) := takePart isVariant parts
      if parts.isEmpty then
        .ok ⟨language, script.map title, territory.map upper, variant.map upper⟩
      else
        .error (.value (String.ofList (quote plain) ++ " is not a valid locale identifier"))

def parts (i : Identifier) : List (List Char) :=
  i.language :: (i.script.toList ++ i.territory.toList ++ i.variant.toList)

def text (i : Identifier) : String := String.ofList (['_'].intercalate i.parts)

end Identifier
end MessageFormat.Locale.Cldr

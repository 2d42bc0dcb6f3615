import MessageFormat.Decimal.Reading

/-!
The words of patterns. A reader gives what it read and what follows; it gives nothing where its word does
not start.
-/

set_option autoImplicit false

namespace MessageFormat.Pattern

open Text

/-- A tag opens or closes only where a letter follows; elsewhere `<` is text. -/
def startsTag : List Char → Bool
  | '<' :: '/' :: c :: _ => isLetter c
  | '<' :: c :: _ => isLetter c
  | _ => false

def closesTag : List Char → Bool
  | '<' :: '/' :: _ => true
  | _ => false

/-- A non-empty run. -/
def run? (p : Char → Bool) (s : List Char) : Option (List Char × List Char) :=
  match s.span p with
  | ([], _) => none
  | r => some r

/-- Names of arguments, formatters, categories and tags. -/
def name? (s : List Char) : Option (List Char × List Char) := run? isNameChar s

def isKeyChar (c : Char) : Bool := !isBlank c && c != '{' && c != '}'

def selectKey? (s : List Char) : Option (List Char × List Char) := run? isKeyChar s

/-- Digits after a point; a point without digits is not read. -/
def fraction (s : List Char) : List Char × List Char :=
  match s with
  | '.' :: r =>
    match run? isDigit r with
    | some p => p
    | none => ([], s)
  | _ => ([], s)

/-- An integer or decimal literal, perhaps with a minus sign. -/
def decimal? (s : List Char) : Option (Decimal × List Char) :=
  let (negative, r) := match s with
    | '-' :: r => (true, r)
    | r => (false, r)
  match run? isDigit r with
  | none => none
  | some (whole, r) =>
    let (places, r) := fraction r
    some (⟨negative, digitsValue (whole ++ places), -(places.length : Int)⟩, r)

/-- What stands between two suffixes of one text. -/
def between (s rest : List Char) : List Char := s.take (s.length - rest.length)

/-- The text up to the brace that closes a style slot. Inner braces balance; in quotes they do not
count. -/
def styleText : Nat → Bool → List Char → Option (List Char × List Char)
  | _, _, [] => none
  | depth, quoted, '\'' :: '\'' :: r =>
    (styleText depth quoted r).map fun p => onto '\'' (onto '\'' p)
  | depth, quoted, '\'' :: r => (styleText depth (!quoted) r).map (onto '\'')
  | depth, true, c :: r => (styleText depth true r).map (onto c)
  | depth, false, '{' :: r => (styleText (depth + 1) false r).map (onto '{')
  | 0, false, '}' :: r => some ([], '}' :: r)
  | depth + 1, false, '}' :: r => (styleText depth false r).map (onto '}')
  | depth, false, c :: r => (styleText depth false r).map (onto c)

def style? (s : List Char) : Option (List Char × List Char) := styleText 0 false s

/-- The attributes of a tag run to `>` or `/>`; in quotes either may stand. -/
def attributes : Option Char → List Char → List Char × List Char
  | _, [] => ([], [])
  | some q, c :: r =>
    onto c (attributes (if c = q then none else some q) r)
  | none, '>' :: r => ([], '>' :: r)
  | none, '/' :: '>' :: r => ([], '/' :: '>' :: r)
  | none, c :: r =>
    onto c (attributes (if c = '"' || c = '\'' then some c else none) r)

end MessageFormat.Pattern

import MessageFormat.Text.Blank
import MessageFormat.Text.Template.Layout

/-!
Fields of templates as they are written: a name, perhaps a conversion after an exclamation mark, perhaps a
style after a colon.
-/

set_option autoImplicit false

namespace MessageFormat.Text.Template

structure Field where
  name : List Char
  conversion : Option Char := none
  style : List Char := []
deriving DecidableEq, Repr

namespace Field

/-- The name of a field, the mark that ends it, and what follows; square brackets enclose any text. -/
def readName : Bool → List Char → Except Flaw (List Char × Char × List Char)
  | _, [] => .error .openField
  | true, c :: r => (readName (c != ']') r).map (onto c)
  | false, c :: r =>
    if c = '}' || c = ':' || c = '!' then .ok ([], c, r)
    else if c = '{' then .error .braceInName
    else (readName (c == '[') r).map (onto c)

/-- The text up to the brace that closes the field; the braces in it balance. -/
def readStyle : Nat → List Char → Except Flaw (List Char × List Char)
  | _, [] => .error .openStyle
  | depth, c :: r =>
    if c = '{' then (readStyle (depth + 1) r).map (onto c)
    else if c = '}' then
      match depth with
      | 0 => .ok ([], r)
      | depth + 1 => (readStyle depth r).map (onto c)
    else (readStyle depth r).map (onto c)

/-- A field after its opening brace, and what follows it. -/
def read (s : List Char) : Except Flaw (Field × List Char) := do
  let (name, mark, r) ← readName false s
  match mark, r with
  | '!', [] => throw .missingConversion
  | '!', [_] => throw .openStyle
  | '!', c :: d :: r =>
    if d = '}' then return ({ name, conversion := some c }, r)
    if d ≠ ':' then throw .textAfterConversion
    let (style, r) ← readStyle 0 r
    return ({ name, conversion := some c, style }, r)
  | ':', r =>
    let (style, r) ← readStyle 0 r
    return ({ name, style }, r)
  | _, r => return ({ name }, r)

end Field
end MessageFormat.Text.Template

import MessageFormat.Text.Template.Field

/-!
Templates: text with fields in braces that items take the places of. A field names its item by number or,
left empty, takes the next one; it may take a part of the item, quote it, and lay it out. Doubled braces are
plain ones.
-/

set_option autoImplicit false

namespace MessageFormat.Text.Template

/-- How the fields of a template are numbered: not known yet, by themselves from here on, or by hand. -/
inductive Numbering where
  | open
  | counted (next : Nat)
  | written
deriving DecidableEq, Repr

/-- The number that a name or an index is, if it is one. -/
def number? (s : List Char) : Except Flaw (Option Nat) := do
  match ← readNumber none s with
  | (n, []) => return n
  | _ => return none

/-- The place of the item that a name means. -/
def place (numbering : Numbering) (name : List Char) : Except Flaw (Nat × Numbering) := do
  match name, numbering with
  | [], .open => return (0, .counted 1)
  | [], .counted next => return (next, .counted (next + 1))
  | [], .written => throw .countedAfterNumbered
  | name, numbering =>
    match ← number? name, numbering with
    | none, _ => throw (.unknownName name)
    | some _, .counted _ => throw .numberedAfterCounted
    | some n, _ => return (n, .written)

/-- The character of a text that an index means. -/
def atIndex (item index : List Char) : Except Flaw (List Char) := do
  let n ← number? index
  if index.isEmpty then throw .emptyStep
  let some n := n | throw .indexByName
  match item[n]? with
  | some c => return [c]
  | none => throw .indexOutOfRange

def startsStep (c : Char) : Bool := c == '.' || c == '['

/-- The part of an item that a path leads to; `index` is what was read of an index that is open. Texts have
no attributes. -/
def follow (item : List Char) : Option (List Char) → List Char → Except Flaw (List Char)
  | none, [] => .ok item
  | some _, [] => .error .openIndex
  | none, c :: r =>
    if c = '[' then follow item (some []) r
    else if c = '.' then
      let name := r.takeWhile fun c => !startsStep c
      .error (if name.isEmpty then .emptyStep else .noAttribute name)
    else .error .textAfterIndex
  | some index, c :: r => do
    if c = ']' then
      let part ← atIndex item index
      follow part none r
    else follow item (some (index ++ [c])) r

def convert : Option Char → List Char → Except Flaw (List Char)
  | none, s | some 's', s => .ok s
  | some 'r', s => .ok (quote s)
  | some 'a', s => .ok (quoteAscii s)
  | some mark, _ => .error (.unknownConversion mark)

/-- What fills the fields of a style. -/
abbrev Fill := Numbering → List Char → Except Flaw (List Char × Numbering)

def expand (inner : Fill) (numbering : Numbering) (style : List Char) :
    Except Flaw (List Char × Numbering) :=
  if style.contains '{' then inner numbering style else .ok (style, numbering)

/-- The text of a field. -/
def fieldText (inner : Fill) (items : List (List Char)) (numbering : Numbering) (field : Field) :
    Except Flaw (List Char × Numbering) := do
  let (first, path) := field.name.span fun c => !startsStep c
  let (n, numbering) ← place numbering first
  let some item := items[n]? | throw (.missingItem n)
  let part ← follow item none path
  let text ← convert field.conversion part
  let (style, numbering) ← expand inner numbering field.style
  let layout ← Layout.read style
  let text ← layout.apply text
  return (text, numbering)

/-- Every field takes its text; `fuel` bounds the number of characters read. -/
def fillFields (inner : Fill) (items : List (List Char)) : Nat → Fill
  | 0, numbering, _ => .ok ([], numbering)
  | _ + 1, numbering, [] => .ok ([], numbering)
  | fuel + 1, numbering, c :: r =>
    if c = '{' then
      match r with
      | [] => .error (.loneBrace c)
      | d :: rest =>
        if d = c then (fillFields inner items fuel numbering rest).map (onto c)
        else do
          let (field, rest) ← Field.read r
          let (text, numbering) ← fieldText inner items numbering field
          let (filled, numbering) ← fillFields inner items fuel numbering rest
          return (text ++ filled, numbering)
    else if c = '}' then
      match r with
      | [] => .error (.loneBrace c)
      | d :: rest =>
        if d = c then (fillFields inner items fuel numbering rest).map (onto c)
        else .error (.loneBrace c)
    else (fillFields inner items fuel numbering r).map (onto c)

/-- Templates in styles in templates, up to so many levels. -/
def fillLevels (items : List (List Char)) : Nat → Fill
  | 0, _, _ => .error .nestedTooDeep
  | levels + 1, numbering, s => fillFields (fillLevels items levels) items s.length numbering s

/-- A template can have styles with fields, but these no further ones. -/
def levels : Nat := 2

/-- The template with these items in its fields. -/
def fill (template : String) (items : List String) : Except Fault String := do
  let (filled, _) ←
    (fillLevels (items.map String.toList) levels .open template.toList).mapError Flaw.fault
  return String.ofList filled

end MessageFormat.Text.Template

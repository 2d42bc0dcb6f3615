import MessageFormat.Diagnostic.Basic
import MessageFormat.Text.Letter

/-!
Diagnostics as text: several lines, one line, or a JSON object. Long texts may be cut.
-/

set_option autoImplicit false

namespace MessageFormat.Diagnostic

inductive Layout where
  | block | line | json
deriving DecidableEq, Repr

def Layout.ofName? : String → Option Layout
  | "rust" => some .block
  | "simple" => some .line
  | "json" => some .json
  | _ => none

structure Style where
  layout : Layout := .block
  cutLong : Bool := false
  maxLength : Int := 100
deriving DecidableEq, Repr

namespace Style

/-- The first `maxLength` characters of a longer text, and an ellipsis; a negative length counts from
the end. -/
def cut (style : Style) (s : String) : String :=
  let chars := s.toList
  if style.cutLong && decide (style.maxLength < chars.length) then
    let kept := if 0 ≤ style.maxLength then style.maxLength.toNat
      else chars.length - style.maxLength.natAbs
    String.ofList (chars.take kept) ++ "..."
  else s

end Style

/-- A text that is there and not empty. -/
def present? (s : Option String) : Option String := s.filter (!·.isEmpty)

def blockLines (style : Style) (d : Diagnostic) : List String :=
  let field (label : String) (text : Option String) : List String :=
    match present? text with
    | some t => [s!"  = {label}: {t}"]
    | none => []
  let place := match d.span with
    | some s => [s!"  --> line {s.line}, column {s.column}"]
    | none => []
  [s!"error[{d.code.name}]: {d.message}"] ++ place ++ field "tag" d.tagName ++
    field "variable" d.variableName ++ field "construct" d.construct ++ field "locale" d.locale ++
    field "help" ((present? d.hint).map style.cut)

/-- The JSON text of a string: only quotes, backslashes and control characters are escaped. -/
def jsonChar (c : Char) : List Char :=
  if c = '"' then ['\\', '"']
  else if c = '\\' then ['\\', '\\']
  else if c = '\n' then ['\\', 'n']
  else if c = '\r' then ['\\', 'r']
  else if c = '\t' then ['\\', 't']
  else if c.toNat = 8 then ['\\', 'b']
  else if c.toNat = 12 then ['\\', 'f']
  else if c.toNat < 32 then '\\' :: 'u' :: Text.padZeros 4 (Nat.toDigits 16 c.toNat)
  else [c]

def jsonString (s : String) : String :=
  String.ofList ('"' :: s.toList.flatMap jsonChar ++ ['"'])

def jsonFields (style : Style) (d : Diagnostic) : List (String × String) :=
  let place := match d.span with
    | some s => [("line", toString s.line), ("column", toString s.column),
        ("start", toString s.start), ("end", toString s.stop)]
    | none => []
  let field (name : String) (text : Option String) : List (String × String) :=
    match present? text with
    | some t => [(name, jsonString t)]
    | none => []
  [("code", jsonString d.code.name), ("code_value", toString d.code.number),
    ("category", jsonString d.code.category), ("message", jsonString (style.cut d.message))] ++
    place ++ field "tag_name" d.tagName ++ field "variable_name" d.variableName ++
    field "construct" d.construct ++ field "locale" d.locale ++
    field "hint" ((present? d.hint).map style.cut)

def Style.render (style : Style) (d : Diagnostic) : String :=
  match style.layout with
  | .block => "\n".intercalate (d.blockLines style)
  | .line => d.code.name ++ ": " ++ style.cut d.message
  | .json =>
    let fields := (d.jsonFields style).map fun p => jsonString p.1 ++ ": " ++ p.2
    "\x7b" ++ ", ".intercalate fields ++ "\x7d"

/-- Diagnostics with an empty line between them. -/
def Style.renderAll (style : Style) (ds : List Diagnostic) : String :=
  "\n\n".intercalate (ds.map style.render)

/-- Several lines, nothing cut. -/
def render (d : Diagnostic) : String := ({} : Style).render d

end MessageFormat.Diagnostic

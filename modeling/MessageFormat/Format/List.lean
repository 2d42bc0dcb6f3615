import MessageFormat.Format.Moment
import MessageFormat.Text.Template

/-!
Lists joined by patterns.
-/

set_option autoImplicit false

namespace MessageFormat

/-- The items from the last but one to the second, each put before the rest, and the first before all. -/
def ListPatterns.join (p : ListPatterns) (items : List String) : Except Fault String :=
  match items with
  | [] => .ok ""
  | [item] => .ok item
  | [a, b] => Text.Template.fill p.pair [a, b]
  | first :: rest => do
    let joined ← joinInner p.middle p.last rest
    Text.Template.fill p.start [first, joined]
where
  /-- Inner items before the last two. -/
  joinInner (middle last : String) : List String → Except Fault String
    | [] => .ok ""
    | [item] => .ok item
    | [a, b] => Text.Template.fill last [a, b]
    | item :: rest => do
      let joined ← joinInner middle last rest
      Text.Template.fill middle [item, joined]

/-- A comma between all items. -/
def ListPatterns.commas : ListPatterns :=
  let p := "\x7b0\x7d, \x7b1\x7d"
  ⟨p, p, p, p⟩

namespace Format

open MessageFormat.Locale (Context)

/-- The words of a style, in lower case, parted by blanks and commas. -/
def styleWords (style : Option String) : List String :=
  match style with
  | none => []
  | some style =>
    (Text.fields (fun c => Text.isBlank c || c == ',')
      (Text.lower (Text.trim style.toList))).map String.ofList

/-- The last word that names one of these, or the default. -/
def lastNamed {α : Type} (all : List α) (name : α → String) (default : α) (words : List String) : α :=
  words.foldl (fun chosen word => (all.find? (name · == word)).getD chosen) default

def listItems (context : Context) (g : Graph) (value : Value) : Outcome (List String) :=
  match value with
  | .null => pure []
  | .list items | .tuple items | .set items => items.mapM (plain context g)
  | _ => do
    let text ← plain context g value
    return [text]

/-- Items joined in the locale's way for this kind of list and width. -/
def joinItems (context : Context) (type : ListType) (width : ListWidth) (items : List String) :
    Outcome String :=
  match context.localeFor .list with
  | none => Outcome.ofFault (ListPatterns.commas.join items)
  | some locale => do
    let patterns ← context.ask (.listPatterns type width) locale
    Outcome.ofFault ((patterns.getD .commas).join items)

def list (context : Context) (g : Graph) (style : Option String) (value : Value) :
    Outcome String := do
  let words := styleWords style
  let type := lastNamed ListType.all ListType.text .conjunction words
  let width := lastNamed ListWidth.all ListWidth.text .long words
  let items ← listItems context g value
  joinItems context type width items

end Format
end MessageFormat

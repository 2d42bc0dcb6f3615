import MessageFormat.Calendar.Text
import MessageFormat.Text.Quoted
import MessageFormat.Value.Basic

/-!
Values as text. Inside lists and maps a value is displayed with its quotes and its type; a container that
is met inside itself is shown as dots.
-/

set_option autoImplicit false

namespace MessageFormat

open Text

def commaJoin (parts : List (List Char)) : List Char := (", ".toList).intercalate parts

namespace Value

mutual

/-- The display of a value, given that of the nodes. -/
def displayWith (ofNode : Nat → List Char) : Value → List Char
  | .null => "None".toList
  | .bool b => (if b then "True" else "False").toList
  | .int n => intText n
  | .float x => x.text
  | .decimal n => "Decimal('".toList ++ n.text ++ "')".toList
  | .text s => quote s.toList
  | .bytes bs => quoteBytes bs
  | .date d => d.display
  | .time t => t.display
  | .moment m => m.display
  | .duration d => d.display
  | .list items => '[' :: commaJoin (displays ofNode items) ++ [']']
  | .tuple [item] => '(' :: displayWith ofNode item ++ [',', ')']
  | .tuple items => '(' :: commaJoin (displays ofNode items) ++ [')']
  | .set [] => "set()".toList
  | .set items => '{' :: commaJoin (displays ofNode items) ++ ['}']
  | .node place => ofNode place
  | .other shown => shown.toList

def displays (ofNode : Nat → List Char) : List Value → List (List Char)
  | [] => []
  | v :: vs => displayWith ofNode v :: displays ofNode vs

end

end Value

namespace Graph

/-- The display of a container, given that of the nodes in it. -/
def displayContainer (ofNode : Nat → List Char) : Container → List Char
  | .map entries =>
    '{' :: commaJoin (entries.map fun e =>
      e.1.displayWith ofNode ++ ':' :: ' ' :: e.2.displayWith ofNode) ++ ['}']
  | .record name fields =>
    name.toList ++ '(' :: commaJoin (fields.map fun f =>
      f.1.toList ++ '=' :: f.2.displayWith ofNode) ++ [')']
  | .object name _ => '<' :: name.toList ++ ['>']

/-- A container that is being displayed already. -/
def displayBusy : Container → List Char
  | .map _ => "\x7b...\x7d".toList
  | .record .. => "...".toList
  | .object name _ => '<' :: name.toList ++ ['>']

/-- The display of a node inside the `busy` ones. Each level adds one to them, so as many levels as there
are nodes suffice. -/
def displayNode (g : Graph) : Nat → List Nat → Nat → List Char
  | levels, busy, place =>
    match g.nodes[place]? with
    | none => []
    | some c =>
      if busy.contains place then displayBusy c
      else match levels with
        | 0 => displayBusy c
        | levels + 1 => displayContainer (displayNode g levels (place :: busy)) c

def display (g : Graph) (v : Value) : List Char :=
  v.displayWith (g.displayNode g.nodes.length [])

/-- The text of a value: texts stand for themselves, dates and durations in their everyday form. -/
def text (g : Graph) : Value → List Char
  | .text s => s.toList
  | .decimal n => n.text
  | .date d => d.iso
  | .time t => t.iso
  | .moment m => m.text
  | .duration d => d.text
  | v => g.display v

/-- The text of an argument: nothing for null, and lower case words for truth values. -/
def plainText (g : Graph) : Value → String
  | .null => ""
  | .bool b => if b then "true" else "false"
  | v => String.ofList (g.text v)

/-- The key that a value selects. -/
def selectKey (g : Graph) : Value → String
  | .null => "null"
  | v => g.plainText v

end Graph
end MessageFormat

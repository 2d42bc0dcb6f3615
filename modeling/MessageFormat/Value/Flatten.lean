import MessageFormat.Value.Text

/-!
Nested arguments as one level of names. Nested names are joined to those above them; what is met again inside
itself, and all that holds nothing by name, is kept as it is.
-/

set_option autoImplicit false

namespace MessageFormat.Graph

/-- A node's place; other values have none. -/
def place? : Value → Option Nat
  | .node place => some place
  | _ => none

/-- The name of an entry below `above`. -/
def joinName (g : Graph) (separator : String) (above : Option String) (key : Value) : String :=
  let name := String.ofList (g.text key)
  match above with
  | none => name
  | some a => a ++ separator ++ name

/-- An entry that is not opened: it holds nothing by name, or it is on the path to it. -/
def isLeaf (g : Graph) (path : List Nat) (v : Value) : Bool :=
  (g.view v).isNone || ((place? v).map path.contains).getD false

/-- Entries by joined name: first those that are not opened, then the last opened one's, and so on to the
first. A path holds each node once, so as many levels as there are nodes suffice. -/
def flattenFrom (g : Graph) (separator : String) :
    Nat → Option String → List Nat → List (Value × Value) → List (String × Value)
  | levels, above, path, entries =>
    let named := entries.map fun e => (g.joinName separator above e.1, e.2)
    let leaves := named.filter fun e => g.isLeaf path e.2
    let opened := named.filter fun e => !g.isLeaf path e.2
    match levels with
    | 0 => leaves
    | levels + 1 =>
      leaves ++ opened.reverse.flatMap fun e =>
        flattenFrom g separator levels (some e.1) ((place? e.2).toList ++ path)
          ((g.view e.2).getD [])

/-- The one-level form of arguments; a later entry of the same name replaces an earlier one. -/
def flatten (g : Graph) (separator : String) (arguments : Value) : List (String × Value) :=
  match g.view arguments with
  | none => []
  | some entries =>
    mergeEntries (· == ·)
      (g.flattenFrom separator g.nodes.length none (place? arguments).toList entries)

end MessageFormat.Graph

import MessageFormat.Proofs.Evaluation.Choice

/-!
What messages mean at a place. The number for `#` and the depth are handed down from a node to its bodies
and nothing is handed back.
-/

set_option autoImplicit false

namespace MessageFormat

/-- Where a node stands: the number of the nearest plural selection around it, if there is one, and how
many bodies and tags there are around it. -/
structure Place where
  number : Option Value := none
  depth : Int := 0

abbrev Meaning (α : Type) := Place → Outcome α

namespace Meaning

variable {α : Type}

def withNumber (number : Value) (m : Meaning α) : Meaning α := fun place =>
  m { place with number := some number }

/-- A body or the content of a tag. The limit refuses it at a depth that is not below, and the stack takes
so many levels and no more. -/
def nested (limit : Int) (m : Meaning α) : Meaning α := fun place =>
  if limit ≤ place.depth then Outcome.fail (.tooDeep limit)
  else if Depth.stackLevels ≤ place.depth then Outcome.fail .stackExhausted
  else m { place with depth := place.depth + 1 }

variable {limit : Int} {m : Meaning α} {place : Place}

theorem nested_of_limit (h : limit ≤ place.depth) :
    m.nested limit place = Outcome.fail (.tooDeep limit) := if_pos h

theorem nested_of_stack (h : place.depth < limit) (hs : Depth.stackLevels ≤ place.depth) :
    m.nested limit place = Outcome.fail .stackExhausted := by
  rw [nested, if_neg (Int.not_le.mpr h), if_pos hs]

theorem nested_of_lt (h : place.depth < limit) (hs : place.depth < Depth.stackLevels) :
    m.nested limit place = m { place with depth := place.depth + 1 } := by
  rw [nested, if_neg (Int.not_le.mpr h), if_neg (Int.not_le.mpr hs)]

end Meaning

namespace Evaluator

/-- The value of an argument; null is none where all are required. -/
def lookup (ev : Evaluator) (name : String) : Outcome Value := do
  let v ← Outcome.ofFault (ev.arguments.get name)
  match v, ev.requireAllVariables with
  | .null, true => Outcome.fail (.missingVariable name)
  | v, _ => return v

/-- The start of a range before its end. -/
def callLookup (ev : Evaluator) (call : FormatterCall) : Outcome Value := do
  let start ← ev.lookup call.argument
  match call.endArgument with
  | none => return start
  | some name =>
    let stop ← ev.lookup name
    return .tuple [start, stop]

mutual

/-- The meaning of a node under a limit on depth; `bare` is what `#` means outside of plural
selections. -/
def meaning (ev : Evaluator) (limit : Int) (bare : Outcome String) : Node → Meaning String
  | .literal text => fun _ => pure text
  | .argument name => fun _ => do
    let v ← ev.lookup name
    Format.plain ev.context ev.graph v
  | .call c => fun _ => do
    let v ← ev.callLookup c
    ev.callText c v
  | .plural argument offset ordinal cases => fun place => do
    let value ← ev.lookup argument
    let number ← pluralNumber value offset
    let body ← ev.pluralCase value number ordinal (pluralMeanings ev limit bare cases)
    Meaning.withNumber number (Meaning.nested limit body) place
  | .select argument cases => fun place => do
    let value ← ev.lookup argument
    match keyCase? (selectMeanings ev limit bare cases) (ev.graph.selectKey value) with
    | some body => Meaning.nested limit body place
    | none => Outcome.fail (.missingOption "select")
  | .hash => fun place =>
    match place.number with
    | none => bare
    | some number => Format.plainNumber ev.context ev.graph number
  | .tag name attributes selfClosing children => fun place => do
    let content ← Meaning.nested limit (meanings ev limit bare children) place
    ev.tagText name attributes selfClosing content
  | .foreign kind => fun _ => Outcome.fail (.foreignNode kind)

def meanings (ev : Evaluator) (limit : Int) (bare : Outcome String) : List Node → Meaning String
  | [] => fun _ => pure ""
  | n :: ns => fun place => do
    let first ← meaning ev limit bare n place
    let rest ← meanings ev limit bare ns place
    return first ++ rest

def pluralMeanings (ev : Evaluator) (limit : Int) (bare : Outcome String) :
    List (Case Matcher (List Node)) → List (Case Matcher (Meaning String))
  | [] => []
  | ⟨key, body⟩ :: cases => ⟨key, meanings ev limit bare body⟩ :: pluralMeanings ev limit bare cases

def selectMeanings (ev : Evaluator) (limit : Int) (bare : Outcome String) :
    List (Case String (List Node)) → List (Case String (Meaning String))
  | [] => []
  | ⟨key, body⟩ :: cases => ⟨key, meanings ev limit bare body⟩ :: selectMeanings ev limit bare cases

end

variable {ev : Evaluator} {limit : Int} {bare : Outcome String}

theorem pluralMeanings_eq (cases : List (Case Matcher (List Node))) :
    pluralMeanings ev limit bare cases = cases.map (Case.map (ev.meanings limit bare)) := by
  induction cases with
  | nil => rfl
  | cons c cases ih => rw [pluralMeanings, ih]; rfl

theorem selectMeanings_eq (cases : List (Case String (List Node))) :
    selectMeanings ev limit bare cases = cases.map (Case.map (ev.meanings limit bare)) := by
  induction cases with
  | nil => rfl
  | cons c cases ih => rw [selectMeanings, ih]; rfl

/-- A plural selection means what the body of its choice means one level further in, with its number. -/
theorem meaning_plural (argument : String) (offset : Decimal) (ordinal : Bool)
    (cases : List (Case Matcher (List Node))) :
    ev.meaning limit bare (.plural argument offset ordinal cases) = fun place => (do
      let value ← ev.lookup argument
      let number ← pluralNumber value offset
      let body ← ev.pluralCase value number ordinal cases
      Meaning.withNumber number (Meaning.nested limit (ev.meanings limit bare body)) place) := by
  funext place
  rw [meaning, pluralMeanings_eq]
  simp only [pluralCase_map, bind_map_left]

theorem meaning_select (argument : String) (cases : List (Case String (List Node))) :
    ev.meaning limit bare (.select argument cases) = fun place => (do
      let value ← ev.lookup argument
      match keyCase? cases (ev.graph.selectKey value) with
      | some body => Meaning.nested limit (ev.meanings limit bare body) place
      | none => Outcome.fail (.missingOption "select")) := by
  funext place
  rw [meaning, selectMeanings_eq]
  refine bind_congr fun value => ?_
  rw [keyCase?_map]
  cases keyCase? cases (ev.graph.selectKey value) <;> rfl

end Evaluator
end MessageFormat

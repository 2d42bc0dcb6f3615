import MessageFormat.Arguments
import MessageFormat.Evaluation
import MessageFormat.Extension
import MessageFormat.Format.Builtin
import MessageFormat.Registry

/-!
From messages to text. A selection means what its chosen case means; `#` means the number of the innermost
plural selection around it; a tag means what its handler makes of its content.
-/

set_option autoImplicit false

namespace MessageFormat

/-- Tags without a handler are dropped, or written again where the text is markup. -/
structure Evaluator where
  context : Locale.Context
  graph : Graph := {}
  arguments : Arguments := .named []
  customFormatters : Registry CustomFormatter := {}
  tagHandlers : Registry TagHandler := {}
  requireAllVariables : Bool := false
  markup : Bool := false

namespace PluralCategory

def isNamedBy (c : PluralCategory) : Matcher → Bool
  | .exact .. => false
  | .category name => name == c.text

end PluralCategory

def Matcher.isExactly (m : Matcher) (number : Decimal) : Bool :=
  (m.value?.map fun value => value.sameValue number).getD false

/-- The first case for exactly this number. -/
def exactCase? {β : Type} (cases : List (Case Matcher β)) (number : Decimal) : Option β :=
  (cases.find? fun c => c.key.isExactly number).map (·.body)

/-- The first case of a category, else the last one of `other`. -/
def categoryCase? {β : Type} (cases : List (Case Matcher β)) (category : PluralCategory) : Option β :=
  let named := cases.find? fun c => category.isNamedBy c.key
  let other := cases.reverse.find? fun c => PluralCategory.other.isNamedBy c.key
  (named <|> other).map (·.body)

/-- The first case of a key, else the first one of `other`. -/
def keyCase? {β : Type} (cases : List (Case String β)) (key : String) : Option β :=
  let named := cases.find? fun c => c.key == key
  let other := cases.find? fun c => c.key == PluralCategory.other.text
  (named <|> other).map (·.body)

/-- A tag as it is written. -/
def tagMarkup (name attributes : String) (selfClosing : Bool) (content : String) : String :=
  let opening := if attributes.isEmpty then name else name ++ " " ++ attributes
  if selfClosing then "<" ++ opening ++ "/>"
  else "<" ++ opening ++ ">" ++ content ++ "</" ++ name ++ ">"

namespace Evaluator

/-- The value of an argument; null is none where all are required. -/
def value (ev : Evaluator) (name : String) : Evaluation Value := do
  let v ← Evaluation.ofOutcome (Outcome.ofFault (ev.arguments.get name))
  match v, ev.requireAllVariables with
  | .null, true => Evaluation.fail (.missingVariable name)
  | v, _ => return v

def callValue (ev : Evaluator) (call : FormatterCall) : Evaluation Value := do
  let start ← ev.value call.argument
  match call.endArgument with
  | none => return start
  | some name =>
    let stop ← ev.value name
    return .tuple [start, stop]

/-- A formatter of this library, else one of the host's, else the plain text of the value. -/
def callText (ev : Evaluator) (call : FormatterCall) (value : Value) : Outcome String :=
  match Format.Builtin.ofName? call.name with
  | some builtin => builtin.apply ev.context ev.graph call value
  | none =>
    match ev.customFormatters.get? call.name with
    | some format => Outcome.ofFault (format ev.graph value call.style ev.context.requested)
    | none => pure (ev.graph.plainText value)

/-- What a plural selection is about: the value itself, so that its digits stay visible, or the difference
to an offset. -/
def pluralNumber (value : Value) (offset : Decimal) : Outcome Value :=
  match value.decimal? with
  | some number =>
    if offset.isZero then pure value
    else do
      let difference ← Outcome.arithmetic (number.subtract offset)
      return .decimal (.finite difference)
  | none => do
    let difference ← Outcome.arithmetic (Decimal.zero.subtract offset)
    return .decimal (.finite difference)

/-- Exact cases are compared with the value itself, categories with what the selection is about. -/
def pluralCase {β : Type} (ev : Evaluator) (value number : Value) (ordinal : Bool)
    (cases : List (Case Matcher β)) : Outcome β :=
  match exactCase? cases (value.decimal?.getD Decimal.zero) with
  | some body => pure body
  | none => do
    let category ← ev.context.pluralCategory number ordinal
    match categoryCase? cases category with
    | some body => return body
    | none => Outcome.fail (.missingOption (pluralConstruct ordinal))

def pluralText (ev : Evaluator) (argument : String) (offset : Decimal) (ordinal : Bool)
    (cases : List (Case Matcher (Evaluation String))) : Evaluation String := do
  let value ← ev.value argument
  let number ← Evaluation.ofOutcome (pluralNumber value offset)
  let body ← Evaluation.ofOutcome (ev.pluralCase value number ordinal cases)
  Evaluation.withNumber number (Evaluation.nested body)

def selectText (ev : Evaluator) (argument : String)
    (cases : List (Case String (Evaluation String))) : Evaluation String := do
  let value ← ev.value argument
  match keyCase? cases (ev.graph.selectKey value) with
  | some body => Evaluation.nested body
  | none => Evaluation.fail (.missingOption "select")

/-- Outside of plural selections `#` is text. -/
def hashText (ev : Evaluator) : Evaluation String := do
  let number ← Evaluation.number?
  match number with
  | none => return "#"
  | some number => Evaluation.ofOutcome (Format.plainNumber ev.context ev.graph number)

def tagText (ev : Evaluator) (name attributes : String) (selfClosing : Bool)
    (content : String) : Outcome String :=
  match ev.tagHandlers.get? name with
  | some handle => Outcome.ofFault (handle content)
  | none => pure (if ev.markup then tagMarkup name attributes selfClosing content else content)

mutual

def node (ev : Evaluator) : Node → Evaluation String
  | .literal text => pure text
  | .argument name => do
    let v ← ev.value name
    Evaluation.ofOutcome (Format.plain ev.context ev.graph v)
  | .call c => do
    let v ← ev.callValue c
    Evaluation.ofOutcome (ev.callText c v)
  | .plural argument offset ordinal cases =>
    ev.pluralText argument offset ordinal (pluralBranches ev cases)
  | .select argument cases => ev.selectText argument (selectBranches ev cases)
  | .hash => ev.hashText
  | .tag name attributes selfClosing children => do
    let content ← Evaluation.nested (sequence ev children)
    Evaluation.ofOutcome (ev.tagText name attributes selfClosing content)
  | .foreign kind => Evaluation.fail (.foreignNode kind)

/-- The texts of the nodes, one after the other. -/
def sequence (ev : Evaluator) : List Node → Evaluation String
  | [] => pure ""
  | n :: ns => do
    let first ← node ev n
    let rest ← sequence ev ns
    return first ++ rest

def pluralBranches (ev : Evaluator) :
    List (Case Matcher (List Node)) → List (Case Matcher (Evaluation String))
  | [] => []
  | ⟨key, body⟩ :: cases => ⟨key, sequence ev body⟩ :: pluralBranches ev cases

def selectBranches (ev : Evaluator) :
    List (Case String (List Node)) → List (Case String (Evaluation String))
  | [] => []
  | ⟨key, body⟩ :: cases => ⟨key, sequence ev body⟩ :: selectBranches ev cases

end

/-- The text of a message under a limit on nesting. -/
def message (ev : Evaluator) (limit : Int) (m : Message) : Outcome String :=
  (ev.sequence m.body).run limit

end Evaluator
end MessageFormat

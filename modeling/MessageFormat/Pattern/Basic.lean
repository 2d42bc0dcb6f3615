import MessageFormat.Number.Spec

/-!
Messages: sequences of text, arguments, selections and tags that nest.
-/

set_option autoImplicit false

namespace MessageFormat

/-- A typed placeholder. The name is kept as written; a range has a second argument. -/
structure FormatterCall where
  name : String
  argument : String
  style : Option String := none
  skeleton : Option Number.Spec := none
  endArgument : Option String := none
deriving DecidableEq, Repr

/-- What a plural case asks for: an exact value, kept with its text, or a category. -/
inductive Matcher where
  | exact (text : String) (value : Decimal)
  | category (name : String)
deriving DecidableEq, Repr

def Matcher.text : Matcher → String
  | .exact text _ => text
  | .category name => name

def Matcher.value? : Matcher → Option Decimal
  | .exact _ value => some value
  | .category _ => none

/-- One alternative of a selection. -/
structure Case (κ β : Type) where
  key : κ
  body : β
deriving DecidableEq, Repr

/-- A `foreign` node is of a kind that cannot be evaluated; no pattern text yields one. -/
inductive Node where
  | literal (text : String)
  | argument (name : String)
  | hash
  | call (call : FormatterCall)
  | plural (argument : String) (offset : Decimal) (ordinal : Bool)
      (cases : List (Case Matcher (List Node)))
  | select (argument : String) (cases : List (Case String (List Node)))
  | tag (name attributes : String) (selfClosing : Bool) (children : List Node)
  | foreign (kind : String)
deriving Repr

structure Message where
  body : List Node
deriving Repr

/-- The keyword of a plural selection. -/
def pluralConstruct (ordinal : Bool) : String := if ordinal then "selectordinal" else "plural"

namespace Node

/-- The name of a node's kind. -/
def kind : Node → String
  | .literal _ => "Literal"
  | .argument _ => "Variable"
  | .hash => "Hash"
  | .call _ => "FormatterCall"
  | .plural .. => "Plural"
  | .select .. => "Select"
  | .tag .. => "Tag"
  | .foreign kind => kind

def isPlural : Node → Bool
  | .plural .. => true
  | _ => false

def isTag : Node → Bool
  | .tag .. => true
  | _ => false

/-- The arguments that a node names itself. -/
def ownNames : Node → List String
  | .literal _ | .hash | .tag .. | .foreign _ => []
  | .argument name => [name]
  | .call c => c.argument :: c.endArgument.toList
  | .plural subject .. | .select subject _ => [subject]

/-- The sequences directly in a node. -/
def bodies : Node → List (List Node)
  | .plural _ _ _ cases => cases.map Case.body
  | .select _ cases => cases.map Case.body
  | .tag _ _ _ children => [children]
  | _ => []

mutual

/-- A node and all nodes in it: itself, its case bodies, its children. -/
def subtree : Node → List Node
  | n@(.plural _ _ _ cases) => n :: pluralSubtrees cases
  | n@(.select _ cases) => n :: selectSubtrees cases
  | n@(.tag _ _ _ children) => n :: subtrees children
  | n => [n]

def subtrees : List Node → List Node
  | [] => []
  | n :: ns => subtree n ++ subtrees ns

def pluralSubtrees : List (Case Matcher (List Node)) → List Node
  | [] => []
  | ⟨_, body⟩ :: cs => subtrees body ++ pluralSubtrees cs

def selectSubtrees : List (Case String (List Node)) → List Node
  | [] => []
  | ⟨_, body⟩ :: cs => subtrees body ++ selectSubtrees cs

end

theorem subtrees_append (ms ns : List Node) : subtrees (ms ++ ns) = subtrees ms ++ subtrees ns := by
  induction ms with
  | nil => rfl
  | cons m ms ih => simp [subtrees, ih]

theorem length_subtrees_reverse (ns : List Node) :
    (subtrees ns.reverse).length = (subtrees ns).length := by
  induction ns with
  | nil => rfl
  | cons n ns ih => simp [subtrees, subtrees_append, ih, Nat.add_comm]

theorem pluralSubtrees_eq (cs : List (Case Matcher (List Node))) :
    pluralSubtrees cs = subtrees (cs.map Case.body).flatten := by
  induction cs with
  | nil => rfl
  | cons c cs ih => simp [pluralSubtrees, subtrees_append, ih]

theorem selectSubtrees_eq (cs : List (Case String (List Node))) :
    selectSubtrees cs = subtrees (cs.map Case.body).flatten := by
  induction cs with
  | nil => rfl
  | cons c cs ih => simp [selectSubtrees, subtrees_append, ih]

/-- A node, and then all that its bodies hold. -/
theorem subtree_eq (n : Node) : subtree n = n :: subtrees n.bodies.flatten := by
  cases n with
  | plural => simp [subtree, bodies, pluralSubtrees_eq]
  | select => simp [subtree, bodies, selectSubtrees_eq]
  | tag => simp [subtree, bodies]
  | _ => simp [subtree, bodies, subtrees]

/-- The names on a stack of nodes. The top is looked at next, and what its bodies hold is put on the
stack in its place. -/
def stackNames : List Node → List String
  | [] => []
  | n :: stack => n.ownNames ++ stackNames (n.bodies.flatten.reverse ++ stack)
termination_by stack => (subtrees stack).length
decreasing_by simp [subtrees, subtrees_append, length_subtrees_reverse, subtree_eq]

end Node

/-- Each name once, in the order of code points. -/
def sortedSet (names : List String) : List String :=
  (names.mergeSort fun a b => decide (a ≤ b)).eraseReps

/-- The arguments that a message names. -/
def Message.argumentNames (m : Message) : List String := sortedSet (Node.stackNames m.body.reverse)

/-- Every node, in document order. -/
def Message.nodes (m : Message) : List Node := Node.subtrees m.body

end MessageFormat

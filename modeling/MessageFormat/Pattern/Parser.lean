import MessageFormat.Diagnostic.Wording
import MessageFormat.Number.Skeleton
import MessageFormat.Pattern.Basic
import MessageFormat.Pattern.Lexeme

/-!
Reading patterns. A reader gives a value and the rest of the text, or a flaw and the text from the place
at fault.
-/

set_option autoImplicit false

namespace MessageFormat.Pattern

open Text

structure Failure where
  flaw : Flaw
  rest : List Char
deriving DecidableEq, Repr

/-- A value and the text after it. -/
abbrev Read (α : Type) := α × List Char

/-- What surrounds a sequence: a case body, where `}` ends it; a plural body, where `#` stands for the
number. Tags may be plain text throughout. -/
structure Scope where
  inBody : Bool := false
  inPlural : Bool := false
  tags : Bool := true
deriving DecidableEq, Repr

def Scope.body (s : Scope) (plural : Bool) : Scope :=
  { s with inBody := true, inPlural := plural || s.inPlural }

/-- A reader of sequences. -/
abbrev Body := List Char → Except Failure (Read (List Node))

/-- A reader of sequences one level further in, by scope and by whether a tag is open. -/
abbrev Inner := Scope → Bool → Body

def fail {α : Type} (flaw : Flaw) (rest : List Char) : Except Failure α := .error ⟨flaw, rest⟩

/-- What an apostrophe in front makes plain text. -/
def isQuotable (c : Char) : Bool := c == '{' || c == '}' || c == '#' || c == '<'

/-- Where unquoted text ends. -/
def Scope.stops (scope : Scope) : List Char → Bool
  | [] => true
  | c :: r =>
    c == '{' || (c == '}' && scope.inBody) || (c == '#' && scope.inPlural) ||
      (c == '<' && scope.tags && startsTag (c :: r))

/-- Text with its quotes taken away. A quotation opens at an apostrophe before a quotable character and
runs to the next single apostrophe or to the end. -/
def text (scope : Scope) : Bool → List Char → List Char × List Char
  | _, [] => ([], [])
  | quoted, '\'' :: '\'' :: r => onto '\'' (text scope quoted r)
  | true, '\'' :: r => text scope false r
  | true, c :: r => onto c (text scope true r)
  | false, '\'' :: c :: r =>
    if isQuotable c then text scope true (c :: r) else onto '\'' (text scope false (c :: r))
  | false, c :: r =>
    if c ≠ '\'' && scope.stops (c :: r) then ([], c :: r) else onto c (text scope false r)

def expectName (flaw : Flaw) (s : List Char) : Except Failure (String × List Char) :=
  match name? s with
  | some (name, rest) => .ok (String.ofList name, rest)
  | none => fail flaw s

/-- The comma before a list of cases. -/
def expectCases (construct : String) (origin s : List Char) : Except Failure (List Char) :=
  match s with
  | ',' :: r => .ok (skipBlanks r)
  | '}' :: _ => fail (.emptyCases construct) origin
  | _ => fail .expectedClosingBrace origin

/-- The braces and the sequence after a case key. -/
def caseBody (key : String) (body : Body) (s : List Char) :
    Except Failure (Read (List Node)) :=
  match skipBlanks s with
  | '{' :: r => do
    let (nodes, rest) ← body r
    match rest with
    | '}' :: rest => .ok (nodes, rest)
    | _ => fail .expectedClosingBrace ('{' :: r)
  | r => fail (.expectedCaseBody key) r

/-- Cases up to a closing brace or the end; `fuel` bounds their number. -/
def caseList {κ : Type} (key : List Char → Except Failure (Read κ)) (keyText : κ → String)
    (body : Body) :
    Nat → List Char → Except Failure (Read (List (Case κ (List Node))))
  | 0, s => .ok ([], s)
  | _ + 1, [] => .ok ([], [])
  | _ + 1, '}' :: r => .ok ([], '}' :: r)
  | fuel + 1, s => do
    let (k, r) ← key s
    let (nodes, r) ← caseBody (keyText k) body r
    let (more, r) ← caseList key keyText body fuel (skipBlanks r)
    return (⟨k, nodes⟩ :: more, r)

/-- At least one case. -/
def cases {κ : Type} (construct : String) (key : List Char → Except Failure (Read κ))
    (keyText : κ → String) (body : Body) (origin s : List Char) :
    Except Failure (Read (List (Case κ (List Node)))) := do
  let (found, rest) ← caseList key keyText body s.length s
  if found.isEmpty then fail (.emptyCases construct) origin else return (found, rest)

def pluralKey (construct : String) (s : List Char) : Except Failure (Read Matcher) :=
  match s with
  | '=' :: r =>
    match decimal? r with
    | some (value, rest) => .ok (.exact (String.ofList (between s rest)) value, rest)
    | none => fail (.expectedCaseKey construct) s
  | _ => do
    let (name, rest) ← expectName (.expectedCaseKey construct) s
    return (.category name, rest)

def selectKey (s : List Char) : Except Failure (Read String) :=
  match selectKey? s with
  | some (key, rest) => .ok (String.ofList key, rest)
  | none => fail (.expectedCaseKey "select") s

def offsetKeyword : List Char := "offset:".toList

def pluralOffset (s : List Char) : Except Failure (Read Decimal) :=
  match strip? offsetKeyword s with
  | none => .ok (Decimal.zero, s)
  | some r =>
    let r := skipBlanks r
    match decimal? r with
    | some (value, rest) => .ok (value, skipBlanks rest)
    | none =>
      let shown := ((selectKey? r).map (·.1)).getD []
      fail (.invalidOffset (String.ofList shown)) r

def plural (ordinal : Bool) (argument : String) (body : Body)
    (origin s : List Char) : Except Failure (Read Node) := do
  let construct := pluralConstruct ordinal
  let r ← expectCases construct origin s
  let (offset, r) ← pluralOffset r
  let (found, rest) ← cases construct (pluralKey construct) Matcher.text body origin r
  return (.plural argument offset ordinal found, rest)

def select (argument : String) (body : Body)
    (origin s : List Char) : Except Failure (Read Node) := do
  let r ← expectCases "select" origin s
  let (found, rest) ← cases "select" selectKey id body origin r
  return (.select argument found, rest)

/-- A style slot, if a comma opens one; an empty style is none. -/
def styleSlot (origin s : List Char) : Except Failure (Read (Option String)) :=
  match s with
  | ',' :: r =>
    match style? r with
    | some (style, rest) =>
      let style := trim style
      .ok (if style.isEmpty then none else some (String.ofList style), rest)
    | none => fail .expectedClosingBrace origin
  | _ => .ok (none, s)

/-- Number formatters read a style that starts with two colons as a skeleton. -/
def skeletonOf (formatter : String) (style : Option String) : Option Number.Spec :=
  match style with
  | none => none
  | some style =>
    let key := lowerString formatter
    if startsWith style.toList [':', ':'] && (key == "number" || key == "numberrange") then
      some (Number.Spec.ofSkeleton style.toList)
    else none

def formatterCall (argument formatter : String) (endArgument : Option String)
    (origin s : List Char) : Except Failure (Read Node) := do
  let (style, rest) ← styleSlot origin s
  return (.call ⟨formatter, argument, style, skeletonOf formatter style, endArgument⟩, rest)

def rangeCall (argument formatter : String) (origin s : List Char) : Except Failure (Read Node) :=
  match s with
  | ',' :: r => do
    let (endArgument, r) ← expectName (.expectedRangeEnd formatter) (skipBlanks r)
    formatterCall argument formatter (some endArgument) origin (skipBlanks r)
  | _ => fail (.expectedRangeEnd formatter) s

/-- What follows the formatter's name. -/
def typed (argument formatter : String) (body : Bool → Body)
    (origin s : List Char) : Except Failure (Read Node) :=
  match lowerString formatter with
  | "plural" => plural false argument (body true) origin s
  | "selectordinal" => plural true argument (body true) origin s
  | "select" => select argument (body false) origin s
  | "numberrange" | "daterange" => rangeCall argument formatter origin s
  | _ => formatterCall argument formatter none origin s

/-- A placeholder, from its opening brace on. -/
def placeholder (limit : Int) (inner : Option Inner) (scope : Scope) (origin : List Char) :
    Except Failure (Read Node) :=
  match inner with
  | none => fail (.nestingDepthExceeded limit) origin
  | some inner => do
    let (argument, r) ← expectName .expectedArgumentName (skipBlanks (origin.drop 1))
    match skipBlanks r with
    | '}' :: rest => return (.argument argument, rest)
    | ',' :: r =>
      let (formatter, r) ← expectName .expectedFormatterName (skipBlanks r)
      let body := fun plural => inner (scope.body plural) false
      let (node, r) ← typed argument formatter body origin (skipBlanks r)
      match skipBlanks r with
      | '}' :: rest => return (node, rest)
      | _ => fail .expectedClosingBrace origin
    | _ => fail .expectedClosingBrace origin

/-- The attributes after a tag's name, trimmed; without a blank there are none. -/
def tagAttributes (s : List Char) : List Char × List Char :=
  match s with
  | c :: _ =>
    if isBlank c then
      let (taken, rest) := attributes none s
      (trim taken, rest)
    else ([], s)
  | [] => ([], [])

/-- The closing tag of an open one. -/
def closingTag (opened : String) (origin s : List Char) : Except Failure (List Char) :=
  match s with
  | '<' :: r => do
    let (closed, after) ← expectName .expectedTagName (r.drop 1)
    if lowerString closed ≠ lowerString opened then fail (.mismatchedTag opened closed) s
    else match skipBlanks after with
      | '>' :: rest => return rest
      | rest => fail (.expectedTagEnd closed) rest
  | _ => fail (.unclosedTag opened) origin

/-- A tag, from its `<` on. -/
def tag (limit : Int) (inner : Option Inner) (scope : Scope) (origin : List Char) :
    Except Failure (Read Node) :=
  match inner with
  | none => fail (.nestingDepthExceeded limit) origin
  | some inner => do
    let (name, r) ← expectName .expectedTagName (origin.drop 1)
    let (attributes, r) := tagAttributes r
    match r with
    | '/' :: '>' :: rest => return (.tag name (String.ofList attributes) true [], rest)
    | '>' :: r =>
      let (children, r) ← inner scope true r
      let rest ← closingTag name origin r
      return (.tag name (String.ofList attributes) false children, rest)
    | r => fail (.expectedTagEnd name) r

/-- A closing tag that no open tag waits for. -/
def strayClosingTag (s : List Char) : Failure :=
  let name := ((name? (s.drop 2)).map (·.1)).getD []
  ⟨.unexpectedClosingTag (String.ofList name), s⟩

/-- Nodes up to the end of the text, of the case body or of the tag; `fuel` bounds their number. -/
def sequence (limit : Int) (inner : Option Inner) (scope : Scope) (inTag : Bool) :
    Nat → List Char → Except Failure (Read (List Node))
  | 0, s => .ok ([], s)
  | _ + 1, [] => .ok ([], [])
  | fuel + 1, c :: r =>
    let next (node : Node) (rest : List Char) : Except Failure (Read (List Node)) := do
      let (more, rest) ← sequence limit inner scope inTag fuel rest
      return (node :: more, rest)
    if c = '{' then do
      let (node, rest) ← placeholder limit inner scope (c :: r)
      next node rest
    else if c = '}' && scope.inBody then .ok ([], c :: r)
    else if scope.tags && startsTag (c :: r) then
      if closesTag (c :: r) then
        if inTag then .ok ([], c :: r) else .error (strayClosingTag (c :: r))
      else do
        let (node, rest) ← tag limit inner scope (c :: r)
        next node rest
    else if c = '#' && scope.inPlural then next .hash r
    else
      let (run, rest) := text scope false (c :: r)
      next (.literal (String.ofList run)) rest

/-- Sequences with at most this many levels of bodies and tags in them. -/
def nodesWithin (limit : Int) : Nat → Inner
  | 0 => fun scope inTag s => sequence limit none scope inTag s.length s
  | levels + 1 => fun scope inTag s =>
    sequence limit (some (nodesWithin limit levels)) scope inTag s.length s

/-- Line and column of the place after `before`. -/
def position (before : List Char) : Nat × Nat :=
  before.foldl (fun p c => if c = '\n' then (p.1 + 1, 1) else (p.1, p.2 + 1)) (1, 1)

def emptySpan (source rest : List Char) : Span :=
  let start := source.length - rest.length
  let (line, column) := position (source.take start)
  ⟨start, start, line, column⟩

/-- Why a text is no pattern. -/
inductive Rejection where
  | oversized (size limit : Int)
  | malformed (flaw : Flaw) (span : Span)
deriving DecidableEq, Repr

/-- Limits on patterns, and whether tags are read. A size limit that is not positive limits nothing. -/
structure Settings where
  maxSize : Int := 10485760
  maxDepth : Int := 100
  ignoreTags : Bool := false
deriving DecidableEq, Repr

/-- A sequence that is not in a body or tag ends only where its text does. -/
def Settings.parse (settings : Settings) (source : List Char) : Except Rejection Message :=
  if 0 < settings.maxSize ∧ settings.maxSize < source.length then
    .error (.oversized source.length settings.maxSize)
  else
    let scope : Scope := { tags := !settings.ignoreTags }
    match nodesWithin settings.maxDepth settings.maxDepth.toNat scope false source with
    | .ok (nodes, _) => .ok ⟨nodes⟩
    | .error failure => .error (.malformed failure.flaw (emptySpan source failure.rest))

end MessageFormat.Pattern

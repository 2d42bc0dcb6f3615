import Mathlib.Data.PFun
import MessageFormat.Pattern.Cursor
import MessageFormat.Pattern.Parser

/-!
Patterns read one character at a time from a place in the text. Here a look past the end is a fault, a
span is checked before it is shown, and a loop need not end.
-/

set_option autoImplicit false

namespace MessageFormat.Pattern.Scan

open Text

/-- Why a run stops without a value. -/
inductive Halt where
  | fault (fault : Fault)
  | badSpan (fault : Span.Fault)
  | rejected (rejection : Rejection)

/-- A run has an end, or it has none. -/
abbrev Run (α : Type) := ExceptT Halt Part α

/-- A value and the place after it. -/
abbrev Found (α : Type) := α × Cursor

/-- A run over the sequence of a body. -/
abbrev Body := Cursor → Run (Found (List Node))

section Loop

variable {σ α : Type}

/-- A round of a loop comes to a result, to the state of the next round or to a halt. -/
def verdict : Except Halt (α ⊕ σ) → Except Halt α ⊕ σ
  | .ok (.inl a) => .inl (.ok a)
  | .ok (.inr s) => .inr s
  | .error h => .inl (.error h)

/-- Round after round up to the one that gives a result, if there is one. -/
def loop (round : σ → Run (α ⊕ σ)) (s : σ) : Run α :=
  ExceptT.mk (PFun.fix (fun s => (round s).run.map verdict) s)

end Loop

def look (c : Cursor) : Run Char :=
  match c.current with
  | .ok x => pure x
  | .error f => throw (.fault f)

def flawed {α : Type} (flaw : Flaw) (c : Cursor) : Run α :=
  match c.span.check with
  | .ok span => throw (.rejected (.malformed flaw span))
  | .error f => throw (.badSpan f)

/-! Words. -/

def passRound (p : Char → Bool) (c : Cursor) : Run (Cursor ⊕ Cursor) := do
  if c.atEnd then return .inl c
  return if p (← look c) then .inr (c.advance 1) else .inl c

def pass (p : Char → Bool) (c : Cursor) : Run Cursor := loop (passRound p) c

def blanks (c : Cursor) : Run Cursor := pass isBlank c

def expect (x : Char) (c : Cursor) : Run (Option Cursor) := do
  if c.atEnd then return none
  return if (← look c) = x then some (c.advance 1) else none

def word (p : Char → Bool) (c : Cursor) : Run (Option (List Char × Cursor)) := do
  let e ← pass p c
  return if e.place = c.place then none else some (c.sliceTo e.place, e)

def name (flaw : Flaw) (c : Cursor) : Run (Found String) := do
  match ← word isNameChar c with
  | some (w, e) => return (String.ofList w, e)
  | none => flawed flaw c

/-! Text. -/

/-- A round that gathers ends with all there is, or goes on from what there is so far. -/
abbrev Gathering (α : Type) := Found (List α) ⊕ Found (List α)

def quotedRound (s : Found (List Char)) : Run (Gathering Char) := do
  let (taken, c) := s
  if c.atEnd then return .inl (taken, c)
  let x ← look c
  if x = '\'' then
    if c.peek? 1 = some '\'' then return .inr (taken ++ ['\''], c.advance 2)
    else return .inl (taken, c.advance 1)
  else return .inr (taken ++ [x], c.advance 1)

def quoted (c : Cursor) : Run (Found (List Char)) := loop quotedRound ([], c)

/-- From an apostrophe on. -/
def quotation (c : Cursor) : Run (Found (List Char)) :=
  match c.peek? 1 with
  | some '\'' => return (['\''], c.advance 2)
  | some x => if isQuotable x then quoted (c.advance 1) else return (['\''], c.advance 1)
  | none => return (['\''], c.advance 1)

def stopsText (scope : Scope) (c : Cursor) : Run Bool := do
  let x ← look c
  return x == '{' || (x == '}' && scope.inBody) || (x == '#' && scope.inPlural) ||
    (x == '<' && scope.tags && c.opensTag)

def textRound (scope : Scope) (s : Found (List Char)) : Run (Gathering Char) := do
  let (taken, c) := s
  if c.atEnd then return .inl (taken, c)
  let x ← look c
  if x = '\'' then
    let (q, e) ← quotation c
    return .inr (taken ++ q, e)
  else if ← stopsText scope c then return .inl (taken, c)
  else return .inr (taken ++ [x], c.advance 1)

def text (scope : Scope) (c : Cursor) : Run (Found (List Char)) := loop (textRound scope) ([], c)

/-! Selections. -/

def expectCases (construct : String) (origin c : Cursor) : Run Cursor := do
  match ← expect ',' c with
  | some e => blanks e
  | none =>
    if c.atEnd then flawed .expectedClosingBrace origin
    else if (← look c) = '}' then flawed (.emptyCases construct) origin
    else flawed .expectedClosingBrace origin

def caseBody (key : String) (body : Body) (c : Cursor) :
    Run (Found (List Node)) := do
  let c ← blanks c
  match ← expect '{' c with
  | none => flawed (.expectedCaseBody key) c
  | some inside =>
    let (nodes, e) ← body inside
    match ← expect '}' e with
    | some e => return (nodes, e)
    | none => flawed .expectedClosingBrace c

section Cases

variable {κ : Type} (key : Cursor → Run (Found κ)) (keyText : κ → String)
  (body : Body)

def oneCase (c : Cursor) : Run (Found (Case κ (List Node))) := do
  let (k, e) ← key c
  let (nodes, e) ← caseBody (keyText k) body e
  return (⟨k, nodes⟩, ← blanks e)

def caseRound (s : Found (List (Case κ (List Node)))) :
    Run (Gathering (Case κ (List Node))) := do
  let (found, c) := s
  if c.atEnd then return .inl (found, c)
  if (← look c) = '}' then return .inl (found, c)
  let (one, e) ← oneCase key keyText body c
  return .inr (found ++ [one], e)

def caseList (c : Cursor) : Run (Found (List (Case κ (List Node)))) :=
  loop (caseRound key keyText body) ([], c)

def cases (construct : String) (origin c : Cursor) : Run (Found (List (Case κ (List Node)))) := do
  let (found, e) ← caseList key keyText body c
  if found.isEmpty then flawed (.emptyCases construct) origin else return (found, e)

end Cases

/-- The place of a key is never at the end. -/
def pluralKey (construct : String) (c : Cursor) : Run (Found Matcher) := do
  if (← look c) = '=' then
    match (c.advance 1).decimal? with
    | some (value, e) => return (.exact (String.ofList (c.sliceTo e.place)) value, e)
    | none => flawed (.expectedCaseKey construct) c
  else
    let (x, e) ← name (.expectedCaseKey construct) c
    return (.category x, e)

def selectKey (c : Cursor) : Run (Found String) := do
  match ← word isKeyChar c with
  | some (w, e) => return (String.ofList w, e)
  | none => flawed (.expectedCaseKey "select") c

def pluralOffset (c : Cursor) : Run (Found Decimal) := do
  if startsWith c.rest offsetKeyword then
    let c ← blanks (c.advance offsetKeyword.length)
    match c.decimal? with
    | some (value, e) => return (value, ← blanks e)
    | none =>
      let shown ← word isKeyChar c
      flawed (.invalidOffset (String.ofList ((shown.map (·.1)).getD []))) c
  else return (Decimal.zero, c)

def plural (ordinal : Bool) (argument : String) (body : Body)
    (origin c : Cursor) : Run (Found Node) := do
  let construct := pluralConstruct ordinal
  let c ← expectCases construct origin c
  let (offset, c) ← pluralOffset c
  let (found, e) ← cases (pluralKey construct) Matcher.text body construct origin c
  return (.plural argument offset ordinal found, e)

def select (argument : String) (body : Body) (origin c : Cursor) :
    Run (Found Node) := do
  let c ← expectCases "select" origin c
  let (found, e) ← cases selectKey id body "select" origin c
  return (.select argument found, e)

/-! Calls. -/

def styleSlot (origin c : Cursor) : Run (Found (Option String)) := do
  match ← expect ',' c with
  | none => return (none, c)
  | some after =>
    match after.styleEnd? with
    | none => flawed .expectedClosingBrace origin
    | some stop =>
      let style := trim (after.sliceTo stop)
      return (if style.isEmpty then none else some (String.ofList style), { c with place := stop })

def formatterCall (argument formatter : String) (endArgument : Option String)
    (origin c : Cursor) : Run (Found Node) := do
  let (style, e) ← styleSlot origin c
  return (.call ⟨formatter, argument, style, skeletonOf formatter style, endArgument⟩, e)

def rangeCall (argument formatter : String) (origin c : Cursor) : Run (Found Node) := do
  match ← expect ',' c with
  | none => flawed (.expectedRangeEnd formatter) c
  | some e =>
    let e ← blanks e
    let (endArgument, e) ← name (.expectedRangeEnd formatter) e
    let e ← blanks e
    formatterCall argument formatter (some endArgument) origin e

def typed (argument formatter : String) (body : Bool → Body)
    (origin c : Cursor) : Run (Found Node) :=
  match lowerString formatter with
  | "plural" => plural false argument (body true) origin c
  | "selectordinal" => plural true argument (body true) origin c
  | "select" => select argument (body false) origin c
  | "numberrange" | "daterange" => rangeCall argument formatter origin c
  | _ => formatterCall argument formatter none origin c

/-- A run over sequences, by scope and by whether a tag is open. -/
abbrev Inner := Scope → Bool → Body

def placeholder (limit : Int) (inner : Option Inner) (scope : Scope) (origin : Cursor) :
    Run (Found Node) :=
  match inner with
  | none => flawed (.nestingDepthExceeded limit) origin
  | some inner => do
    let c ← blanks (origin.advance 1)
    let (argument, c) ← name .expectedArgumentName c
    let c ← blanks c
    match ← expect '}' c with
    | some e => return (.argument argument, e)
    | none =>
      match ← expect ',' c with
      | none => flawed .expectedClosingBrace origin
      | some c =>
        let c ← blanks c
        let (formatter, c) ← name .expectedFormatterName c
        let c ← blanks c
        let body := fun plural => inner (scope.body plural) false
        let (node, c) ← typed argument formatter body origin c
        let c ← blanks c
        match ← expect '}' c with
        | some e => return (node, e)
        | none => flawed .expectedClosingBrace origin

/-! Tags. -/

/-- The state is the quotation mark that is open and the place. -/
def attributesRound (s : Option Char × Cursor) : Run (Cursor ⊕ Option Char × Cursor) := do
  let (mark, c) := s
  if c.atEnd then return .inl c
  let x ← look c
  match mark with
  | some q => return .inr (if x = q then none else some q, c.advance 1)
  | none =>
    if x = '"' ∨ x = '\'' then return .inr (some x, c.advance 1)
    else if x = '>' ∨ (x = '/' ∧ c.peek? 1 = some '>') then return .inl c
    else return .inr (none, c.advance 1)

def attributes (mark : Option Char) (c : Cursor) : Run Cursor := loop attributesRound (mark, c)

def tagAttributes (c : Cursor) : Run (Found (List Char)) := do
  if c.atEnd then return ([], c)
  if isBlank (← look c) then
    let e ← attributes none c
    return (trim (c.sliceTo e.place), e)
  else return ([], c)

def closingTag (opened : String) (origin c : Cursor) : Run Cursor := do
  if c.atEnd then flawed (.unclosedTag opened) origin
  else if (← look c) ≠ '<' then flawed (.unclosedTag opened) origin
  else
    let (closed, e) ← name .expectedTagName (c.advance 2)
    if lowerString closed ≠ lowerString opened then flawed (.mismatchedTag opened closed) c
    else
      let e ← blanks e
      match ← expect '>' e with
      | some rest => return rest
      | none => flawed (.expectedTagEnd closed) e

def tag (limit : Int) (inner : Option Inner) (scope : Scope) (origin : Cursor) : Run (Found Node) :=
  match inner with
  | none => flawed (.nestingDepthExceeded limit) origin
  | some inner => do
    let (x, c) ← name .expectedTagName (origin.advance 1)
    let (taken, c) ← tagAttributes c
    if c.peek? 0 = some '/' ∧ c.peek? 1 = some '>' then
      return (.tag x (String.ofList taken) true [], c.advance 2)
    else
      match ← expect '>' c with
      | none => flawed (.expectedTagEnd x) c
      | some c =>
        let (children, c) ← inner scope true c
        let e ← closingTag x origin c
        return (.tag x (String.ofList taken) false children, e)

/-! Sequences. -/

def sequenceRound (limit : Int) (inner : Option Inner) (scope : Scope) (inTag : Bool)
    (s : Found (List Node)) : Run (Gathering Node) := do
  let (nodes, c) := s
  if c.atEnd then return .inl (nodes, c)
  let x ← look c
  if x = '{' then
    let (node, e) ← placeholder limit inner scope c
    return .inr (nodes ++ [node], e)
  else if x = '}' && scope.inBody then return .inl (nodes, c)
  else if x = '<' && scope.tags && c.opensTag then
    if c.peek? 1 = some '/' then
      if inTag then return .inl (nodes, c)
      else
        let shown ← word isNameChar (c.advance 2)
        flawed (.unexpectedClosingTag (String.ofList ((shown.map (·.1)).getD []))) c
    else
      let (node, e) ← tag limit inner scope c
      return .inr (nodes ++ [node], e)
  else if x = '#' && scope.inPlural then return .inr (nodes ++ [.hash], c.advance 1)
  else
    let (t, e) ← text scope c
    return .inr (nodes ++ [.literal (String.ofList t)], e)

def sequence (limit : Int) (inner : Option Inner) (scope : Scope) (inTag : Bool) (c : Cursor) :
    Run (Found (List Node)) :=
  loop (sequenceRound limit inner scope inTag) ([], c)

def nodesWithin (limit : Int) : Nat → Inner
  | 0 => sequence limit none
  | levels + 1 => sequence limit (some (nodesWithin limit levels))

end Scan

/-- A pattern read one character at a time. -/
def Settings.scan (settings : Settings) (p : List Char) : Scan.Run Message :=
  if 0 < settings.maxSize ∧ settings.maxSize < p.length then
    throw (.rejected (.oversized p.length settings.maxSize))
  else do
    let scope : Scope := { tags := !settings.ignoreTags }
    let (nodes, _) ←
      Scan.nodesWithin settings.maxDepth settings.maxDepth.toNat scope false { source := p }
    return ⟨nodes⟩

end MessageFormat.Pattern

import MessageFormat.Calendar.Pattern

/-!
Date skeletons name the fields that are wanted, in no order. The best of several skeletons has the same
fields and the closest widths.
-/

set_option autoImplicit false

namespace MessageFormat.DatePattern

/-- The width of each field; a later run of a letter counts instead of an earlier one. -/
def widthOf (letter : Char) (pattern : DatePattern) : Nat :=
  pattern.foldl (fun width element =>
    match element with
    | .field l w => if l = letter then w else width
    | .text _ => width) 0

/-- Fields that no candidate has are asked for by a related letter, or not at all. -/
def relatedLetters : List (Char × Option Char) :=
  [('z', some 'v'), ('k', some 'H'), ('K', some 'h'), ('a', none), ('b', none)]

def adaptLetter (candidates : List (List Char)) (skeleton : List Char)
    (related : Char × Option Char) : List Char :=
  if candidates.any (·.contains related.1) then skeleton
  else match related.2 with
    | some other => skeleton.map fun c => if c = related.1 then other else c
    | none => skeleton.filter (· ≠ related.1)

def adapt (candidates : List (List Char)) (skeleton : List Char) : List Char :=
  relatedLetters.foldl (adaptLetter candidates) skeleton

/-- The distance between a number and a text. -/
def farApart : Nat := 256

/-- How far two widths of a field are apart; a field must not be missing on one side. -/
def widthDistance (letter : Char) (wanted offered : Nat) : Option Nat :=
  if wanted = offered then some 0
  else if wanted = 0 ∨ offered = 0 then none
  else if letter = 'M' && (decide (2 < wanted) != decide (2 < offered)) then some farApart
  else some (max wanted offered - min wanted offered)

def distance? (wanted offered : DatePattern) : Option Nat :=
  fieldWidths.foldlM (fun sum f => do
    let d ← widthDistance f.1 (widthOf f.1 wanted) (widthOf f.1 offered)
    return sum + d) 0

/-- The first of the closest candidates. -/
def closest? (wanted : DatePattern) (candidates : List (List Char)) : Option (List Char × Nat) :=
  candidates.foldl (fun best candidate =>
    match distance? wanted (elements candidate), best with
    | none, _ => best
    | some d, none => some (candidate, d)
    | some d, some (held, least) => if d < least then some (candidate, d) else some (held, least))
    none

/-- The candidate that matches a skeleton best; the candidates are in order. -/
def matching? (skeleton : List Char) (candidates : List (List Char)) : Option (List Char) :=
  (closest? (elements (adapt candidates skeleton)) candidates).map (·.1)

end MessageFormat.DatePattern

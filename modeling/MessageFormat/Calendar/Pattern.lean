import MessageFormat.Fault
import MessageFormat.Text.Blank
import MessageFormat.Text.Quoted

/-!
Date patterns such as `EEE, d MMM y`: runs of a letter are fields, and all else is text. Quotes hold text
that has letters, and two of them are one quote.
-/

set_option autoImplicit false

namespace MessageFormat

open Text

inductive DateElement where
  | text (s : List Char)
  | field (letter : Char) (width : Nat)
deriving DecidableEq, Repr

abbrev DatePattern := List DateElement

namespace DatePattern

/-- The letters of fields and the widths that each may have; some may have any. -/
def fieldWidths : List (Char × Option (List Nat)) :=
  [('G', some [1, 2, 3, 4, 5]), ('y', none), ('Y', none), ('u', none), ('Q', some [1, 2, 3, 4, 5]),
   ('q', some [1, 2, 3, 4, 5]), ('M', some [1, 2, 3, 4, 5]), ('L', some [1, 2, 3, 4, 5]),
   ('w', some [1, 2]), ('W', some [1]), ('d', some [1, 2]), ('D', some [1, 2, 3]), ('F', some [1]),
   ('g', none), ('E', some [1, 2, 3, 4, 5, 6]), ('e', some [1, 2, 3, 4, 5, 6]),
   ('c', some [1, 3, 4, 5, 6]), ('a', some [1, 2, 3, 4, 5]), ('b', some [1, 2, 3, 4, 5]),
   ('B', some [1, 2, 3, 4, 5]), ('h', some [1, 2]), ('H', some [1, 2]), ('K', some [1, 2]),
   ('k', some [1, 2]), ('m', some [1, 2]), ('s', some [1, 2]), ('S', none), ('A', none),
   ('z', some [1, 2, 3, 4]), ('Z', some [1, 2, 3, 4, 5]), ('O', some [1, 4]), ('v', some [1, 4]),
   ('V', some [1, 2, 3, 4]), ('x', some [1, 2, 3, 4, 5]), ('X', some [1, 2, 3, 4, 5])]

def isFieldLetter (c : Char) : Bool := fieldWidths.any (·.1 == c)

/-- A character of the pattern, read as text or as a letter of a field. -/
structure Mark where
  isField : Bool
  char : Char
deriving DecidableEq, Repr

/-- A null character is a quote as well. -/
def literal (c : Char) : Mark := ⟨false, if c = '\x00' then '\'' else c⟩

/-- Marks outside and inside quotes; a quote that is not closed loses what it holds. -/
def marks : List Char → Option (List Mark) → List Mark
  | [], _ => []
  | '\'' :: '\'' :: r, none => literal '\'' :: marks r none
  | '\'' :: '\'' :: r, some held => marks r (some (held ++ [literal '\'']))
  | '\'' :: r, none => marks r (some [])
  | '\'' :: r, some held => held ++ marks r none
  | c :: r, none => (if isFieldLetter c then ⟨true, c⟩ else literal c) :: marks r none
  | c :: r, some held => marks r (some (held ++ [literal c]))

/-- One more mark in front: it joins a text, or a field of its letter. -/
def cons (m : Mark) (rest : DatePattern) : DatePattern :=
  match m, rest with
  | ⟨false, c⟩, .text s :: r => .text (c :: s) :: r
  | ⟨false, c⟩, r => .text [c] :: r
  | ⟨true, c⟩, .field letter width :: r =>
    if c = letter then .field letter (width + 1) :: r else .field c 1 :: .field letter width :: r
  | ⟨true, c⟩, r => .field c 1 :: r

def elements (s : List Char) : DatePattern := (marks s none).foldr cons []

def isWidthAllowed (letter : Char) (width : Nat) : Bool :=
  fieldWidths.any fun f => f.1 == letter && (f.2.map (·.contains width)).getD true

def checked : DateElement → Except Fault DateElement
  | .text s => .ok (.text s)
  | .field letter width =>
    if isWidthAllowed letter width then .ok (.field letter width)
    else
      let run := quote (List.replicate width letter)
      .error (.value ("Invalid length for field: " ++ String.ofList run))

/-- The elements of a pattern whose fields have allowed widths. -/
def parse (s : List Char) : Except Fault DatePattern := (elements s).mapM checked

end DatePattern
end MessageFormat

import MessageFormat.Text.CaseTable
import MessageFormat.Text.Letter

/-!
Lower and upper case of whole texts. A letter may become several, and a capital sigma becomes a final
one at the end of a word.
-/

set_option autoImplicit false

namespace MessageFormat.Text

def CaseRun.image? (run : CaseRun) (n : Nat) : Option Nat :=
  if run.first ≤ n && n ≤ run.last && (n - run.first) % run.step == 0 then
    some ((n : Int) + run.shift).toNat
  else none

def mapCase (runs : List CaseRun) (expansions : List (Nat × List Nat)) (c : Char) : List Char :=
  match expansions.find? (·.1 == c.toNat) with
  | some e => e.2.map Char.ofNat
  | none => [((runs.findSome? (·.image? c.toNat)).map Char.ofNat).getD c]

def upper (s : List Char) : List Char :=
  s.flatMap fun c =>
    if c.toNat < 128 then [c.toUpper] else mapCase upperRuns upperExpansions c

def isCaseIgnorable (c : Char) : Bool := inRanges caseIgnorableRanges c.toNat

/-- The nearest character that is not passed over is a letter with case. -/
def reachesCased (s : List Char) : Bool :=
  match s.dropWhile isCaseIgnorable with
  | [] => false
  | c :: _ => inRanges casedRanges c.toNat

/-- `before` holds the characters already read, nearest first. -/
def lowerFrom (before : List Char) : List Char → List Char
  | [] => []
  | c :: r =>
    let image :=
      if c.toNat < 128 then [c.toLower]
      else if c = 'Σ' then
        if reachesCased before && !reachesCased r then ['ς'] else ['σ']
      else mapCase lowerRuns lowerExpansions c
    image ++ lowerFrom (c :: before) r

def lower (s : List Char) : List Char := lowerFrom [] s

def lowerString (s : String) : String := String.ofList (lower s.toList)

def upperString (s : String) : String := String.ofList (upper s.toList)

end MessageFormat.Text

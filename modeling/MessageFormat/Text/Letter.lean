import MessageFormat.Text.LetterTable

/-!
Letters, digits and the characters of names, in all scripts.
-/

set_option autoImplicit false

namespace MessageFormat.Text

def inRanges (ranges : List (Nat × Nat)) (n : Nat) : Bool :=
  ranges.any fun r => r.1 ≤ n && n ≤ r.2

def isLetter (c : Char) : Bool := inRanges letterRanges c.toNat

def isLetterOrNumeral (c : Char) : Bool :=
  isLetter c || inRanges numeralRanges c.toNat

/-- Names of arguments, formatters and tags. -/
def isNameChar (c : Char) : Bool :=
  c == '_' || c == '-' || c == '.' || isLetterOrNumeral c

/-- The value of a decimal digit of any script. -/
def digitValue? (c : Char) : Option Nat :=
  if '0' ≤ c && c ≤ '9' then some (c.toNat - 48)
  else if c.toNat < 128 then none
  else (digitZeros.find? fun z => z ≤ c.toNat && c.toNat < z + 10).map fun z => c.toNat - z

def isDigit (c : Char) : Bool := (digitValue? c).isSome

/-- The number that a run of digits writes; other characters count as zero. -/
def digitsValue (s : List Char) : Nat :=
  s.foldl (fun n c => 10 * n + (digitValue? c).getD 0) 0

/-- Decimal digits of a number, most significant first. -/
def natDigits (n : Nat) : List Char := Nat.toDigits 10 n

def padZeros (width : Nat) (s : List Char) : List Char :=
  List.replicate (width - s.length) '0' ++ s

def intText (n : Int) : List Char :=
  if n < 0 then '-' :: natDigits n.natAbs else natDigits n.natAbs

end MessageFormat.Text

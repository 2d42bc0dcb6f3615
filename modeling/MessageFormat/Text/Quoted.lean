import MessageFormat.Text.Letter
import MessageFormat.Text.PrintTable

/-!
Quoted text: single quotes unless the text holds some and no double ones; a backslash before what would
end or confuse the quotation, and code points in hexadecimal for what does not print.
-/

set_option autoImplicit false

namespace MessageFormat.Text

def hexDigits (width n : Nat) : List Char := padZeros width (Nat.toDigits 16 n)

def isPrintable (c : Char) : Bool := !inRanges unprintableRanges c.toNat

/-- The mark that encloses a quotation of `s`. -/
def quoteMark (s : List Char) : Char :=
  if s.contains '\'' && !s.contains '"' then '"' else '\''

/-- The number of a character in as few places as it fits into. -/
def codePoint (c : Char) : List Char :=
  if c.toNat < 0x100 then '\\' :: 'x' :: hexDigits 2 c.toNat
  else if c.toNat < 0x10000 then '\\' :: 'u' :: hexDigits 4 c.toNat
  else '\\' :: 'U' :: hexDigits 8 c.toNat

def quoteChar (mark c : Char) : List Char :=
  if c = mark || c = '\\' then ['\\', c]
  else if c = '\n' then ['\\', 'n']
  else if c = '\r' then ['\\', 'r']
  else if c = '\t' then ['\\', 't']
  else if 32 ≤ c.toNat && c.toNat < 127 then [c]
  else if isPrintable c && 127 < c.toNat then [c]
  else codePoint c

def quote (s : List Char) : List Char :=
  let mark := quoteMark s
  mark :: s.flatMap (quoteChar mark) ++ [mark]

/-- The number of a character that is not ASCII. -/
def asciiChar (c : Char) : List Char :=
  if c.toNat < 128 then [c] else codePoint c

/-- A quotation in ASCII. -/
def quoteAscii (s : List Char) : List Char := (quote s).flatMap asciiChar

/-- Bytes quote like text, except that every byte outside the printable ASCII ones is shown by number. -/
def quoteByte (mark : Char) (b : UInt8) : List Char :=
  let c := Char.ofNat b.toNat
  if c = mark || c = '\\' then ['\\', c]
  else if c = '\n' then ['\\', 'n']
  else if c = '\r' then ['\\', 'r']
  else if c = '\t' then ['\\', 't']
  else if 32 ≤ b.toNat && b.toNat < 127 then [c]
  else '\\' :: 'x' :: hexDigits 2 b.toNat

def quoteBytes (bytes : List UInt8) : List Char :=
  let mark := quoteMark (bytes.map fun b => Char.ofNat b.toNat)
  'b' :: mark :: bytes.flatMap (quoteByte mark) ++ [mark]

def quoteString (s : String) : String := String.ofList (quote s.toList)

end MessageFormat.Text

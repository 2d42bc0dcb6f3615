import MessageFormat.Decimal.Basic
import MessageFormat.Text.Blank
import MessageFormat.Text.Case

/-!
Reading decimals. The text may have blanks around it and low lines anywhere; digits may be those of any
script; infinities and quiet or signalling not-a-numbers are read as such.
-/

set_option autoImplicit false

namespace MessageFormat

/-- A decimal, or one of the special values that a decimal text can name. -/
inductive Numeral where
  | finite (value : Decimal)
  | infinite (negative : Bool)
  | notANumber (negative signaling : Bool) (payload : Nat)
deriving DecidableEq, Repr

namespace Numeral

def text : Numeral → List Char
  | .finite d => d.text
  | .infinite negative => (if negative then ['-'] else []) ++ "Infinity".toList
  | .notANumber negative signaling payload =>
    (if negative then ['-'] else []) ++ (if signaling then ['s'] else []) ++ "NaN".toList ++
      (if payload = 0 then [] else Text.natDigits payload)

protected def toString (n : Numeral) : String := String.ofList n.text

instance : ToString Numeral := ⟨Numeral.toString⟩

end Numeral

namespace Decimal

/-- Exponents stay between these bounds, and so does the exponent of the first digit. -/
def leastExponent : Int := -1999999999999999997

def greatestAdjusted : Int := 999999999999999999

def holdable (d : Decimal) : Bool :=
  decide (leastExponent ≤ d.exponent) && decide (d.adjusted ≤ greatestAdjusted)

/-- A sign, if there is one, and what follows it. -/
def splitSign : List Char → Bool × List Char
  | '-' :: r => (true, r)
  | '+' :: r => (false, r)
  | r => (false, r)

/-- The digits at the start and what follows them. -/
def splitDigits (s : List Char) : List Char × List Char := s.span Text.isDigit

/-- An exponent after the digits: nothing, or an `e`, a sign and digits. -/
def readExponent : List Char → Option Int
  | [] => some 0
  | c :: r =>
    if c = 'e' || c = 'E' then
      let (negative, digits) := splitSign r
      if digits.isEmpty || !digits.all Text.isDigit then none
      else
        let n : Int := Text.digitsValue digits
        some (if negative then -n else n)
    else none

/-- Digits with a point somewhere or nowhere, and an exponent. -/
def readUnsigned (negative : Bool) (s : List Char) : Option Decimal :=
  let (whole, r) := splitDigits s
  let (fraction, r) := match r with
    | '.' :: r => splitDigits r
    | r => ([], r)
  if whole.isEmpty && fraction.isEmpty then none
  else (readExponent r).map fun e =>
    ⟨negative, Text.digitsValue (whole ++ fraction), e - fraction.length⟩

def readFinite (s : List Char) : Option Decimal :=
  let (negative, r) := splitSign s
  readUnsigned negative r

end Decimal

namespace Numeral

/-- The diagnostic digits after `nan`. -/
def readPayload (digits : List Char) : Option Nat :=
  if digits.all Text.isDigit then some (Text.digitsValue digits) else none

def readSpecial (s : List Char) : Option Numeral :=
  let (negative, r) := Decimal.splitSign s
  let r := Text.lower r
  if r = "inf".toList || r = "infinity".toList then some (.infinite negative)
  else match Text.strip? "snan".toList r with
    | some digits => (readPayload digits).map (.notANumber negative true)
    | none => match Text.strip? "nan".toList r with
      | some digits => (readPayload digits).map (.notANumber negative false)
      | none => none

/-- The number that a text names, if it names one and its exponent can be held. -/
def read? (s : List Char) : Option Numeral :=
  let s := (Text.trim s).filter (· ≠ '_')
  match Decimal.readFinite s with
  | some d => if d.holdable then some (.finite d) else none
  | none => readSpecial s

end Numeral

/-- The finite decimal that a text names. -/
def Decimal.read? (s : List Char) : Option Decimal :=
  match Numeral.read? s with
  | some (.finite d) => some d
  | _ => none

end MessageFormat

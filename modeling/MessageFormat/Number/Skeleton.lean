import MessageFormat.Number.Spec
import MessageFormat.Decimal.Reading

/-!
Number skeletons: blank-separated tokens, each of which writes some fields of a spec. A token that is not
understood is recorded and writes nothing.
-/

set_option autoImplicit false

namespace MessageFormat.Number

/-- The understood tokens, by what they write. -/
inductive Token where
  | sign (display : SignDisplay)
  | grouping (policy : Grouping)
  | form (kind : Notation)
  | width (unit : UnitWidth) (currency : CurrencyDisplay)
  | currencyDisplay (display : CurrencyDisplay)
  | percent
  | percentScaled
  | permille
  | ordinal
  | fraction (least most : Nat)
  | significant (least most : Nat)
  | minInteger (least : Nat)
  | integerWidth (least : Nat) (most : Option Nat)
  | currency (code : String)
  | unit (id : String)
  | scale (factor : Decimal)
  | neutral
deriving DecidableEq, Repr

/-- How far an open-ended digit limit reaches. -/
def maxDigits : Nat := 15

/-- Tokens that are one word. -/
def keywords : List (String × Token) :=
  [("sign-auto", .sign .auto), ("sign-always", .sign .always), ("sign-never", .sign .never),
   ("sign-except-zero", .sign .exceptZero), ("sign-accounting", .sign .accounting),
   ("sign-accounting-always", .sign .accountingAlways),
   ("sign-accounting-except-zero", .sign .accountingExceptZero),
   ("+!", .sign .always), ("+_", .sign .never), ("+?", .sign .exceptZero), ("+-", .sign .auto),
   ("()", .sign .accounting), ("()!", .sign .accountingAlways), ("()?", .sign .accountingExceptZero),
   ("group-off", .grouping .off), ("group-min2", .grouping .min2), ("group-auto", .grouping .auto),
   ("group-on-aligned", .grouping .onAligned), ("group-always", .grouping .always),
   (",_", .grouping .off), (",?", .grouping .min2), (",!", .grouping .always),
   ("compact-short", .form .compactShort), ("K", .form .compactShort),
   ("compact-long", .form .compactLong), ("KK", .form .compactLong),
   ("scientific", .form .scientific), ("engineering", .form .engineering),
   ("notation-simple", .form .standard),
   ("unit-width-narrow", .width .narrow .narrowSymbol), ("unit-width-short", .width .short .symbol),
   ("unit-width-full-name", .width .fullName .name), ("unit-width-iso-code", .width .isoCode .code),
   ("currency-symbol", .currencyDisplay .symbol),
   ("currency-narrow-symbol", .currencyDisplay .narrowSymbol),
   ("currency-iso-code", .currencyDisplay .code), ("currency-name", .currencyDisplay .name),
   ("percent", .percent), ("%", .percent), ("%x100", .percentScaled), ("permille", .permille),
   ("ordinal", .ordinal), ("precision-integer", .fraction 0 0),
   ("precision-unlimited", .fraction 0 maxDigits), ("base-unit", .neutral)]

namespace Token

/-- How many of a character stand at the start, and what follows them. -/
def countOf (c : Char) (s : List Char) : Nat × List Char :=
  let (run, rest) := s.span (· == c)
  (run.length, rest)

/-- Required digits, then optional ones, then perhaps a mark that leaves the end open. -/
def readLimits (required : Char) (s : List Char) : Option (Nat × Nat) :=
  let (least, r) := countOf required s
  let (extra, r) := countOf '#' r
  match r with
  | [] => some (least, least + extra)
  | ['*'] | ['+'] => some (least, maxDigits)
  | _ => none

def readFraction : List Char → Option Token
  | '.' :: r => (readLimits '0' r).map fun p => .fraction p.1 p.2
  | _ => none

def readSignificant : List Char → Option Token
  | '@' :: r => (readLimits '@' ('@' :: r)).map fun p => .significant p.1 p.2
  | _ => none

def readZeros (s : List Char) : Option Token :=
  if !s.isEmpty && s.all (· == '0') then some (.minInteger s.length) else none

/-- One or two `E`, perhaps a sign display, and zeros for the exponent. -/
def readScientific : List Char → Option Token
  | 'E' :: r =>
    let (kind, r) := match r with
      | 'E' :: r => (Notation.engineering, r)
      | r => (Notation.scientific, r)
    let r := match r with
      | '+' :: '!' :: r | '+' :: '?' :: r => r
      | r => r
    (readZeros r).map fun _ => .form kind
  | _ => none

/-- An open-end mark, then places that may be filled, then places that have to be. -/
def readIntegerWidth (s : List Char) : Option Token :=
  let (isOpen, r) := match s with
    | '*' :: r | '+' :: r => (true, r)
    | r => (false, r)
  let (hashes, r) := countOf '#' r
  let (zeros, r) := countOf '0' r
  if !r.isEmpty then none
  else if isOpen || hashes + zeros = 0 then some (.integerWidth zeros none)
  else some (.integerWidth zeros (some (hashes + zeros)))

/-- A token with an option after a slash. -/
def readOption (stem option : List Char) : Option Token :=
  match String.ofList stem with
  | "currency" => some (.currency (String.ofList (Text.upper option)))
  | "unit" | "measure-unit" => some (.unit (String.ofList option))
  | "scale" => (Decimal.read? option).map .scale
  | "integer-width" => readIntegerWidth option
  | _ => none

def read? (s : List Char) : Option Token :=
  match keywords.lookup (String.ofList s) with
  | some t => some t
  | none =>
    match Text.cut '/' s with
    | (stem, some (c :: option)) => readOption stem (c :: option)
    | _ => readFraction s <|> readSignificant s <|> readZeros s <|> readScientific s

/-- What a token writes. -/
def write (s : Spec) : Token → Spec
  | .sign d => { s with sign := d }
  | .grouping g => { s with grouping := g }
  | .form n => { s with form := n }
  | .width u c => { s with unitWidth := u, currencyDisplay := c }
  | .currencyDisplay d => { s with currencyDisplay := d }
  | .percent => { s with percent := true, permille := false }
  | .percentScaled => { s with percent := true, permille := false, scale := Decimal.ofNat 100 }
  | .permille => { s with permille := true, percent := false }
  | .ordinal => { s with ordinal := true }
  | .fraction least most =>
    { s with minFraction := some least, maxFraction := some most, precision := .skeleton }
  | .significant least most =>
    { s with minSignificant := some least, maxSignificant := some most, precision := .skeleton }
  | .minInteger least => { s with minInteger := least }
  | .integerWidth least most => { s with minInteger := least, maxInteger := most }
  | .currency code => { s with currency := some code }
  | .unit id => { s with unit := some id }
  | .scale factor => { s with scale := factor }
  | .neutral => s

end Token

namespace Spec

/-- The words of a skeleton, with or without the colons in front. -/
def skeletonWords (s : List Char) : List (List Char) :=
  let s := Text.trim s
  Text.words ((Text.strip? [':', ':'] s).getD s)

def readWord (s : Spec) (word : List Char) : Spec :=
  match Token.read? word with
  | some t => t.write s
  | none => { s with unrecognized := s.unrecognized ++ [String.ofList word] }

def ofSkeleton (s : List Char) : Spec := (skeletonWords s).foldl readWord {}

end Spec
end MessageFormat.Number

import MessageFormat.Decimal.Arithmetic
import MessageFormat.Plural.Category
import MessageFormat.Plural.Operands

/-!
Conditions on plural operands and the choice of a category: the first one whose condition holds, else `other`.
-/

set_option autoImplicit false

namespace MessageFormat

inductive PluralOperand where
  | n | i | v | w | f | t | e
deriving DecidableEq, Repr

/-- An operand, or its remainder, lies in one of the ranges; or it does not. -/
structure PluralRelation where
  operand : PluralOperand
  modulus : Option Nat := none
  negated : Bool := false
  ranges : List (Nat × Nat)
deriving DecidableEq, Repr

/-- Alternatives, in each of which all relations hold. -/
abbrev PluralCondition := List (List PluralRelation)

abbrev PluralRules := List (PluralCategory × PluralCondition)

/-- The digits that are seen come from the coefficient alone: zeros right after the point are not among
them. -/
def PluralOperands.ofCoefficient (d : Decimal) : Except Decimal.Signal PluralOperands := do
  let n ← d.absolute
  let digits := Text.natDigits n.coefficient
  let fraction :=
    if 0 ≤ n.exponent then [] else digits.drop (digits.length - n.exponent.natAbs)
  let kept := dropZeros fraction
  return { n, i := n.integerPart, v := fraction.length, w := kept.length,
           f := Text.digitsValue fraction, t := Text.digitsValue kept }

/-- The integer that a magnitude is, if it is one. -/
def Decimal.whole? (d : Decimal) : Option Nat :=
  if 0 ≤ d.exponent || d.coefficient % Nat.pow 10 d.exponent.natAbs == 0 then some d.integerPart else none

namespace PluralOperand

/-- The operands other than `n` are integers. -/
def count (x : PluralOperands) : PluralOperand → Nat
  | .n | .i => x.i
  | .v => x.v
  | .w => x.w
  | .f => x.f
  | .t => x.t
  | .e => x.e.toNat

end PluralOperand

namespace PluralRelation

def isIn (operand : PluralOperand) (ranges : List (Nat × Nat)) : PluralRelation :=
  { operand, ranges }

def isNotIn (operand : PluralOperand) (ranges : List (Nat × Nat)) : PluralRelation :=
  { operand, ranges, negated := true }

/-- The remainder by a modulus lies in a range. -/
def restIn (operand : PluralOperand) (modulus : Nat) (ranges : List (Nat × Nat)) : PluralRelation :=
  { operand, modulus := some modulus, ranges }

def restNotIn (operand : PluralOperand) (modulus : Nat) (ranges : List (Nat × Nat)) :
    PluralRelation :=
  { operand, modulus := some modulus, ranges, negated := true }

def value (r : PluralRelation) (x : PluralOperands) : Decimal.Result :=
  match r.operand, r.modulus with
  | .n, none => .ok x.n
  | .n, some m => x.n.remainder (Decimal.ofNat m)
  | o, none => .ok (Decimal.ofNat (o.count x))
  | o, some m => .ok (Decimal.ofNat (o.count x % m))

/-- Only integers lie in ranges. -/
def isMember (ranges : List (Nat × Nat)) (d : Decimal) : Bool :=
  match d.whole? with
  | none => false
  | some n => Text.inRanges ranges n

def holds (r : PluralRelation) (x : PluralOperands) : Except Decimal.Signal Bool := do
  let d ← r.value x
  return isMember r.ranges d != r.negated

end PluralRelation

/-- Relations are looked at from left to right, no further than the outcome needs. -/
def PluralCondition.holds (c : PluralCondition) (x : PluralOperands) : Except Decimal.Signal Bool :=
  c.anyM fun relations => relations.allM fun r => r.holds x

namespace PluralRules

def select (x : PluralOperands) : PluralRules → Except Decimal.Signal PluralCategory
  | [] => .ok .other
  | (category, condition) :: rest => do
    let holds ← condition.holds x
    if holds then return category else select x rest

/-- The category of a number. -/
def category (rules : PluralRules) (number : Decimal) : Except Decimal.Signal PluralCategory := do
  let x ← PluralOperands.ofCoefficient number
  select x rules

end PluralRules
end MessageFormat

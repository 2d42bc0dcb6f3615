import MessageFormat.Fault

/-!
Integers as text. Those of too many digits are neither written nor read.
-/

set_option autoImplicit false

namespace MessageFormat.Text.Integer

def mostDigits : Nat := 4300

/-- What is said of an integer of too many digits; their number is told where it is known. -/
def tooLong (digits : Option Nat) : Fault :=
  let told := match digits with
    | some n => s!": value has {n} digits"
    | none => ""
  .value (s!"Exceeds the limit ({mostDigits} digits) for integer string conversion{told}; " ++
    "use sys.set_int_max_str_digits() to increase the limit")

def write (n : Nat) : Except Fault (List Char) :=
  if Nat.pow 10 mostDigits ≤ n then .error (tooLong none) else .ok (natDigits n)

/-- Digits that may be read, or else a fault: zeros in front count. -/
def checkLength (digits : Nat) : Except Fault Unit :=
  if mostDigits < digits then .error (tooLong (some digits)) else .ok ()

end MessageFormat.Text.Integer

import MessageFormat.Decimal.Arithmetic

/-!
Failures of lookups, of handlers and of arithmetic: a kind and a text.
-/

set_option autoImplicit false

namespace MessageFormat

inductive FaultKind where
  | value | key | index | type | runtime | attribute | overflow | endOfInput | memory
  | invalidOperation | decimalOverflow | unknownLocale
deriving DecidableEq, Repr

def FaultKind.name : FaultKind → String
  | .value => "ValueError"
  | .key => "KeyError"
  | .index => "IndexError"
  | .type => "TypeError"
  | .runtime => "RuntimeError"
  | .attribute => "AttributeError"
  | .overflow => "OverflowError"
  | .endOfInput => "EOFError"
  | .memory => "MemoryError"
  | .invalidOperation => "InvalidOperation"
  | .decimalOverflow => "Overflow"
  | .unknownLocale => "UnknownLocaleError"

structure Fault where
  kind : FaultKind
  message : String
deriving DecidableEq, Repr

namespace Fault

def value (message : String) : Fault := ⟨.value, message⟩

def outOfMemory : Fault := ⟨.memory, ""⟩

/-- The text of a missing key is its quotation. -/
def missingKey (quoted : String) : Fault := ⟨.key, quoted⟩

def ofSignal : Decimal.Signal → Fault
  | .invalidOperation => ⟨.invalidOperation, "[<class 'decimal.InvalidOperation'>]"⟩
  | .divisionImpossible => ⟨.invalidOperation, "[<class 'decimal.DivisionImpossible'>]"⟩
  | .overflow => ⟨.decimalOverflow, "[<class 'decimal.Overflow'>]"⟩

/-- An arithmetic result whose signal is a fault. -/
def arithmetic {α : Type} : Except Decimal.Signal α → Except Fault α
  | .ok a => .ok a
  | .error s => .error (ofSignal s)

end Fault
end MessageFormat

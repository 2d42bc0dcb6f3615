import MessageFormat.Fault
import MessageFormat.Text.Case
import MessageFormat.Value.Text

/-!
Extensions by name. Names are kept and looked up in lower case.
-/

set_option autoImplicit false

namespace MessageFormat

/-- What is offered under a name: an extension, or something of another type. -/
inductive Offer (α : Type) where
  | usable (extension : α)
  | unusable (type : String)

/-- A name of no extension stands for itself, a string. -/
def Offer.ofOption {α : Type} : Option α → Offer α
  | some extension => .usable extension
  | none => .unusable "str"

structure Registry (α : Type) where
  entries : List (String × α) := []

namespace Registry

variable {α : Type}

/-- The text of a name that is one. -/
def name? : Value → Option String
  | .text s => if s.isEmpty then none else some s
  | _ => none

def accept (r : Registry α) (name : Value) (offer : Offer α) : Except Fault (Registry α) :=
  match name? name, offer with
  | none, _ =>
    let shown := String.ofList (({} : Graph).display name)
    .error ⟨.type, s!"Registry names must be non-empty strings, got {shown}"⟩
  | some name, .unusable type =>
    .error ⟨.type, s!"Registry entry '{name}' is not callable: {type}"⟩
  | some name, .usable extension =>
    .ok ⟨putEntry (· == ·) (Text.lowerString name) extension r.entries⟩

/-- Of two names that differ in case only the later one's extension is kept, in the place of the earlier
one. -/
def ofOffers (offers : List (Value × Offer α)) : Except Fault (Registry α) :=
  offers.foldlM (fun r o => r.accept o.1 o.2) {}

def get? (r : Registry α) (name : String) : Option α :=
  (r.entries.find? fun e => e.1 == Text.lowerString name).map (·.2)

def names (r : Registry α) : List String := r.entries.map (·.1)

def size (r : Registry α) : Nat := r.entries.length

end Registry
end MessageFormat

import MessageFormat.Error
import MessageFormat.Locale.Backend

/-!
A computation that asks locale data: the requests it made, in order, and its result or the error that ended
it.
-/

set_option autoImplicit false

namespace MessageFormat

structure Outcome (α : Type) where
  calls : List Locale.Call
  result : Except Error α

namespace Outcome

variable {α β : Type}

protected def pure (a : α) : Outcome α := ⟨[], .ok a⟩

protected def bind (o : Outcome α) (f : α → Outcome β) : Outcome β :=
  match o.result with
  | .ok a =>
    let next := f a
    ⟨o.calls ++ next.calls, next.result⟩
  | .error e => ⟨o.calls, .error e⟩

instance : Monad Outcome where
  pure := Outcome.pure
  bind := Outcome.bind

def fail (e : Error) : Outcome α := ⟨[], .error e⟩

def ofFault (r : Except Fault α) : Outcome α := ⟨[], r.mapError .fault⟩

/-- A decimal result whose signal ends the computation. -/
def arithmetic (r : Except Decimal.Signal α) : Outcome α := ofFault (Fault.arithmetic r)

/-- One request. -/
def ask (backend : Locale.Backend) (request : Locale.Request) (locale : String) :
    Outcome request.Answer :=
  ⟨[⟨request, locale⟩], (backend.answer request locale).mapError .fault⟩

/-- A fault of one of these kinds gives way to `instead`; the requests made before stay made. -/
def recover (kinds : List FaultKind) (o : Outcome α) (instead : Outcome α) : Outcome α :=
  match o.result with
  | .error (.fault f) =>
    if kinds.contains f.kind then ⟨o.calls ++ instead.calls, instead.result⟩ else o
  | _ => o

@[simp] theorem pure_eq (a : α) : (pure a : Outcome α) = ⟨[], .ok a⟩ := rfl

@[simp] theorem bind_eq (o : Outcome α) (f : α → Outcome β) : o >>= f = o.bind f := rfl

end Outcome
end MessageFormat

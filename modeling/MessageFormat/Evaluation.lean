import MessageFormat.Depth
import MessageFormat.Outcome
import MessageFormat.Value.Basic

/-!
Evaluations: outcomes that run under a depth guard and know the numbers of the plural selections around
them. Both are as before when an evaluation ends, however it ends.
-/

set_option autoImplicit false

namespace MessageFormat

/-- The levels entered, and the numbers that `#` stands for, the innermost first. -/
structure Surroundings where
  guard : DepthGuard
  numbers : List Value := []
deriving Repr

structure Evaluated (α : Type) where
  outcome : Outcome α
  after : Surroundings

def Evaluation (α : Type) := Surroundings → Evaluated α

namespace Evaluation

variable {α β : Type}

protected def pure (a : α) : Evaluation α := fun s => ⟨pure a, s⟩

protected def bind (e : Evaluation α) (f : α → Evaluation β) : Evaluation β := fun s =>
  let first := e s
  match first.outcome.result with
  | .ok a =>
    let second := f a first.after
    ⟨⟨first.outcome.calls ++ second.outcome.calls, second.outcome.result⟩, second.after⟩
  | .error error => ⟨⟨first.outcome.calls, .error error⟩, first.after⟩

instance : Monad Evaluation where
  pure := Evaluation.pure
  bind := Evaluation.bind

def ofOutcome (o : Outcome α) : Evaluation α := fun s => ⟨o, s⟩

def fail (e : Error) : Evaluation α := ofOutcome (Outcome.fail e)

/-- The number of the innermost plural selection. -/
def number? : Evaluation (Option Value) := fun s => ⟨pure s.numbers.head?, s⟩

/-- Runs with a number for `#`, which is taken away at the end. -/
def withNumber (number : Value) (e : Evaluation α) : Evaluation α := fun s =>
  let inner := e { s with numbers := number :: s.numbers }
  ⟨inner.outcome, { inner.after with numbers := inner.after.numbers.drop 1 }⟩

/-- Runs one level further in, unless the guard or the stack forbids it. -/
def nested (e : Evaluation α) : Evaluation α := fun s =>
  match s.guard.enter with
  | .error error => ⟨Outcome.fail error, s⟩
  | .ok guard =>
    let inner := if Depth.stackLevels < guard.depth then fail .stackExhausted else e
    let inner := inner { s with guard }
    ⟨inner.outcome, { inner.after with guard := inner.after.guard.leave }⟩

/-- The outcome from the start, under a limit on nesting. -/
def run (limit : Int) (e : Evaluation α) : Outcome α := (e ⟨DepthGuard.ofLimit limit, []⟩).outcome

end Evaluation
end MessageFormat

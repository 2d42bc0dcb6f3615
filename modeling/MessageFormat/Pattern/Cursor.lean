import MessageFormat.Fault
import MessageFormat.Diagnostic.Basic
import MessageFormat.Pattern.Lexeme

/-!
A place in a text, and the words read from there.
-/

set_option autoImplicit false

namespace MessageFormat.Pattern

open Text

structure Cursor where
  source : List Char
  place : Nat := 0
deriving DecidableEq, Repr

namespace Cursor

def rest (c : Cursor) : List Char := c.source.drop c.place

def atEnd (c : Cursor) : Bool := c.source.length ≤ c.place

def current (c : Cursor) : Except Fault Char :=
  match c.source[c.place]? with
  | some x => .ok x
  | none => .error ⟨.endOfInput, s!"Unexpected EOF at position {c.place}"⟩

/-- The place of a number, which counts from the end if it is negative. -/
def placeAt (c : Cursor) (n : Int) : Nat := (if 0 ≤ n then n else c.source.length + n).toNat

/-- The character some places ahead, or behind. -/
def peek? (c : Cursor) (ahead : Int) : Option Char := c.source[c.placeAt (c.place + ahead)]?

/-- Never past the end or before the start. -/
def advance (c : Cursor) (count : Int) : Cursor :=
  { c with place := (min (c.place + count) c.source.length).toNat }

/-- The text from here to `stop`. -/
def sliceTo (c : Cursor) (stop : Int) : List Char :=
  (c.source.take (c.placeAt stop)).drop c.place

/-- Places of the line ends in front. -/
def lineEnds (c : Cursor) : List Nat :=
  ((c.source.take c.place).zipIdx.filter fun p => p.1 == '\n').map (·.2)

/-- Line and column, from one. -/
def position (c : Cursor) : Nat × Nat :=
  let ends := c.lineEnds
  (ends.length + 1, match ends.getLast? with
    | some k => c.place - k
    | none => c.place + 1)

/-- The span from here to `stop`, empty if that is not given or lies in front. -/
def span (c : Cursor) (stop : Option Int := none) : Span :=
  let (line, column) := c.position
  { start := c.place, stop := max (stop.getD c.place) c.place, line, column }

/-- The place of what follows a word. -/
def before (c : Cursor) (rest : List Char) : Cursor :=
  { c with place := max c.place (c.source.length - rest.length) }

def skipBlanks (c : Cursor) : Cursor := c.before (Text.skipBlanks c.rest)

def expect? (c : Cursor) (x : Char) : Option Cursor :=
  if c.peek? 0 = some x then some (c.advance 1) else none

def opensTag (c : Cursor) : Bool := startsTag c.rest

/-- The place of the brace that closes a style slot. -/
def styleEnd? (c : Cursor) : Option Nat :=
  (style? c.rest).map fun p => (c.before p.2).place

def name? (c : Cursor) : Option (List Char × Cursor) :=
  (Pattern.name? c.rest).map fun p => (p.1, c.before p.2)

def selectKey? (c : Cursor) : Option (List Char × Cursor) :=
  (Pattern.selectKey? c.rest).map fun p => (p.1, c.before p.2)

def decimal? (c : Cursor) : Option (Decimal × Cursor) :=
  (Pattern.decimal? c.rest).map fun p => (p.1, c.before p.2)

end Cursor
end MessageFormat.Pattern

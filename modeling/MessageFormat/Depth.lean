import MessageFormat.Error

/-!
How deep bodies and tags may nest when a message is evaluated. A limit is never above what the call stack
can take.
-/

set_option autoImplicit false

namespace MessageFormat

namespace Depth

/-- Calls that the stack takes, and calls that one level may need. -/
def stackCalls : Int := 1000

def callsPerLevel : Int := 4

def defaultReserve : Int := 50

def defaultLimit : Int := 100

/-- The deepest limit that leaves `reserve` calls free. -/
def safest (reserve : Int) : Int := (stackCalls - reserve).fdiv callsPerLevel

/-- The levels after which the stack is used up, whatever the limit. -/
def stackLevels : Int := 195

structure Clamped where
  depth : Int
  warning : Option String := none
deriving DecidableEq, Repr

def clampWarning (requested granted : Int) : String :=
  s!"Requested depth {requested} exceeds Python recursion limit ({stackCalls}). " ++
    s!"Clamping to {granted} to prevent RecursionError."

def clamp (requested : Int) (reserve : Int := defaultReserve) : Clamped :=
  if requested ≤ safest reserve then { depth := requested }
  else {
    depth := safest reserve
    warning := some (clampWarning requested (safest reserve)) }

end Depth

/-- The levels entered and not left again. -/
structure DepthGuard where
  limit : Int
  depth : Int := 0
deriving DecidableEq, Repr

namespace DepthGuard

def ofLimit (limit : Int) : DepthGuard := { limit := (Depth.clamp limit).depth }

def isExceeded (g : DepthGuard) : Bool := g.limit ≤ g.depth

/-- One level in; at the limit this fails and changes nothing. -/
def enter (g : DepthGuard) : Except Error DepthGuard :=
  if g.isExceeded then .error (.tooDeep g.limit) else .ok { g with depth := g.depth + 1 }

def leave (g : DepthGuard) : DepthGuard := { g with depth := g.depth - 1 }

theorem leave_of_enter {g h : DepthGuard} (entered : g.enter = .ok h) : h.leave = g := by
  simp only [enter] at entered
  split at entered
  · cases entered
  · cases entered
    simp [leave]

end DepthGuard
end MessageFormat

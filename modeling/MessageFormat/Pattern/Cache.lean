import MessageFormat.Binary64
import MessageFormat.Fault
import MessageFormat.Pattern.Basic

/-!
Parsed patterns by text and by whether tags were read. When there is no room the entry that was not used for
the longest time goes.
-/

set_option autoImplicit false

namespace MessageFormat.Pattern

structure Cache.Key where
  pattern : String
  ignoreTags : Bool := false
deriving DecidableEq, Repr

/-- Entries in the order of their last use, the latest at the end. -/
structure Cache where
  capacity : Int
  entries : List (Cache.Key × Message) := []
  hits : Nat := 0
  misses : Nat := 0
deriving Repr

namespace Cache

def defaultCapacity : Int := 1000

def ofCapacity (capacity : Int) : Except Fault Cache :=
  if capacity ≤ 0 then .error (.value "maxsize must be positive") else .ok { capacity }

def find? (c : Cache) (key : Key) : Option Message :=
  (c.entries.find? fun e => e.1 == key).map (·.2)

def contains (c : Cache) (key : Key) : Bool := (c.find? key).isSome

def size (c : Cache) : Nat := c.entries.length

/-- The entry of a key at the end. -/
def touch (c : Cache) (key : Key) (message : Message) : Cache :=
  { c with entries := c.entries.filter (fun e => e.1 != key) ++ [(key, message)] }

/-- A look-up counts as a use. -/
def get (c : Cache) (key : Key) : Option Message × Cache :=
  match c.find? key with
  | some message => (some message, { c.touch key message with hits := c.hits + 1 })
  | none => (none, { c with misses := c.misses + 1 })

def evict (c : Cache) : Cache :=
  if c.capacity ≤ c.size then { c with entries := c.entries.drop 1 } else c

/-- The message that is kept for a key: one that is there already stays. -/
def store (c : Cache) (key : Key) (message : Message) : Message × Cache :=
  match c.find? key with
  | some kept => (kept, c.touch key kept)
  | none => (message, { c.evict with entries := c.evict.entries ++ [(key, message)] })

variable {ε : Type}

/-- The message of a key, computed if it is missing. The computation may use the cache itself; what it
fails to compute is not kept. -/
def getOrCompute (c : Cache) (key : Key) (compute : Cache → Except ε Message × Cache) :
    Except ε Message × Cache :=
  match c.get key with
  | (some message, c) => (.ok message, c)
  | (none, c) =>
    match compute c with
    | (.ok message, c) =>
      let (kept, c) := c.store key message
      (.ok kept, c)
    | (.error e, c) => (.error e, c)

def clear (c : Cache) : Cache := { capacity := c.capacity }

/-- The share of look-ups that hit, in percent with at most two places. -/
def hitRate (c : Cache) : Binary64 :=
  match Binary64.ofRatio false c.hits (c.hits + c.misses) with
  | .finite _ m e =>
    let (num, den) := Binary64.ratio m e
    match Binary64.ofRatio false (num * 100) den with
    | .finite _ m e =>
      let (num, den) := Binary64.ratio m e
      Binary64.ofRatio false (Binary64.nearest (num * 100) den) 100
    | x => x
  | x => x

end Cache
end MessageFormat.Pattern

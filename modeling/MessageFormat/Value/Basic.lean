import MessageFormat.Binary64
import MessageFormat.Calendar.Basic

/-!
Argument values. Maps, records and objects stand in a graph and are named by their place in it, so that one
of them can hold itself.
-/

set_option autoImplicit false

namespace MessageFormat

inductive Value where
  | null
  | bool (b : Bool)
  | int (n : Int)
  | float (x : Binary64)
  | decimal (n : Numeral)
  | text (s : String)
  | bytes (bs : List UInt8)
  | date (d : Date)
  | time (t : TimeOfDay)
  | moment (m : Moment)
  | duration (d : Duration)
  | list (items : List Value)
  | tuple (items : List Value)
  | set (items : List Value)
  | node (place : Nat)
  | other (shown : String)
deriving Repr, Inhabited

/-- What holds values by name: a map by any values, a record and an object by names. -/
inductive Container where
  | map (entries : List (Value × Value))
  | record (name : String) (fields : List (String × Value))
  | object (name : String) (attributes : List (String × Value))
deriving Repr, Inhabited

structure Graph where
  nodes : List Container := []
deriving Repr

namespace Value

/-- Values that are empty, zero or false. -/
def isFalsy (g : Graph) : Value → Bool
  | .null => true
  | .bool b => !b
  | .int n => n == 0
  | .float (.finite _ m _) => m == 0
  | .decimal (.finite d) => d.isZero
  | .text s => s.isEmpty
  | .bytes bs => bs.isEmpty
  | .duration d => d.micros == 0
  | .list items | .tuple items | .set items => items.isEmpty
  | .node place =>
    match g.nodes[place]? with
    | some (.map entries) => entries.isEmpty
    | _ => false
  | _ => false

/-- The value of a number, exactly. -/
def numeral? : Value → Option Numeral
  | .bool b => some (.finite (if b then Decimal.one else Decimal.zero))
  | .int n => some (.finite (Decimal.ofInt n))
  | .decimal n => some n
  | .float (.infinite negative) => some (.infinite negative)
  | .float (.finite negative m e) =>
    if 0 ≤ e then some (.finite ⟨negative, m * Nat.pow 2 e.toNat, 0⟩)
    else some (.finite ⟨negative, m * Nat.pow 5 e.natAbs, e⟩)
  | .float .notANumber => some (.notANumber false false 0)
  | _ => none

def sameNumeral : Numeral → Numeral → Bool
  | .finite a, .finite b => a.sameValue b
  | .infinite a, .infinite b => a == b
  | _, _ => false

mutual

/-- Two values are one key of a map. Numbers are compared by value, whatever their types. -/
def sameKey : Value → Value → Bool
  | .null, .null => true
  | .text a, .text b => a == b
  | .bytes a, .bytes b => a == b
  | .date a, .date b => a == b
  | .time a, .time b => a == b
  | .moment a, .moment b => a == b
  | .duration a, .duration b => a == b
  | .tuple a, .tuple b => sameKeys a b
  | .node a, .node b => a == b
  | a, b =>
    match numeral? a, numeral? b with
    | some m, some n => sameNumeral m n
    | _, _ => false

def sameKeys : List Value → List Value → Bool
  | [], [] => true
  | a :: as, b :: bs => sameKey a b && sameKeys as bs
  | _, _ => false

end

end Value

/-- A later value of a key replaces the earlier one, keeping its place and its key. -/
def putEntry {κ α : Type} (same : κ → κ → Bool) (key : κ) (value : α) :
    List (κ × α) → List (κ × α)
  | [] => [(key, value)]
  | e :: es => if same e.1 key then (e.1, value) :: es else e :: putEntry same key value es

/-- Entries with each key once. -/
def mergeEntries {κ α : Type} (same : κ → κ → Bool) (entries : List (κ × α)) : List (κ × α) :=
  entries.foldl (fun es e => putEntry same e.1 e.2 es) []

namespace Graph

/-- What a value holds by name, if it does: names with a low line in front are private to an object. -/
def view (g : Graph) : Value → Option (List (Value × Value))
  | .node place =>
    match g.nodes[place]? with
    | some (.map entries) => some entries
    | some (.record _ fields) => some (fields.map fun f => (.text f.1, f.2))
    | some (.object _ attributes) =>
      some ((attributes.filter fun a => !a.1.startsWith "_").map fun a => (.text a.1, a.2))
    | none => none
  | _ => none

end Graph
end MessageFormat

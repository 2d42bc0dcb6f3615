import MessageFormat.Calendar.Skeleton
import MessageFormat.Locale.Cldr.Entry

/-!
Moments and intervals in the patterns of a locale.
-/

set_option autoImplicit false

namespace MessageFormat.Locale.Cldr

namespace Lengths

def get? (l : Lengths) : String → Option String
  | "short" => some l.short
  | "medium" => some l.medium
  | "long" => some l.long
  | "full" => some l.full
  | _ => none

/-- Any other name is the medium length. -/
def get (l : Lengths) (name : String) : String := (l.get? name).getD l.medium

end Lengths

namespace DateEntry

def pattern (d : DateEntry) (kind : DateKind) (length : String) : String :=
  match kind with
  | .date => d.dates.get length
  | .time => d.times.get length
  | .dateTime => d.dates.get length ++ d.joints.get length ++ d.times.get length

def matchingIn? {α : Type} (entries : List (String × α)) (skeleton : String) : Option String :=
  let candidates := (entries.map fun entry => entry.1.toList).filter (!·.isEmpty)
  (DatePattern.matching? skeleton.toList candidates).map String.ofList

def skeletonPattern? (d : DateEntry) (skeleton : String) : Option String :=
  (matchingIn? d.skeletons skeleton).bind (valueOf? d.skeletons)

def renderPattern (d : DateEntry) (weeks : WeekRules) (m : Moment) (pattern : String) :
    Except Fault String := do
  let elements ← DatePattern.parse pattern.toList
  m.render d.names weeks elements

/-- The name of a length is the pattern of that length, whose date and time are rendered apart. -/
def render (d : DateEntry) (weeks : WeekRules) (m : Moment) (pattern : String) :
    Except Fault String :=
  match d.joints.get? pattern with
  | none => d.renderPattern weeks m pattern
  | some joint => do
    let time ← d.renderPattern weeks m (d.times.get pattern)
    let date ← d.renderPattern weeks m (d.dates.get pattern)
    return date ++ joint ++ time

/-- A moment by a skeleton, or by the closest one that there is. -/
def renderSkeleton (d : DateEntry) (weeks : WeekRules) (m : Moment) (skeleton : String) :
    Except Fault String :=
  match valueOf? d.skeletons skeleton <|> d.skeletonPattern? skeleton with
  | some pattern => d.render weeks m pattern
  | none => .error (.missingKey "None")

end DateEntry

/-- The value of a field that intervals are told apart by. -/
def fieldOf (m : Moment) : Char → Nat
  | 'y' => m.date.year
  | 'M' => m.date.month
  | 'd' => m.date.day
  | 'H' => m.time.hour
  | 'h' => (m.time.hour + 11) % 12 + 1
  | 'm' => m.time.minute
  | 'a' => if 12 ≤ m.time.hour then 1 else 0
  | _ => 0

/-- Fields from the largest to the smallest. -/
def fieldOrder : List Char := "GyYuUQqMLlwWdDFgEecabBChHKkjJmsSAzZOvVXx".toList

/-- Moments with offsets are compared in universal time, and those without on their own clocks; one with and
one without are never the same. -/
def isSame (a b : Moment) : Bool :=
  a.time.offset.isSome == b.time.offset.isSome && a.utcMicros == b.utcMicros

namespace Entry

/-- The part for the largest field that differs. -/
def partFor? (parts : List IntervalPart) (start stop : Moment) : Option IntervalPart :=
  fieldOrder.findSome? fun letter =>
    parts.find? fun p => p.letter == letter && fieldOf start letter != fieldOf stop letter

/-- Both ends in full, once if they read the same. -/
def joinedInterval (e : Entry) (d : DateEntry) (weeks : WeekRules) (start stop : Moment)
    (skeleton : Option String) : Except Fault String := do
  let pattern := ((skeleton.bind (valueOf? d.skeletons)).getD "medium")
  let first ← d.render weeks start pattern
  let second ← d.render weeks stop pattern
  return if first = second then first else first ++ e.intervalJoint ++ second

/-- An interval whose shared parts are written once. -/
def renderInterval (e : Entry) (d : DateEntry) (weeks : WeekRules) (start stop : Moment)
    (skeleton : String) : Except Fault String :=
  let known := d.intervals.any fun entry => entry.1 == skeleton && !skeleton.isEmpty
  match (if known then some skeleton else DateEntry.matchingIn? d.intervals skeleton) with
  | none => e.joinedInterval d weeks start stop none
  | some skeleton =>
    if isSame start stop then d.renderSkeleton weeks start skeleton
    else match partFor? ((valueOf? d.intervals skeleton).getD []) start stop with
      | none => e.joinedInterval d weeks start stop (some skeleton)
      | some part => do
        let first ← d.renderPattern weeks start part.first
        let second ← d.renderPattern weeks stop part.second
        return first ++ second

end Entry
end MessageFormat.Locale.Cldr

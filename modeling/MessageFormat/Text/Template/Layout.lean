import MessageFormat.Text.Template.Flaw

/-!
How the text of a field is laid out: cut to a precision, then filled up to a width. A layout can ask for what
only numbers have; such a layout can be read, but not given to a text.
-/

set_option autoImplicit false

namespace MessageFormat.Text.Template

inductive Alignment where
  | left | right | center | afterSign
deriving DecidableEq, Repr

def Alignment.ofChar? : Char → Option Alignment
  | '<' => some .left
  | '>' => some .right
  | '^' => some .center
  | '=' => some .afterSign
  | _ => none

/-- The kind of a layout for texts is `s`. -/
structure Layout where
  fill : Char := ' '
  alignment : Alignment := .left
  sign : Option Char := none
  zeroUnsigned : Bool := false
  alternate : Bool := false
  width : Option Nat := none
  separator : Option Char := none
  precision : Option Nat := none
  kind : Char := 's'
deriving DecidableEq, Repr

/-- Numbers in templates go up to here. -/
def greatestNumber : Nat := 9223372036854775807

/-- The number that the digits at the start go on with, and what follows them. -/
def readNumber : Option Nat → List Char → Except Flaw (Option Nat × List Char)
  | n, [] => .ok (n, [])
  | n, c :: r =>
    match digitValue? c with
    | none => .ok (n, c :: r)
    | some d =>
      let m := 10 * n.getD 0 + d
      if greatestNumber < m then .error .tooManyDigits else readNumber (some m) r

namespace Layout

/-- The first character, if it is one of these. -/
def takeOne (p : Char → Bool) : List Char → Option Char × List Char
  | [] => (none, [])
  | c :: r => if p c then (some c, r) else (none, c :: r)

/-- An alignment, perhaps with the character to fill with in front of it. -/
def readAlignment : List Char → Option Char × Option Alignment × List Char
  | [] => (none, none, [])
  | c :: r =>
    match r with
    | d :: rest =>
      match Alignment.ofChar? d with
      | some a => (some c, some a, rest)
      | none => alone c r
    | [] => alone c r
where
  alone (c : Char) (r : List Char) : Option Char × Option Alignment × List Char :=
    match Alignment.ofChar? c with
    | some a => (none, some a, r)
    | none => (none, none, c :: r)

def readPrecision : List Char → Except Flaw (Option Nat × List Char)
  | '.' :: r => do
    let (n, r) ← readNumber none r
    if n.isNone then throw .missingPrecision
    return (n, r)
  | r => .ok (none, r)

/-- Kinds of numbers whose digits can be grouped; with a low line other bases can too. -/
def groups (separator kind : Char) : Bool :=
  "defgEG%F\x00".toList.contains kind || (separator == '_' && "boxX".toList.contains kind)

/-- Fill and alignment, sign, `z`, `#`, a zero to fill with, width, separators, precision and kind, in this
order, any of which may be missing. -/
def read (s : List Char) : Except Flaw Layout := do
  let (fill, alignment, r) := readAlignment s
  let (sign, r) := takeOne (fun c => c == ' ' || c == '+' || c == '-') r
  let (zeroUnsigned, r) := takeOne (· == 'z') r
  let (alternate, r) := takeOne (· == '#') r
  let (fill, r) := if fill.isSome then (fill, r) else takeOne (· == '0') r
  let (width, r) ← readNumber none r
  let (comma, r) := takeOne (· == ',') r
  let (line, r) := takeOne (· == '_') r
  if line.isSome && (comma.isSome || r.head? == some ',') then throw .bothSeparators
  let (precision, r) ← readPrecision r
  let kind ← match r with
    | [] => pure 's'
    | [c] => pure c
    | _ => throw (.badLayout s)
  let separator := line <|> comma
  if let some separator := separator then
    if !groups separator kind then throw (.separatorWith separator kind)
  return {
    fill := fill.getD ' ', alignment := alignment.getD .left, sign, width, separator, precision, kind
    zeroUnsigned := zeroUnsigned.isSome, alternate := alternate.isSome }

/-- Wider texts do not fit into memory. -/
def greatestWidth : Nat := 100000000

/-- The first thing that a text cannot have. -/
def flaw? (l : Layout) : Option Flaw :=
  if l.kind ≠ 's' then some (.unknownKind l.kind)
  else match l.sign with
    | some sign => some (.signed sign)
    | none =>
      if l.zeroUnsigned then some .zeroUnsigned
      else if l.alternate then some .alternate
      else if l.alignment = .afterSign then some .alignedAfterSign
      else if greatestWidth < l.width.getD 0 then some .outOfMemory
      else none

/-- The text between its share of the characters that are missing to the width. -/
def pad (l : Layout) (s : List Char) : List Char :=
  let missing := l.width.getD 0 - s.length
  let before := match l.alignment with
    | .left | .afterSign => 0
    | .right => missing
    | .center => missing / 2
  List.replicate before l.fill ++ s ++ List.replicate (missing - before) l.fill

def cutTo (l : Layout) (s : List Char) : List Char :=
  match l.precision with
  | some n => s.take n
  | none => s

def apply (l : Layout) (s : List Char) : Except Flaw (List Char) :=
  match l.flaw? with
  | some f => .error f
  | none => .ok (l.pad (l.cutTo s))

end Layout
end MessageFormat.Text.Template

import MessageFormat.Text.EntityTable
import MessageFormat.Text.Letter

/-!
Character references of HTML: reading them, and writing text so that it holds no markup.
-/

set_option autoImplicit false

namespace MessageFormat.Text

/-- The characters that a name stands for; the semicolon belongs to the name. -/
def entity? (name : List Char) : Option (List Char) :=
  match name with
  | [] => none
  | c :: _ =>
    ((entityGroups.lookup c).bind (·.lookup (String.ofList name))).map (·.map Char.ofNat)

/-- The longest beginning of at least two characters that is a name, with what follows it. -/
def longestEntity? (s : List Char) : Nat → Option (List Char)
  | 0 | 1 => none
  | n + 1 =>
    match entity? (s.take (n + 1)) with
    | some t => some (t ++ s.drop (n + 1))
    | none => longestEntity? s n

def namedReference (name : List Char) : List Char :=
  match entity? name with
  | some t => t
  | none => (longestEntity? name (name.length - 1)).getD ('&' :: name)

def numberedReference (n : Nat) : List Char :=
  match replacedReferences.lookup n with
  | some m => [Char.ofNat m]
  | none =>
    if (0xD800 ≤ n && n ≤ 0xDFFF) || 0x10FFFF < n then [Char.ofNat 0xFFFD]
    else if inRanges droppedReferences n then []
    else [Char.ofNat n]

def isReferenceChar (c : Char) : Bool :=
  ['\t', '\n', '\x0c', ' ', '<', '&', '#', ';'].all (c ≠ ·)

def isHexDigit (c : Char) : Bool :=
  c.isDigit || ('a' ≤ c && c ≤ 'f') || ('A' ≤ c && c ≤ 'F')

def hexValue (s : List Char) : Nat :=
  s.foldl (fun n c => 16 * n +
    (if c.isDigit then c.toNat - 48 else if 'a' ≤ c then c.toNat - 87 else c.toNat - 55)) 0

/-- Names are at most this long, the semicolon not counted. -/
def longestReference : Nat := 32

/-- What follows a run, without the semicolon that may end it. -/
def dropSemicolon : List Char → List Char
  | ';' :: r => r
  | r => r

/-- The reference that starts after an ampersand: its characters and what follows. -/
def reference? (s : List Char) : Option (List Char × List Char) :=
  match s with
  | '#' :: r =>
    let digits := r.takeWhile Char.isDigit
    if !digits.isEmpty then
      some (numberedReference (digitsValue digits), dropSemicolon (r.drop digits.length))
    else match r with
      | x :: r =>
        let digits := r.takeWhile isHexDigit
        if (x = 'x' || x = 'X') && !digits.isEmpty then
          some (numberedReference (hexValue digits), dropSemicolon (r.drop digits.length))
        else none
      | [] => none
  | _ =>
    let name := (s.take longestReference).takeWhile isReferenceChar
    if name.isEmpty then none
    else match s.drop name.length with
      | ';' :: r => some (namedReference (name ++ [';']), r)
      | r => some (namedReference name, r)

/-- One pass from the left; `fuel` bounds the number of characters read. -/
def decodeReferences : Nat → List Char → List Char
  | 0, _ => []
  | _ + 1, [] => []
  | fuel + 1, '&' :: r =>
    match reference? r with
    | some (t, rest) => t ++ decodeReferences fuel rest
    | none => '&' :: decodeReferences fuel r
  | fuel + 1, c :: r => c :: decodeReferences fuel r

/-- Every character reference becomes what it stands for. -/
def unescape (s : List Char) : List Char := decodeReferences s.length s

def escapeChar (c : Char) : List Char :=
  if c = '&' then "&amp;".toList
  else if c = '<' then "&lt;".toList
  else if c = '>' then "&gt;".toList
  else if c = '"' then "&quot;".toList
  else if c = '\'' then "&#x27;".toList
  else [c]

/-- Text without markup characters or quotes. -/
def escape (s : List Char) : List Char := s.flatMap escapeChar

/-- References that a text already holds are not escaped twice. -/
def escapeOnce (s : List Char) : List Char := escape (unescape s)

end MessageFormat.Text

/-!
Blank characters, trimming, and the pieces between separators.
-/

set_option autoImplicit false

namespace MessageFormat.Text

/-- Space separators, line and paragraph separators, and the control characters that part text. -/
def isBlank (c : Char) : Bool :=
  let n := c.toNat
  (9 ≤ n && n ≤ 13) || (28 ≤ n && n ≤ 32) || n == 0x85 || n == 0xA0 || n == 0x1680 ||
    (0x2000 ≤ n && n ≤ 0x200A) || n == 0x2028 || n == 0x2029 || n == 0x202F || n == 0x205F ||
    n == 0x3000

def skipBlanks (s : List Char) : List Char := s.dropWhile isBlank

def trimEnd (s : List Char) : List Char := (s.reverse.dropWhile isBlank).reverse

def trim (s : List Char) : List Char := trimEnd (skipBlanks s)

/-- The pieces between the separators, empty ones included: always one more than there are
separators. -/
def pieces (sep : Char → Bool) : List Char → List (List Char)
  | [] => [[]]
  | c :: r =>
    if sep c then [] :: pieces sep r
    else match pieces sep r with
      | [] => [[c]]
      | w :: ws => (c :: w) :: ws

/-- The non-empty pieces. -/
def fields (sep : Char → Bool) (s : List Char) : List (List Char) :=
  (pieces sep s).filter fun w => !w.isEmpty

def words (s : List Char) : List (List Char) := fields isBlank s

theorem skipBlanks_length_le (s : List Char) : (skipBlanks s).length ≤ s.length :=
  (List.dropWhile_suffix isBlank).length_le

/-- One more character in front of what was read. -/
def onto {α : Type} (c : Char) (p : List Char × α) : List Char × α := (c :: p.1, p.2)

/-- What stands before the first occurrence of `c`, and what follows it if there is one. -/
def cut (c : Char) : List Char → List Char × Option (List Char)
  | [] => ([], none)
  | d :: r => if d = c then ([], some r) else onto d (cut c r)

def startsWith (s p : List Char) : Bool := p.isPrefixOf s

/-- What follows `p`, if the text starts with it. -/
def strip? (p s : List Char) : Option (List Char) :=
  if p.isPrefixOf s then some (s.drop p.length) else none

/-- Every occurrence of the non-empty `old`, from the left, becomes `new`. -/
def replaceAll (old new : List Char) (s : List Char) : List Char :=
  go s.length s
where
  go : Nat → List Char → List Char
    | 0, s => s
    | _ + 1, [] => []
    | n + 1, c :: r =>
      if old.isPrefixOf (c :: r) && !old.isEmpty then new ++ go n ((c :: r).drop old.length)
      else c :: go n r

def replaceString (old new text : String) : String :=
  String.ofList (replaceAll old.toList new.toList text.toList)

end MessageFormat.Text

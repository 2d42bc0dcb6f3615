import MessageFormat.Text.Blank
import MessageFormat.Text.Case

/-!
Locale identifiers and their fallback chains.
-/

set_option autoImplicit false

namespace MessageFormat.Locale

open Text

def swapChar (old new : Char) (s : List Char) : List Char := s.map fun c => if c = old then new else c

/-- The identifier with hyphens, without blanks around it. -/
def hyphenated (locale : String) : String := String.ofList (swapChar '_' '-' (trim locale.toList))

/-- The identifier with low lines, without blanks around it. -/
def underscored (locale : String) : String := String.ofList (swapChar '-' '_' (trim locale.toList))

/-- The first subtag in lower case. -/
def language (locale : String) : String :=
  String.ofList (lower (cut '-' (hyphenated locale).toList).1)

def subtags (locale : String) : List (List Char) := fields (· == '-') (hyphenated locale).toList

def joinSubtags (tags : List (List Char)) : String := String.ofList (['-'].intercalate tags)

/-- The identifiers made of the first subtags, the longest first. -/
def shortenings (tags : List (List Char)) : List String :=
  ((List.range tags.length).map fun k => joinSubtags (tags.take (tags.length - k)))

def sameIgnoringCase (a b : String) : Bool := lowerString a == lowerString b

/-- From the requested locale to its language, and last the fallback if it is not among them. -/
def chain (requested fallback : String) : List String :=
  let own := shortenings (subtags requested)
  let last := hyphenated fallback
  if last.isEmpty || own.any (sameIgnoringCase last) then own else own ++ [last]

end MessageFormat.Locale

import MessageFormat.Pattern.Parser

/-!
The grammar of patterns. A rule relates a text, what follows the words that it reads, and what they
mean. The rest is part of every rule because words look ahead: the same letters read otherwise before
another rest.
-/

set_option autoImplicit false

namespace MessageFormat.Pattern.Grammar

open Text

/-- In a scope, a text reads as a meaning and leaves a rest. -/
abbrev Derivation (α : Type) := Scope → List Char → List Char → α → Prop

/-- `s` is `r` after some blanks. -/
def Blanks (s r : List Char) : Prop := ∃ b, (∀ c ∈ b, isBlank c = true) ∧ s = b ++ r

/-- A text does not go on with a character of a class. -/
def Ends (p : Char → Bool) (r : List Char) : Prop := ∀ c ∈ r.head?, p c = false

def IsName (x : String) : Prop := x.toList ≠ [] ∧ ∀ c ∈ x.toList, isNameChar c = true

instance (x : String) : Decidable (IsName x) :=
  decidable_of_iff (x.toList ≠ [] ∧ x.toList.all isNameChar = true) (and_congr Iff.rfl List.all_eq_true)

def IsTagName (x : String) : Prop := IsName x ∧ ∃ c ∈ x.toList.head?, isLetter c = true

def IsSelectKey (x : String) : Prop := x.toList ≠ [] ∧ ∀ c ∈ x.toList, isKeyChar c = true

def IsDigits (w : List Char) : Prop := w ≠ [] ∧ ∀ c ∈ w, isDigit c = true

def minus (negative : Bool) : List Char := if negative then ['-'] else []

/-- Integers, and decimals with digits on both sides of the point. -/
inductive IsLiteral : List Char → Decimal → Prop
  | whole (negative : Bool) {w : List Char} :
      IsDigits w → IsLiteral (minus negative ++ w) ⟨negative, digitsValue w, 0⟩
  | fraction (negative : Bool) {w f : List Char} :
      IsDigits w → IsDigits f →
      IsLiteral (minus negative ++ (w ++ '.' :: f))
        ⟨negative, digitsValue (w ++ f), -(f.length : Int)⟩

/-- A literal is read as far as it goes: no digit follows, and no fraction if it has none. -/
def Literal (s r : List Char) (value : Decimal) : Prop :=
  ∃ w, s = w ++ r ∧ IsLiteral w value ∧ Ends isDigit r ∧
    ('.' ∉ w → ∀ f r', IsDigits f → r ≠ '.' :: (f ++ r'))

/-- Keys of plural cases: an exact value after `=`, or the name of a category. -/
def IsMatcher : Matcher → Prop
  | .exact text value => ∃ w, text = String.ofList ('=' :: w) ∧ IsLiteral w value
  | .category name => IsName name

/-! Text. -/

/-- Inside a quotation `''` is an apostrophe; a single one or the end of the text closes it. -/
inductive Quoted : List Char → List Char → List Char → Prop
  | char {c : Char} {s r t : List Char} : c ≠ '\'' → Quoted s r t → Quoted (c :: s) r (c :: t)
  | apostrophe {s r t : List Char} : Quoted s r t → Quoted ('\'' :: '\'' :: s) r ('\'' :: t)
  | close {r : List Char} : r.head? ≠ some '\'' → Quoted ('\'' :: r) r []
  | endOfText : Quoted [] [] []

/-- What makes `<` the start of a tag. -/
def OpensTag (r : List Char) : Prop :=
  ∃ c r', isLetter c = true ∧ (r = c :: r' ∨ r = '/' :: c :: r')

/-- A character that stands for itself before `r`. -/
structure IsPlain (scope : Scope) (c : Char) (r : List Char) : Prop where
  not_apostrophe : c ≠ '\''
  not_open : c ≠ '{'
  close : c = '}' → scope.inBody = false
  hash : c = '#' → scope.inPlural = false
  angle : c = '<' → scope.tags = true → ¬ OpensTag r

/-- Text and the characters that it stands for. -/
inductive TextRun (scope : Scope) : List Char → List Char → List Char → Prop
  | nil {r : List Char} : TextRun scope r r []
  | apostrophes {s r t : List Char} :
      TextRun scope s r t → TextRun scope ('\'' :: '\'' :: s) r ('\'' :: t)
  | quotation {c : Char} {s s₁ r q t : List Char} :
      isQuotable c = true → Quoted (c :: s) s₁ q → TextRun scope s₁ r t →
      TextRun scope ('\'' :: c :: s) r (q ++ t)
  | apostrophe {s r t : List Char} :
      (∀ c ∈ s.head?, c ≠ '\'' ∧ isQuotable c = false) → TextRun scope s r t →
      TextRun scope ('\'' :: s) r ('\'' :: t)
  | plain {c : Char} {s r t : List Char} :
      IsPlain scope c s → TextRun scope s r t → TextRun scope (c :: s) r (c :: t)

/-! Placeholders. -/

/-- The text of a style slot: braces balance outside of quotes. -/
inductive IsStyle : List Char → Prop
  | nil : IsStyle []
  | char {c : Char} {s : List Char} :
      c ≠ '\'' → c ≠ '{' → c ≠ '}' → IsStyle s → IsStyle (c :: s)
  | quoted {q s : List Char} : '\'' ∉ q → IsStyle s → IsStyle ('\'' :: (q ++ '\'' :: s))
  | braces {s t : List Char} : IsStyle s → IsStyle t → IsStyle ('{' :: (s ++ '}' :: t))

/-- The style that a slot holds: its text without the blanks around it, if anything is left. -/
def styleOf (t : List Char) : Option String :=
  if trim t = [] then none else some (String.ofList (trim t))

/-- An optional style and the closing brace. -/
inductive Style : List Char → List Char → Option String → Prop
  | absent {s r : List Char} : Blanks s ('}' :: r) → Style s r none
  | present {s t r : List Char} :
      Blanks s (',' :: (t ++ '}' :: r)) → IsStyle t → Style s r (styleOf t)

/-- An optional offset. -/
inductive Offset : List Char → List Char → Decimal → Prop
  | absent {s : List Char} : Offset s s Decimal.zero
  | present {s s₁ s₂ r : List Char} {value : Decimal} :
      Blanks s (offsetKeyword ++ s₁) → Blanks s₁ s₂ → Literal s₂ r value → Offset s r value

variable {κ : Type}

/-- Cases up to the closing brace. -/
inductive Cases (IsKey : κ → Prop) (text : κ → String) (Body : Derivation (List Node)) :
    Derivation (List (Case κ (List Node)))
  | close {scope : Scope} {s r : List Char} :
      Blanks s ('}' :: r) → Cases IsKey text Body scope s r []
  | case {scope : Scope} {s s₁ s₂ s₃ r : List Char} {key : κ} {nodes : List Node}
      {cases : List (Case κ (List Node))} :
      Blanks s ((text key).toList ++ s₁) → IsKey key → Blanks s₁ ('{' :: s₂) →
      Body scope s₂ ('}' :: s₃) nodes → Cases IsKey text Body scope s₃ r cases →
      Cases IsKey text Body scope s r (⟨key, nodes⟩ :: cases)

/-- The names of formatters that take a second argument. -/
def isRangeName (formatter : String) : Bool :=
  lowerString formatter == "numberrange" || lowerString formatter == "daterange"

/-- The names that make a placeholder a selection. -/
def isSelectionName (formatter : String) : Bool :=
  lowerString formatter == "plural" || lowerString formatter == "selectordinal" ||
    lowerString formatter == "select"

/-- What follows the name of a formatter, closing brace included. -/
inductive Typed (Body : Derivation (List Node)) : String → String → Derivation Node
  | call {argument formatter : String} {scope : Scope} {s r : List Char} {style : Option String} :
      isSelectionName formatter = false → isRangeName formatter = false → Style s r style →
      Typed Body argument formatter scope s r
        (.call ⟨formatter, argument, style, skeletonOf formatter style, none⟩)
  | range {argument formatter second : String} {scope : Scope} {s s₁ s₂ r : List Char}
      {style : Option String} :
      isRangeName formatter = true → Blanks s (',' :: s₁) → Blanks s₁ (second.toList ++ s₂) →
      IsName second → Style s₂ r style →
      Typed Body argument formatter scope s r
        (.call ⟨formatter, argument, style, skeletonOf formatter style, some second⟩)
  | plural (ordinal : Bool) {argument formatter : String} {scope : Scope}
      {s s₁ s₂ r : List Char} {offset : Decimal} {cases : List (Case Matcher (List Node))} :
      lowerString formatter = pluralConstruct ordinal → Blanks s (',' :: s₁) →
      Offset s₁ s₂ offset →
      Cases IsMatcher Matcher.text Body (scope.body true) s₂ r cases → cases ≠ [] →
      Typed Body argument formatter scope s r (.plural argument offset ordinal cases)
  | select {argument formatter : String} {scope : Scope} {s s₁ r : List Char}
      {cases : List (Case String (List Node))} :
      lowerString formatter = "select" → Blanks s (',' :: s₁) →
      Cases IsSelectKey id Body (scope.body false) s₁ r cases → cases ≠ [] →
      Typed Body argument formatter scope s r (.select argument cases)

/-- A placeholder after its opening brace. -/
inductive Placeholder (Body : Derivation (List Node)) : Derivation Node
  | argument {scope : Scope} {s s₁ r : List Char} {x : String} :
      Blanks s (x.toList ++ s₁) → IsName x → Blanks s₁ ('}' :: r) →
      Placeholder Body scope s r (.argument x)
  | typed {scope : Scope} {s s₁ s₂ s₃ r : List Char} {x formatter : String} {node : Node} :
      Blanks s (x.toList ++ s₁) → IsName x → Blanks s₁ (',' :: s₂) →
      Blanks s₂ (formatter.toList ++ s₃) → IsName formatter →
      Typed Body x formatter scope s₃ r node → Placeholder Body scope s r node

/-! Tags. -/

/-- The text of attributes: quotes are closed, and no `>` stands outside of them. -/
inductive IsAttributes : List Char → Prop
  | nil : IsAttributes []
  | char {c : Char} {s : List Char} :
      c ≠ '"' → c ≠ '\'' → c ≠ '>' → IsAttributes s → IsAttributes (c :: s)
  | quoted {mark : Char} {q s : List Char} :
      mark = '"' ∨ mark = '\'' → mark ∉ q → IsAttributes s →
      IsAttributes (mark :: (q ++ mark :: s))

/-- What stands between a tag's name and the `>` or `/>` at its end. -/
inductive Attributes : List Char → List Char → String → Prop
  | absent {r : List Char} : Attributes r r ""
  | present {s a r : List Char} {b : Char} :
      s = b :: (a ++ r) → isBlank b = true → IsAttributes a →
      (a.getLast? = some '/' → r.head? ≠ some '>') →
      Attributes s r (String.ofList (trim (b :: a)))

/-- A tag after its `<`. The names of both ends agree up to case. -/
inductive Tag (Body : Derivation (List Node)) : Derivation Node
  | selfClosing {scope : Scope} {s s₁ r : List Char} {x attributes : String} :
      s = x.toList ++ s₁ → IsTagName x → Attributes s₁ ('/' :: '>' :: r) attributes →
      Tag Body scope s r (.tag x attributes true [])
  | enclosing {scope : Scope} {s s₁ s₂ s₃ s₄ r : List Char} {x y attributes : String}
      {children : List Node} :
      s = x.toList ++ s₁ → IsTagName x → Attributes s₁ ('>' :: s₂) attributes →
      Body scope s₂ ('<' :: '/' :: s₃) children → s₃ = y.toList ++ s₄ → IsTagName y →
      lowerString y = lowerString x → Blanks s₄ ('>' :: r) →
      Tag Body scope s r (.tag x attributes false children)

/-! Sequences. -/

def startsWithText : List Node → Bool
  | .literal _ :: _ => true
  | _ => false

/-- Text, numbers of a plural, placeholders and tags in any order; text that adjoins is one literal. -/
inductive Sequence : Derivation (List Node)
  | done {scope : Scope} {r : List Char} : Sequence scope r r []
  | text {scope : Scope} {s s₁ r t : List Char} {nodes : List Node} :
      TextRun scope s s₁ t → t ≠ [] → startsWithText nodes = false →
      Sequence scope s₁ r nodes →
      Sequence scope s r (.literal (String.ofList t) :: nodes)
  | hash {scope : Scope} {s r : List Char} {nodes : List Node} :
      scope.inPlural = true → Sequence scope s r nodes →
      Sequence scope ('#' :: s) r (.hash :: nodes)
  | placeholder {scope : Scope} {s s₁ r : List Char} {node : Node} {nodes : List Node} :
      Placeholder Sequence scope s s₁ node → Sequence scope s₁ r nodes →
      Sequence scope ('{' :: s) r (node :: nodes)
  | tag {scope : Scope} {s s₁ r : List Char} {node : Node} {nodes : List Node} :
      scope.tags = true → Tag Sequence scope s s₁ node → Sequence scope s₁ r nodes →
      Sequence scope ('<' :: s) r (node :: nodes)

/-- The whole text reads as the message. -/
def Derives (tags : Bool) (p : List Char) (m : Message) : Prop :=
  Sequence { tags } p [] m.body

end MessageFormat.Pattern.Grammar

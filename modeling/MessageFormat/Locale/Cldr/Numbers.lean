import MessageFormat.Locale.Cldr.Entry

/-!
Numbers, amounts of money and measurements in the patterns of a locale.
-/

set_option autoImplicit false

namespace MessageFormat.Locale.Cldr

open MessageFormat.Number (RenderOptions Style CurrencyDisplay UnitWidth)

def Entry.category (e : Entry) (number : Decimal) : Except Decimal.Signal PluralCategory :=
  e.cardinal.category number

/-- Currencies whose amounts have more or fewer fraction digits than two. -/
def currencyDigits (code : String) : Nat :=
  match code with
  | "JPY" => 0
  | "KWD" => 3
  | _ => 2

namespace NumberEntry

/-- The name of a currency for a number; an unknown one is known by its code. -/
def currencyName (n : NumberEntry) (code : String) (category : PluralCategory) : String :=
  (((valueOf? n.currencyNames code).bind fun forms => forms.get? category)).getD code

def currencySymbol (n : NumberEntry) (code : String) : String :=
  (valueOf? n.currencySymbols code).getD code

/-- The pattern of a style; amounts that are written with a name have the plain one. -/
def basePattern (n : NumberEntry) (o : RenderOptions) : Except Fault NumberPattern :=
  let isAmount := o.style == .currency || o.style == .accounting
  if o.currencyDisplay = .name ∧ isAmount then NumberPattern.parse n.decimal.toList
  else
    let source := match o.style with
      | .percent => n.percent
      | .permille => Text.replaceString "%" "‰" n.percent
      | .accounting => n.accounting
      | .currency => n.currency
      | _ => n.decimal
    let source :=
      if o.currencyDisplay = .code then Text.replaceString "¤" "¤¤" source else source
    NumberPattern.parse source.toList

/-- A pattern with other digit limits; one limit stretches the other. -/
def withLimits (o : RenderOptions) (p : NumberPattern) : NumberPattern :=
  let p := if 1 < o.minInteger then { p with integer.least := o.minInteger } else p
  match o.minFraction, o.maxFraction with
  | none, none => p
  | least, most =>
    let least := least.getD (min p.fraction.least (most.getD 0))
    let most := most.getD (max p.fraction.most least)
    { p with fraction := ⟨least, max least most⟩ }

/-- A pattern that is written out keeps the scale of its percent sign; numbers for the other ones are scaled
already. -/
def pattern (n : NumberEntry) (o : RenderOptions) : Except Fault NumberPattern := do
  match o.pattern with
  | some source =>
    let p ← NumberPattern.parse source.toList
    return withLimits o p
  | none =>
    let p ← n.basePattern o
    return withLimits o { p with scale := 0 }

end NumberEntry

/-- A number that was shortened, and the pattern for what is left of it. -/
structure Compacted where
  number : Decimal
  pattern : Option String
deriving DecidableEq, Repr

/-- The last row that a number reaches. A pattern of one zero alone leaves the number as it is; for all others
it is divided so that as many integer digits stay as there are zeros. -/
def compact (rules : PluralRules) (rows : List CompactRow) (number : Decimal) (places : Nat) :
    Except Decimal.Signal Compacted := do
  let magnitude ← number.absolute
  match rows.reverse.find? fun r => magnitude.compare (Decimal.ofNat (Nat.pow 10 r.power)) != .lt with
  | none => return ⟨number, none⟩
  | some row =>
    let base := (row.patterns.get? .other).getD ""
    if base = "0" then return ⟨number, some base⟩
    let zeros := base.toList.count '0'
    let quotient ← number.divide (Decimal.ofNat (Nat.pow 10 row.power / Nat.pow 10 (zeros - 1)))
    let rounded ← quotient.quantize (-(places : Int))
    let size ← quotient.absolute
    let category ← rules.category size
    return ⟨rounded, row.patterns.get? category⟩

/-- Blanks after a blank fall away. -/
def squeezed : List Char → List Char
  | [] => []
  | c :: r =>
    match squeezed r with
    | [] => [c]
    | d :: rest => if Text.isBlank c && Text.isBlank d then c :: rest else c :: d :: rest

/-- A pattern reduced to its currency sign, zeros and single blanks. -/
def bareAmount (pattern : String) : String :=
  let kept := pattern.toList.filter fun c => c == '0' || c == '¤' || Text.isBlank c
  String.ofList (Text.trim (squeezed kept))

/-- The first pattern of a table that shows a currency, reduced. -/
def plainAmountPattern (rows : List CompactRow) : Option String :=
  ((rows.filterMap fun r => r.patterns.get? .other).find? (·.contains '¤')).map bareAmount

namespace Entry

def currencyTexts (e : Entry) (n : NumberEntry) (code : String) : CurrencyTexts where
  code := code
  symbol := n.currencySymbol code
  digits := currencyDigits code
  name := fun number => (e.category number).map (n.currencyName code)

def renderWith (n : NumberEntry) (p : NumberPattern) (u : NumberPattern.Use) (number : Decimal) :
    Except Fault String :=
  Fault.arithmetic (p.render n.marks u number)

def compactNumber (e : Entry) (n : NumberEntry) (rows : List CompactRow) (places : Nat)
    (number : Decimal) : Except Fault String := do
  let c ← Fault.arithmetic (compact e.cardinal rows number places)
  let p ← NumberPattern.parse (c.pattern.getD n.decimal).toList
  renderWith n p { rounded := false } c.number

def compactAmount (e : Entry) (n : NumberEntry) (rows : List CompactRow) (code : String)
    (places : Nat) (number : Decimal) : Except Fault String := do
  let c ← Fault.arithmetic (compact e.cardinal rows number places)
  let pattern := (c.pattern.filter (·.contains '¤')) <|> plainAmountPattern rows
  let p ← NumberPattern.parse (pattern.getD n.currency).toList
  let currency := e.currencyTexts n code
  renderWith n p { currency := some currency, currencyDigits := false, rounded := false } c.number

/-- A number before the name of its currency. -/
def namedAmount (e : Entry) (n : NumberEntry) (p : NumberPattern) (u : NumberPattern.Use)
    (code : String) (number : Decimal) : Except Fault String := do
  let category ← Fault.arithmetic (e.category number)
  let text ← renderWith n p u number
  return text ++ " " ++ n.currencyName code category

def renderPlain (e : Entry) (n : NumberEntry) (o : RenderOptions) (number : Decimal) :
    Except Fault String := do
  let p ← n.pattern o
  let isAmount := o.style == .currency || o.style == .accounting
  match o.currency.filter fun code => !code.isEmpty && isAmount with
  | none => renderWith n p { grouping := o.grouping } number
  | some code =>
    let u : NumberPattern.Use := {
      currency := some (e.currencyTexts n code)
      currencyDigits := o.minFraction.isNone && o.maxFraction.isNone
      grouping := o.grouping }
    if o.currencyDisplay = .name then e.namedAmount n p u code number
    else renderWith n p u number

def renderNumber (e : Entry) (o : RenderOptions) (number : Decimal) : Except Fault String := do
  let n ← required "number" e.numbers
  let places := o.maxFraction.getD 0
  match o.style with
  | .compactShort | .compactLong =>
    match o.currency.filter (!·.isEmpty) with
    | some code =>
      let rows ← required "short" n.compactCurrency
      e.compactAmount n rows code places number
    | none =>
      let rows ←
        if o.style = .compactLong then required "long" n.compactLong
        else required "short" n.compactShort
      e.compactNumber n rows places number
  | _ => e.renderPlain n o number

/-- The unit of an identifier, or else the one with the shortest identifier that ends with it. -/
def unit? (e : Entry) (id : String) : Option UnitEntry :=
  match e.units.find? (·.id == id) with
  | some u => some u
  | none =>
    let matching := e.units.filter fun u => u.id.endsWith id
    matching.find? fun u => matching.all fun other => u.id.length ≤ other.id.length

def widthOf : UnitWidth → ListWidth
  | .narrow => .narrow
  | .short | .isoCode => .short
  | .fullName => .long

def ofWidth? {α : Type} (entries : List (ListWidth × α)) (width : ListWidth) : Option α :=
  (entries.find? (·.1 == width)).map (·.2)

/-- A measurement in the phrase of its plural category. Without one the number stands before the unit's
label, or before the identifier as it was written. -/
def renderUnit (e : Entry) (id : String) (width : UnitWidth) (o : RenderOptions)
    (number : Decimal) : Except Fault (Option String) := do
  let n ← required "number" e.numbers
  let p ← n.pattern o
  match e.unit? id with
  | none => return none
  | some unit =>
    let text ← renderWith n p {} number
    let category ← Fault.arithmetic (e.category number)
    match (ofWidth? unit.phrases (widthOf width)).bind fun forms => forms.form? category with
    | some phrase => return some (phrase.fill text)
    | none => return some (text ++ " " ++ (ofWidth? unit.labels (widthOf width)).getD id)

end Entry
end MessageFormat.Locale.Cldr

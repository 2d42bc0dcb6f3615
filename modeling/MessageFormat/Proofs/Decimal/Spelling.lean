import Mathlib.Data.List.TakeDrop
import MessageFormat.Decimal.Reading
import MessageFormat.Proofs.Decimal.Positional
import MessageFormat.Proofs.Text.Letter

/-!
How decimals are written. What is read is a sign, digits with or without a point among them, and perhaps an
exponent, and nothing else.
-/

set_option autoImplicit false

namespace MessageFormat.Decimal

open Text

/-- The parts of a decimal as it is written. Of an exponent they are the sign and the digits. -/
structure Spelling where
  negative : Bool := false
  whole : List Char
  fraction : List Char := []
  exponent : Option (Bool × List Char) := none

/-- The power of ten that an exponent writes. -/
def powerOf : Option (Bool × List Char) → Int
  | none => 0
  | some (negative, digits) => if negative then -digitsValue digits else digitsValue digits

/-- How many digits the exponent is written with. -/
def Spelling.exponentDigits (p : Spelling) : Nat := (p.exponent.map (·.2.length)).getD 0

/-- The decimal that is written. Each digit after the point is a place. -/
def Spelling.value (p : Spelling) : Decimal :=
  ⟨p.negative, digitsValue (p.whole ++ p.fraction), powerOf p.exponent - p.fraction.length⟩

inductive WritesSign : Bool → List Char → Prop
  | absent : WritesSign false []
  | plus : WritesSign false ['+']
  | minus : WritesSign true ['-']

inductive WritesFraction : List Char → List Char → Prop
  | absent : WritesFraction [] []
  | present (fraction : List Char) : WritesFraction fraction ('.' :: fraction)

inductive WritesExponent : Option (Bool × List Char) → List Char → Prop
  | absent : WritesExponent none []
  | present {mark : Char} {sign digits : List Char} {negative : Bool} :
      mark = 'e' ∨ mark = 'E' → WritesSign negative sign → digits ≠ [] →
      (∀ c ∈ digits, isDigit c = true) →
      WritesExponent (some (negative, digits)) (mark :: (sign ++ digits))

/-- There is a digit on one side of the point at least. -/
inductive Spells : List Char → Spelling → Prop
  | intro {negative : Bool} {sign whole fraction point digits : List Char}
      {exponent : Option (Bool × List Char)} :
      WritesSign negative sign → WritesFraction fraction point → WritesExponent exponent digits →
      whole ++ fraction ≠ [] → (∀ c ∈ whole ++ fraction, isDigit c = true) →
      Spells (sign ++ (whole ++ (point ++ digits))) ⟨negative, whole, fraction, exponent⟩

variable {s r sign digits : List Char} {negative : Bool} {c : Char}

/-! Signs. -/

theorem ne_sign_of_isDigit (h : isDigit c = true) : c ≠ '-' ∧ c ≠ '+' :=
  ⟨ne_of_isDigit h (by decide), ne_of_isDigit h (by decide)⟩

theorem splitSign_append (h : WritesSign negative sign) (hr : ∀ c ∈ r.head?, c ≠ '-' ∧ c ≠ '+') :
    splitSign (sign ++ r) = (negative, r) := by
  cases h with
  | absent =>
    rw [List.nil_append]
    unfold splitSign
    split
    · exact absurd rfl (hr '-' rfl).1
    · exact absurd rfl (hr '+' rfl).2
    · rfl
  | plus => rfl
  | minus => rfl

theorem exists_sign (h : splitSign s = (negative, r)) : ∃ sign, WritesSign negative sign ∧ s = sign ++ r := by
  unfold splitSign at h
  split at h
  · obtain ⟨rfl, rfl⟩ := Prod.mk.inj h
    exact ⟨_, .minus, rfl⟩
  · obtain ⟨rfl, rfl⟩ := Prod.mk.inj h
    exact ⟨_, .plus, rfl⟩
  · obtain ⟨rfl, rfl⟩ := Prod.mk.inj h
    exact ⟨_, .absent, rfl⟩

/-! Digits. -/

/-- Digits are read up to the first character that is none. -/
theorem splitDigits_eq_iff :
    splitDigits s = (digits, r) ↔
      s = digits ++ r ∧ (∀ c ∈ digits, isDigit c = true) ∧ ∀ c ∈ r.head?, isDigit c = false := by
  rw [splitDigits, List.span_eq_takeWhile_dropWhile]
  constructor
  · intro h
    obtain ⟨rfl, rfl⟩ := Prod.mk.inj h
    refine ⟨List.takeWhile_append_dropWhile.symm, List.all_eq_true.mp List.all_takeWhile, fun c hc => ?_⟩
    have hd := List.head?_dropWhile_not isDigit s
    rw [Option.mem_def] at hc
    simpa [hc] using hd
  · intro hx
    obtain ⟨rfl, hw, hr⟩ := hx
    have hd : r.takeWhile isDigit = [] ∧ r.dropWhile isDigit = r := by
      cases r with
      | nil => exact ⟨rfl, rfl⟩
      | cons c r => simp [hr c rfl]
    rw [List.takeWhile_append_of_pos hw, List.dropWhile_append_of_pos hw, hd.1, hd.2, List.append_nil]

/-! Exponents. -/

theorem WritesExponent.stops {exponent : Option (Bool × List Char)} (h : WritesExponent exponent r) :
    ∀ c ∈ r.head?, isDigit c = false ∧ c ≠ '.' := by
  cases h with
  | absent => simp
  | present hmark =>
    intro c hc
    obtain rfl := Option.some.inj hc
    rcases hmark with rfl | rfl <;> decide

theorem readExponent_eq_some_iff {e : Int} :
    readExponent r = some e ↔ ∃ exponent, WritesExponent exponent r ∧ powerOf exponent = e := by
  constructor
  · intro h
    unfold readExponent at h
    split at h
    · exact ⟨none, .absent, Option.some.inj h⟩
    · rename_i mark s
      split at h
      · rename_i hmark
        obtain ⟨⟨negative, digits⟩, hs⟩ : ∃ a, splitSign s = a := ⟨_, rfl⟩
        rw [hs] at h
        dsimp only at h
        split at h
        · cases h
        · rename_i hdigits
          obtain ⟨hne, hall⟩ : digits ≠ [] ∧ ∀ c ∈ digits, isDigit c = true := by
            simpa [List.isEmpty_iff] using hdigits
          obtain ⟨sign, hsign, rfl⟩ := exists_sign hs
          exact ⟨_, .present (by simpa using hmark) hsign hne hall, Option.some.inj h⟩
      · cases h
  · rintro ⟨exponent, hw, rfl⟩
    cases hw with
    | absent => rfl
    | @present mark sign digits negative hmark hsign hne hall =>
      have hsplit : splitSign (sign ++ digits) = (negative, digits) := splitSign_append hsign fun c hc =>
        ne_sign_of_isDigit (hall c (List.mem_of_mem_head? hc))
      have hdigits : (digits.isEmpty || !digits.all isDigit) = false := by
        simpa [List.isEmpty_iff, hne] using hall
      have hletter : (mark = 'e' || mark = 'E') = true := by simpa using hmark
      rw [readExponent, if_pos hletter, hsplit]
      simp only [hdigits, Bool.false_eq_true, if_false]
      rfl

/-! Decimals. -/

theorem readUnsigned_append {whole fraction point exponent : List Char} {x : Option (Bool × List Char)}
    (hpoint : WritesFraction fraction point) (hexponent : WritesExponent x exponent)
    (hne : whole ++ fraction ≠ []) (hdigits : ∀ c ∈ whole ++ fraction, isDigit c = true) :
    readUnsigned negative (whole ++ (point ++ exponent)) =
      some (Spelling.value ⟨negative, whole, fraction, x⟩) := by
  obtain ⟨hwhole, hfraction⟩ := List.forall_mem_append.mp hdigits
  have hread := readExponent_eq_some_iff.mpr ⟨x, hexponent, rfl⟩
  cases hpoint with
  | absent =>
    have hsplit : splitDigits (whole ++ exponent) = (whole, exponent) :=
      splitDigits_eq_iff.mpr ⟨rfl, hwhole, fun c hc => (hexponent.stops c hc).1⟩
    have hsome : (whole.isEmpty && List.isEmpty ([] : List Char)) = false := by simpa using hne
    rw [List.nil_append, readUnsigned, hsplit]
    dsimp only
    split
    · exact absurd rfl (hexponent.stops '.' rfl).2
    · rw [hsome, hread]
      rfl
  | present =>
    have hsplit : splitDigits (whole ++ ('.' :: fraction ++ exponent)) =
        (whole, '.' :: (fraction ++ exponent)) := by
      refine splitDigits_eq_iff.mpr ⟨rfl, hwhole, fun c hc => ?_⟩
      obtain rfl := Option.some.inj hc
      decide
    have hrest : splitDigits (fraction ++ exponent) = (fraction, exponent) :=
      splitDigits_eq_iff.mpr ⟨rfl, hfraction, fun c hc => (hexponent.stops c hc).1⟩
    have hsome : (whole.isEmpty && fraction.isEmpty) = false := by
      simpa [List.isEmpty_iff] using hne
    simp only [readUnsigned, hsplit, hrest, hsome, hread]
    rfl

theorem exists_spelling_unsigned {d : Decimal} (h : readUnsigned negative s = some d) :
    ∃ whole fraction point exponent x, WritesFraction fraction point ∧ WritesExponent x exponent ∧
      whole ++ fraction ≠ [] ∧ (∀ c ∈ whole ++ fraction, isDigit c = true) ∧
      s = whole ++ (point ++ exponent) ∧ Spelling.value ⟨negative, whole, fraction, x⟩ = d := by
  unfold readUnsigned at h
  obtain ⟨⟨whole, rest⟩, hs⟩ : ∃ a, splitDigits s = a := ⟨_, rfl⟩
  obtain ⟨rfl, hwhole, -⟩ := splitDigits_eq_iff.mp hs
  rw [hs] at h
  -- the fraction, with the point if there is one
  obtain ⟨fraction, point, exponent, hpoint, hrest, hfraction, h⟩ : ∃ fraction point exponent,
      WritesFraction fraction point ∧ rest = point ++ exponent ∧ (∀ c ∈ fraction, isDigit c = true) ∧
      (if whole.isEmpty && fraction.isEmpty then none else (readExponent exponent).map fun e =>
        (⟨negative, digitsValue (whole ++ fraction), e - fraction.length⟩ : Decimal)) = some d := by
    dsimp only at h
    split at h
    · rename_i r
      obtain ⟨⟨fraction, exponent⟩, hr⟩ : ∃ a, splitDigits r = a := ⟨_, rfl⟩
      obtain ⟨rfl, hfraction, -⟩ := splitDigits_eq_iff.mp hr
      rw [hr] at h
      exact ⟨fraction, _, exponent, .present fraction, rfl, hfraction, h⟩
    · exact ⟨[], [], rest, .absent, rfl, by simp, h⟩
  split at h
  · cases h
  · rename_i hne
    obtain ⟨e, he, rfl⟩ := Option.map_eq_some_iff.mp h
    obtain ⟨x, hx, rfl⟩ := readExponent_eq_some_iff.mp he
    refine ⟨whole, fraction, point, exponent, x, hpoint, hx, ?_, ?_, by rw [hrest], rfl⟩
    · simpa [List.isEmpty_iff] using hne
    · exact List.forall_mem_append.mpr ⟨hwhole, hfraction⟩

theorem Spells.readFinite {p : Spelling} (h : Spells s p) : readFinite s = some p.value := by
  cases h with
  | @intro negative sign whole fraction point digits exponent hsign hpoint hexponent hne hdigits =>
    have hhead : ∀ c ∈ (whole ++ (point ++ digits)).head?, c ≠ '-' ∧ c ≠ '+' := by
      intro c hc
      cases whole with
      | cons d w =>
        obtain rfl := Option.some.inj hc
        exact ne_sign_of_isDigit (hdigits _ List.mem_cons_self)
      | nil =>
        cases hpoint with
        | absent => exact absurd rfl hne
        | present =>
          obtain rfl := Option.some.inj hc
          decide
    rw [Decimal.readFinite, splitSign_append hsign hhead]
    exact readUnsigned_append hpoint hexponent hne hdigits

/-- A text is read as a decimal just if it spells the decimal. -/
theorem readFinite_eq_some_iff {d : Decimal} :
    readFinite s = some d ↔ ∃ p, Spells s p ∧ p.value = d := by
  constructor
  · intro h
    obtain ⟨⟨negative, r⟩, hs⟩ : ∃ a, splitSign s = a := ⟨_, rfl⟩
    rw [readFinite, hs] at h
    obtain ⟨sign, hsign, rfl⟩ := exists_sign hs
    obtain ⟨whole, fraction, point, exponent, x, hpoint, hexponent, hne, hdigits, rfl, hvalue⟩ :=
      exists_spelling_unsigned h
    exact ⟨⟨negative, whole, fraction, x⟩, .intro hsign hpoint hexponent hne hdigits, hvalue⟩
  · rintro ⟨p, hp, rfl⟩
    exact hp.readFinite

theorem WritesSign.mem (h : WritesSign negative sign) : ∀ c ∈ sign, c ∈ ['-', '+'] := by
  cases h <;> simp

/-- Digits, signs, a point and the letter of the exponent. -/
theorem Spells.mem {p : Spelling} (h : Spells s p) :
    ∀ c ∈ s, isDigit c = true ∨ c ∈ ['-', '+', '.', 'e', 'E'] := by
  cases h with
  | intro hsign hpoint hexponent _ hdigits =>
    have hmarks : ∀ {negative sign}, WritesSign negative sign → ∀ c ∈ sign,
        isDigit c = true ∨ c ∈ ['-', '+', '.', 'e', 'E'] := fun hs c hc =>
      .inr (List.mem_append_left ['.', 'e', 'E'] (hs.mem c hc))
    obtain ⟨hwhole, hfraction⟩ := List.forall_mem_append.mp hdigits
    simp only [List.forall_mem_append]
    refine ⟨hmarks hsign, fun c hc => .inl (hwhole c hc), ?_, ?_⟩
    · cases hpoint with
      | absent => simp
      | present => exact List.forall_mem_cons.mpr ⟨.inr (by decide), fun c hc => .inl (hfraction c hc)⟩
    · cases hexponent with
      | absent => simp
      | present hmark hs _ hall =>
        refine List.forall_mem_cons.mpr ⟨.inr (by rcases hmark with rfl | rfl <;> decide), ?_⟩
        exact List.forall_mem_append.mpr ⟨hmarks hs, fun c hc => .inl (hall c hc)⟩

theorem Spells.isBlank_eq_false {p : Spelling} (h : Spells s p) : ∀ c ∈ s, isBlank c = false :=
  fun c hc => (h.mem c hc).elim isBlank_of_isDigit fun hm => by
    have hall : ['-', '+', '.', 'e', 'E'].all (fun c => !isBlank c) = true := by decide
    simpa using List.all_eq_true.mp hall c hm

theorem Spells.not_mem_line {p : Spelling} (h : Spells s p) : '_' ∉ s :=
  fun hm => (h.mem '_' hm).elim (by decide) (by decide)

/-- The exponent is what starts with the letter for it. -/
theorem Spells.writesExponent {p : Spelling} (h : Spells s p) :
    WritesExponent p.exponent (s.dropWhile fun c => c ≠ 'e' && c ≠ 'E') := by
  cases h with
  | @intro negative sign whole fraction point digits exponent hsign hpoint hexponent _ hdigits =>
    have hfront : ∀ c ∈ sign ++ (whole ++ point), (c ≠ 'e' && c ≠ 'E') = true := by
      have hdigit : ∀ c, isDigit c = true → (c ≠ 'e' && c ≠ 'E') = true := fun c hc => by
        simp [ne_of_isDigit hc (by decide : isDigit 'e' = false),
          ne_of_isDigit hc (by decide : isDigit 'E' = false)]
      obtain ⟨hwhole, hfraction⟩ := List.forall_mem_append.mp hdigits
      simp only [List.forall_mem_append]
      refine ⟨?_, fun c hc => hdigit c (hwhole c hc), ?_⟩
      · cases hsign <;> simp
      · cases hpoint with
        | absent => simp
        | present => exact List.forall_mem_cons.mpr ⟨by decide, fun c hc => hdigit c (hfraction c hc)⟩
    have hdrop : (sign ++ (whole ++ (point ++ digits))).dropWhile (fun c => c ≠ 'e' && c ≠ 'E') =
        digits.dropWhile fun c => c ≠ 'e' && c ≠ 'E' := by
      rw [← List.append_assoc whole, ← List.append_assoc sign]
      exact List.dropWhile_append_of_pos hfront
    rw [hdrop]
    cases hexponent with
    | absent => exact .absent
    | @present mark sign digits negative hmark hsign hne hall =>
      have hmark' : (mark :: (sign ++ digits)).dropWhile (fun c => c ≠ 'e' && c ≠ 'E') =
          mark :: (sign ++ digits) := by
        rcases hmark with rfl | rfl <;> rfl
      rw [hmark']
      exact .present hmark hsign hne hall

/-- A text writes one exponent. -/
theorem Spells.powerOf_eq {p q : Spelling} (hp : Spells s p) (hq : Spells s q) :
    powerOf p.exponent = powerOf q.exponent := by
  have hread := readExponent_eq_some_iff.mpr ⟨_, hp.writesExponent, rfl⟩
  rw [readExponent_eq_some_iff.mpr ⟨_, hq.writesExponent, rfl⟩] at hread
  exact (Option.some.inj hread).symm

end MessageFormat.Decimal

import Mathlib.Data.List.TakeDrop
import MessageFormat.Locale.Cldr.Language
import MessageFormat.Plural.Condition
import MessageFormat.Proofs.Plural.Visible

/-!
Plural rules on the decimal of operands. The decimal has the operands that it was taken from, up to sign and
exponent; rules that take the digits from the coefficient alone see them if they are all in it.
-/

set_option autoImplicit false

namespace MessageFormat

open Text

/-- The operands without the exponent and the sign. -/
def PluralOperands.visible (x : PluralOperands) : PluralOperands := { x with e := 0, negative := false }

/-! Rules. -/

variable {x y : PluralOperands}

theorem PluralRelation.holds_congr {r : PluralRelation} (hr : r.operand ≠ .e)
    (h : x.visible = y.visible) : r.holds x = r.holds y := by
  have hn : x.n = y.n := congrArg (·.n) h
  have hcount : ∀ o : PluralOperand, o ≠ .e → o.count x = o.count y := by
    intro o ho
    cases o with
    | n => exact congrArg (·.i) h
    | i => exact congrArg (·.i) h
    | v => exact congrArg (·.v) h
    | w => exact congrArg (·.w) h
    | f => exact congrArg (·.f) h
    | t => exact congrArg (·.t) h
    | e => exact absurd rfl ho
  have hvalue : r.value x = r.value y := by
    unfold value
    split
    · rw [hn]
    · rw [hn]
    · rw [hcount _ hr]
    · rw [hcount _ hr]
  rw [holds, holds, hvalue]

theorem allM_congr {ε α : Type} {p q : α → Except ε Bool} {l : List α}
    (h : ∀ a ∈ l, p a = q a) : l.allM p = l.allM q := by
  induction l with
  | nil => rfl
  | cons a l ih =>
    obtain ⟨ha, hl⟩ := List.forall_mem_cons.mp h
    rw [List.allM, List.allM, ha, ih hl]

theorem anyM_congr {ε α : Type} {p q : α → Except ε Bool} {l : List α}
    (h : ∀ a ∈ l, p a = q a) : l.anyM p = l.anyM q := by
  induction l with
  | nil => rfl
  | cons a l ih =>
    obtain ⟨ha, hl⟩ := List.forall_mem_cons.mp h
    rw [List.anyM, List.anyM, ha, ih hl]

namespace PluralRules

/-- No relation is about the operand. -/
def Omit (operand : PluralOperand) (rules : PluralRules) : Prop :=
  ∀ rule ∈ rules, ∀ relations ∈ rule.2, ∀ r ∈ relations, r.operand ≠ operand

/-- Rules select by the operands that they are about. -/
theorem select_congr {rules : PluralRules} (hr : rules.Omit .e) (h : x.visible = y.visible) :
    rules.select x = rules.select y := by
  induction rules with
  | nil => rfl
  | cons rule rules ih =>
    obtain ⟨hrule, hrest⟩ := List.forall_mem_cons.mp hr
    have hcondition : rule.2.holds x = rule.2.holds y :=
      anyM_congr fun relations hrelations => allM_congr fun r hmem =>
        PluralRelation.holds_congr (hrule relations hrelations r hmem) h
    rw [select, select, hcondition, ih hrest]

end PluralRules

/-! Operands of operands. -/

namespace PluralOperands

variable {d : Decimal} {e : ℤ} {o : PluralOperands}

/-- A magnitude has the operands of its decimal, without the sign. -/
theorem ofDecimal_magnitude (h : ofDecimal d e = .ok o) (e' : ℤ) :
    ofDecimal d.magnitude e' = .ok { o with e := e', negative := false } := by
  have ho := eq_of_ofDecimal h
  subst ho
  cases hm : ofDecimal d.magnitude e' with
  | error f =>
    -- whether there are operands does not depend on the sign
    have hfails := (ofDecimal_fails_iff d e).mpr ((ofDecimal_fails_iff d.magnitude e').mp ⟨f, hm⟩)
    obtain ⟨f, hf⟩ := hfails
    rw [hf] at h
    cases h
  | ok o' =>
    rw [eq_of_ofDecimal hm]
    rfl

theorem ofValue_magnitude (hd : d.holdable = true) (h : ofDecimal d e = .ok o) :
    ∃ o', ofValue (.decimal (.finite o.n)) = .ok o' ∧ o'.visible = o.visible := by
  have hn : o.n = d.magnitude := by rw [eq_of_ofDecimal h]
  have hm : d.magnitude.holdable = true := hd
  rw [hn, ofValue_decimal hm, ofDecimal_magnitude h]
  exact ⟨_, rfl, rfl⟩

/-- The places that are digits of the coefficient. Zeros right after the point are not among them. -/
def ownPlaces (d : Decimal) : List Char :=
  if 0 ≤ d.exponent then [] else (natDigits d.coefficient).drop (d.digitCount - d.exponent.natAbs)

theorem length_ownPlaces (d : Decimal) :
    (ownPlaces d).length = min d.positional.2.length d.digitCount := by
  have hplaces := d.length_positional_snd
  unfold ownPlaces
  split
  · rw [List.length_nil]
    omega
  · have hcount : (natDigits d.coefficient).length = d.digitCount := rfl
    rw [List.length_drop, hcount]
    omega

/-- The coefficient has all places just if it is long enough. -/
theorem ownPlaces_eq (h : d.positional.2.length ≤ d.digitCount) : ownPlaces d = d.positional.2 := by
  have hplaces := d.length_positional_snd
  have hcount : (natDigits d.coefficient).length = d.digitCount := rfl
  unfold ownPlaces
  split
  · rename_i he
    rw [Decimal.positional_snd_of_nonneg he]
  · rename_i he
    -- at most one zero is put in front of the coefficient, and it stands before the point
    have hpad : ∀ n, (List.replicate (d.exponent.natAbs + 1 - d.digitCount) '0').drop
        (d.exponent.natAbs + 1 - d.digitCount + n) = [] := fun n =>
      List.drop_eq_nil_of_le (by rw [List.length_replicate]; omega)
    have hdrop : d.exponent.natAbs + 1 - d.digitCount + d.digitCount - d.exponent.natAbs =
        d.exponent.natAbs + 1 - d.digitCount + (d.digitCount - d.exponent.natAbs) := by omega
    simp only [Decimal.positional, he, if_false, padZeros, List.length_append, List.length_replicate,
      hcount]
    rw [hdrop, List.drop_append, hpad, List.length_replicate, Nat.add_sub_cancel_left, List.nil_append]

theorem ofCoefficient_eq {n : Decimal} (h : d.absolute = .ok n) : ofCoefficient d = .ok
    { n, i := n.integerPart, v := (ownPlaces n).length, w := (dropZeros (ownPlaces n)).length,
      f := digitsValue (ownPlaces n), t := digitsValue (dropZeros (ownPlaces n)) } := by
  rw [ofCoefficient, h]
  rfl

/-- The coefficient of a magnitude shows the operands just if no digit of it is lost to rounding and it has
all the places. -/
theorem ofCoefficient_visible_iff (h : ofDecimal d e = .ok o) :
    (∃ x, ofCoefficient o.n = .ok x ∧ x.visible = o.visible) ↔
      o.n.absolute = .ok o.n ∧ o.v ≤ o.n.digitCount := by
  have ho := eq_of_ofDecimal h
  subst ho
  dsimp only
  constructor
  · rintro ⟨x, hx, hvisible⟩
    cases hn : d.magnitude.absolute with
    | error s =>
      rw [ofCoefficient, hn] at hx
      cases hx
    | ok n =>
      rw [ofCoefficient_eq hn] at hx
      obtain rfl := Except.ok.inj hx
      obtain rfl : n = d.magnitude := congrArg (·.n) hvisible
      have hv : (ownPlaces d.magnitude).length = d.positional.2.length := congrArg (·.v) hvisible
      rw [length_ownPlaces] at hv
      exact ⟨rfl, min_eq_left_iff.mp hv⟩
  · rintro ⟨hn, hv⟩
    have hplaces : ownPlaces d.magnitude = d.positional.2 := ownPlaces_eq (d := d.magnitude) hv
    rw [ofCoefficient_eq hn, hplaces]
    exact ⟨_, rfl, rfl⟩

end PluralOperands

/-! Values. -/

/-- What values count as: the decimal that they show, or zero. -/
inductive Value.CountsAs : Value → Decimal → Prop
  | shown {value : Value} {d : Decimal} : value.Reads d → CountsAs value d
  | nothing {value : Value} : value.decimal? = none → CountsAs value Decimal.zero

/-- An exponent of more digits than an integer may have. -/
def Value.WritesLongExponent (value : Value) : Prop :=
  ∃ s p, value.digits? = some s ∧ Decimal.Spells s p ∧ Integer.mostDigits < p.exponentDigits

theorem Value.CountsAs.decimal {value : Value} {d : Decimal} (h : value.CountsAs d) :
    d.holdable = true ∧ value.decimal?.getD Decimal.zero = d := by
  cases h with
  | shown h =>
    obtain ⟨s, hs, hread, -⟩ := h.exists_spelling
    rw [decimal?_of_digits? hs, hread]
    exact ⟨(Decimal.of_read?_eq_some hread).1, rfl⟩
  | nothing h =>
    rw [h]
    exact ⟨by decide, rfl⟩

namespace PluralOperands

/-- The operands of a value are those of the decimal that it counts as, if its exponent is not too long. -/
theorem ofValue_cases (value : Value) :
    (value.WritesLongExponent ∧ ∃ f, ofValue value = .error f) ∨
      ¬ value.WritesLongExponent ∧
        ∃ e, ofValue value = ofDecimal (value.decimal?.getD Decimal.zero) e := by
  by_cases hlong : value.WritesLongExponent
  · refine .inl ⟨hlong, ?_⟩
    obtain ⟨s, p, hs, hp, hlong⟩ := hlong
    rw [ofValue_of_spells hs hp, Integer.checkLength_eq_error hlong]
    exact ⟨_, rfl⟩
  · refine .inr ⟨hlong, ?_⟩
    by_cases hspelled : ∃ s p, value.digits? = some s ∧ Decimal.Spells s p
    · obtain ⟨s, p, hs, hp⟩ := hspelled
      have hshort : p.exponentDigits ≤ Integer.mostDigits :=
        Nat.le_of_not_lt fun hlt => hlong ⟨s, p, hs, hp, hlt⟩
      rw [ofValue_of_spells hs hp, Integer.checkLength_eq_ok hshort]
      exact ⟨_, rfl⟩
    · have hexponent : exponentOf value = .ok 0 := by
        unfold exponentOf
        cases hs : value.digits? with
        | none => rfl
        | some s =>
          have hread : Decimal.readFinite s = none := by
            cases hd : Decimal.readFinite s with
            | none => rfl
            | some d =>
              obtain ⟨p, hp, -⟩ := Decimal.readFinite_eq_some_iff.mp hd
              exact absurd ⟨s, p, hs, hp⟩ hspelled
          simp [hread]
      rw [ofValue, hexponent]
      exact ⟨0, rfl⟩

end PluralOperands

end MessageFormat

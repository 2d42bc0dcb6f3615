import MessageFormat.Proofs.Evaluation.Names
import MessageFormat.Proofs.Evaluation.Offset
import MessageFormat.Proofs.Plural.Rules

/-!
Values that are no numbers. They count as zero: the operands are those of zero, but for an exponent that the text
writes, and a plural selection of them is one of zero, but for the places of an offset that is zero.
-/

set_option autoImplicit false

namespace MessageFormat

open Text

variable {x : Value}

/-! Operands. -/

namespace PluralOperands

/-- The operands of zero with an exponent. -/
def ofZero (e : Int) : PluralOperands := { n := Decimal.zero, i := 0, v := 0, w := 0, f := 0, t := 0, e }

theorem ofDecimal_zero (e : Int) : ofDecimal Decimal.zero e = .ok (ofZero e) := by
  rw [ofDecimal_eq]
  rfl

theorem ofValue_zero : ofValue (.int 0) = .ok (ofZero 0) := by decide

/-- The operands of a text are those of zero with its exponent. -/
theorem ofValue_of_nothing {s : List Char} {p : Decimal.Spelling} (hx : x.decimal? = none)
    (hs : x.digits? = some s) (hp : Decimal.Spells s p) : ofValue x =
      Integer.checkLength p.exponentDigits >>= fun _ => .ok (ofZero (Decimal.powerOf p.exponent)) := by
  rw [ofValue_of_spells hs hp, hx]
  exact bind_congr fun _ => ofDecimal_zero _

theorem exponentOf_of_not_spells (h : ∀ s p, x.digits? = some s → ¬ Decimal.Spells s p) :
    exponentOf x = .ok 0 := by
  unfold exponentOf
  cases hs : x.digits? with
  | none => rfl
  | some s =>
    cases hd : Decimal.readFinite s with
    | none => simp [hd]
    | some d =>
      obtain ⟨p, hp, -⟩ := Decimal.readFinite_eq_some_iff.mp hd
      exact absurd hp (h s p hs)

theorem ofValue_of_not_spells (hx : x.decimal? = none)
    (h : ∀ s p, x.digits? = some s → ¬ Decimal.Spells s p) : ofValue x = .ok (ofZero 0) := by
  rw [ofValue, exponentOf_of_not_spells h, hx]
  exact ofDecimal_zero 0

/-- They are the operands of zero just if no exponent is written, or none but zero. -/
theorem ofValue_eq_zero_iff (hx : x.decimal? = none) : ofValue x = ofValue (.int 0) ↔
    ∀ s p, x.digits? = some s → Decimal.Spells s p →
      p.exponentDigits ≤ Integer.mostDigits ∧ Decimal.powerOf p.exponent = 0 := by
  rw [ofValue_zero]
  constructor
  · intro h s p hs hp
    rw [ofValue_of_nothing hx hs hp] at h
    rcases Nat.lt_or_ge Integer.mostDigits p.exponentDigits with hlong | hshort
    · rw [Integer.checkLength_eq_error hlong] at h
      cases h
    · rw [Integer.checkLength_eq_ok hshort] at h
      exact ⟨hshort, congrArg PluralOperands.e (Except.ok.inj h)⟩
  · intro h
    by_cases hspelled : ∃ s p, x.digits? = some s ∧ Decimal.Spells s p
    · obtain ⟨s, p, hs, hp⟩ := hspelled
      obtain ⟨hshort, hpower⟩ := h s p hs hp
      rw [ofValue_of_nothing hx hs hp, Integer.checkLength_eq_ok hshort, hpower]
      rfl
    · exact ofValue_of_not_spells hx fun s p hs hp => hspelled ⟨s, p, hs, hp⟩

end PluralOperands

/-! Selections. -/

/-- A literal or `#`. -/
def Node.IsPlain : Node → Prop
  | .literal _ | .hash => True
  | _ => False

theorem Node.ownNames_of_plain {ns : List Node} (h : ∀ n ∈ ns, n.IsPlain) :
    ∀ n ∈ Node.subtrees ns, n.ownNames = [] := by
  induction ns with
  | nil => exact fun n hn => absurd hn List.not_mem_nil
  | cons n ns ih =>
    obtain ⟨hn, hns⟩ := List.forall_mem_cons.mp h
    have hself : ∀ m ∈ Node.subtree n, m.ownNames = [] := by
      cases n with
      | literal | hash => exact fun m hm => List.mem_singleton.mp hm ▸ rfl
      | argument | call | plural | select | tag | «foreign» => exact hn.elim
    exact List.forall_mem_append.mpr ⟨hself, ih hns⟩

theorem exactCase?_of_value_eq {β : Type} (cases : List (Case Matcher β)) {d d' : Decimal}
    (h : d.value = d'.value) : exactCase? cases d = exactCase? cases d' := by
  have hexactly (m : Matcher) : m.isExactly d = m.isExactly d' := by
    rw [Bool.eq_iff_iff, isExactly_iff, isExactly_iff, h]
  simp only [exactCase?, hexactly]

namespace Decimal

/-- What zero is less an offset that is zero: it has the places of the offset. -/
def zeroLess (offset : Decimal) : Decimal :=
  ⟨false, 0, max (tinyExponent defaultPrecision) (min 0 offset.exponent)⟩

theorem subtract_zero {offset : Decimal} (h : offset.isZero = true) :
    zero.subtract offset = .ok (zeroLess offset) := by
  have hcoefficient := isZero_iff.mp h
  have hdifference : zero.difference offset = ⟨false, 0, min 0 offset.exponent⟩ := by
    cases hn : offset.negative <;>
      simp [difference, sum, combine, units, negated, zero, ofNat, hcoefficient, hn]
  have hle : min 0 offset.exponent ≤ maxExponent := (min_le_left _ _).trans (by decide)
  have hfinish (e : ℤ) : finish ⟨false, 0, e⟩ =
      .ok ⟨false, 0, max (tinyExponent defaultPrecision) (min e maxExponent)⟩ := if_pos rfl
  rw [subtract_eq, hdifference, hfinish, min_eq_left hle]
  rfl

theorem zeroLess_of_whole {offset : Decimal} (h : 0 ≤ offset.exponent) : zeroLess offset = zero := by
  rw [zeroLess, min_eq_left h]
  rfl

theorem read?_zeroLess (offset : Decimal) : (Value.decimal (.finite (zeroLess offset))).decimal? =
    some (zeroLess offset) := by
  refine read?_text ?_
  have hcount : adjusted (zeroLess offset) = (zeroLess offset).exponent := adjusted_of_isZero rfl
  have hlow : leastExponent ≤ tinyExponent defaultPrecision := by decide
  have hhigh : (0 : ℤ) ≤ greatestAdjusted := by decide
  have htiny : tinyExponent defaultPrecision ≤ 0 := by decide
  rw [holdable, Bool.and_eq_true, decide_eq_true_iff, decide_eq_true_iff, hcount, zeroLess]
  dsimp only
  omega

end Decimal

namespace Evaluator

open Evaluation

variable {ev : Evaluator} {a b : Arguments} {name : String} {y : Value} {offset : Decimal} {ordinal : Bool}
  {cases : List (Case Matcher (List Node))}

theorem value_of_get (hr : ev.requireAllVariables = false) (h : a.get name = .ok y) :
    { ev with arguments := a }.value name = pure y := by
  unfold value
  dsimp only
  rw [h, hr]
  cases y <;> rfl

/-- Numbers with the same operands and the same text. -/
structure Alike (ev : Evaluator) (number number' : Value) : Prop where
  operands : PluralOperands.ofValue number = PluralOperands.ofValue number'
  text : Format.plainNumber ev.context ev.graph number = Format.plainNumber ev.context ev.graph number'

/-- A selection is the same for two values that are equal as keys, if the numbers it is about are alike. -/
theorem node_of_alike (hr : ev.requireAllVariables = false) (ha : a.get name = .ok x) (hb : b.get name = .ok y)
    (hcases : ∀ c ∈ cases, ∀ n ∈ c.body, n.IsPlain)
    (hkey : (x.decimal?.getD Decimal.zero).value = (y.decimal?.getD Decimal.zero).value)
    (hnumber : ∀ k k' : Value → Outcome String, (∀ n n', ev.Alike n n' → k n = k' n') →
      (pluralNumber x offset >>= k) = (pluralNumber y offset >>= k')) :
    { ev with arguments := a }.node (.plural name offset ordinal cases) =
      { ev with arguments := b }.node (.plural name offset ordinal cases) := by
  funext s
  rw [node_plural_apply offset ordinal cases (value_of_get hr ha) s,
    node_plural_apply offset ordinal cases (value_of_get hr hb) s]
  congr 1
  refine hnumber _ _ fun n n' hn => ?_
  have hcase : { ev with arguments := a }.pluralCase x n ordinal cases =
      { ev with arguments := b }.pluralCase y n' ordinal cases := by
    simp only [pluralCase, exactCase?_of_value_eq cases hkey, Locale.Context.pluralCategory, hn.operands]
  rw [hcase, hn.text]
  refine Outcome.bind_congr_of_ok fun body hbody => ?_
  obtain ⟨c, hc, rfl⟩ := List.mem_map.mp (mem_of_pluralCase hbody)
  rw [meanings_congr c.body fun n hn x hx => ?_]
  rw [Node.ownNames_of_plain (hcases c hc) n hn] at hx
  exact absurd hx List.not_mem_nil

theorem pluralNumber_of_nothing (hx : x.decimal? = none) (offset : Decimal) : pluralNumber x offset = (do
    let difference ← Outcome.arithmetic (Decimal.zero.subtract offset)
    return .decimal (.finite difference)) := by
  simp only [pluralNumber, hx]

theorem pluralNumber_of_nothing_zero (hx : x.decimal? = none) (h : offset.isZero = true) :
    pluralNumber x offset = pure (.decimal (.finite (Decimal.zeroLess offset))) := by
  rw [pluralNumber_of_nothing hx, Decimal.subtract_zero h]
  rfl

theorem decimal?_int_zero : (Value.int 0).decimal? = some Decimal.zero := by decide

theorem alike_zero : ev.Alike (.decimal (.finite Decimal.zero)) (.int 0) where
  operands := by decide
  text := by
    have hnumber : (Value.decimal (.finite Decimal.zero)).decimal? = (Value.int 0).decimal? := by
      decide
    have hplain : ev.graph.plainText (.decimal (.finite Decimal.zero)) = ev.graph.plainText (.int 0) := rfl
    rw [Format.plainNumber, Format.plainNumber, Format.numberWith, Format.numberWith, hnumber, hplain]

/-- With an offset that is not zero, or has no places, a selection is one of zero. -/
theorem node_of_nothing (hr : ev.requireAllVariables = false) (hx : x.decimal? = none)
    (ha : a.get name = .ok x) (hb : b.get name = .ok (.int 0))
    (hcases : ∀ c ∈ cases, ∀ n ∈ c.body, n.IsPlain) (h : offset.isZero = false ∨ 0 ≤ offset.exponent) :
    { ev with arguments := a }.node (.plural name offset ordinal cases) =
      { ev with arguments := b }.node (.plural name offset ordinal cases) := by
  refine node_of_alike hr ha hb hcases (by rw [hx, decimal?_int_zero]; rfl) fun k k' hk => ?_
  cases hz : offset.isZero with
  | false =>
    rw [pluralNumber_of_nothing hx, pluralNumber_of_offset decimal?_int_zero hz]
    exact bind_congr fun number => hk number number ⟨rfl, rfl⟩
  | true =>
    have hwhole : 0 ≤ offset.exponent := h.resolve_left (by rw [hz]; exact Bool.noConfusion)
    rw [pluralNumber_of_nothing_zero hx hz, pluralNumber_of_zero decimal?_int_zero hz,
      Decimal.zeroLess_of_whole hwhole, Outcome.pure_bind, Outcome.pure_bind]
    exact hk _ _ alike_zero

/-- With an offset that is zero, a selection is one of a zero with its places. -/
theorem node_of_nothing_zero (hr : ev.requireAllVariables = false) (hx : x.decimal? = none)
    (ha : a.get name = .ok x) (hb : b.get name = .ok (.decimal (.finite (Decimal.zeroLess offset))))
    (hcases : ∀ c ∈ cases, ∀ n ∈ c.body, n.IsPlain) (h : offset.isZero = true) :
    { ev with arguments := a }.node (.plural name offset ordinal cases) =
      { ev with arguments := b }.node (.plural name offset ordinal cases) := by
  have hzero := Decimal.read?_zeroLess offset
  have hkey : (x.decimal?.getD Decimal.zero).value =
      ((Value.decimal (.finite (Decimal.zeroLess offset))).decimal?.getD Decimal.zero).value := by
    rw [hx, hzero]
    exact (Decimal.value_of_isZero rfl).trans (Decimal.value_of_isZero rfl).symm
  refine node_of_alike hr ha hb hcases hkey fun k k' hk => ?_
  rw [pluralNumber_of_nothing_zero hx h, pluralNumber_of_zero hzero h, Outcome.pure_bind, Outcome.pure_bind]
  exact hk _ _ ⟨rfl, rfl⟩

end Evaluator

/-- What is no number counts as zero, up to an exponent and to places. The operands are those of zero just if the
text of the value writes no exponent but zero; else they are those of zero with the exponent, or there are none
if it has more digits than an integer may have. A plural selection whose bodies are literals and `#` gives for
it what it gives for the integer zero, whatever else the arguments are, unless the offset is a zero that is
written with places: then it gives what it gives for a zero with these places. -/
theorem Value.nothing_counts_as_zero {x : Value} (hx : x.decimal? = none) :
    (PluralOperands.ofValue x = PluralOperands.ofValue (.int 0) ↔
      ∀ s p, x.digits? = some s → Decimal.Spells s p →
        p.exponentDigits ≤ Integer.mostDigits ∧ Decimal.powerOf p.exponent = 0) ∧
    (∀ s p, x.digits? = some s → Decimal.Spells s p → PluralOperands.ofValue x =
      Integer.checkLength p.exponentDigits >>= fun _ =>
        .ok (PluralOperands.ofZero (Decimal.powerOf p.exponent))) ∧
    ∀ (ev : Evaluator) (a b : Arguments) (name : String) (offset : Decimal) (ordinal : Bool)
      (cases : List (Case Matcher (List Node))),
      ev.requireAllVariables = false → a.get name = .ok x → (∀ c ∈ cases, ∀ n ∈ c.body, n.IsPlain) →
      (b.get name = .ok (.int 0) → offset.isZero = false ∨ 0 ≤ offset.exponent →
        { ev with arguments := a }.node (.plural name offset ordinal cases) =
          { ev with arguments := b }.node (.plural name offset ordinal cases)) ∧
      (b.get name = .ok (.decimal (.finite (Decimal.zeroLess offset))) → offset.isZero = true →
        { ev with arguments := a }.node (.plural name offset ordinal cases) =
          { ev with arguments := b }.node (.plural name offset ordinal cases)) :=
  ⟨PluralOperands.ofValue_eq_zero_iff hx, fun _ _ hs hp => PluralOperands.ofValue_of_nothing hx hs hp,
    fun _ _ _ _ _ _ _ hr ha hcases =>
      ⟨fun hb h => Evaluator.node_of_nothing hr hx ha hb hcases h,
        fun hb h => Evaluator.node_of_nothing_zero hr hx ha hb hcases h⟩⟩

/-- A text in place of a number, with an offset of one. -/
theorem Value.nothing_counts_as_zero_text : ∃ (x : Value) (cases : List (Case Matcher (List Node))),
    x = .text "lots" ∧ cases = [⟨.exact "0" Decimal.zero, [.literal "none"]⟩, ⟨.category "other", [.hash]⟩] ∧
    x.decimal? = none ∧ PluralOperands.ofValue x = PluralOperands.ofValue (.int 0) ∧
    { Evaluator.english "n" x with arguments := .named [(.text "n", x)] }.node
      (.plural "n" Decimal.one false cases) =
    { Evaluator.english "n" x with arguments := .named [(.text "n", .int 0)] }.node
      (.plural "n" Decimal.one false cases) := by
  have hx : (Value.text "lots").decimal? = none := by decide +kernel
  have hdigits : (Value.text "lots").digits? = none := by decide +kernel
  obtain ⟨hoperands, -, hnode⟩ := Value.nothing_counts_as_zero hx
  refine ⟨.text "lots", _, rfl, rfl, hx, hoperands.mpr fun s p hs => ?_, ?_⟩
  · rw [hdigits] at hs
    cases hs
  · refine (hnode _ _ _ "n" Decimal.one false _ rfl rfl ?_).1 rfl (.inl rfl)
    simp [Node.IsPlain]

/-- A text whose exponent is no decimal's but shows in the operands; and a text that is no number, for which
`#` shows the places of the offset. -/
theorem Value.nothing_not_zero : ∃ (x y : Value) (offset : Decimal) (m : Message),
    x = .text "1e99999999999999999999" ∧ x.decimal? = none ∧
    PluralOperands.ofValue x = .ok (PluralOperands.ofZero 99999999999999999999) ∧
    PluralOperands.ofValue (.int 0) = .ok (PluralOperands.ofZero 0) ∧
    y = .text "lots" ∧ y.decimal? = none ∧ offset = ⟨false, 0, -2⟩ ∧
    m = ⟨[.plural "n" offset false [⟨.category "other", [.hash]⟩]]⟩ ∧
    ((Evaluator.english "n" y).message 100 m).result = .ok "0.00[decimal;1;~;~;g;~;symbol;~]@en" ∧
    ((Evaluator.english "n" (.int 0)).message 100 m).result = .ok "0[decimal;1;~;~;g;~;symbol;~]@en" := by
  refine ⟨.text "1e99999999999999999999", .text "lots", _, _, rfl, ?_, ?_, ?_, rfl, ?_, rfl, rfl, ?_, ?_⟩ <;>
    decide +kernel

end MessageFormat

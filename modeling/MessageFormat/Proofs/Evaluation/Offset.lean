import MessageFormat.Proofs.Decimal.Kept
import MessageFormat.Proofs.Decimal.Sum
import MessageFormat.Proofs.Evaluation.Precedence

/-!
Offsets. A plural selection with an offset is about the difference of its number to the offset: the category is
that of the difference, and `#` is the difference in all of the body that is chosen.
-/

set_option autoImplicit false

namespace MessageFormat

/-! Differences. -/

namespace Decimal

theorem places_difference (a b : Decimal) : (a.difference b).places = max a.places b.places := by
  simp only [places, exponent_difference]
  omega

/-- A difference loses nothing just if the exact one is kept. -/
theorem subtract_kept_iff (a b : Decimal) :
    (∃ r, a.subtract b = .ok r ∧ r.value = a.value - b.value ∧ r.places = max a.places b.places) ↔
      (a.difference b).Kept := by
  rw [subtract_eq, ← value_difference, ← places_difference]
  exact finish_kept_iff defaultPrecision_pos

theorem subtract_fails_iff (a b : Decimal) :
    (∃ s, a.subtract b = .error s) ↔ overflowBound defaultPrecision ≤ |a.value - b.value| := by
  rw [subtract_eq, ← value_difference, abs_value]
  simp only [finish_eq_error_iff defaultPrecision_pos, exists_eq_left]

end Decimal

namespace PluralOperands

/-- What the operands say of a number with so many places: its size, the parts before and after the point,
and the same without the zeros at the end. -/
structure Shows (o : PluralOperands) (x : ℚ) (v : ℕ) : Prop where
  magnitude : o.n.value = |x|
  places : o.v = v
  fraction_lt : o.f < 10 ^ v
  parts : |x| * 10 ^ v = o.i * 10 ^ v + o.f
  kept_le : o.w ≤ v
  kept : o.t * 10 ^ (v - o.w) = o.f
  ends : ¬ 10 ∣ o.t ∨ o.t = 0 ∧ o.w = 0
  sign : o.negative = true ↔ x < 0

theorem Describes.shows {o : PluralOperands} {d : Decimal} (h : o.Describes d) : o.Shows d.value d.places := by
  have hplaces : o.v = d.places := by
    have hv := h.places
    unfold Decimal.places
    omega
  have hmagnitude : o.n.value = |d.value| := by
    rw [h.magnitude, Decimal.abs_value]
    rfl
  rw [← hplaces]
  exact ⟨hmagnitude, rfl, h.fraction_lt, hmagnitude ▸ h.parts, h.kept_le, h.kept, h.ends, h.sign⟩

/-- What comes out of arithmetic is shown by its operands. -/
theorem shows_of_finish {d r : Decimal} {o : PluralOperands} (h : Decimal.finish d = .ok r)
    (ho : ofValue (.decimal (.finite r)) = .ok o) : o.Shows r.value r.places := by
  obtain ⟨hadjusted, hexponent⟩ := Decimal.range_of_finish Decimal.defaultPrecision_pos h
  have hholdable : r.holdable = true := by
    rw [Decimal.holdable, Bool.and_eq_true, decide_eq_true_iff, decide_eq_true_iff]
    exact ⟨le_trans (by decide) hexponent, hadjusted.trans (by decide)⟩
  rw [ofValue_decimal hholdable] at ho
  exact (describes_of_ofDecimal ho).1.shows

end PluralOperands

namespace Evaluator

open Evaluation

variable {ev : Evaluator} {limit : ℤ} {bare bare' : Outcome String} {place place' : Place}

/-! What `#` is in a body. -/

/-- A node means the same at places of one depth where `#` means the same, if the bodies in it do. -/
theorem meaning_of_hash {n : Node} (hdepth : place.depth = place'.depth)
    (hhash : ev.meaning limit bare .hash place = ev.meaning limit bare' .hash place')
    (h : ∀ body ∈ n.bodies, ∀ place place' : Place, place.depth = place'.depth →
      ev.meaning limit bare .hash place = ev.meaning limit bare' .hash place' →
      ev.meanings limit bare body place = ev.meanings limit bare' body place') :
    ev.meaning limit bare n place = ev.meaning limit bare' n place' := by
  have hnested : ∀ body ∈ n.bodies, (ev.meanings limit bare body).nested limit place =
      (ev.meanings limit bare' body).nested limit place' := fun body hbody => by
    simp only [Meaning.nested, hdepth]
    rw [h body hbody { place with depth := place'.depth + 1 } { place' with depth := place'.depth + 1 }
      rfl hhash]
  cases n with
  | literal | argument | call | «foreign» => rfl
  | hash => exact hhash
  | plural argument offset ordinal cases =>
    rw [meaning_plural, meaning_plural]
    refine bind_congr fun value => bind_congr fun number => Outcome.bind_congr_of_ok fun body hbody => ?_
    simp only [Meaning.withNumber, Meaning.nested, hdepth]
    rw [h body (mem_of_pluralCase hbody) _ _ rfl rfl]
  | select argument cases =>
    rw [meaning_select, meaning_select]
    refine bind_congr fun value => ?_
    cases hbody : keyCase? cases (ev.graph.selectKey value) with
    | none => rfl
    | some body => exact hnested body (mem_of_keyCase? hbody)
  | tag name attributes selfClosing children =>
    simp only [meaning, hnested children (List.mem_singleton_self _)]

theorem meanings_of_hash (ns : List Node) : ∀ place place' : Place, place.depth = place'.depth →
    ev.meaning limit bare .hash place = ev.meaning limit bare' .hash place' →
    ev.meanings limit bare ns place = ev.meanings limit bare' ns place' := by
  induction ns using Node.bodies_induction with
  | nil => exact fun _ _ _ _ => rfl
  | cons n ns hbodies hrest =>
    intro place place' hdepth hhash
    rw [meanings, meanings]
    simp only [meaning_of_hash hdepth hhash hbodies, hrest place place' hdepth hhash]

/-- The number of a selection is handed down for `#` alone. -/
theorem meanings_withNumber (ns : List Node) (number : Value) (place : Place) :
    Meaning.withNumber number (Meaning.nested limit (ev.meanings limit bare ns)) place =
      Meaning.nested limit (ev.meanings limit (Format.plainNumber ev.context ev.graph number) ns)
        { depth := place.depth } := by
  simp only [Meaning.withNumber, Meaning.nested]
  rw [meanings_of_hash ns ⟨some number, place.depth + 1⟩ ⟨none, place.depth + 1⟩ rfl rfl]

/-! The number. -/

section Number

variable {argument : String} {value : Value} {d offset : Decimal}

theorem pluralNumber_of_zero (hd : value.decimal? = some d) (h : offset.isZero = true) :
    pluralNumber value offset = pure value := by
  simp only [pluralNumber, hd, h, if_true]

theorem pluralNumber_of_offset (hd : value.decimal? = some d) (h : offset.isZero = false) :
    pluralNumber value offset = (do
      let difference ← Outcome.arithmetic (d.subtract offset)
      return .decimal (.finite difference)) := by
  simp only [pluralNumber, hd, h, Bool.false_eq_true, if_false]

theorem pluralNumber_eq_pure_iff (hd : value.decimal? = some d) (h : offset.isZero = false) {r : Decimal} :
    pluralNumber value offset = pure (.decimal (.finite r)) ↔ d.subtract offset = .ok r := by
  rw [pluralNumber_of_offset hd h]
  cases d.subtract offset with
  | error s => exact iff_of_false (fun heq => by cases congrArg Outcome.result heq) (fun heq => by cases heq)
  | ok r' =>
    have hpure : (Outcome.arithmetic (.ok r') >>= fun difference =>
        (pure (.decimal (.finite difference)) : Outcome Value)) = pure (.decimal (.finite r')) := rfl
    rw [hpure]
    simp only [Outcome.pure_eq, Outcome.mk.injEq, true_and, Except.ok.injEq, Value.decimal.injEq,
      Numeral.finite.injEq]

theorem pluralNumber_fails_iff (hd : value.decimal? = some d) (h : offset.isZero = false) :
    (pluralNumber value offset).Fails ↔ ∃ s, d.subtract offset = .error s := by
  rw [pluralNumber_of_offset hd h, Outcome.fails_bind_iff, Outcome.fails_arithmetic_iff]
  simp only [or_iff_left_iff_imp]
  rintro ⟨r, -, hr⟩
  exact absurd hr (Outcome.not_fails_pure _)

/-- A plural selection at a place, with `#` for its number in the body. -/
theorem node_plural_apply (offset : Decimal) (ordinal : Bool) (cases : List (Case Matcher (List Node)))
    (hvalue : ev.value argument = pure value) (s : Surroundings) :
    ev.node (.plural argument offset ordinal cases) s = ⟨(do
      let number ← pluralNumber value offset
      let body ← ev.pluralCase value number ordinal cases
      Meaning.nested s.guard.limit
        (ev.meanings s.guard.limit (Format.plainNumber ev.context ev.graph number) body)
        { depth := s.guard.depth }), s⟩ := by
  rw [node_eq, meaning_plural]
  simp only [lookup_eq_of_value hvalue, Outcome.pure_bind, meanings_withNumber]
  rfl

/-- The case of a category, which an option is missed without. -/
def caseOf {β : Type} (ordinal : Bool) (cases : List (Case Matcher β)) (category : PluralCategory) :
    Outcome β :=
  match categoryCase? cases category with
  | some body => return body
  | none => Outcome.fail (.missingOption (pluralConstruct ordinal))

end Number

/-- What a plural selection with an offset is about. Keys are compared with the number itself, before any offset;
the category, and `#` in all of the body, are those of `pluralNumber`. This is the number as it is written where
the offset is zero, and else the exact difference, rounded once. It has the value of the exact difference and the
places of the longer operand just if nothing of that is lost: if the exact difference has no more digits than
the precision, or is a whole number with zeros for all further digits, and is in the range of exponents; with
no more digits it is the exact difference itself. Operands show the number that they are of. There is none just
if the difference is too large. -/
theorem node_offset (ev : Evaluator) {argument : String} {value : Value} {d : Decimal} (offset : Decimal)
    (hvalue : ev.value argument = pure value) (hd : value.Reads d) :
    (∀ ordinal cases s, ev.node (.plural argument offset ordinal cases) s = ⟨(do
      let number ← pluralNumber value offset
      let body ← ev.pluralCase value number ordinal cases
      Meaning.nested s.guard.limit
        (ev.meanings s.guard.limit (Format.plainNumber ev.context ev.graph number) body)
        { depth := s.guard.depth }), s⟩) ∧
    (∀ (number : Value) (ordinal : Bool) (cases : List (Case Matcher (List Node))),
      (∀ c, FirstCase (Matcher.IsNumber d.value) cases c →
        ev.pluralCase value number ordinal cases = pure c.body) ∧
      (NoCase (Matcher.IsNumber d.value) cases → ev.pluralCase value number ordinal cases =
        ev.context.pluralCategory number ordinal >>= caseOf ordinal cases)) ∧
    (offset.isZero = true → pluralNumber value offset = pure value) ∧
    (offset.isZero = false →
      pluralNumber value offset = (do
        let difference ← Outcome.arithmetic (Decimal.finish (d.difference offset))
        return .decimal (.finite difference)) ∧
      ((pluralNumber value offset).Fails ↔
        Decimal.overflowBound Decimal.defaultPrecision ≤ |d.value - offset.value|) ∧
      ((∃ r, pluralNumber value offset = pure (.decimal (.finite r)) ∧ r.value = d.value - offset.value ∧
        r.places = max d.places offset.places) ↔ (d.difference offset).Kept) ∧
      ((d.difference offset).Fits → pluralNumber value offset = pure (.decimal (.finite (d.difference offset)))) ∧
      ∀ r, pluralNumber value offset = pure (.decimal (.finite r)) →
        ∀ o, PluralOperands.ofValue (.decimal (.finite r)) = .ok o → o.Shows r.value r.places) := by
  have hnumber := hd.decimal?
  refine ⟨fun ordinal cases s => node_plural_apply offset ordinal cases hvalue s,
    fun number ordinal cases => ⟨fun c hc => ?_, fun hno => ?_⟩,
    fun h => pluralNumber_of_zero hnumber h, fun h => ⟨?_, ?_, ?_, fun hfits => ?_, fun r hr o ho => ?_⟩⟩
  · rw [pluralCase, hnumber, Option.getD_some, exactCase?_of_first hc]
  · rw [pluralCase, hnumber, Option.getD_some, exactCase?_of_no hno]
    rfl
  · rw [pluralNumber_of_offset hnumber h, Decimal.subtract_eq]
  · rw [pluralNumber_fails_iff hnumber h, Decimal.subtract_fails_iff]
  · simp only [pluralNumber_eq_pure_iff hnumber h]
    exact Decimal.subtract_kept_iff d offset
  · rw [pluralNumber_eq_pure_iff hnumber h, Decimal.subtract_eq]
    exact hfits.finish_eq Decimal.defaultPrecision_pos
  · rw [pluralNumber_eq_pure_iff hnumber h, Decimal.subtract_eq] at hr
    exact PluralOperands.shows_of_finish hr ho

/-- A text with one place and an offset with two. -/
theorem node_offset_places : ∃ (value : Value) (offset r : Decimal) (o : PluralOperands),
    value = .text "2.5" ∧ offset = ⟨false, 125, -2⟩ ∧
    (english "n" value).value "n" = pure value ∧ value.Reads ⟨false, 25, -1⟩ ∧ offset.isZero = false ∧
    pluralNumber value offset = pure (.decimal (.finite r)) ∧ r.value = 5 / 4 ∧ r.places = 2 ∧
    PluralOperands.ofValue (.decimal (.finite r)) = .ok o ∧ o.Shows (5 / 4) 2 := by
  have hspells : Decimal.Spells ([] ++ (['2'] ++ (['.', '5'] ++ []))) ⟨false, ['2'], ['5'], none⟩ :=
    .intro .absent (.present _) .absent (by decide) (List.all_eq_true.mp (by decide))
  have hreads : Value.Reads (.text "2.5") ⟨false, 25, -1⟩ :=
    .text (s := "2.5") (p := ⟨false, ['2'], ['5'], none⟩) hspells (by decide)
  have hvalue : (english "n" (.text "2.5")).value "n" = pure (.text "2.5") := rfl
  obtain ⟨-, -, -, hoffset⟩ := node_offset (english "n" (.text "2.5")) ⟨false, 125, -2⟩ hvalue hreads
  obtain ⟨-, -, -, hfits, hshows⟩ := hoffset rfl
  have hr := hfits (by decide)
  have hvalue' : (Decimal.difference ⟨false, 25, -1⟩ ⟨false, 125, -2⟩).value = 5 / 4 := by
    rw [Decimal.value_difference]
    norm_num [Decimal.value, Decimal.size]
  have ho : PluralOperands.ofValue (.decimal (.finite (Decimal.difference ⟨false, 25, -1⟩ ⟨false, 125, -2⟩))) =
      .ok { n := ⟨false, 125, -2⟩, i := 1, v := 2, w := 2, f := 25, t := 25 } := by decide +kernel
  exact ⟨_, _, _, _, rfl, rfl, hvalue, hreads, rfl, hr, hvalue', rfl, ho, hvalue' ▸ hshows _ hr _ ho⟩

/-- A number of 29 digits and an offset of one: the exact difference ends in two, and the number that it is
rounded to does not. -/
theorem node_offset_rounds : ∃ (value : Value) (d : Decimal) (cases : List (Case Matcher (List Node))),
    value = .int (10 ^ 28 + 3) ∧ cases = [⟨.category "two", [.literal "a"]⟩, ⟨.category "other", [.hash]⟩] ∧
    value.Reads d ∧ d.difference Decimal.one = ⟨false, 10 ^ 28 + 2, 0⟩ ∧
    ((english "n" value).context.pluralCategory
      (.decimal (.finite (d.difference Decimal.one))) true).result = .ok .two ∧
    ((english "n" value).message 100 ⟨[.plural "n" Decimal.one true cases]⟩).result =
      .ok "1.000000000000000000000000000E+28[decimal;1;~;~;g;~;symbol;~]@en" :=
  ⟨.int (10 ^ 28 + 3), _, _, rfl, rfl, Value.reads_int_of_lt (k := 29) (by decide) (by decide),
    by decide +kernel, by decide +kernel, by decide +kernel⟩

end Evaluator
end MessageFormat

import MessageFormat.Proofs.Evaluation.Scoping
import MessageFormat.Proofs.Number.Failure
import MessageFormat.Proofs.Plural.Visible

/-!
Which case wins. Cases are looked through in their order, once for each thing that a key can be: the number
itself, its category, and `other`.
-/

set_option autoImplicit false

namespace MessageFormat

open Evaluation

/-- The key is this number, however it is written. -/
def Matcher.IsNumber (x : ℚ) (m : Matcher) : Prop := ∃ d, m.value? = some d ∧ d.value = x

/-- The key is the name of this category. -/
def Matcher.Names (category : PluralCategory) (m : Matcher) : Prop := m = .category category.text

section Order

variable {κ β : Type} {p : κ → Prop} {q : Case κ β → Bool} {cases : List (Case κ β)} {c : Case κ β}

/-- No case has a key with this property. -/
def NoCase (p : κ → Prop) (cases : List (Case κ β)) : Prop := ∀ c ∈ cases, ¬ p c.key

/-- The first case that has a key with this property. -/
def FirstCase (p : κ → Prop) (cases : List (Case κ β)) (c : Case κ β) : Prop :=
  ∃ before after, cases = before ++ c :: after ∧ p c.key ∧ NoCase p before

/-- The last case that has a key with this property. -/
def LastCase (p : κ → Prop) (cases : List (Case κ β)) (c : Case κ β) : Prop :=
  ∃ before after, cases = before ++ c :: after ∧ p c.key ∧ NoCase p after

/-- What a choice comes to: the first case with the property; if there is none, the case that stands in for
it; or there is no case. -/
inductive Chosen (p : κ → Prop) (standIn : Case κ β → Prop) (cases : List (Case κ β)) :
    Option (Case κ β) → Prop
  | first {c : Case κ β} (h : FirstCase p cases c) : Chosen p standIn cases (some c)
  | standIn {c : Case κ β} (hp : NoCase p cases) (h : standIn c) : Chosen p standIn cases (some c)
  | missing (hp : NoCase p cases) (h : ∀ c, ¬ standIn c) : Chosen p standIn cases none

theorem find?_eq_some_iff_first (h : ∀ c, q c = true ↔ p c.key) :
    cases.find? q = some c ↔ FirstCase p cases c := by
  simp only [List.find?_eq_some_iff_append, FirstCase, NoCase, ← h]
  constructor
  · rintro ⟨hc, before, after, hcases, hbefore⟩
    exact ⟨before, after, hcases, hc, fun b hb => by simpa using hbefore b hb⟩
  · rintro ⟨before, after, hcases, hc, hbefore⟩
    exact ⟨hc, before, after, hcases, fun b hb => by simpa using hbefore b hb⟩

theorem find?_eq_none_iff_no (h : ∀ c, q c = true ↔ p c.key) :
    cases.find? q = none ↔ NoCase p cases := by
  simp only [List.find?_eq_none, NoCase, h]

theorem noCase_reverse : NoCase p cases.reverse ↔ NoCase p cases := by
  simp only [NoCase, List.mem_reverse]

theorem firstCase_reverse : FirstCase p cases.reverse c ↔ LastCase p cases c := by
  constructor
  · rintro ⟨before, after, hcases, hc, hbefore⟩
    refine ⟨after.reverse, before.reverse, ?_, hc, noCase_reverse.mpr hbefore⟩
    rw [← List.reverse_reverse cases, hcases]
    simp
  · rintro ⟨before, after, rfl, hc, hafter⟩
    exact ⟨after.reverse, before.reverse, by simp, hc, noCase_reverse.mpr hafter⟩

/-- No two cases have keys with this property. -/
def AtMostOne (p : κ → Prop) (cases : List (Case κ β)) : Prop :=
  cases.Pairwise fun a b => ¬ (p a.key ∧ p b.key)

theorem AtMostOne.lastCase_iff (h : AtMostOne p cases) : LastCase p cases c ↔ FirstCase p cases c := by
  constructor
  · rintro ⟨before, after, rfl, hc, -⟩
    have hbefore := (List.pairwise_append.mp h).2.2
    exact ⟨before, after, rfl, hc, fun b hb hpb => hbefore b hb c List.mem_cons_self ⟨hpb, hc⟩⟩
  · rintro ⟨before, after, rfl, hc, -⟩
    have hafter := (List.pairwise_cons.mp (List.pairwise_append.mp h).2.1).1
    exact ⟨before, after, rfl, hc, fun b hb hpb => hafter b hb ⟨hc, hpb⟩⟩

theorem Chosen.congr {standIn standIn' : Case κ β → Prop} {r : Option (Case κ β)}
    (h : Chosen p standIn cases r) (hiff : ∀ c, standIn c ↔ standIn' c) : Chosen p standIn' cases r := by
  cases h with
  | first hc => exact .first hc
  | standIn hp hc => exact .standIn hp ((hiff _).mp hc)
  | missing hp hno => exact .missing hp fun c hc => hno c ((hiff c).mpr hc)

theorem FirstCase.eq {c' : Case κ β} (h : FirstCase p cases c) (h' : FirstCase p cases c') : c = c' := by
  classical
  have hiff : ∀ c : Case κ β, decide (p c.key) = true ↔ p c.key := fun c => decide_eq_true_iff
  rw [← find?_eq_some_iff_first hiff] at h h'
  exact Option.some.inj (h.symm.trans h')

theorem Chosen.eq_some {standIn : Case κ β → Prop} {r : Option (Case κ β)} (h : Chosen p standIn cases r)
    (hc : FirstCase p cases c) : r = some c := by
  have hp : ¬ NoCase p cases := fun hno => by
    obtain ⟨before, after, rfl, hpc, -⟩ := hc
    exact hno c (by simp) hpc
  cases h with
  | first hc' => rw [hc'.eq hc]
  | standIn hno => exact absurd hno hp
  | missing hno => exact absurd hno hp

/-- A search, and then another one where it finds nothing. -/
theorem chosen_find? {standIn : Case κ β → Prop} {instead : Option (Case κ β)}
    (h : ∀ c, q c = true ↔ p c.key) (hi : ∀ c, instead = some c ↔ standIn c) :
    Chosen p standIn cases (cases.find? q <|> instead) := by
  cases hfound : cases.find? q with
  | some c => exact .first ((find?_eq_some_iff_first h).mp hfound)
  | none =>
    have hno := (find?_eq_none_iff_no h).mp hfound
    cases hinstead : instead with
    | some c => exact .standIn hno ((hi c).mp hinstead)
    | none => exact .missing hno fun c hc => by simp [(hi c).mpr hc] at hinstead

end Order

theorem isExactly_iff (m : Matcher) (number : Decimal) :
    m.isExactly number = true ↔ m.IsNumber number.value := by
  cases m with
  | category name => simp [Matcher.isExactly, Matcher.IsNumber, Matcher.value?]
  | exact text value => simp [Matcher.isExactly, Matcher.IsNumber, Matcher.value?, Decimal.sameValue_iff]

theorem isNamedBy_iff (m : Matcher) (category : PluralCategory) :
    category.isNamedBy m = true ↔ m.Names category := by
  cases m with
  | category name => simp [PluralCategory.isNamedBy, Matcher.Names]
  | exact text value => simp [PluralCategory.isNamedBy, Matcher.Names]

section Choice

variable {β : Type} {cases : List (Case Matcher β)}

theorem exactCase?_of_first {number : Decimal} {c : Case Matcher β}
    (h : FirstCase (Matcher.IsNumber number.value) cases c) : exactCase? cases number = some c.body := by
  rw [exactCase?, (find?_eq_some_iff_first fun c => isExactly_iff c.key number).mpr h, Option.map_some]

theorem exactCase?_of_no {number : Decimal} (h : NoCase (Matcher.IsNumber number.value) cases) :
    exactCase? cases number = none := by
  rw [exactCase?, (find?_eq_none_iff_no fun c => isExactly_iff c.key number).mpr h, Option.map_none]

/-- By category the first case of the name is chosen, but the last of `other` stands in for it. -/
theorem exists_categoryCase? (cases : List (Case Matcher β)) (category : PluralCategory) :
    ∃ r, Chosen (Matcher.Names category) (LastCase (Matcher.Names .other) cases) cases r ∧
      categoryCase? cases category = r.map Case.body := by
  refine ⟨_, chosen_find? (fun c => isNamedBy_iff c.key category) fun c => ?_, rfl⟩
  rw [find?_eq_some_iff_first fun c => isNamedBy_iff c.key .other, firstCase_reverse]

theorem exists_keyCase? (cases : List (Case String β)) (key : String) :
    ∃ r, Chosen (· = key) (FirstCase (· = PluralCategory.other.text) cases) cases r ∧
      keyCase? cases key = r.map Case.body := by
  refine ⟨_, chosen_find? (fun c => beq_iff_eq) fun c => ?_, rfl⟩
  exact find?_eq_some_iff_first fun c => beq_iff_eq

end Choice

namespace Evaluation

variable {α β γ : Type}

theorem pure_bind (a : α) (f : α → Evaluation β) : (pure a : Evaluation α) >>= f = f a := rfl

theorem ofOutcome_bind (o : Outcome α) (f : α → Outcome β) (k : β → Evaluation γ) :
    (ofOutcome (o >>= f) >>= k) = ofOutcome o >>= fun a => ofOutcome (f a) >>= k := by
  funext s
  obtain ⟨calls, result⟩ := o
  cases result with
  | error e => rfl
  | ok a =>
    cases h : (f a).result <;> simp [ofOutcome, Bind.bind, Evaluation.bind, Outcome.bind, h]

end Evaluation

namespace Evaluator

variable {ev : Evaluator}

/-- What a plural selection gives with the case that is chosen, or without one. -/
def pluralChoice (ev : Evaluator) (ordinal : Bool) (number : Value) :
    Option (Case Matcher (List Node)) → Evaluation String
  | some c => withNumber number (nested (ev.sequence c.body))
  | none => Evaluation.fail (.missingOption (pluralConstruct ordinal))

def selectChoice (ev : Evaluator) : Option (Case String (List Node)) → Evaluation String
  | some c => nested (ev.sequence c.body)
  | none => Evaluation.fail (.missingOption "select")

section Plural

variable {argument : String} {value : Value} {d : Decimal} {cases : List (Case Matcher (List Node))}

theorem node_of_exact (hvalue : ev.value argument = pure value) (hd : value.decimal? = some d)
    {c : Case Matcher (List Node)} (h : FirstCase (Matcher.IsNumber d.value) cases c)
    (offset : Decimal) (ordinal : Bool) : ev.node (.plural argument offset ordinal cases) = (do
      let number ← ofOutcome (pluralNumber value offset)
      ev.pluralChoice ordinal number (some c)) := by
  rw [node_plural, hvalue, pure_bind]
  congr 1
  funext number
  rw [pluralCase, hd, Option.getD_some, exactCase?_of_first h]
  rfl

theorem node_of_category (hvalue : ev.value argument = pure value) (hd : value.decimal? = some d)
    (h : NoCase (Matcher.IsNumber d.value) cases) {choice : PluralCategory → Option (Case Matcher (List Node))}
    (hchoice : ∀ category, categoryCase? cases category = (choice category).map Case.body)
    (offset : Decimal) (ordinal : Bool) : ev.node (.plural argument offset ordinal cases) = (do
      let number ← ofOutcome (pluralNumber value offset)
      let category ← ofOutcome (ev.context.pluralCategory number ordinal)
      ev.pluralChoice ordinal number (choice category)) := by
  rw [node_plural, hvalue, pure_bind]
  congr 1
  funext number
  rw [pluralCase, hd, Option.getD_some, exactCase?_of_no h, ofOutcome_bind]
  congr 1
  funext category
  rw [hchoice]
  cases choice category <;> rfl

end Plural

theorem node_of_key {argument : String} {value : Value} {cases : List (Case String (List Node))}
    (hvalue : ev.value argument = pure value) {choice : Option (Case String (List Node))}
    (hchoice : keyCase? cases (ev.graph.selectKey value) = choice.map Case.body) :
    ev.node (.select argument cases) = ev.selectChoice choice := by
  rw [node_select, hvalue, pure_bind, hchoice]
  cases choice <;> rfl

/-- Which case wins where keys stand more than once. In a plural selection of a number the first key wins that
is the number itself, before any offset, and no category is asked for. Where no key is, the first key wins that
names the category of what the selection is about, and the last `other` stands in for it; with no more than one
`other` this is the first. In a selection by key the first case of the key wins and the first `other` stands
in for it. An option is missed just where there is no such case. -/
theorem node_first_match (ev : Evaluator) :
    (∀ (argument : String) (value : Value) (d offset : Decimal) (ordinal : Bool)
        (cases : List (Case Matcher (List Node))),
      ev.value argument = pure value → value.Reads d →
      (∀ c, FirstCase (Matcher.IsNumber d.value) cases c →
        ev.node (.plural argument offset ordinal cases) = (do
          let number ← ofOutcome (pluralNumber value offset)
          ev.pluralChoice ordinal number (some c))) ∧
      (NoCase (Matcher.IsNumber d.value) cases →
        ∃ choice : PluralCategory → Option (Case Matcher (List Node)),
          (∀ category, Chosen (Matcher.Names category) (LastCase (Matcher.Names .other) cases) cases
            (choice category)) ∧
          (AtMostOne (Matcher.Names .other) cases → ∀ category,
            Chosen (Matcher.Names category) (FirstCase (Matcher.Names .other) cases) cases
              (choice category)) ∧
          ev.node (.plural argument offset ordinal cases) = (do
            let number ← ofOutcome (pluralNumber value offset)
            let category ← ofOutcome (ev.context.pluralCategory number ordinal)
            ev.pluralChoice ordinal number (choice category)))) ∧
    (∀ (argument : String) (value : Value) (cases : List (Case String (List Node))),
      ev.value argument = pure value →
      ∃ choice, Chosen (· = ev.graph.selectKey value) (FirstCase (· = "other") cases) cases choice ∧
        ev.node (.select argument cases) = ev.selectChoice choice) := by
  refine ⟨fun argument value d offset ordinal cases hvalue hreads => ?_, fun argument value cases hvalue => ?_⟩
  · have hd := hreads.decimal?
    refine ⟨fun c hc => node_of_exact hvalue hd hc offset ordinal, fun hno => ?_⟩
    choose choice hchosen hchoice using exists_categoryCase? cases
    refine ⟨choice, hchosen, fun hone category => ?_, node_of_category hvalue hd hno hchoice offset ordinal⟩
    exact (hchosen category).congr fun c => hone.lastCase_iff
  · obtain ⟨choice, hchosen, hchoice⟩ := exists_keyCase? cases (ev.graph.selectKey value)
    exact ⟨choice, hchosen, node_of_key hvalue hchoice⟩

/-- An evaluator for one argument in English. -/
def english (name : String) (value : Value) : Evaluator :=
  { context := Format.englishContext, arguments := .named [(.text name, value)] }

/-- Two cases of the category, after one of another category and before two of `other`. -/
theorem node_first_match_ordinal : ∃ (value : Value) (cases : List (Case Matcher (List Node))),
    value = .int 22 ∧
    cases = [⟨.category "one", [.literal "a"]⟩, ⟨.category "two", [.literal "b"]⟩,
      ⟨.category "two", [.literal "c"]⟩, ⟨.category "other", [.literal "d"]⟩,
      ⟨.category "other", [.literal "e"]⟩] ∧
    (english "n" value).value "n" = pure value ∧ value.Reads (.ofInt 22) ∧
    NoCase (Matcher.IsNumber (Decimal.ofInt 22).value) cases ∧
    ∃ choice : PluralCategory → Option (Case Matcher (List Node)),
      choice .two = some ⟨.category "two", [.literal "b"]⟩ ∧
      (english "n" value).node (.plural "n" Decimal.zero true cases) = (do
        let number ← ofOutcome (pluralNumber value Decimal.zero)
        let category ← ofOutcome ((english "n" value).context.pluralCategory number true)
        (english "n" value).pluralChoice true number (choice category)) ∧
      ((english "n" value).message 100 ⟨[.plural "n" Decimal.zero true cases]⟩).result = .ok "b" := by
  refine ⟨.int 22, _, rfl, rfl, ?_⟩
  generalize hcases : [(⟨.category "one", [.literal "a"]⟩ : Case Matcher (List Node)),
    ⟨.category "two", [.literal "b"]⟩, ⟨.category "two", [.literal "c"]⟩,
    ⟨.category "other", [.literal "d"]⟩, ⟨.category "other", [.literal "e"]⟩] = cases
  have hvalue : (english "n" (.int 22)).value "n" = pure (.int 22) := rfl
  have hreads : Value.Reads (.int 22) (.ofInt 22) := Value.reads_int_of_lt (k := 2) (by decide) (by decide)
  have hno : NoCase (Matcher.IsNumber (Decimal.ofInt 22).value) cases :=
    (find?_eq_none_iff_no fun c => isExactly_iff c.key _).mp (hcases ▸ rfl)
  have htwo : FirstCase (Matcher.Names .two) cases ⟨.category "two", [.literal "b"]⟩ :=
    (find?_eq_some_iff_first fun c => isNamedBy_iff c.key .two).mp (hcases ▸ rfl)
  obtain ⟨choice, hchosen, -, hnode⟩ :=
    ((node_first_match (english "n" (.int 22))).1 "n" _ _ Decimal.zero true cases hvalue hreads).2 hno
  refine ⟨hvalue, hreads, hno, choice, (hchosen .two).eq_some htwo, hnode, ?_⟩
  subst hcases
  decide +kernel

/-- Two cases of `other` where no case has the category: it is not the first that is chosen. -/
theorem node_last_other : ∃ (value : Value) (cases : List (Case Matcher (List Node))),
    value = .int 1 ∧ cases = [⟨.category "other", [.literal "a"]⟩, ⟨.category "other", [.literal "b"]⟩] ∧
    value.Reads (.ofInt 1) ∧ NoCase (Matcher.IsNumber (Decimal.ofInt 1).value) cases ∧
    ((english "n" value).context.pluralCategory value false).result = .ok .one ∧
    NoCase (Matcher.Names .one) cases ∧
    FirstCase (Matcher.Names .other) cases ⟨.category "other", [.literal "a"]⟩ ∧
    ((english "n" value).message 100 ⟨[.plural "n" Decimal.zero false cases]⟩).result = .ok "b" := by
  refine ⟨.int 1, _, rfl, rfl, Value.reads_int_of_lt (k := 1) (by decide) (by decide), ?_, by decide +kernel,
    ?_, ?_, by decide +kernel⟩
  · exact (find?_eq_none_iff_no fun c => isExactly_iff c.key _).mp rfl
  · exact (find?_eq_none_iff_no fun c => isNamedBy_iff c.key .one).mp rfl
  · exact (find?_eq_some_iff_first fun c => isNamedBy_iff c.key .other).mp rfl

end Evaluator
end MessageFormat

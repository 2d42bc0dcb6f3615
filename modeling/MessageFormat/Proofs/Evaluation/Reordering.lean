import MessageFormat.Proofs.Decimal.Value
import MessageFormat.Proofs.Evaluation.Scoping

/-!
The order of cases. Where no two keys of a selection can be chosen by the same value the cases may stand in
any order.
-/

set_option autoImplicit false

namespace MessageFormat

/-- No value is meant by both: categories have different names, numbers different values. -/
def Matcher.Differs : Matcher → Matcher → Prop
  | .exact _ a, .exact _ b => a.value ≠ b.value
  | .category a, .category b => a ≠ b
  | .exact .., .category _ | .category _, .exact .. => True

/-- The same cases in the same order, or in any order if their keys differ. -/
def Rearranged {κ β : Type} (Differ : κ → κ → Prop) (cases cases' : List (Case κ β)) : Prop :=
  cases = cases' ∨ (cases.Perm cases' ∧ cases.Pairwise fun c d => Differ c.key d.key)

namespace Node

mutual

/-- The same node, but for the order of cases at any depth. -/
inductive Reordered : Node → Node → Prop
  | same (n : Node) : Reordered n n
  | plural {argument : String} {offset : Decimal} {ordinal : Bool}
      {cases inner cases' : List (Case Matcher (List Node))} (bodies : CasesReordered cases inner)
      (order : Rearranged Matcher.Differs inner cases') :
      Reordered (.plural argument offset ordinal cases) (.plural argument offset ordinal cases')
  | select {argument : String} {cases inner cases' : List (Case String (List Node))}
      (bodies : CasesReordered cases inner) (order : Rearranged (· ≠ ·) inner cases') :
      Reordered (.select argument cases) (.select argument cases')
  | tag {name attributes : String} {selfClosing : Bool} {children children' : List Node}
      (body : AllReordered children children') :
      Reordered (.tag name attributes selfClosing children)
        (.tag name attributes selfClosing children')

inductive AllReordered : List Node → List Node → Prop
  | nil : AllReordered [] []
  | cons {n n' : Node} {ns ns' : List Node} (first : Reordered n n') (rest : AllReordered ns ns') :
      AllReordered (n :: ns) (n' :: ns')

/-- The same keys in the same order. -/
inductive CasesReordered : {κ : Type} → List (Case κ (List Node)) → List (Case κ (List Node)) → Prop
  | nil {κ : Type} : @CasesReordered κ [] []
  | cons {κ : Type} {key : κ} {body body' : List Node} {cases cases' : List (Case κ (List Node))}
      (first : AllReordered body body') (rest : CasesReordered cases cases') :
      CasesReordered (⟨key, body⟩ :: cases) (⟨key, body'⟩ :: cases')

end

/-- What reordering leaves of the bodies of cases it leaves of the cases. -/
theorem CasesReordered.map_eq {κ γ : Type} {f : List Node → γ}
    {cases cases' : List (Case κ (List Node))} (h : CasesReordered cases cases')
    (hf : ∀ body ∈ cases.map Case.body, ∀ body', AllReordered body body' → f body = f body') :
    cases.map (Case.map f) = cases'.map (Case.map f) := by
  induction cases generalizing cases' with
  | nil => cases h; rfl
  | cons c cases ih =>
    cases h with
    | cons first rest =>
      obtain ⟨hbody, hrest⟩ := List.forall_mem_cons.mp hf
      rw [List.map_cons, List.map_cons, ih rest hrest]
      simp only [Case.map, hbody _ first]

end Node

/-- The same message, but for the order of cases. -/
def Message.Reordered (m m' : Message) : Prop := Node.AllReordered m.body m'.body

/-! Choices. -/

section Choice

variable {α β κ : Type}

/-- The order does not matter where at most one is found. -/
theorem find?_of_perm {p : α → Bool} {l l' : List α} (h : l.Perm l')
    (hp : l.Pairwise fun a b => ¬ (p a = true ∧ p b = true)) : l.find? p = l'.find? p := by
  induction h with
  | nil => rfl
  | cons a h ih =>
    rw [List.find?_cons, List.find?_cons, ih (List.pairwise_cons.mp hp).2]
  | swap a b l =>
    have hab : ¬ (p b = true ∧ p a = true) := (List.pairwise_cons.mp hp).1 a List.mem_cons_self
    cases ha : p a <;> cases hb : p b <;> simp_all
  | trans h h' ih ih' =>
    have hp' := h.pairwise hp fun hab hba => hab ⟨hba.2, hba.1⟩
    rw [ih hp, ih' hp']

theorem Matcher.Differs.not_both_exactly {m m' : Matcher} (h : m.Differs m') (number : Decimal) :
    ¬ (m.isExactly number = true ∧ m'.isExactly number = true) := by
  rintro ⟨hm, hm'⟩
  cases m with
  | category name => cases hm
  | exact text a =>
    cases m' with
    | category name => cases hm'
    | exact text' b =>
      have ha : a.value = number.value := Decimal.sameValue_iff.mp hm
      have hb : b.value = number.value := Decimal.sameValue_iff.mp hm'
      exact h (ha.trans hb.symm)

theorem Matcher.Differs.not_both_named {m m' : Matcher} (h : m.Differs m') (c : PluralCategory) :
    ¬ (c.isNamedBy m = true ∧ c.isNamedBy m' = true) := by
  rintro ⟨hm, hm'⟩
  cases m with
  | exact text a => cases hm
  | category name =>
    cases m' with
    | exact text b => cases hm'
    | category name' => exact h ((eq_of_beq hm).trans (eq_of_beq hm').symm)

variable {cases cases' : List (Case Matcher β)}

theorem exactCase?_rearranged (h : Rearranged Matcher.Differs cases cases') (number : Decimal) :
    exactCase? cases number = exactCase? cases' number := by
  rcases h with rfl | ⟨hperm, hdiffer⟩
  · rfl
  · rw [exactCase?, exactCase?, find?_of_perm hperm]
    exact hdiffer.imp fun h => h.not_both_exactly number

theorem categoryCase?_rearranged (h : Rearranged Matcher.Differs cases cases')
    (category : PluralCategory) : categoryCase? cases category = categoryCase? cases' category := by
  rcases h with rfl | ⟨hperm, hdiffer⟩
  · rfl
  · have hnamed := fun c : PluralCategory => hdiffer.imp fun h => h.not_both_named c
    -- that the fallback is looked for from the end makes no difference either
    have hlast := (List.reverse_perm cases).symm.pairwise (hnamed .other) fun h h' => h ⟨h'.2, h'.1⟩
    have hreverse : cases.reverse.Perm cases'.reverse :=
      (List.reverse_perm cases).trans (hperm.trans (List.reverse_perm cases').symm)
    rw [categoryCase?, categoryCase?, find?_of_perm hperm (hnamed category),
      find?_of_perm hreverse hlast]

theorem keyCase?_rearranged {cases cases' : List (Case String β)}
    (h : Rearranged (· ≠ ·) cases cases') (key : String) :
    keyCase? cases key = keyCase? cases' key := by
  rcases h with rfl | ⟨hperm, hdiffer⟩
  · rfl
  · have hkey : ∀ key : String,
        cases.Pairwise fun c d => ¬ ((c.key == key) = true ∧ (d.key == key) = true) :=
      fun key => hdiffer.imp fun h h' => h ((eq_of_beq h'.1).trans (eq_of_beq h'.2).symm)
    rw [keyCase?, keyCase?, find?_of_perm hperm (hkey key), find?_of_perm hperm (hkey _)]

theorem Rearranged.map {γ : Type} {Differ : κ → κ → Prop} {cases cases' : List (Case κ β)}
    (h : Rearranged Differ cases cases') (f : β → γ) :
    Rearranged Differ (cases.map (Case.map f)) (cases'.map (Case.map f)) := by
  rcases h with rfl | ⟨hperm, hdiffer⟩
  · exact .inl rfl
  · exact .inr ⟨hperm.map _, List.pairwise_map.mpr hdiffer⟩

end Choice

namespace Evaluator

variable {ev : Evaluator} {limit : Int} {bare : Outcome String}

theorem pluralCase_rearranged {β : Type} {cases cases' : List (Case Matcher β)}
    (h : Rearranged Matcher.Differs cases cases') (value number : Value) (ordinal : Bool) :
    ev.pluralCase value number ordinal cases = ev.pluralCase value number ordinal cases' := by
  unfold pluralCase
  simp only [exactCase?_rearranged h, categoryCase?_rearranged h]

theorem meaning_reordered {n n' : Node} (h : n.Reordered n')
    (hb : ∀ body ∈ n.bodies, ∀ body', Node.AllReordered body body' →
      ev.meanings limit bare body = ev.meanings limit bare body') :
    ev.meaning limit bare n = ev.meaning limit bare n' := by
  cases h with
  | same => rfl
  | plural bodies order =>
    simp only [meaning, pluralMeanings_eq]
    rw [bodies.map_eq hb]
    simp only [pluralCase_rearranged (order.map _)]
  | select bodies order =>
    simp only [meaning, selectMeanings_eq]
    rw [bodies.map_eq hb]
    simp only [keyCase?_rearranged (order.map _)]
  | tag body =>
    simp only [meaning, hb _ (List.mem_singleton_self _) _ body]

theorem meanings_reordered (ns : List Node) : ∀ ns', Node.AllReordered ns ns' →
    ev.meanings limit bare ns = ev.meanings limit bare ns' := by
  induction ns using Node.bodies_induction with
  | nil =>
    intro ns' h
    cases h
    rfl
  | cons n ns hbodies hrest =>
    intro ns' h
    cases h with
    | cons first rest =>
      funext place
      simp only [meanings, meaning_reordered first hbodies, hrest _ rest]

/-- The cases of plural and select nodes, at any depth, may be put into any order if their keys differ.
The message is then given the same text, or the same error, and makes the same requests to locale data. -/
theorem message_reordered (ev : Evaluator) (limit : Int) {m m' : Message} (h : m.Reordered m') :
    ev.message limit m = ev.message limit m' := by
  rw [message_eq, message_eq, meanings_reordered m.body m'.body h]

/-- The cases of a selection in a case body, and those around it. -/
theorem message_reordered_nested : ∃ m m' : Message,
    m = ⟨[.plural "n" Decimal.zero false
      [⟨.exact "0" Decimal.zero, []⟩, ⟨.exact "1.0" ⟨false, 10, -1⟩, [.hash]⟩,
        ⟨.category "other", [.select "g" [⟨"x", [.hash]⟩, ⟨"other", []⟩]]⟩]]⟩ ∧
    m' = ⟨[.plural "n" Decimal.zero false
      [⟨.category "other", [.select "g" [⟨"other", []⟩, ⟨"x", [.hash]⟩]]⟩,
        ⟨.exact "1.0" ⟨false, 10, -1⟩, [.hash]⟩, ⟨.exact "0" Decimal.zero, []⟩]]⟩ ∧
    m.Reordered m' ∧ ∀ (ev : Evaluator) (limit : Int), ev.message limit m = ev.message limit m' := by
  refine ⟨_, _, rfl, rfl, ?_⟩
  rw [and_iff_left_of_imp fun h ev limit => message_reordered ev limit h]
  have hinner : Node.Reordered (.select "g" [⟨"x", [.hash]⟩, ⟨"other", []⟩])
      (.select "g" [⟨"other", []⟩, ⟨"x", [.hash]⟩]) :=
    .select (.cons (.cons (.same _) .nil) (.cons .nil .nil)) (.inr ⟨.swap _ _ _, by simp⟩)
  have hvalue : Decimal.zero.value ≠ (⟨false, 10, -1⟩ : Decimal).value :=
    mt Decimal.sameValue_iff.mpr (by decide)
  refine .cons (.plural (.cons .nil (.cons (.cons (.same _) .nil) (.cons (.cons hinner .nil) .nil)))
    (.inr ⟨(List.reverse_perm _).symm, ?_⟩)) .nil
  simp [Matcher.Differs, hvalue]

end Evaluator
end MessageFormat

import MessageFormat.Evaluator
import MessageFormat.Proofs.Outcome
import MessageFormat.Proofs.Pattern.Nesting

/-!
Which case is chosen depends on the keys alone, so a choice may be made before the bodies are given a
meaning.
-/

set_option autoImplicit false

namespace MessageFormat

variable {β γ κ : Type}

theorem exactCase?_map (f : β → γ) (cases : List (Case Matcher β)) (number : Decimal) :
    exactCase? (cases.map (Case.map f)) number = (exactCase? cases number).map f := by
  simp [exactCase?, List.find?_map, Function.comp_def, Case.map]

theorem categoryCase?_map (f : β → γ) (cases : List (Case Matcher β)) (category : PluralCategory) :
    categoryCase? (cases.map (Case.map f)) category = (categoryCase? cases category).map f := by
  simp [categoryCase?, ← List.map_reverse, List.find?_map, Function.comp_def, Case.map, ← Option.map_or]

theorem keyCase?_map (f : β → γ) (cases : List (Case String β)) (key : String) :
    keyCase? (cases.map (Case.map f)) key = (keyCase? cases key).map f := by
  simp [keyCase?, List.find?_map, Function.comp_def, Case.map, ← Option.map_or]

theorem mem_of_find? {cases : List (Case κ β)} {p : Case κ β → Bool} {body : β}
    (h : (cases.find? p).map Case.body = some body) : body ∈ cases.map Case.body := by
  obtain ⟨c, hc, rfl⟩ := Option.map_eq_some_iff.mp h
  exact List.mem_map_of_mem (List.mem_of_find?_eq_some hc)

/-- Of two searches the first that finds a case decides. -/
theorem mem_of_find?_or {cases more : List (Case κ β)} {p q : Case κ β → Bool} {body : β}
    (hm : ∀ c ∈ more, c ∈ cases)
    (h : (cases.find? p <|> more.find? q).map Case.body = some body) :
    body ∈ cases.map Case.body := by
  cases hp : cases.find? p with
  | some c => exact mem_of_find? (p := p) (by simpa [hp] using h)
  | none =>
    obtain ⟨c, hc, rfl⟩ := List.mem_map.mp (mem_of_find? (p := q) (by simpa [hp] using h))
    exact List.mem_map_of_mem (hm c hc)

theorem mem_of_keyCase? {cases : List (Case String β)} {key : String} {body : β}
    (h : keyCase? cases key = some body) : body ∈ cases.map Case.body :=
  mem_of_find?_or (fun _ hc => hc) h

namespace Evaluator

variable {ev : Evaluator} {value number : Value} {ordinal : Bool}

theorem pluralCase_map (f : β → γ) (cases : List (Case Matcher β)) :
    ev.pluralCase value number ordinal (cases.map (Case.map f)) =
      f <$> ev.pluralCase value number ordinal cases := by
  unfold pluralCase
  rw [exactCase?_map]
  cases exactCase? cases (value.decimal?.getD Decimal.zero) with
  | some body => exact (map_pure f body).symm
  | none =>
    simp only [Option.map_none, map_bind]
    refine bind_congr fun category => ?_
    rw [categoryCase?_map]
    cases categoryCase? cases category with
    | some body => exact (map_pure f body).symm
    | none => rfl

theorem mem_of_pluralCase {cases : List (Case Matcher β)} {body : β}
    (h : (ev.pluralCase value number ordinal cases).result = .ok body) :
    body ∈ cases.map Case.body := by
  unfold pluralCase at h
  split at h
  · rename_i found hfound
    obtain rfl : found = body := Except.ok.inj h
    exact mem_of_find? hfound
  · obtain ⟨category, -, h⟩ := Outcome.bind_result_eq_ok_iff.mp h
    split at h
    · rename_i found hfound
      obtain rfl : found = body := Except.ok.inj h
      exact mem_of_find?_or (fun c hc => List.mem_reverse.mp hc) hfound
    · cases h

end Evaluator
end MessageFormat

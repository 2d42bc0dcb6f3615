import Mathlib
import MessageFormat.Proofs.Evaluation.Faults
import MessageFormat.Proofs.Evaluation.Scoping
import MessageFormat.Proofs.Pattern.WellFormed

/-!
A pattern that is read within a limit is evaluated within it. What is well-formed in a scope is evaluated
only at places that the scope describes.
-/

set_option autoImplicit false

namespace MessageFormat

open Pattern (Scope)
open Pattern.Grammar

/-- Neither the limit refused a message nor did the evaluator know a node of it. -/
def Error.SparesMessage (e : Error) : Prop :=
  (∀ limit, e ≠ .tooDeep limit) ∧ ∀ kind, e ≠ .foreignNode kind

theorem Outcome.FaultsOnly.sparesMessage {α : Type} {o : Outcome α} (h : o.FaultsOnly) :
    o.FailsBy Error.SparesMessage :=
  h.failsBy fun _ => ⟨fun _ => Error.noConfusion, fun _ => Error.noConfusion⟩

/-- In the body of a plural selection there is a number. -/
def Place.Fits (scope : Scope) (place : Place) : Prop :=
  scope.inPlural = true → place.number.isSome = true

theorem Place.Fits.plural (scope : Scope) (number : Value) (depth : Int) :
    Place.Fits (scope.body true) ⟨some number, depth⟩ := fun _ => rfl

/-- The levels that a limit leaves at a place. -/
def Place.room (limit : Int) (place : Place) : Nat := (limit - place.depth).toNat

namespace Meaning

variable {α : Type} {limit : Int} {m m' : Meaning α} {place : Place}

/-- A body is run one level further in and nowhere else. -/
theorem nested_congr (h : m { place with depth := place.depth + 1 } =
    m' { place with depth := place.depth + 1 }) : m.nested limit place = m'.nested limit place := by
  simp only [nested, h]

/-- The limit refuses nothing where it leaves a level. -/
theorem nested_sparesMessage (hr : 0 < place.room limit)
    (h : (m { place with depth := place.depth + 1 }).FailsBy Error.SparesMessage) :
    (m.nested limit place).FailsBy Error.SparesMessage := by
  have hlt : place.depth < limit := by
    rw [Place.room] at hr
    omega
  by_cases hs : place.depth < Depth.stackLevels
  · rwa [nested_of_lt hlt hs]
  · rw [nested_of_stack hlt (Int.not_lt.mp hs)]
    exact Outcome.failsBy_fail ⟨fun _ => Error.noConfusion, fun _ => Error.noConfusion⟩

end Meaning

namespace Evaluator

open Outcome

variable {ev : Evaluator} {limit : Int} {bare bare' : Outcome String} {scope : Scope} {place : Place}

/-! What `#` means outside of plural selections. -/

theorem meaning_bare {n : Node} (hw : WellFormed scope n) (hp : place.Fits scope)
    (h : ∀ body ∈ n.bodies, ∀ scope, AllWellFormed scope body → ∀ place : Place, place.Fits scope →
      ev.meanings limit bare body place = ev.meanings limit bare' body place) :
    ev.meaning limit bare n place = ev.meaning limit bare' n place := by
  cases n with
  | literal | argument | call => rfl
  | hash =>
    obtain ⟨number, hn⟩ := Option.isSome_iff_exists.mp (hp hw)
    simp only [meaning, hn]
  | plural argument offset ordinal cases =>
    rw [meaning_plural, meaning_plural]
    refine bind_congr fun value => bind_congr fun number => ?_
    refine bind_congr_of_ok fun body hbody => ?_
    have hmem := mem_of_pluralCase hbody
    exact Meaning.nested_congr (h body hmem _ (hw.2.2.2.of_mem body hmem) _ (.plural scope number _))
  | select argument cases =>
    rw [meaning_select, meaning_select]
    refine bind_congr fun value => ?_
    cases hbody : keyCase? cases (ev.graph.selectKey value) with
    | none => rfl
    | some body =>
      have hmem := mem_of_keyCase? hbody
      exact Meaning.nested_congr (h body hmem _ (hw.2.2.of_mem body hmem) _ hp)
  | tag name attributes selfClosing children =>
    have hc : (ev.meanings limit bare children).nested limit place =
        (ev.meanings limit bare' children).nested limit place :=
      Meaning.nested_congr (h children (List.mem_singleton_self _) scope hw.2.2.2.2 _ hp)
    simp only [meaning, hc]
  | «foreign» => exact hw.elim

theorem meanings_bare (ns : List Node) : ∀ scope, AllWellFormed scope ns →
    ∀ place : Place, place.Fits scope →
      ev.meanings limit bare ns place = ev.meanings limit bare' ns place := by
  induction ns using Node.bodies_induction with
  | nil => exact fun _ _ _ _ => rfl
  | cons n ns hbodies hrest =>
    intro scope hw place hp
    rw [meanings, meanings]
    simp only [meaning_bare hw.1 hp hbodies, hrest scope hw.2.2 place hp]

/-! Errors. -/

theorem lookup_sparesMessage (name : String) : (ev.lookup name).FailsBy Error.SparesMessage := by
  refine (faultsOnly_ofFault _).sparesMessage.bind fun v => ?_
  split
  · exact failsBy_fail ⟨fun _ => Error.noConfusion, fun _ => Error.noConfusion⟩
  · exact failsBy_pure _

theorem callLookup_sparesMessage (call : FormatterCall) :
    (ev.callLookup call).FailsBy Error.SparesMessage := by
  refine (lookup_sparesMessage _).bind fun start => ?_
  cases call.endArgument with
  | none => exact failsBy_pure _
  | some name => exact (lookup_sparesMessage name).bind fun stop => failsBy_pure _

theorem pluralCase_sparesMessage {β : Type} (value number : Value) (ordinal : Bool)
    (cases : List (Case Matcher β)) :
    (ev.pluralCase value number ordinal cases).FailsBy Error.SparesMessage :=
  (pluralCase_obeys (fun _ => ⟨fun _ => Error.noConfusion, fun _ => Error.noConfusion⟩)
    (fun _ => ⟨fun _ => Error.noConfusion, fun _ => Error.noConfusion⟩) _ _ _ _).error

theorem meaning_sparesMessage {n : Node} (hbare : bare.FailsBy Error.SparesMessage)
    (hw : WellFormed scope n) (hr : n.levels ≤ place.room limit)
    (h : ∀ body ∈ n.bodies, ∀ scope, AllWellFormed scope body →
      ∀ place : Place, Node.levelsOf body ≤ place.room limit →
        (ev.meanings limit bare body place).FailsBy Error.SparesMessage) :
    (ev.meaning limit bare n place).FailsBy Error.SparesMessage := by
  -- a body takes a level less than the node, and the limit leaves it a level less
  have hbody : ∀ body ∈ n.bodies, ∀ scope, AllWellFormed scope body → ∀ number,
      ((ev.meanings limit bare body).nested limit ⟨number, place.depth⟩).FailsBy
        Error.SparesMessage := by
    intro body hmem scope hb number
    have hlt := Node.levelsOf_lt_of_mem hmem
    simp only [Place.room] at hr
    refine Meaning.nested_sparesMessage ?_ (h body hmem scope hb _ ?_)
    · simp only [Place.room]
      omega
    · simp only [Place.room]
      omega
  cases n with
  | literal => exact failsBy_pure _
  | argument name =>
    exact (lookup_sparesMessage name).bind fun v => (Format.consults_plain v).faultsOnly.sparesMessage
  | call c =>
    exact (callLookup_sparesMessage c).bind fun v => (consults_callText c v).faultsOnly.sparesMessage
  | hash =>
    simp only [meaning]
    split
    · exact hbare
    · exact (Format.consults_plainNumber _).faultsOnly.sparesMessage
  | plural argument offset ordinal cases =>
    rw [meaning_plural]
    refine (lookup_sparesMessage argument).bind fun value => ?_
    refine (consults_pluralNumber ev.context value offset).faultsOnly.sparesMessage.bind fun number => ?_
    refine (pluralCase_sparesMessage _ _ _ _).bind_of_ok fun body hchosen => ?_
    have hmem := mem_of_pluralCase hchosen
    exact hbody body hmem _ (hw.2.2.2.of_mem body hmem) (some number)
  | select argument cases =>
    rw [meaning_select]
    refine (lookup_sparesMessage argument).bind fun value => ?_
    split
    · rename_i body hchosen
      have hmem := mem_of_keyCase? hchosen
      exact hbody body hmem _ (hw.2.2.of_mem body hmem) place.number
    · exact failsBy_fail ⟨fun _ => Error.noConfusion, fun _ => Error.noConfusion⟩
  | tag name attributes selfClosing children =>
    refine (hbody children (List.mem_singleton_self _) scope hw.2.2.2.2 place.number).bind ?_
    exact fun content => (consults_tagText _ _ _ content).faultsOnly.sparesMessage
  | «foreign» => exact hw.elim

theorem meanings_sparesMessage (hbare : bare.FailsBy Error.SparesMessage) (ns : List Node) :
    ∀ scope, AllWellFormed scope ns → ∀ place : Place, Node.levelsOf ns ≤ place.room limit →
      (ev.meanings limit bare ns place).FailsBy Error.SparesMessage := by
  induction ns using Node.bodies_induction with
  | nil => exact fun _ _ _ _ => failsBy_pure ""
  | cons n ns hbodies hrest =>
    intro scope hw place hr
    rw [levelsOf_cons_le_iff] at hr
    refine (meaning_sparesMessage hbare hw.1 hr.1 hbodies).bind fun first => ?_
    exact (hrest scope hw.2.2 place hr.2).bind fun rest => failsBy_pure _

end Evaluator
end MessageFormat

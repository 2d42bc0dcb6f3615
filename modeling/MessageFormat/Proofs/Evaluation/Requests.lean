import MessageFormat.Proofs.Evaluation.Faults
import MessageFormat.Proofs.Evaluation.Scoping

/-!
An evaluation asks each thing of the locale that the data for it comes from, and it does not fail for what is
seen to before it.
-/

set_option autoImplicit false

namespace MessageFormat

open Outcome

/-- Neither a pattern nor a locale is refused any more. -/
def Error.InEvaluation : Error → Prop
  | .malformed .. | .oversized .. | .unsupportedLocale .. => False
  | .missingOption _ | .missingVariable _ | .tooDeep _ | .foreignNode _ | .stackExhausted | .fault _ => True

/-- Every request goes to the locale that the context has its data from, whatever comes out. -/
abbrev Outcome.Served (context : Locale.Context) {α : Type} (o : Outcome α) : Prop :=
  o.Obeys context.Serves Error.InEvaluation

theorem Outcome.Obeys.served {context : Locale.Context} {α : Type} {o : Outcome α}
    (h : o.Consults context) : o.Served context := h.mono fun _ ⟨_, hf⟩ => hf ▸ trivial

theorem Meaning.served_nested {context : Locale.Context} {limit : Int} {m : Meaning String}
    (h : ∀ place, (m place).Served context) (place : Place) :
    (m.nested limit place).Served context := by
  unfold Meaning.nested
  split
  · exact obeys_fail trivial
  · split
    · exact obeys_fail trivial
    · exact h _

namespace Evaluator

variable {ev : Evaluator} {limit : Int} {bare : Outcome String}

theorem served_lookup (name : String) : (ev.lookup name).Served ev.context := by
  refine (consults_ofFault _).served.bind fun v => ?_
  split
  · exact obeys_fail trivial
  · exact obeys_pure _

theorem served_callLookup (call : FormatterCall) : (ev.callLookup call).Served ev.context := by
  refine (served_lookup _).bind fun start => ?_
  cases call.endArgument with
  | none => exact obeys_pure _
  | some name => exact (served_lookup name).bind fun stop => obeys_pure _

/-- A node asks only what it may if `#` and the bodies in it do. -/
theorem served_meaning {n : Node} (hbare : bare.Served ev.context)
    (h : ∀ body ∈ n.bodies, ∀ place, (ev.meanings limit bare body place).Served ev.context)
    (place : Place) : (ev.meaning limit bare n place).Served ev.context := by
  cases n with
  | literal text => exact obeys_pure _
  | argument name => exact (served_lookup name).bind fun v => (Format.consults_plain v).served
  | call c => exact (served_callLookup c).bind fun v => (consults_callText c v).served
  | hash =>
    simp only [meaning]
    split
    · exact hbare
    · exact (Format.consults_plainNumber _).served
  | plural argument offset ordinal cases =>
    rw [meaning_plural]
    refine (served_lookup argument).bind fun value => ?_
    refine (consults_pluralNumber ev.context value offset).served.bind fun number => ?_
    have hchoice : (ev.pluralCase value number ordinal cases).Served ev.context :=
      pluralCase_obeys (fun _ => trivial) (fun _ => trivial) value number ordinal cases
    refine hchoice.bind_of_ok fun body hbody => ?_
    exact Meaning.served_nested (h body (mem_of_pluralCase hbody)) _
  | select argument cases =>
    rw [meaning_select]
    refine (served_lookup argument).bind fun value => ?_
    split
    · rename_i body hbody
      exact Meaning.served_nested (h body (mem_of_keyCase? hbody)) place
    · exact obeys_fail trivial
  | tag name attributes selfClosing children =>
    refine (Meaning.served_nested (h children (List.mem_singleton_self _)) place).bind ?_
    exact fun content => (consults_tagText _ _ _ _).served
  | «foreign» kind => exact obeys_fail trivial

theorem served_meanings (hbare : bare.Served ev.context) (ns : List Node) :
    ∀ place, (ev.meanings limit bare ns place).Served ev.context := by
  induction ns using Node.bodies_induction with
  | nil => exact fun _ => obeys_pure ""
  | cons n ns hbodies hrest =>
    intro place
    refine (served_meaning hbare hbodies place).bind fun first => ?_
    exact (hrest place).bind fun rest => obeys_pure _

theorem served_message (ev : Evaluator) (limit : Int) (m : Message) :
    (ev.message limit m).Served ev.context := by
  rw [message_eq]
  exact served_meanings (obeys_pure "#") m.body {}

end Evaluator

end MessageFormat

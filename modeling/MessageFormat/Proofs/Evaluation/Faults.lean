import MessageFormat.Proofs.Evaluation.Choice
import MessageFormat.Proofs.Format.Requests

/-!
What those steps of an evaluation ask for, and how they can fail, that neither look up an argument nor go
into a body.
-/

set_option autoImplicit false

namespace MessageFormat.Evaluator

open Outcome

variable {ev : Evaluator}

theorem consults_callText (call : FormatterCall) (value : Value) :
    (ev.callText call value).Consults ev.context := by
  unfold callText
  split
  · exact Format.consults_apply _ _ _
  · split
    · exact consults_ofFault _
    · exact obeys_pure _

theorem consults_tagText (name attributes : String) (selfClosing : Bool) (content : String) :
    (ev.tagText name attributes selfClosing content).Consults ev.context := by
  unfold tagText
  split
  · exact consults_ofFault _
  · exact obeys_pure _

theorem consults_pluralNumber (context : Locale.Context) (value : Value) (offset : Decimal) :
    (pluralNumber value offset).Consults context := by
  unfold pluralNumber
  split
  · split
    · exact obeys_pure _
    · exact (consults_arithmetic _).bind fun difference => obeys_pure _
  · exact (consults_arithmetic _).bind fun difference => obeys_pure _

theorem pluralCase_obeys {β : Type} {P : Error → Prop} (hfault : ∀ f, P (.fault f))
    (hoption : ∀ construct, P (.missingOption construct)) (value number : Value) (ordinal : Bool)
    (cases : List (Case Matcher β)) :
    (ev.pluralCase value number ordinal cases).Obeys ev.context.Serves P := by
  unfold pluralCase
  split
  · exact obeys_pure _
  · have hcategory : (ev.context.pluralCategory number ordinal).Consults ev.context :=
      Locale.Context.consults_pluralCategory number ordinal
    refine (hcategory.mono fun e ⟨f, hf⟩ => hf ▸ hfault f).bind fun category => ?_
    split
    · exact obeys_pure _
    · exact obeys_fail (hoption _)

end MessageFormat.Evaluator

import MessageFormat.Proofs.Evaluation.Scoping
import MessageFormat.Proofs.Pattern.Unmarked

/-!
Evaluations bring no angle brackets into a text: neither from arguments without any, nor from selections and
plural numbers.
-/

set_option autoImplicit false

namespace MessageFormat

open Text Outcome

/-- An evaluator whose locale data and arguments bring no angle brackets, without formatters of the host. -/
structure Evaluator.AddsNoMarkup (ev : Evaluator) : Prop where
  context : ev.context.AddsNoMarkup
  arguments : ∀ name, Gives Value.IsUnmarked (ev.arguments.get name)
  formatters : ∀ name, ev.customFormatters.get? name = none

/-- A place without angle brackets in its number. -/
def Place.IsUnmarked (place : Place) : Prop := ∀ v ∈ place.number, v.IsUnmarked

theorem Meaning.yields_nested {limit : Int} {m : Meaning String} {place : Place}
    (h : ∀ place : Place, place.IsUnmarked → (m place).YieldsUnmarked) (hplace : place.IsUnmarked) :
    (m.nested limit place).YieldsUnmarked := by
  unfold Meaning.nested
  split
  · exact yields_fail _
  · split
    · exact yields_fail _
    · exact h _ hplace

namespace Evaluator

theorem yields_pluralNumber {value : Value} (hvalue : value.IsUnmarked) (offset : Decimal) :
    (pluralNumber value offset).Yields Value.IsUnmarked := by
  have hdifference : ∀ difference : Decimal,
      (pure (.decimal (.finite difference)) : Outcome Value).Yields Value.IsUnmarked :=
    fun _ => yields_pure trivial
  unfold pluralNumber
  split
  · split
    · exact yields_pure hvalue
    · exact (yields_any _).bind fun difference _ => hdifference difference
  · exact (yields_any _).bind fun difference _ => hdifference difference

variable {ev : Evaluator} (h : ev.AddsNoMarkup)

include h

theorem yields_lookup (name : String) : (ev.lookup name).Yields Value.IsUnmarked := by
  refine (yields_ofFault (h.arguments name)).bind fun v hv => ?_
  split
  · exact yields_fail _
  · exact yields_pure hv

theorem yields_callLookup (call : FormatterCall) : (ev.callLookup call).Yields Value.IsUnmarked := by
  refine (yields_lookup h _).bind fun start hstart => ?_
  cases call.endArgument with
  | none => exact yields_pure hstart
  | some name =>
    exact (yields_lookup h name).bind fun stop hstop => yields_pure ⟨hstart, hstop, trivial⟩

theorem yields_callText {call : FormatterCall} {value : Value}
    (hcall : Format.StyleUnmarked call.style ∧ Format.SkeletonUnmarked call.skeleton)
    (hvalue : value.IsUnmarked) : (ev.callText call value).YieldsUnmarked := by
  unfold callText
  split
  · exact Format.yields_apply h.context hcall.2 hcall.1 hvalue _
  · rw [h.formatters]
    exact yields_pure (Graph.unmarked_plainText hvalue)

section

variable {limit : Int} {bare : Outcome String} (hbare : bare.YieldsUnmarked)

include hbare

/-- A node brings no angle brackets if `#` and the bodies in it bring none. -/
theorem yields_meaning {n : Node} (hn : n.IsUnmarked)
    (hbodies : ∀ body ∈ n.bodies, ∀ place : Place, place.IsUnmarked →
      (ev.meanings limit bare body place).YieldsUnmarked)
    {place : Place} (hplace : place.IsUnmarked) :
    (ev.meaning limit bare n place).YieldsUnmarked := by
  cases n with
  | literal text => exact yields_pure hn
  | argument name => exact (yields_lookup h name).bind fun v hv => Format.yields_plain h.context hv
  | call c => exact (yields_callLookup h c).bind fun v hv => yields_callText h hn hv
  | hash =>
    simp only [meaning]
    split
    · exact hbare
    · rename_i number hnumber
      exact Format.yields_plainNumber h.context (hplace number hnumber)
  | plural argument offset ordinal cases =>
    rw [meaning_plural]
    refine (yields_lookup h argument).bind fun value hvalue => ?_
    refine (yields_pluralNumber hvalue offset).bind fun number hnumber => ?_
    have hchoice : (ev.pluralCase value number ordinal cases).Yields (· ∈ cases.map Case.body) :=
      fun body hbody => mem_of_pluralCase hbody
    refine hchoice.bind fun body hbody => ?_
    exact Meaning.yields_nested (hbodies body hbody) fun v hv => Option.some.inj hv ▸ hnumber
  | select argument cases =>
    rw [meaning_select]
    refine (yields_lookup h argument).bind fun value hvalue => ?_
    split
    · rename_i body hbody
      exact Meaning.yields_nested (hbodies body (mem_of_keyCase? hbody)) hplace
    · exact yields_fail _
  | tag => exact hn.elim
  | «foreign» kind => exact yields_fail _

theorem yields_meanings {ns : List Node} (hns : Node.AreUnmarked ns) :
    ∀ place : Place, place.IsUnmarked → (ev.meanings limit bare ns place).YieldsUnmarked := by
  induction ns using Node.bodies_induction with
  | nil => exact fun _ _ => yields_pure unmarked_nil
  | cons n ns hbodies hrest =>
    obtain ⟨hn, hinside, hafter⟩ := Node.areUnmarked_cons.mp hns
    intro place hplace
    have hmeaning := yields_meaning h hbare hn (fun body hb => hbodies body hb (hinside body hb)) hplace
    refine hmeaning.bind fun first hfirst => ?_
    refine (hrest hafter place hplace).bind fun rest hrest => ?_
    exact yields_pure (by simp [hfirst, hrest])

end

theorem yields_message (limit : Int) {m : Message} (hm : Node.AreUnmarked m.body) :
    (ev.message limit m).YieldsUnmarked := by
  have hhash : (pure "#" : Outcome String).YieldsUnmarked := yields_pure (by decide)
  rw [message_eq]
  exact yields_meanings h hhash hm {} nofun

end Evaluator
end MessageFormat

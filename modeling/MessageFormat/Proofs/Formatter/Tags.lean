import Mathlib
import MessageFormat.Proofs.Evaluation.Within
import MessageFormat.Proofs.Formatter.Markup
import MessageFormat.Proofs.Pattern.TagMarkup
import MessageFormat.Proofs.Provider

/-!
Markup of messages that are tags and text. It is the tags as they were read, and a pattern again.
-/

set_option autoImplicit false

namespace MessageFormat

open Node (markupAll levelsOf subtrees)
open Outcome (yields_pure yields_fail)

namespace Evaluator

variable {ev : Evaluator} {limit : Int} {bare : Outcome String}

/-- An evaluator that writes every tag again. -/
structure KeepsTags (ev : Evaluator) : Prop where
  markup : ev.markup = true
  handlers : ev.tagHandlers = {}

variable (hev : ev.KeepsTags)

include hev

theorem KeepsTags.tagText (name attributes : String) (selfClosing : Bool) (content : String) :
    ev.tagText name attributes selfClosing content =
      pure (tagMarkup name attributes selfClosing content) := by
  rw [Evaluator.tagText, hev.handlers, hev.markup]
  rfl

/-- Where there is room for its levels the message means its markup. -/
theorem KeepsTags.meanings_eq (ns : List Node) : ∀ place : Place, (∀ n ∈ subtrees ns, n.IsTagOrText) →
    levelsOf ns ≤ place.room (min limit Depth.stackLevels) →
    ev.meanings limit bare ns place = pure (markupAll ns) := by
  induction ns using Node.bodies_induction with
  | nil => exact fun _ _ _ => rfl
  | cons n ns hbodies ih =>
    intro place hkind hroom
    obtain ⟨hkind, hinside, hafter⟩ := Node.forall_subtrees_cons.mp hkind
    rw [Pattern.Grammar.levelsOf_cons_le_iff] at hroom
    have hrest := ih place hafter hroom.2
    have hfirst : ev.meaning limit bare n place = pure n.markup := by
      cases n with
      | literal text => rfl
      | tag name attributes selfClosing children =>
        have hlevels := hroom.1
        simp only [Node.levels, Place.room] at hlevels
        have hlimit : place.depth < limit ∧ place.depth < Depth.stackLevels := by omega
        have hcontent := hbodies children (List.mem_singleton_self _)
          { place with depth := place.depth + 1 } (hinside _ (List.mem_singleton_self _))
          (by simp only [Place.room]; omega)
        simp only [meaning, Meaning.nested_of_lt hlimit.1 hlimit.2, hcontent, pure_bind, hev.tagText]
        rfl
      | _ => exact hkind.elim
    simp only [meanings, hfirst, hrest, pure_bind]
    rfl

/-- Whatever text the message means, it is its markup. -/
theorem KeepsTags.yields_meanings (ns : List Node) : ∀ place : Place, (∀ n ∈ subtrees ns, n.IsTagOrText) →
    (ev.meanings limit bare ns place).Yields (· = markupAll ns) := by
  induction ns using Node.bodies_induction with
  | nil => exact fun _ _ => yields_pure rfl
  | cons n ns hbodies ih =>
    intro place hkind
    obtain ⟨hkind, hinside, hafter⟩ := Node.forall_subtrees_cons.mp hkind
    have hfirst : (ev.meaning limit bare n place).Yields (· = n.markup) := by
      cases n with
      | literal text => exact yields_pure rfl
      | tag name attributes selfClosing children =>
        have hcontent : ((ev.meanings limit bare children).nested limit place).Yields
            (· = markupAll children) := by
          unfold Meaning.nested
          split_ifs
          · exact yields_fail _
          · exact yields_fail _
          · exact hbodies children (List.mem_singleton_self _) _ (hinside _ (List.mem_singleton_self _))
        refine hcontent.bind fun content heq => ?_
        rw [hev.tagText, heq]
        exact yields_pure rfl
      | _ => exact hkind.elim
    refine hfirst.bind fun first heq => (ih place hafter).bind fun rest heq' => ?_
    rw [heq, heq']
    exact yields_pure rfl

/-- Under a limit that is clamped there may be less room than a pattern was read with. -/
theorem KeepsTags.message (limit : Int) {m : Message} (hkind : ∀ n ∈ m.nodes, n.IsTagOrText) :
    (m.FitsWithin (min (Depth.clamp limit).depth Depth.stackLevels) →
      ev.message limit m = pure (markupAll m.body)) ∧
    (ev.message limit m).Yields (· = markupAll m.body) := by
  rw [message_eq]
  refine ⟨fun hfits => ?_, hev.yields_meanings m.body _ hkind⟩
  refine hev.meanings_eq m.body _ hkind ?_
  simpa [Place.room] using Node.fitsWithin_iff.mp hfits

end Evaluator

namespace Formatter

open Evaluator (KeepsTags)
open Pattern.Grammar

variable {f : Formatter} {cache : Option Pattern.Cache}

end Formatter
end MessageFormat

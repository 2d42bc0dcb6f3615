import MessageFormat.Proofs.Evaluation.Meaning

/-!
The evaluator keeps one guard and one stack of numbers for a whole run. What it gives is what the message
means at its place, and both are afterwards as they were.
-/

set_option autoImplicit false

namespace MessageFormat

/-- What an evaluation sees of its surroundings. -/
def Surroundings.place (s : Surroundings) : Place := ⟨s.numbers.head?, s.guard.depth⟩

namespace Evaluation

variable {α β γ : Type} {limit : Int}

/-- Under this limit an evaluation gives what is meant at the place and leaves its surroundings alone. -/
def Realizes (limit : Int) (e : Evaluation α) (m : Meaning α) : Prop :=
  ∀ s : Surroundings, s.guard.limit = limit → e s = ⟨m s.place, s⟩

theorem bind_apply_ok {e : Evaluation α} {f : α → Evaluation β} {s s' : Surroundings}
    {calls : List Locale.Call} {a : α} (h : e s = ⟨⟨calls, .ok a⟩, s'⟩) :
    (e >>= f) s = ⟨⟨calls ++ (f a s').outcome.calls, (f a s').outcome.result⟩, (f a s').after⟩ := by
  simp only [Bind.bind, Evaluation.bind, h]

theorem bind_apply_error {e : Evaluation α} {f : α → Evaluation β} {s s' : Surroundings}
    {calls : List Locale.Call} {error : Error} (h : e s = ⟨⟨calls, .error error⟩, s'⟩) :
    (e >>= f) s = ⟨⟨calls, .error error⟩, s'⟩ := by
  simp only [Bind.bind, Evaluation.bind, h]

theorem realizes_pure (a : α) : Realizes limit (pure a) fun _ => pure a := fun _ _ => rfl

theorem realizes_ofOutcome (o : Outcome α) : Realizes limit (ofOutcome o) fun _ => o :=
  fun _ _ => rfl

theorem ofOutcome_map (o : Outcome α) (f : α → β) (k : β → Evaluation γ) :
    (ofOutcome (f <$> o) >>= k) = ofOutcome o >>= fun a => k (f a) := by
  funext s
  obtain ⟨calls, result⟩ := o
  cases result <;> simp [ofOutcome, Bind.bind, Evaluation.bind, Functor.map, Outcome.bind,
    Outcome.pure]

/-- What follows is run only with what came out before it. -/
theorem Realizes.bind_of_ok {e : Evaluation α} {m : Meaning α} {f : α → Evaluation β}
    {g : α → Meaning β} (he : Realizes limit e m)
    (hf : ∀ place a, (m place).result = .ok a → Realizes limit (f a) (g a)) :
    Realizes limit (e >>= f) fun place => m place >>= fun a => g a place := by
  intro s hs
  have hs' := he s hs
  dsimp only
  cases h : m s.place with
  | mk calls result =>
    rw [h] at hs'
    cases result with
    | error error => rw [bind_apply_error hs']; rfl
    | ok a =>
      have ha := hf s.place a (by rw [h]) s hs
      rw [bind_apply_ok hs', ha]
      rfl

theorem Realizes.bind {e : Evaluation α} {m : Meaning α} {f : α → Evaluation β} {g : α → Meaning β}
    (he : Realizes limit e m) (hf : ∀ a, Realizes limit (f a) (g a)) :
    Realizes limit (e >>= f) fun place => m place >>= fun a => g a place :=
  he.bind_of_ok fun _ a _ => hf a

/-- The number is on the stack for as long as the body runs, however it ends. -/
theorem Realizes.withNumber {e : Evaluation α} {m : Meaning α} (he : Realizes limit e m)
    (number : Value) : Realizes limit (withNumber number e) (m.withNumber number) := by
  intro s hs
  have h := he { s with numbers := number :: s.numbers } hs
  simp only [Evaluation.withNumber, h]
  rfl

theorem realizes_fail (error : Error) :
    Realizes limit (fail error : Evaluation α) fun _ => Outcome.fail error := fun _ _ => rfl

/-- The guard is left again just if it was entered. -/
theorem Realizes.nested {limit : Int} {e : Evaluation α} {m : Meaning α} (he : Realizes limit e m) :
    Realizes limit (nested e) (m.nested limit) := by
  intro s hs
  by_cases hd : limit ≤ s.guard.depth
  · have hx : s.guard.enter = .error (.tooDeep limit) := by
      simp [DepthGuard.enter, DepthGuard.isExceeded, hs, hd]
    have hm : m.nested limit s.place = Outcome.fail (.tooDeep limit) := Meaning.nested_of_limit hd
    simp only [Evaluation.nested, hx, hm]
  · have hx : s.guard.enter = .ok { s.guard with depth := s.guard.depth + 1 } := by
      simp [DepthGuard.enter, DepthGuard.isExceeded, hs, hd]
    have hleave := DepthGuard.leave_of_enter hx
    have hlt : s.place.depth < limit := Int.not_le.mp hd
    simp only [Evaluation.nested, hx]
    by_cases hk : Depth.stackLevels ≤ s.guard.depth
    · rw [if_pos (by omega), Meaning.nested_of_stack hlt hk]
      simp [fail, ofOutcome, hleave]
    · have h := he { s with guard := { s.guard with depth := s.guard.depth + 1 } } hs
      rw [if_neg (by omega), Meaning.nested_of_lt hlt (Int.not_le.mp hk), h, hleave]
      rfl

end Evaluation

namespace Evaluator

open Evaluation

variable {ev : Evaluator} {limit : Int}

theorem realizes_value (name : String) :
    Realizes limit (ev.value name) fun _ => ev.lookup name := by
  refine (realizes_ofOutcome _).bind fun v => ?_
  intro s hs
  cases v <;> cases ev.requireAllVariables <;> rfl

theorem realizes_callValue (call : FormatterCall) :
    Realizes limit (ev.callValue call) fun _ => ev.callLookup call := by
  refine (realizes_value _).bind fun start => ?_
  cases call.endArgument with
  | none => exact realizes_pure _
  | some name => exact (realizes_value name).bind fun stop => realizes_pure _

theorem pluralBranches_eq (cases : List (Case Matcher (List Node))) :
    pluralBranches ev cases = cases.map (Case.map ev.sequence) := by
  induction cases with
  | nil => rfl
  | cons c cases ih => rw [pluralBranches, ih]; rfl

theorem selectBranches_eq (cases : List (Case String (List Node))) :
    selectBranches ev cases = cases.map (Case.map ev.sequence) := by
  induction cases with
  | nil => rfl
  | cons c cases ih => rw [selectBranches, ih]; rfl

/-- A plural selection, with the choice made before its bodies are evaluated. -/
theorem node_plural (argument : String) (offset : Decimal) (ordinal : Bool)
    (cases : List (Case Matcher (List Node))) :
    ev.node (.plural argument offset ordinal cases) = (do
      let value ← ev.value argument
      let number ← ofOutcome (pluralNumber value offset)
      let body ← ofOutcome (ev.pluralCase value number ordinal cases)
      withNumber number (nested (ev.sequence body))) := by
  rw [node, pluralText, pluralBranches_eq]
  simp only [pluralCase_map, ofOutcome_map]

theorem node_select (argument : String) (cases : List (Case String (List Node))) :
    ev.node (.select argument cases) = (do
      let value ← ev.value argument
      match keyCase? cases (ev.graph.selectKey value) with
      | some body => nested (ev.sequence body)
      | none => Evaluation.fail (.missingOption "select")) := by
  rw [node, selectText, selectBranches_eq]
  congr 1
  funext value
  rw [keyCase?_map]
  cases keyCase? cases (ev.graph.selectKey value) <;> rfl

theorem realizes_hashText : Realizes limit ev.hashText (ev.meaning limit (pure "#") .hash) := by
  intro s hs
  obtain ⟨guard, numbers⟩ := s
  cases numbers <;> rfl

/-- A node gives what it means if the bodies in it do. -/
theorem realizes_node {n : Node} (h : ∀ body ∈ n.bodies,
    Realizes limit (ev.sequence body) (ev.meanings limit (pure "#") body)) :
    Realizes limit (ev.node n) (ev.meaning limit (pure "#") n) := by
  cases n with
  | literal text => exact realizes_pure text
  | argument name => exact (realizes_value name).bind fun _ => realizes_ofOutcome _
  | hash => exact realizes_hashText
  | call c => exact (realizes_callValue c).bind fun _ => realizes_ofOutcome _
  | plural argument offset ordinal cases =>
    rw [node_plural, meaning_plural]
    refine (realizes_value argument).bind fun value => ?_
    refine (realizes_ofOutcome _).bind fun number => ?_
    refine (realizes_ofOutcome _).bind_of_ok fun _ body hbody => ?_
    exact (h body (mem_of_pluralCase hbody)).nested.withNumber number
  | select argument cases =>
    rw [node_select, meaning_select]
    refine (realizes_value argument).bind fun value => ?_
    cases hbody : keyCase? cases (ev.graph.selectKey value) with
    | some body => exact (h body (mem_of_keyCase? hbody)).nested
    | none => exact realizes_fail _
  | tag name attributes selfClosing children =>
    exact (h children (List.mem_singleton_self _)).nested.bind fun _ => realizes_ofOutcome _
  | foreign kind => exact realizes_fail _

theorem realizes_sequence (ns : List Node) :
    Realizes limit (ev.sequence ns) (ev.meanings limit (pure "#") ns) := by
  induction ns using Node.bodies_induction with
  | nil => exact realizes_pure ""
  | cons n ns hbodies hrest =>
    exact (realizes_node hbodies).bind fun _ => hrest.bind fun _ => realizes_pure _

/-- A node gives what it means where it stands. -/
theorem node_eq (n : Node) (s : Surroundings) :
    ev.node n s = ⟨ev.meaning s.guard.limit (pure "#") n s.place, s⟩ :=
  realizes_node (fun body _ => realizes_sequence body) s rfl

theorem lookup_eq_of_value {name : String} {value : Value} (h : ev.value name = pure value) :
    ev.lookup name = pure value := by
  have hs : ev.value name ⟨⟨0, 0⟩, []⟩ = ⟨ev.lookup name, ⟨⟨0, 0⟩, []⟩⟩ := realizes_value name _ rfl
  rw [h] at hs
  exact (congrArg Evaluated.outcome hs).symm

theorem message_eq (ev : Evaluator) (limit : Int) (m : Message) : ev.message limit m =
    ev.meanings (Depth.clamp limit).depth (pure "#") m.body {} := by
  rw [message, Evaluation.run, realizes_sequence m.body _ rfl]
  rfl

end Evaluator
end MessageFormat

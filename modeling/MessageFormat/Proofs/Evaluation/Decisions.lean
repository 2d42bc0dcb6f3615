import MessageFormat.Proofs.Evaluation.Scoping

/-!
The decisions of an evaluation: the selections that it comes to, in order, and the case that it takes at each
of them.
-/

set_option autoImplicit false

namespace MessageFormat

/-- A selection and the place of the case that is taken. -/
structure Decision where
  selection : Node
  case : Nat

/-- The cases of a selection with their places, from this one on. -/
def placed {κ β : Type} (first : Nat) : List (Case κ β) → List (Case κ (Nat × β))
  | [] => []
  | c :: cases => ⟨c.key, (first, c.body)⟩ :: placed (first + 1) cases

section Placed

variable {κ β γ : Type}

theorem placed_map_snd (cases : List (Case κ β)) : ∀ first,
    (placed first cases).map (Case.map Prod.snd) = cases := by
  induction cases with
  | nil => exact fun _ => rfl
  | cons c cases ih =>
    intro first
    rw [placed, List.map_cons, ih]
    rfl

theorem placed_map (f : β → γ) (cases : List (Case κ β)) : ∀ first,
    placed first (cases.map (Case.map f)) =
      (placed first cases).map (Case.map fun p => (p.1, f p.2)) := by
  induction cases with
  | nil => exact fun _ => rfl
  | cons c cases ih =>
    intro first
    rw [List.map_cons, placed, ih]
    rfl

theorem mem_of_placed {cases : List (Case κ β)} {first : Nat} {p : Nat × β}
    (h : p ∈ (placed first cases).map Case.body) : p.2 ∈ cases.map Case.body := by
  have hmem := List.mem_map_of_mem (f := Prod.snd) h
  have hmap := congrArg (List.map Case.body) (placed_map_snd cases first)
  rw [List.map_map] at hmem hmap
  rwa [← hmap]

end Placed

/-- An outcome and the decisions that were made on the way to it. -/
structure Decided (α : Type) where
  decisions : List Decision
  outcome : Outcome α

namespace Decided

variable {α β γ : Type}

def ofOutcome (o : Outcome α) : Decided α := ⟨[], o⟩

/-- Nothing is decided after an error. -/
protected def bind (d : Decided α) (f : α → Decided β) : Decided β :=
  ⟨d.decisions ++ d.outcome.result.toOption.elim [] fun a => (f a).decisions,
    d.outcome >>= fun a => (f a).outcome⟩

instance : Monad Decided where
  pure a := ofOutcome (pure a)
  bind := Decided.bind

def decide (decision : Decision) (d : Decided α) : Decided α :=
  ⟨decision :: d.decisions, d.outcome⟩

/-- The same limits on depth as `Meaning.nested`. -/
def nested (limit : Int) (d : Place → Decided α) : Place → Decided α := fun place =>
  if limit ≤ place.depth then ofOutcome (Outcome.fail (.tooDeep limit))
  else if Depth.stackLevels ≤ place.depth then ofOutcome (Outcome.fail .stackExhausted)
  else d { place with depth := place.depth + 1 }

theorem outcome_bind (d : Decided α) (f : α → Decided β) :
    (d >>= f).outcome = d.outcome >>= fun a => (f a).outcome := rfl

theorem pure_bind (a : α) (f : α → Decided β) : ofOutcome (pure a) >>= f = f a := by
  simp [Bind.bind, Decided.bind, ofOutcome, Outcome.bind, Except.toOption]

theorem ofOutcome_bind (o : Outcome α) (f : α → Outcome β) :
    ofOutcome (o >>= f) = ofOutcome o >>= fun a => ofOutcome (f a) := by
  obtain ⟨calls, result⟩ := o
  cases result <;> rfl

theorem ofOutcome_map (o : Outcome α) (f : α → β) (k : β → Decided γ) :
    (ofOutcome (f <$> o) >>= k) = ofOutcome o >>= fun a => k (f a) := by
  obtain ⟨calls, result⟩ := o
  cases result <;> simp [ofOutcome, Bind.bind, Decided.bind, Functor.map, Outcome.bind, Outcome.pure,
    Except.toOption]

theorem outcome_nested_of {limit : Int} {d : Place → Decided α} {m : Meaning α}
    (h : ∀ place, (d place).outcome = m place) (place : Place) :
    (nested limit d place).outcome = m.nested limit place := by
  unfold nested Meaning.nested
  split
  · rfl
  · split
    · rfl
    · exact h _

end Decided

namespace Evaluator

mutual

/-- A node at a place, with the decisions in it. -/
def decided (ev : Evaluator) (limit : Int) : Node → Place → Decided String
  | .plural argument offset ordinal cases => fun place => do
    let value ← Decided.ofOutcome (ev.lookup argument)
    let number ← Decided.ofOutcome (pluralNumber value offset)
    let body ← Decided.ofOutcome
      (ev.pluralCase value number ordinal (placed 0 (pluralDecided ev limit cases)))
    Decided.decide ⟨.plural argument offset ordinal cases, body.1⟩
      (Decided.nested limit body.2 { place with number := some number })
  | .select argument cases => fun place => do
    let value ← Decided.ofOutcome (ev.lookup argument)
    match keyCase? (placed 0 (selectDecided ev limit cases)) (ev.graph.selectKey value) with
    | some body =>
      Decided.decide ⟨.select argument cases, body.1⟩ (Decided.nested limit body.2 place)
    | none => Decided.ofOutcome (Outcome.fail (.missingOption "select"))
  | .tag name attributes selfClosing children => fun place => do
    let content ← Decided.nested limit (decidedAll ev limit children) place
    Decided.ofOutcome (ev.tagText name attributes selfClosing content)
  | n => fun place => Decided.ofOutcome (ev.meaning limit (pure "#") n place)

def decidedAll (ev : Evaluator) (limit : Int) : List Node → Place → Decided String
  | [] => fun _ => pure ""
  | n :: ns => fun place => do
    let first ← decided ev limit n place
    let rest ← decidedAll ev limit ns place
    return first ++ rest

def pluralDecided (ev : Evaluator) (limit : Int) :
    List (Case Matcher (List Node)) → List (Case Matcher (Place → Decided String))
  | [] => []
  | ⟨key, body⟩ :: cases => ⟨key, decidedAll ev limit body⟩ :: pluralDecided ev limit cases

def selectDecided (ev : Evaluator) (limit : Int) :
    List (Case String (List Node)) → List (Case String (Place → Decided String))
  | [] => []
  | ⟨key, body⟩ :: cases => ⟨key, decidedAll ev limit body⟩ :: selectDecided ev limit cases

end

/-- A message from the start, under a limit on nesting. -/
def messageDecided (ev : Evaluator) (limit : Int) (m : Message) : Decided String :=
  ev.decidedAll (Depth.clamp limit).depth m.body {}

variable {ev : Evaluator} {limit : Int}

theorem pluralDecided_eq (cases : List (Case Matcher (List Node))) :
    pluralDecided ev limit cases = cases.map (Case.map (ev.decidedAll limit)) := by
  induction cases with
  | nil => rfl
  | cons c cases ih => rw [pluralDecided, ih]; rfl

theorem selectDecided_eq (cases : List (Case String (List Node))) :
    selectDecided ev limit cases = cases.map (Case.map (ev.decidedAll limit)) := by
  induction cases with
  | nil => rfl
  | cons c cases ih => rw [selectDecided, ih]; rfl

/-- A plural selection, with the choice made before its bodies are evaluated. -/
theorem decided_plural (argument : String) (offset : Decimal) (ordinal : Bool)
    (cases : List (Case Matcher (List Node))) :
    ev.decided limit (.plural argument offset ordinal cases) = fun place => (do
      let value ← Decided.ofOutcome (ev.lookup argument)
      let number ← Decided.ofOutcome (pluralNumber value offset)
      let body ← Decided.ofOutcome (ev.pluralCase value number ordinal (placed 0 cases))
      Decided.decide ⟨.plural argument offset ordinal cases, body.1⟩
        (Decided.nested limit (ev.decidedAll limit body.2) { place with number := some number })) := by
  funext place
  rw [decided, pluralDecided_eq]
  simp only [placed_map, pluralCase_map, Decided.ofOutcome_map]

theorem decided_select (argument : String) (cases : List (Case String (List Node))) :
    ev.decided limit (.select argument cases) = fun place => (do
      let value ← Decided.ofOutcome (ev.lookup argument)
      match keyCase? (placed 0 cases) (ev.graph.selectKey value) with
      | some body =>
        Decided.decide ⟨.select argument cases, body.1⟩
          (Decided.nested limit (ev.decidedAll limit body.2) place)
      | none => Decided.ofOutcome (Outcome.fail (.missingOption "select"))) := by
  funext place
  rw [decided, selectDecided_eq]
  refine bind_congr fun value => ?_
  rw [placed_map, keyCase?_map]
  cases keyCase? (placed 0 cases) (ev.graph.selectKey value) <;> rfl

/-- What is recorded of a node comes to what the node means, if that of its bodies does. -/
theorem outcome_decided {n : Node} (h : ∀ body ∈ n.bodies, ∀ place,
      (ev.decidedAll limit body place).outcome = ev.meanings limit (pure "#") body place)
    (place : Place) :
    (ev.decided limit n place).outcome = ev.meaning limit (pure "#") n place := by
  cases n with
  | literal | argument | call | hash | «foreign» => rfl
  | plural argument offset ordinal cases =>
    rw [decided_plural, meaning_plural]
    refine bind_congr fun value => bind_congr fun number => ?_
    rw [← placed_map_snd cases 0, pluralCase_map, bind_map_left, placed_map_snd]
    refine Outcome.bind_congr_of_ok fun body hbody => ?_
    have hmem : body.2 ∈ cases.map Case.body := mem_of_placed (mem_of_pluralCase hbody)
    exact Decided.outcome_nested_of (h body.2 hmem) _
  | select argument cases =>
    rw [decided_select, meaning_select]
    refine bind_congr fun value => ?_
    rw [← placed_map_snd cases 0, keyCase?_map, placed_map_snd]
    dsimp only
    cases hbody : keyCase? (placed 0 cases) (ev.graph.selectKey value) with
    | none => rfl
    | some body => exact Decided.outcome_nested_of (h body.2 (mem_of_placed (mem_of_keyCase? hbody))) place
  | tag name attributes selfClosing children =>
    rw [decided, meaning, Decided.outcome_bind]
    rw [Decided.outcome_nested_of (h children (List.mem_singleton_self _))]
    rfl

theorem outcome_decidedAll (ns : List Node) : ∀ place,
    (ev.decidedAll limit ns place).outcome = ev.meanings limit (pure "#") ns place := by
  induction ns using Node.bodies_induction with
  | nil => exact fun _ => rfl
  | cons n ns hbodies hrest =>
    intro place
    rw [decidedAll, meanings, Decided.outcome_bind, outcome_decided hbodies]
    refine bind_congr fun first => ?_
    rw [Decided.outcome_bind, hrest]
    rfl

/-- Nothing but the record is added. -/
theorem outcome_messageDecided (ev : Evaluator) (limit : Int) (m : Message) :
    (ev.messageDecided limit m).outcome = ev.message limit m := by
  rw [message_eq]
  exact outcome_decidedAll m.body {}

end Evaluator
end MessageFormat

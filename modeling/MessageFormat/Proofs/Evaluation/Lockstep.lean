import MessageFormat.Proofs.Evaluation.Decisions
import MessageFormat.Proofs.Evaluation.Faults

/-!
When two evaluations of one message take the same cases. It is enough that the subject of each selection is
seen as the same digits, or selects by the same key, in both.
-/

set_option autoImplicit false

namespace MessageFormat

open Outcome (FaultsOnly)

/-- Two places of the same depth that both have a number for `#`, or both none. -/
structure Place.Alike (p q : Place) : Prop where
  number : p.number.isSome = q.number.isSome
  depth : p.depth = q.depth

namespace Decided

variable {α β γ δ : Type}

/-- Two results that are related, or the same error twice. -/
def Ends (R : α → β → Prop) : Except Error α → Except Error β → Prop
  | .ok a, .ok b => R a b
  | .error e, .error e' => e = e'
  | _, _ => False

/-- A fault has ended it. -/
def Broken (d : Decided α) : Prop := ∃ f, d.outcome.result = .error (.fault f)

/-- The two decide alike and end alike, or a fault ends one of them earlier than the other. -/
def Agrees (R : α → β → Prop) (d : Decided α) (d' : Decided β) : Prop :=
  d.decisions = d'.decisions ∧ Ends R d.outcome.result d'.outcome.result ∨
    d.Broken ∧ d.decisions <+: d'.decisions ∨ d'.Broken ∧ d'.decisions <+: d.decisions

variable {R : α → β → Prop} {S : γ → δ → Prop}

theorem Agrees.result_eq_iff {d : Decided α} {d' : Decided β} (h : d.Agrees R d')
    (hd : ¬ d.Broken) (hd' : ¬ d'.Broken) :
    d.decisions = d'.decisions ∧
      ∀ e, d.outcome.result = .error e ↔ d'.outcome.result = .error e := by
  rcases h with ⟨hdecisions, hends⟩ | h | h
  · refine ⟨hdecisions, fun e => ?_⟩
    generalize d.outcome.result = r at hends ⊢
    generalize d'.outcome.result = r' at hends ⊢
    match r, r', hends with
    | .ok _, .ok _, _ => exact ⟨nofun, nofun⟩
    | .error _, .error _, rfl => simp
  · exact (hd h.1).elim
  · exact (hd' h.1).elim

theorem agrees_pure {a : α} {b : β} (h : R a b) :
    (pure a : Decided α).Agrees R (pure b) := .inl ⟨rfl, h⟩

theorem agrees_ofOutcome {R : α → α → Prop} {o : Outcome α}
    (h : ∀ a, o.result = .ok a → R a a) : (ofOutcome o).Agrees R (ofOutcome o) := by
  refine .inl ⟨rfl, ?_⟩
  obtain ⟨calls, result⟩ := o
  cases result with
  | ok a => exact h a rfl
  | error e => exact rfl

theorem agrees_fail (e : Error) :
    (ofOutcome (Outcome.fail e)).Agrees R (ofOutcome (Outcome.fail e)) := .inl ⟨rfl, rfl⟩

/-- Where nothing is decided there is nothing to agree on. -/
theorem agrees_ofFaults {o : Outcome α} {o' : Outcome β} (ho : o.FaultsOnly) (ho' : o'.FaultsOnly) :
    (ofOutcome o).Agrees (fun _ _ => True) (ofOutcome o') := by
  obtain ⟨calls, result⟩ := o
  obtain ⟨calls', result'⟩ := o'
  cases result with
  | error e =>
    obtain ⟨f, rfl⟩ := ho e rfl
    exact .inr (.inl ⟨⟨f, rfl⟩, List.nil_prefix⟩)
  | ok a =>
    cases result' with
    | error e =>
      obtain ⟨f, rfl⟩ := ho' e rfl
      exact .inr (.inr ⟨⟨f, rfl⟩, List.nil_prefix⟩)
    | ok b => exact .inl ⟨rfl, trivial⟩

theorem broken_bind {d : Decided α} (h : d.Broken) (f : α → Decided β) :
    (d >>= f).Broken ∧ (d >>= f).decisions = d.decisions := by
  obtain ⟨fault, h⟩ := h
  obtain ⟨decisions, calls, result⟩ := d
  obtain rfl : result = .error (.fault fault) := h
  exact ⟨⟨fault, rfl⟩, List.append_nil _⟩

theorem prefix_bind (d : Decided α) (f : α → Decided β) :
    d.decisions <+: (d >>= f).decisions := List.prefix_append _ _

theorem Agrees.bind {d : Decided α} {d' : Decided β} {f : α → Decided γ} {f' : β → Decided δ}
    (h : d.Agrees R d') (hf : ∀ a b, R a b → (f a).Agrees S (f' b)) :
    (d >>= f).Agrees S (d' >>= f') := by
  rcases h with ⟨hdecisions, hends⟩ | ⟨hbroken, hprefix⟩ | ⟨hbroken, hprefix⟩
  · obtain ⟨decisions, calls, result⟩ := d
    obtain ⟨decisions', calls', result'⟩ := d'
    obtain rfl : decisions = decisions' := hdecisions
    match result, result', hends with
    | .error e, .error _, rfl => exact .inl ⟨rfl, rfl⟩
    | .ok a, .ok b, hab =>
      rcases hf a b hab with ⟨heq, hnext⟩ | ⟨⟨fault, hfault⟩, hnext⟩ | ⟨⟨fault, hfault⟩, hnext⟩
      · exact .inl ⟨congrArg (decisions ++ ·) heq, hnext⟩
      · exact .inr (.inl ⟨⟨fault, hfault⟩, (List.prefix_append_right_inj decisions).mpr hnext⟩)
      · exact .inr (.inr ⟨⟨fault, hfault⟩, (List.prefix_append_right_inj decisions).mpr hnext⟩)
  · obtain ⟨hbroken', heq⟩ := broken_bind hbroken f
    exact .inr (.inl ⟨hbroken', heq ▸ hprefix.trans (prefix_bind d' f')⟩)
  · obtain ⟨hbroken', heq⟩ := broken_bind hbroken f'
    exact .inr (.inr ⟨hbroken', heq ▸ hprefix.trans (prefix_bind d f)⟩)

theorem Agrees.decide {d : Decided α} {d' : Decided β} (h : d.Agrees R d') (decision : Decision) :
    (decide decision d).Agrees R (decide decision d') := by
  rcases h with ⟨hdecisions, hends⟩ | ⟨hbroken, hprefix⟩ | ⟨hbroken, hprefix⟩
  · exact .inl ⟨congrArg (decision :: ·) hdecisions, hends⟩
  · exact .inr (.inl ⟨hbroken, (List.prefix_cons_inj decision).mpr hprefix⟩)
  · exact .inr (.inr ⟨hbroken, (List.prefix_cons_inj decision).mpr hprefix⟩)

theorem Agrees.nested {limit : Int} {d : Place → Decided α} {d' : Place → Decided β}
    (h : ∀ p q, p.Alike q → (d p).Agrees R (d' q)) {p q : Place} (hpq : p.Alike q) :
    (nested limit d p).Agrees R (nested limit d' q) := by
  unfold Decided.nested
  rw [hpq.depth]
  split
  · exact agrees_fail _
  · split
    · exact agrees_fail _
    · exact h _ _ ⟨hpq.number, rfl⟩

end Decided

/-- Both arguments hold something of this name, or both nothing, and what they hold is related. -/
def Arguments.Matched (a b : Arguments) (R : Value → Value → Prop) (name : String) : Prop :=
  ∃ v w, a.get name = .ok v ∧ b.get name = .ok w ∧ (v = .null ↔ w = .null) ∧ R v w

/-- Two values of which a node makes the same choice, if it makes one. -/
def Node.Confuses (g : Graph) : Node → Value → Value → Prop
  | .plural .., v, w => v.digits? = w.digits?
  | .select .., v, w => g.selectKey v = g.selectKey w
  | _, _, _ => True

namespace Evaluator

open Decided

/-- Two evaluators for one locale that take null alike and read the same nodes. -/
structure Parallel (ev ev' : Evaluator) : Prop where
  context : ev.context = ev'.context
  graph : ev.graph = ev'.graph
  required : ev.requireAllVariables = ev'.requireAllVariables

theorem agrees_pluralNumber {v w : Value} (h : v.digits? = w.digits?) (offset : Decimal) :
    (ofOutcome (pluralNumber v offset)).Agrees (fun m n => m.digits? = n.digits?)
      (ofOutcome (pluralNumber w offset)) := by
  have hd : v.decimal? = w.decimal? := by rw [Value.decimal?, h, Value.decimal?]
  unfold pluralNumber
  rw [hd]
  split
  · split
    · exact agrees_pure h
    · exact agrees_ofOutcome fun _ _ => rfl
  · exact agrees_ofOutcome fun _ _ => rfl

theorem lookup_of_null {ev : Evaluator} {name : String} (h : ev.arguments.get name = .ok .null)
    (hrequired : ev.requireAllVariables = true) :
    ev.lookup name = Outcome.fail (.missingVariable name) := by
  rw [lookup, h, hrequired]
  rfl

theorem lookup_of_value {ev : Evaluator} {name : String} {v : Value}
    (h : ev.arguments.get name = .ok v) (hv : ev.requireAllVariables = true → v ≠ .null) :
    ev.lookup name = pure v := by
  rw [lookup, h]
  cases hrequired : ev.requireAllVariables with
  | false => cases v <;> rfl
  | true =>
    have hne := hv hrequired
    cases v with
    | null => exact (hne rfl).elim
    | _ => rfl

section Parallel

variable {ev ev' : Evaluator} {limit : Int} (hpar : ev.Parallel ev')

include hpar

theorem Parallel.pluralCase_eq {β : Type} {v w m n : Value} (h : v.digits? = w.digits?)
    (hn : m.digits? = n.digits?) (ordinal : Bool) (cases : List (Case Matcher β)) :
    ev.pluralCase v m ordinal cases = ev'.pluralCase w n ordinal cases := by
  have hv : v.decimal? = w.decimal? := by rw [Value.decimal?, h, Value.decimal?]
  have hm : m.decimal? = n.decimal? := by rw [Value.decimal?, hn, Value.decimal?]
  have hoperands : PluralOperands.ofValue m = PluralOperands.ofValue n := by
    simp only [PluralOperands.ofValue, PluralOperands.exponentOf, hn, hm]
  simp only [pluralCase, Locale.Context.pluralCategory, hpar.context, hv, hoperands]

theorem Parallel.lookup_cases {R : Value → Value → Prop} {name : String}
    (h : ev.arguments.Matched ev'.arguments R name) :
    (∃ e, ev.lookup name = .fail e ∧ ev'.lookup name = .fail e) ∨
      ∃ v w, ev.lookup name = pure v ∧ ev'.lookup name = pure w ∧ R v w := by
  obtain ⟨v, w, hv, hw, hnull, hvw⟩ := h
  by_cases hmissing : ev.requireAllVariables = true ∧ v = .null
  · obtain ⟨hrequired, rfl⟩ := hmissing
    obtain rfl := hnull.mp rfl
    exact .inl ⟨_, lookup_of_null hv hrequired,
      lookup_of_null hw (hpar.required.symm.trans hrequired)⟩
  · have hne : ev.requireAllVariables = true → v ≠ .null := fun hr hv => hmissing ⟨hr, hv⟩
    exact .inr ⟨v, w, lookup_of_value hv hne,
      lookup_of_value hw fun hr => mt hnull.mpr (hne (hpar.required.trans hr)), hvw⟩

theorem Parallel.lookup {R : Value → Value → Prop} {name : String}
    (h : ev.arguments.Matched ev'.arguments R name) :
    (ofOutcome (ev.lookup name)).Agrees R (ofOutcome (ev'.lookup name)) := by
  obtain ⟨e, hl, hl'⟩ | ⟨v, w, hl, hl', hvw⟩ := hpar.lookup_cases h
  · rw [hl, hl']
    exact agrees_fail e
  · rw [hl, hl']
    exact agrees_pure hvw

theorem Parallel.callLookup {call : FormatterCall} (h : ∀ x ∈ (Node.call call).ownNames,
      ev.arguments.Matched ev'.arguments (fun _ _ => True) x) :
    (ofOutcome (ev.callLookup call)).Agrees (fun _ _ => True) (ofOutcome (ev'.callLookup call)) := by
  simp only [Evaluator.callLookup, ofOutcome_bind]
  refine (hpar.lookup (h _ List.mem_cons_self)).bind fun _ _ _ => ?_
  cases hend : call.endArgument with
  | none => exact agrees_pure trivial
  | some name =>
    simp only [ofOutcome_bind]
    refine (hpar.lookup (h name (by simp [Node.ownNames, hend]))).bind fun _ _ _ => ?_
    exact agrees_pure trivial

/-- Two evaluations of a node decide alike if those of its bodies do and if its choice is the same. -/
theorem Parallel.decided {n : Node}
    (hown : ∀ x ∈ n.ownNames, ev.arguments.Matched ev'.arguments (n.Confuses ev.graph) x)
    (h : ∀ body ∈ n.bodies, ∀ p q, Place.Alike p q →
      (ev.decidedAll limit body p).Agrees (fun _ _ => True) (ev'.decidedAll limit body q))
    {p q : Place} (hpq : p.Alike q) :
    (ev.decided limit n p).Agrees (fun _ _ => True) (ev'.decided limit n q) := by
  cases n with
  | literal text => exact agrees_pure trivial
  | argument name =>
    simp only [Evaluator.decided, meaning, ofOutcome_bind]
    refine (hpar.lookup (hown name (List.mem_singleton_self _))).bind fun v w _ => ?_
    exact agrees_ofFaults (Format.consults_plain v).faultsOnly (Format.consults_plain w).faultsOnly
  | call c =>
    simp only [Evaluator.decided, meaning, ofOutcome_bind]
    refine (hpar.callLookup hown).bind fun v w _ => ?_
    exact agrees_ofFaults (consults_callText c v).faultsOnly (consults_callText c w).faultsOnly
  | hash =>
    have hnumber := hpq.number
    obtain ⟨m, depth⟩ := p
    obtain ⟨n, depth'⟩ := q
    cases m with
    | none =>
      obtain rfl : n = none := Option.isNone_iff_eq_none.mp (by simpa using hnumber)
      exact agrees_pure trivial
    | some m =>
      obtain ⟨n, rfl⟩ := Option.isSome_iff_exists.mp hnumber.symm
      exact agrees_ofFaults (Format.consults_plainNumber m).faultsOnly
        (Format.consults_plainNumber n).faultsOnly
  | plural argument offset ordinal cases =>
    simp only [decided_plural]
    refine (hpar.lookup (hown argument (List.mem_singleton_self _))).bind fun v w hvw => ?_
    refine (agrees_pluralNumber hvw offset).bind fun m n hmn => ?_
    rw [hpar.pluralCase_eq hvw hmn]
    refine (agrees_ofOutcome (R := fun c d => c = d ∧ c.2 ∈ cases.map Case.body)
      fun body hbody => ⟨rfl, mem_of_placed (mem_of_pluralCase hbody)⟩).bind ?_
    rintro body _ ⟨rfl, hbody⟩
    have hplaces : Place.Alike { p with number := some m } { q with number := some n } :=
      ⟨rfl, hpq.depth⟩
    exact (Agrees.nested (h _ hbody) hplaces).decide _
  | select argument cases =>
    simp only [decided_select]
    refine (hpar.lookup (hown argument (List.mem_singleton_self _))).bind fun v w hvw => ?_
    have hkey : ev.graph.selectKey v = ev'.graph.selectKey w := hpar.graph ▸ hvw
    rw [hkey]
    split
    · rename_i body hbody
      exact (Agrees.nested (h _ (mem_of_placed (mem_of_keyCase? hbody))) hpq).decide _
    · exact agrees_fail _
  | tag name attributes selfClosing children =>
    simp only [Evaluator.decided]
    refine (Agrees.nested (h _ (List.mem_singleton_self _)) hpq).bind fun _ _ _ => ?_
    exact agrees_ofFaults (consults_tagText _ _ _ _).faultsOnly (consults_tagText _ _ _ _).faultsOnly
  | «foreign» kind => exact agrees_fail _

theorem Parallel.decidedAll (ns : List Node) (h : ∀ n ∈ Node.subtrees ns, ∀ x ∈ n.ownNames,
      ev.arguments.Matched ev'.arguments (n.Confuses ev.graph) x) :
    ∀ p q, Place.Alike p q →
      (ev.decidedAll limit ns p).Agrees (fun _ _ => True) (ev'.decidedAll limit ns q) := by
  induction ns using Node.bodies_induction with
  | nil => exact fun _ _ _ => agrees_pure trivial
  | cons n ns hbodies hrest =>
    intro p q hpq
    obtain ⟨hown, hinside, hafter⟩ := Node.forall_subtrees_cons.mp h
    have hbody := fun body hb => hbodies body hb (hinside body hb)
    refine (hpar.decided hown hbody hpq).bind fun _ _ _ => ?_
    exact (hrest hafter p q hpq).bind fun _ _ _ => agrees_pure trivial

/-- Two evaluations of a message decide alike where both find the same arguments null and no selection can
tell its subject in one from that in the other. What the formatters, the handlers and the tags make of
it does not matter. -/
theorem Parallel.messageDecided (limit : Int) (m : Message) (h : ∀ n ∈ m.nodes, ∀ x ∈ n.ownNames,
      ev.arguments.Matched ev'.arguments (n.Confuses ev.graph) x) :
    (ev.messageDecided limit m).Agrees (fun _ _ => True) (ev'.messageDecided limit m) :=
  hpar.decidedAll m.body h {} {} ⟨rfl, rfl⟩

end Parallel

end Evaluator
end MessageFormat

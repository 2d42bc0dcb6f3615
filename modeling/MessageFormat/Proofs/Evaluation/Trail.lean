import MessageFormat.Proofs.Evaluation.Meaning

/-!
The trail of an evaluation: the arguments that it looks up and the requests that it makes, in order, and
how it ends. There are several ways to take a trail as an outcome.
-/

set_option autoImplicit false

namespace MessageFormat

/-- What an evaluation does, one thing after the other. -/
inductive Event where
  | call (call : Locale.Call)
  | lookup (name : String) (value : Value)

namespace Event

def call? : Event → Option Locale.Call
  | .call c => some c
  | .lookup .. => none

/-- The name that is looked up in vain. -/
def nullName? : Event → Option String
  | .lookup name .null => some name
  | _ => none

theorem eq_of_nullName? {e : Event} {name : String} (h : e.nullName? = some name) :
    e = .lookup name .null := by
  unfold nullName? at h
  split at h
  · rw [Option.some.inj h]
  · cases h

end Event

structure Trail (α : Type) where
  events : List Event
  result : Except Error α

namespace Trail

variable {α β : Type}

protected def pure (a : α) : Trail α := ⟨[], .ok a⟩

protected def bind (t : Trail α) (f : α → Trail β) : Trail β :=
  match t.result with
  | .ok a =>
    let next := f a
    ⟨t.events ++ next.events, next.result⟩
  | .error e => ⟨t.events, .error e⟩

instance : Monad Trail where
  pure := Trail.pure
  bind := Trail.bind

def ofOutcome (o : Outcome α) : Trail α := ⟨o.calls.map .call, o.result⟩

/-- The value of an argument, be it null. -/
def lookup (arguments : Arguments) (name : String) : Trail Value :=
  match arguments.get name with
  | .ok value => ⟨[.lookup name value], .ok value⟩
  | .error fault => ⟨[], .error (.fault fault)⟩

/-- The same limits on depth as `Meaning.nested`. -/
def nested (limit : Int) (t : Place → Trail α) : Place → Trail α := fun place =>
  if limit ≤ place.depth then ofOutcome (Outcome.fail (.tooDeep limit))
  else if Depth.stackLevels ≤ place.depth then ofOutcome (Outcome.fail .stackExhausted)
  else t { place with depth := place.depth + 1 }

def withNumber (number : Value) (t : Place → Trail α) : Place → Trail α := fun place =>
  t { place with number := some number }

/-- The outcome, with the look-ups forgotten. -/
def outcome (t : Trail α) : Outcome α := ⟨t.events.filterMap Event.call?, t.result⟩

/-- The name of the first look-up of null. -/
def firstNull? (t : Trail α) : Option String := t.events.findSome? Event.nullName?

/-- What happens before the first look-up of null. -/
def unspoiled (t : Trail α) : List Event := t.events.takeWhile fun e => e.nullName?.isNone

/-- The outcome if the first look-up of null is an error. -/
def cut (t : Trail α) : Outcome α :=
  match t.firstNull? with
  | none => t.outcome
  | some name => ⟨t.unspoiled.filterMap Event.call?, .error (.missingVariable name)⟩

/-- A way to take trails as outcomes that takes what follows a result in the same way. -/
structure Reading where
  read : {α : Type} → Trail α → Outcome α
  read_ofOutcome : ∀ {α : Type} (o : Outcome α), read (ofOutcome o) = o
  read_bind : ∀ {α β : Type} (t : Trail α) (f : α → Trail β),
    read (t >>= f) = read t >>= fun a => read (f a)

theorem Reading.read_pure (ρ : Reading) (a : α) : ρ.read (pure a) = pure a :=
  ρ.read_ofOutcome (pure a)

theorem ok_bind (events : List Event) (a : α) (f : α → Trail β) :
    (⟨events, .ok a⟩ : Trail α) >>= f = ⟨events ++ (f a).events, (f a).result⟩ := rfl

theorem outcome_ofOutcome (o : Outcome α) : (ofOutcome o).outcome = o := by
  have h : (o.calls.map Event.call).filterMap Event.call? = o.calls := by
    rw [List.filterMap_map]
    exact List.filterMap_some
  simp only [outcome, ofOutcome, h]

theorem outcome_bind (t : Trail α) (f : α → Trail β) :
    (t >>= f).outcome = t.outcome >>= fun a => (f a).outcome := by
  obtain ⟨events, result⟩ := t
  cases result with
  | error e => rfl
  | ok a => simp [ok_bind, outcome, Outcome.bind]

theorem cut_of_null {t : Trail α} {name : String} (h : t.firstNull? = some name) :
    t.cut = ⟨t.unspoiled.filterMap Event.call?, .error (.missingVariable name)⟩ := by
  simp only [cut, h]

theorem cut_of_no_null {t : Trail α} (h : t.firstNull? = none) : t.cut = t.outcome := by
  simp only [cut, h]

/-- Nothing that follows comes before a look-up of null. -/
theorem unspoiled_bind_of_null {t : Trail α} {name : String} (h : t.firstNull? = some name)
    (f : α → Trail β) :
    (t >>= f).firstNull? = some name ∧ (t >>= f).unspoiled = t.unspoiled := by
  obtain ⟨events, result⟩ := t
  cases result with
  | error e => exact ⟨h, rfl⟩
  | ok a =>
    simp only [ok_bind, firstNull?, unspoiled, List.findSome?_append] at h ⊢
    refine ⟨by rw [h]; rfl, ?_⟩
    obtain ⟨before, e, after, rfl, he, hb⟩ := List.findSome?_eq_some_iff.mp h
    have hbefore : ∀ x ∈ before, x.nullName?.isNone = true := fun x hx => by simp [hb x hx]
    simp [List.takeWhile_append_of_pos hbefore, he]

theorem cut_bind (t : Trail α) (f : α → Trail β) :
    (t >>= f).cut = t.cut >>= fun a => (f a).cut := by
  cases h : t.firstNull? with
  | some name =>
    obtain ⟨hnull, hevents⟩ := unspoiled_bind_of_null h f
    rw [cut_of_null hnull, cut_of_null h, hevents]
    rfl
  | none =>
    rw [cut_of_no_null h]
    obtain ⟨events, result⟩ := t
    cases result with
    | error e => exact cut_of_no_null h
    | ok a =>
      have hnone : ∀ e ∈ events, e.nullName? = none := List.findSome?_eq_none_iff.mp h
      have hnull : (⟨events, .ok a⟩ >>= f : Trail β).firstNull? = (f a).firstNull? := by
        simp only [ok_bind, firstNull?, List.findSome?_append, List.findSome?_eq_none_iff.mpr hnone,
          Option.none_or]
      cases hf : (f a).firstNull? with
      | none =>
        rw [cut_of_no_null (hnull.trans hf), outcome_bind]
        simp [outcome, Outcome.bind, cut_of_no_null hf]
      | some name =>
        have hevents : (⟨events, .ok a⟩ >>= f : Trail β).unspoiled = events ++ (f a).unspoiled :=
          List.takeWhile_append_of_pos fun e he => by simp [hnone e he]
        rw [cut_of_null (hnull.trans hf), hevents]
        simp [outcome, Outcome.bind, cut_of_null hf]

theorem cut_ofOutcome (o : Outcome α) : (ofOutcome o).cut = o := by
  have h : (ofOutcome o).firstNull? = none := by
    simp [firstNull?, ofOutcome, Event.nullName?]
  rw [cut_of_no_null h, outcome_ofOutcome]

/-- All of the trail counts. -/
def Reading.whole : Reading := ⟨outcome, outcome_ofOutcome, outcome_bind⟩

/-- The trail counts up to its first look-up of null. -/
def Reading.upToNull : Reading := ⟨cut, cut_ofOutcome, cut_bind⟩

/-! What is on a trail, and how it ends. -/

structure Obeys (P : Event → Prop) (Q : Error → Prop) (t : Trail α) : Prop where
  events : ∀ e ∈ t.events, P e
  error : ∀ e, t.result = .error e → Q e

variable {P : Event → Prop} {Q : Error → Prop}

theorem obeys_pure (a : α) : (pure a : Trail α).Obeys P Q :=
  ⟨fun _ h => (List.not_mem_nil h).elim, fun _ h => nomatch h⟩

theorem obeys_ofOutcome (hP : ∀ c, P (.call c)) {o : Outcome α} (h : o.FailsBy Q) :
    (ofOutcome o).Obeys P Q := by
  refine ⟨fun e he => ?_, h⟩
  obtain ⟨c, -, rfl⟩ := List.mem_map.mp he
  exact hP c

theorem Obeys.bind_of_ok {t : Trail α} {f : α → Trail β} (ht : t.Obeys P Q)
    (hf : ∀ a, t.result = .ok a → (f a).Obeys P Q) : (t >>= f).Obeys P Q := by
  obtain ⟨events, result⟩ := t
  cases result with
  | error e =>
    refine ⟨ht.events, fun e' he => ht.error e' ?_⟩
    obtain rfl : e = e' := Except.error.inj he
    rfl
  | ok a =>
    have ha := hf a rfl
    refine ⟨fun e he => ?_, ha.error⟩
    rcases List.mem_append.mp he with he | he
    · exact ht.events e he
    · exact ha.events e he

theorem Obeys.bind {t : Trail α} {f : α → Trail β} (ht : t.Obeys P Q)
    (hf : ∀ a, (f a).Obeys P Q) : (t >>= f).Obeys P Q :=
  ht.bind_of_ok fun a _ => hf a

theorem Obeys.nested {limit : Int} {t : Place → Trail α} (hP : ∀ c, P (.call c))
    (hdeep : Q (.tooDeep limit)) (hstack : Q .stackExhausted) (h : ∀ place, (t place).Obeys P Q)
    (place : Place) : (nested limit t place).Obeys P Q := by
  unfold Trail.nested
  split
  · exact obeys_ofOutcome hP (Outcome.failsBy_fail hdeep)
  · split
    · exact obeys_ofOutcome hP (Outcome.failsBy_fail hstack)
    · exact h _

end Trail
end MessageFormat

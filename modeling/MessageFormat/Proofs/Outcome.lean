import MessageFormat.Outcome

/-!
Laws of outcomes: what they ask for and how they can fail.
-/

set_option autoImplicit false

namespace MessageFormat

/-- Whatever comes out, it has this property. -/
def Gives {ε α : Type} (P : α → Prop) (r : Except ε α) : Prop := ∀ a, r = .ok a → P a

section Gives

variable {ε ε' α β : Type} {P : α → Prop} {Q : β → Prop}

theorem gives_ok {a : α} (h : P a) : Gives P (.ok a : Except ε α) :=
  fun _ hb => Except.ok.inj hb ▸ h

theorem gives_error (e : ε) : Gives P (.error e : Except ε α) := fun _ h => nomatch h

theorem gives_any (r : Except ε α) : Gives (fun _ => True) r := fun _ _ => trivial

theorem Gives.bind {r : Except ε α} {f : α → Except ε β} (h : Gives P r)
    (hf : ∀ a, P a → Gives Q (f a)) : Gives Q (r >>= f) := by
  cases r with
  | error e => exact gives_error e
  | ok a => exact hf a (h a rfl)

theorem Gives.map {r : Except ε α} {f : α → β} (h : Gives P r) (hf : ∀ a, P a → Q (f a)) :
    Gives Q (r.map f) := by
  cases r with
  | error e => exact gives_error e
  | ok a => exact gives_ok (hf a (h a rfl))

theorem Gives.mapError {r : Except ε α} (h : Gives P r) (f : ε → ε') : Gives P (r.mapError f) := by
  cases r with
  | error e => exact gives_error _
  | ok a => exact gives_ok (h a rfl)

end Gives

namespace Outcome

variable {α β γ : Type}

theorem pure_bind (a : α) (f : α → Outcome β) : (pure a : Outcome α) >>= f = f a := by
  simp [Outcome.bind]

theorem bind_pure (o : Outcome α) : o >>= pure = o := by
  obtain ⟨calls, result⟩ := o
  cases result with
  | error e => rfl
  | ok a => simp [Outcome.bind, Pure.pure, Outcome.pure]

theorem bind_assoc (o : Outcome α) (f : α → Outcome β) (g : β → Outcome γ) :
    o >>= f >>= g = o >>= fun a => f a >>= g := by
  obtain ⟨calls, result⟩ := o
  cases result with
  | error e => rfl
  | ok a => cases h : (f a).result <;> simp [Outcome.bind, h]

instance : LawfulMonad Outcome := LawfulMonad.mk' Outcome bind_pure pure_bind bind_assoc

theorem bind_result_eq_ok_iff {o : Outcome α} {f : α → Outcome β} {b : β} :
    (o >>= f).result = .ok b ↔ ∃ a, o.result = .ok a ∧ (f a).result = .ok b := by
  obtain ⟨calls, result⟩ := o
  cases result <;> simp [Outcome.bind]

theorem result_bind {o : Outcome α} {f : α → Outcome β} {a : α} (h : o.result = .ok a) :
    (o >>= f).result = (f a).result := by
  obtain ⟨calls, result⟩ := o
  obtain rfl : result = .ok a := h
  rfl

/-- What follows is run only with what came out before it. -/
theorem bind_congr_of_ok {o : Outcome α} {f g : α → Outcome β}
    (h : ∀ a, o.result = .ok a → f a = g a) : o >>= f = o >>= g := by
  obtain ⟨calls, result⟩ := o
  cases result with
  | error e => rfl
  | ok a => simp [Outcome.bind, h a rfl]

/-! How an outcome can fail. -/

/-- Whatever error there is, it is of this kind. -/
def FailsBy (P : Error → Prop) (o : Outcome α) : Prop := ∀ e, o.result = .error e → P e

variable {P Q : Error → Prop}

theorem FailsBy.mono {o : Outcome α} (h : o.FailsBy P) (hPQ : ∀ e, P e → Q e) : o.FailsBy Q :=
  fun e he => hPQ e (h e he)

theorem failsBy_pure (a : α) : (pure a : Outcome α).FailsBy P := fun _ h => nomatch h

theorem failsBy_fail {e : Error} (h : P e) : (fail e : Outcome α).FailsBy P := by
  intro e' he
  obtain rfl : e = e' := Except.error.inj he
  exact h

theorem FailsBy.bind_of_ok {o : Outcome α} {f : α → Outcome β} (ho : o.FailsBy P)
    (hf : ∀ a, o.result = .ok a → (f a).FailsBy P) : (o >>= f).FailsBy P := by
  intro e he
  obtain ⟨calls, result⟩ := o
  cases result with
  | error e' =>
    obtain rfl : e' = e := Except.error.inj he
    exact ho e' rfl
  | ok a => exact hf a rfl e he

theorem FailsBy.bind {o : Outcome α} {f : α → Outcome β} (ho : o.FailsBy P)
    (hf : ∀ a, (f a).FailsBy P) : (o >>= f).FailsBy P :=
  ho.bind_of_ok fun a _ => hf a

theorem FailsBy.recover {o instead : Outcome α} (ho : o.FailsBy P) (hi : instead.FailsBy P)
    (kinds : List FaultKind) : (o.recover kinds instead).FailsBy P := by
  unfold Outcome.recover
  split
  · split
    · exact hi
    · exact ho
  · exact ho

/-- There is an error. -/
def Fails (o : Outcome α) : Prop := ∃ e, o.result = .error e

theorem not_fails_pure (a : α) : ¬ (pure a : Outcome α).Fails := fun ⟨_, h⟩ => nomatch h

theorem not_fails_iff {o : Outcome α} : ¬ o.Fails ↔ ∃ a, o.result = .ok a := by
  obtain ⟨calls, result⟩ := o
  cases result <;> simp [Fails]

theorem fails_bind_iff {o : Outcome α} {f : α → Outcome β} :
    (o >>= f).Fails ↔ o.Fails ∨ ∃ a, o.result = .ok a ∧ (f a).Fails := by
  obtain ⟨calls, result⟩ := o
  cases result <;> simp [Fails, Outcome.bind]

theorem fails_ofFault_iff {r : Except Fault α} : (ofFault r).Fails ↔ ∃ f, r = .error f := by
  cases r with
  | error f => exact iff_of_true ⟨.fault f, rfl⟩ ⟨f, rfl⟩
  | ok a => exact iff_of_false (not_fails_pure a) (by simp)

theorem fails_arithmetic_iff {r : Except Decimal.Signal α} :
    (arithmetic r).Fails ↔ ∃ s, r = .error s := by
  cases r with
  | error s => exact iff_of_true ⟨_, rfl⟩ ⟨s, rfl⟩
  | ok a => exact iff_of_false (not_fails_pure a) (by simp)

theorem result_arithmetic_eq_ok_iff {r : Except Decimal.Signal α} {a : α} :
    (arithmetic r).result = .ok a ↔ r = .ok a := by
  cases r with
  | error s => exact iff_of_false (by rintro ⟨⟩) (by rintro ⟨⟩)
  | ok b =>
    have hresult : (arithmetic (.ok b) : Outcome α).result = .ok b := rfl
    simp [hresult]

/-- Faults of these kinds are all there are, so nothing is left of them. -/
theorem result_recover_pure {o : Outcome α} {kinds : List FaultKind}
    (h : o.FailsBy fun e => ∃ f, e = .fault f ∧ f.kind ∈ kinds) (instead : α) :
    (o.recover kinds (pure instead)).result = .ok ((o.result.toOption).getD instead) := by
  obtain ⟨calls, result⟩ := o
  cases result with
  | ok a => rfl
  | error e =>
    obtain ⟨f, rfl, hkind⟩ := h e rfl
    simp [recover, hkind, Except.toOption]

/-! What an outcome asks for. -/

/-- Every call is such a call, and whatever error there is, it is of this kind. -/
structure Obeys (C : Locale.Call → Prop) (P : Error → Prop) (o : Outcome α) : Prop where
  calls : ∀ call ∈ o.calls, C call
  error : o.FailsBy P

variable {C : Locale.Call → Prop}

theorem Obeys.mono {o : Outcome α} (h : o.Obeys C P) (hPQ : ∀ e, P e → Q e) : o.Obeys C Q :=
  ⟨h.calls, h.error.mono hPQ⟩

theorem obeys_pure (a : α) : (pure a : Outcome α).Obeys C P :=
  ⟨fun _ h => (List.not_mem_nil h).elim, failsBy_pure a⟩

theorem obeys_fail {e : Error} (h : P e) : (fail e : Outcome α).Obeys C P :=
  ⟨fun _ h => (List.not_mem_nil h).elim, failsBy_fail h⟩

theorem Obeys.bind_of_ok {o : Outcome α} {f : α → Outcome β} (ho : o.Obeys C P)
    (hf : ∀ a, o.result = .ok a → (f a).Obeys C P) : (o >>= f).Obeys C P := by
  refine ⟨fun call hc => ?_, ho.error.bind_of_ok fun a ha => (hf a ha).error⟩
  obtain ⟨calls, result⟩ := o
  cases result with
  | error e => exact ho.calls call hc
  | ok a =>
    rcases List.mem_append.mp hc with hc | hc
    · exact ho.calls call hc
    · exact (hf a rfl).calls call hc

theorem Obeys.bind {o : Outcome α} {f : α → Outcome β} (ho : o.Obeys C P)
    (hf : ∀ a, (f a).Obeys C P) : (o >>= f).Obeys C P :=
  ho.bind_of_ok fun a _ => hf a

/-- What is asked for in vain is asked for all the same. -/
theorem Obeys.recover {o instead : Outcome α} (ho : o.Obeys C P) (hi : instead.Obeys C P)
    (kinds : List FaultKind) : (o.recover kinds instead).Obeys C P := by
  refine ⟨fun call hc => ?_, ho.error.recover hi.error kinds⟩
  unfold Outcome.recover at hc
  split at hc
  · split at hc
    · rcases List.mem_append.mp hc with hc | hc
      · exact ho.calls call hc
      · exact hi.calls call hc
    · exact ho.calls call hc
  · exact ho.calls call hc

theorem obeys_mapM {f : α → Outcome β} (hf : ∀ a, (f a).Obeys C P) (l : List α) :
    (l.mapM f).Obeys C P := by
  induction l with
  | nil => exact obeys_pure []
  | cons a l ih =>
    rw [List.mapM_cons]
    exact (hf a).bind fun b => ih.bind fun bs => obeys_pure _

/-! What comes out. -/

/-- Whatever result there is, it has this property. -/
def Yields (P : α → Prop) (o : Outcome α) : Prop := Gives P o.result

section Yields

variable {P : α → Prop} {Q : β → Prop}

theorem yields_pure {a : α} (h : P a) : (pure a : Outcome α).Yields P := gives_ok h

theorem yields_fail (e : Error) : (fail e : Outcome α).Yields P := gives_error e

theorem yields_any (o : Outcome α) : o.Yields fun _ => True := gives_any o.result

theorem yields_ofFault {r : Except Fault α} (h : Gives P r) : (ofFault r).Yields P := h.mapError _

theorem yields_arithmetic {r : Except Decimal.Signal α} (h : Gives P r) :
    (arithmetic r).Yields P := by
  cases r with
  | error signal => exact gives_error _
  | ok a => exact gives_ok (h a rfl)

theorem Yields.bind {o : Outcome α} {f : α → Outcome β} (ho : o.Yields P)
    (hf : ∀ a, P a → (f a).Yields Q) : (o >>= f).Yields Q := by
  intro b hb
  obtain ⟨a, ha, hb⟩ := bind_result_eq_ok_iff.mp hb
  exact hf a (ho a ha) b hb

theorem Yields.map {o : Outcome α} {f : α → β} (ho : o.Yields P) (hf : ∀ a, P a → Q (f a)) :
    (f <$> o).Yields Q := by
  rw [map_eq_pure_bind]
  exact ho.bind fun a ha => yields_pure (hf a ha)

theorem Yields.recover {o instead : Outcome α} (ho : o.Yields P) (hi : instead.Yields P)
    (kinds : List FaultKind) : (o.recover kinds instead).Yields P := by
  unfold Outcome.recover
  split
  · split
    · exact hi
    · exact ho
  · exact ho

theorem yields_mapM {f : α → Outcome β} {l : List α} (hf : ∀ a ∈ l, (f a).Yields Q) :
    (l.mapM f).Yields fun bs => ∀ b ∈ bs, Q b := by
  induction l with
  | nil => exact yields_pure (by simp)
  | cons a l ih =>
    obtain ⟨ha, hl⟩ := List.forall_mem_cons.mp hf
    rw [List.mapM_cons]
    refine ha.bind fun b hb => (ih hl).bind fun bs hbs => ?_
    exact yields_pure (List.forall_mem_cons.mpr ⟨hb, hbs⟩)

end Yields

end Outcome
end MessageFormat

import MessageFormat.Proofs.Pattern.Scan
import MessageFormat.Proofs.Pattern.Span

/-!
Places in a source that a suffix of it is seen from. There a cursor reads words, keys and numbers as
they are read off the suffix.
-/

set_option autoImplicit false

namespace MessageFormat.Pattern

open Text

/-- The place in a source that a suffix of it is seen from. -/
def Cursor.facing (source s : List Char) : Cursor := ⟨source, source.length - s.length⟩

namespace Cursor

variable {source s r : List Char}

theorem rest_facing (h : s <:+ source) : (facing source s).rest = s := by
  obtain ⟨t, rfl⟩ := h
  simp [facing, rest]

theorem atEnd_facing (h : s <:+ source) : (facing source s).atEnd = s.isEmpty := by
  have hl := h.length_le
  cases s with
  | nil => simp [facing, atEnd]
  | cons c r =>
    simp only [List.length_cons] at hl
    have hlt : ¬ source.length ≤ source.length - (r.length + 1) := by omega
    exact decide_eq_false hlt

theorem getElem?_facing (h : s <:+ source) (k : Nat) :
    source[(facing source s).place + k]? = s[k]? := by
  obtain ⟨t, rfl⟩ := h
  simp only [facing, List.length_append, Nat.add_sub_cancel]
  rw [List.getElem?_append_right (by omega)]
  simp

theorem peek?_facing (h : s <:+ source) (k : Nat) : (facing source s).peek? k = s[k]? := by
  rw [← getElem?_facing h k, peek?, placeAt]
  have hn : (0 : Int) ≤ ((facing source s).place : Int) + (k : Int) := by omega
  rw [if_pos hn]
  rfl

theorem advance_facing (h : s <:+ source) (k : Nat) :
    (facing source s).advance k = facing source (s.drop k) := by
  have hl := h.length_le
  simp only [advance, facing, List.length_drop, Cursor.mk.injEq, true_and]
  omega

theorem advance_facing_cons {c : Char} (h : c :: s <:+ source) :
    (facing source (c :: s)).advance 1 = facing source s :=
  advance_facing h 1

theorem before_facing (h : r <:+ s) : (facing source s).before r = facing source r := by
  have hl := h.length_le
  simp only [before, facing, Cursor.mk.injEq, true_and]
  omega

theorem sliceTo_facing {w : List Char} (h : w ++ r <:+ source) :
    (facing source (w ++ r)).sliceTo (facing source r).place = w := by
  obtain ⟨t, rfl⟩ := h
  have hp : (0 : Int) ≤ ((facing (t ++ (w ++ r)) r).place : Int) := by omega
  rw [sliceTo, placeAt, if_pos hp]
  have ht : ((t ++ (w ++ r)).take (t.length + w.length)) = t ++ w := by
    rw [← List.append_assoc, ← List.length_append, List.take_left]
  have hr : (facing (t ++ (w ++ r)) r).place = t.length + w.length := by
    simp only [facing, List.length_append]
    omega
  have hs : (facing (t ++ (w ++ r)) (w ++ r)).place = t.length := by
    simp only [facing, List.length_append]
    omega
  rw [hr, hs, Int.toNat_natCast]
  simp only [facing]
  rw [ht, List.drop_left]

theorem place_facing : (facing source s).place ≤ source.length := Nat.sub_le _ _

theorem place_facing_inj (hs : s <:+ source) (hr : r <:+ s) :
    (facing source r).place = (facing source s).place ↔ r = s := by
  have hl := hs.length_le
  have hl' := hr.length_le
  simp only [facing]
  constructor
  · intro h
    exact hr.eq_of_length (by omega)
  · intro hx
    subst hx
    rfl

theorem peek?_next {c : Char} (h : c :: s <:+ source) :
    (facing source (c :: s)).peek? 1 = s.head? := by
  rw [show (1 : Int) = ((1 : Nat) : Int) from rfl, peek?_facing h]
  cases s <;> rfl

theorem opensTag_facing (h : s <:+ source) : (facing source s).opensTag = startsTag s := by
  rw [opensTag, rest_facing h]

theorem advance_two {c d : Char} (h : c :: d :: s <:+ source) :
    (facing source (c :: d :: s)).advance 2 = facing source s := advance_facing h 2

end Cursor

namespace Scan

open Cursor Grammar

variable {α β γ δ : Type} {source s r : List Char}

/-- A span is one, and it is the span that is shown. -/
theorem flawed_facing (flaw : Flaw) (source r : List Char) :
    (flawed flaw (facing source r) : Run α) =
      throw (.rejected (.malformed flaw (emptySpan source r))) := by
  have hspan : (facing source r).span = emptySpan source r := span_mk place_facing
  rw [flawed, hspan, check_emptySpan]

theorem look_facing {c : Char} (h : c :: s <:+ source) : look (facing source (c :: s)) = pure c := by
  have hc := getElem?_facing h 0
  rw [Nat.add_zero] at hc
  rw [look, current]
  simp only [facing] at hc ⊢
  rw [hc]
  rfl

/-- What a run gives for what a reader gives: a value with its place, or the flaw as it is shown. -/
def liftWith (source : List Char) (place : α → β) : Except Failure α → Run β
  | .ok a => pure (place a)
  | .error f => throw (.rejected (.malformed f.flaw (emptySpan source f.rest)))

abbrev lift (source : List Char) (x : Except Failure (Read α)) : Run (Found α) :=
  liftWith source (fun q => (q.1, facing source q.2)) x

theorem flawed_eq_liftWith (flaw : Flaw) (source r : List Char) (place : α → β) :
    flawed flaw (facing source r) = liftWith source place (fail flaw r) :=
  flawed_facing flaw source r

theorem throw_bind (h : Halt) (g : α → Run β) : (throw h : Run α) >>= g = throw h := by
  simp [throw, throwThe, MonadExceptOf.throw, bind, ExceptT.bind, ExceptT.mk, ExceptT.bindCont,
    pure]

/-- A run goes on as the reader does, from a suffix of what there was. -/
theorem liftWith_bind {place : α → β} {place' : γ → δ} {rest : α → List Char}
    {x : Except Failure α} {f : α → Except Failure γ} {g : β → Run δ}
    (hx : Within rest source s x)
    (hg : ∀ a, x = .ok a → rest a <:+ s → g (place a) = liftWith source place' (f a)) :
    (liftWith source place x >>= g) = liftWith source place' (x >>= f) := by
  cases x with
  | ok a => exact (pure_bind _ _).trans (hg a rfl hx)
  | error e => exact throw_bind _ _

/-- A run that only arranges anew what a reader gives. -/
theorem liftWith_map {place : α → β} {place' : α → γ} {g : β → Run γ} (x : Except Failure α)
    (hg : ∀ a, g (place a) = pure (place' a)) :
    (liftWith source place x >>= g) = liftWith source place' x := by
  cases x with
  | ok a => exact (pure_bind _ _).trans (hg a)
  | error e => exact throw_bind _ _

/-! Loops. -/

section Loop

variable {σ : Type} {round : σ → Run (α ⊕ σ)} {state state' : σ}

theorem loop_of_done {a : α} (h : round state = pure (.inl a)) : loop round state = pure a := by
  have hv : .inl (.ok a) ∈ (round state).run.map verdict := by
    rw [h]
    exact Part.mem_map verdict (Part.mem_some (Except.ok (Sum.inl a)))
  exact Part.eq_some_iff.mpr (PFun.fix_stop hv)

theorem loop_of_next (h : round state = pure (.inr state')) :
    loop round state = loop round state' := by
  have hv : .inr state' ∈ (round state).run.map verdict := by
    rw [h]
    exact Part.mem_map verdict (Part.mem_some (Except.ok (Sum.inr state')))
  exact PFun.fix_fwd_eq hv

theorem loop_of_halt {e : Halt} (h : round state = throw e) : loop round state = throw e := by
  have hv : .inl (.error e) ∈ (round state).run.map verdict := by
    rw [h]
    exact Part.mem_map verdict (Part.mem_some (Except.error e))
  exact Part.eq_some_iff.mpr (PFun.fix_stop hv)

/-- A loop goes on as the reader does after a round that a reader is behind. -/
theorem loop_liftWith {next : γ → σ} {place : δ → α} {x : Except Failure γ}
    {f : γ → Except Failure δ}
    (h : round state = liftWith source (fun a => .inr (next a)) x)
    (hg : ∀ a, x = .ok a → loop round (next a) = liftWith source place (f a)) :
    loop round state = liftWith source place (x >>= f) := by
  cases x with
  | ok a => exact (loop_of_next h).trans (hg a rfl)
  | error e => exact loop_of_halt h

end Loop

/-! Words. -/

theorem pass_facing (p : Char → Bool) (h : s <:+ source) :
    pass p (facing source s) = pure (facing source (s.dropWhile p)) := by
  induction s with
  | nil =>
    refine loop_of_done ?_
    rw [passRound, atEnd_facing h]
    rfl
  | cons c s ih =>
    have hround : passRound p (facing source (c :: s)) =
        pure (if p c then .inr (facing source s) else .inl (facing source (c :: s))) := by
      rw [passRound, atEnd_facing h, look_facing h, advance_facing_cons h]
      simp
    rw [List.dropWhile_cons]
    cases hc : p c with
    | true =>
      rw [if_pos rfl, ← ih (suffix_of_cons h)]
      exact loop_of_next (by rw [hround, hc, if_pos rfl])
    | false => exact loop_of_done (by rw [hround, hc]; rfl)

theorem blanks_facing (h : s <:+ source) :
    blanks (facing source s) = pure (facing source (skipBlanks s)) := pass_facing isBlank h

theorem expect_facing (x : Char) (h : s <:+ source) :
    expect x (facing source s) =
      pure (if s.head? = some x then some (facing source s.tail) else none) := by
  cases s with
  | nil =>
    rw [expect, atEnd_facing h]
    rfl
  | cons c s =>
    rw [expect, atEnd_facing h, look_facing h, advance_facing_cons h]
    simp

theorem expect_cons {x : Char} (h : x :: s <:+ source) :
    expect x (facing source (x :: s)) = pure (some (facing source s)) := by
  rw [expect_facing x h]
  simp

theorem expect_none {x : Char} (h : s <:+ source) (hs : ∀ r, s ≠ x :: r) :
    expect x (facing source s) = pure none := by
  have hn : s.head? ≠ some x := by
    intro hx
    obtain ⟨r, rfl⟩ := List.head?_eq_some_iff.mp hx
    exact hs r rfl
  rw [expect_facing x h, if_neg hn]

theorem word_facing (p : Char → Bool) (h : s <:+ source) :
    word p (facing source s) =
      pure ((run? p s).map fun q => (q.1, facing source q.2)) := by
  rw [word, pass_facing p h, pure_bind]
  cases hr : run? p s with
  | none =>
    have hd : s.dropWhile p = s := by
      cases s with
      | nil => rfl
      | cons c s => simp [run?_eq_none_iff.mp hr c (by simp)]
    simp [hd]
  | some q =>
    obtain ⟨w, r⟩ := q
    obtain ⟨hn, hw, rfl, he⟩ := run?_eq_some_iff.mp hr
    have hspan := span_eq_iff.mpr ⟨rfl, hw, he⟩
    rw [List.span_eq_takeWhile_dropWhile] at hspan
    have hd : (w ++ r).dropWhile p = r := (Prod.mk.inj hspan).2
    have hne : (facing source r).place ≠ (facing source (w ++ r)).place := by
      rw [Ne, place_facing_inj h (List.suffix_append w r)]
      simpa using hn
    simp [hd, hne, sliceTo_facing h]

theorem name_facing (flaw : Flaw) (h : s <:+ source) :
    name flaw (facing source s) = lift source (expectName flaw s) := by
  rw [name, word_facing _ h, pure_bind, expectName, name?]
  cases run? isNameChar s with
  | none => exact flawed_eq_liftWith flaw source s _
  | some q => rfl

theorem selectKey_facing (h : s <:+ source) :
    selectKey (facing source s) = lift source (Pattern.selectKey s) := by
  rw [selectKey, word_facing _ h, pure_bind, Pattern.selectKey, selectKey?]
  cases run? isKeyChar s with
  | none => exact flawed_eq_liftWith _ source s _
  | some q => rfl

theorem decimal?_facing (h : s <:+ source) :
    (facing source s).decimal? = (decimal? s).map fun q => (q.1, facing source q.2) := by
  rw [Cursor.decimal?, rest_facing h]
  cases hd : decimal? s with
  | none => rfl
  | some q => simp [before_facing (decimal?_suffix hd)]

theorem pluralKey_of_ne {c : Char} (hc : c ≠ '=') (construct : String) (s : List Char) :
    Pattern.pluralKey construct (c :: s) =
      expectName (.expectedCaseKey construct) (c :: s) >>= fun q =>
        .ok (.category q.1, q.2) := by
  unfold Pattern.pluralKey
  split
  · rename_i heq
    exact absurd (List.cons.inj heq).1 hc
  · rfl

theorem pluralKey_facing (construct : String) (h : s <:+ source) (hs : s ≠ []) :
    pluralKey construct (facing source s) = lift source (Pattern.pluralKey construct s) := by
  obtain ⟨c, s, rfl⟩ := List.exists_cons_of_ne_nil hs
  rw [pluralKey, look_facing h, pure_bind, advance_facing_cons h, decimal?_facing (suffix_of_cons h)]
  by_cases hc : c = '='
  · subst hc
    rw [if_pos rfl, Pattern.pluralKey]
    cases hd : decimal? s with
    | none => exact flawed_eq_liftWith _ source _ _
    | some q =>
      obtain ⟨value, r⟩ := q
      obtain ⟨w, rfl, -⟩ := decimal?_eq_some_iff.mp hd
      have hw : '=' :: (w ++ r) = ('=' :: w) ++ r := rfl
      rw [hw] at h ⊢
      simp only [Option.map_some, sliceTo_facing h, between_append]
      rfl
  · rw [if_neg hc, pluralKey_of_ne hc, name_facing _ h]
    exact liftWith_bind (within_expectName _ h fun _ => trivial) fun _ _ _ => rfl

theorem pluralOffset_facing (h : s <:+ source) :
    pluralOffset (facing source s) = lift source (Pattern.pluralOffset s) := by
  rw [pluralOffset, rest_facing h, Pattern.pluralOffset, strip?, startsWith]
  cases hp : offsetKeyword.isPrefixOf s with
  | false => rfl
  | true =>
    have hr := (List.drop_suffix offsetKeyword.length s).trans h
    have hb := (skipBlanks_suffix (s.drop offsetKeyword.length)).trans hr
    rw [if_pos rfl, if_pos rfl, advance_facing h, blanks_facing hr, pure_bind,
      decimal?_facing hb]
    dsimp only
    cases hd : decimal? (skipBlanks (s.drop offsetKeyword.length)) with
    | none =>
      simp only [Option.map_none, word_facing _ hb, pure_bind, Option.map_map]
      exact flawed_eq_liftWith _ source _ _
    | some q =>
      obtain ⟨value, r⟩ := q
      have hr' := (decimal?_suffix hd).trans hb
      simp only [Option.map_some, blanks_facing hr', pure_bind]
      rfl

end Scan

end MessageFormat.Pattern

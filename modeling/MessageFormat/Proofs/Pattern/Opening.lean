import MessageFormat.Proofs.Pattern.Text

/-!
What a sequence does next. The first characters of a text open a node, end the sequence or are at fault.
-/

set_option autoImplicit false

namespace MessageFormat.Pattern

open Text Grammar

theorem bind_eq_ok_iff {ε α β : Type} {x : Except ε α} {f : α → Except ε β} {b : β} :
    x >>= f = .ok b ↔ ∃ a, x = .ok a ∧ f a = .ok b := by
  cases x with
  | ok a =>
    constructor
    · intro h
      exact ⟨a, rfl, h⟩
    · intro hx
      obtain ⟨_, ha, h⟩ := hx
      obtain rfl := Except.ok.inj ha
      exact h
  | error e =>
    constructor
    · intro h
      cases h
    · intro hx
      obtain ⟨_, ha, -⟩ := hx
      cases ha

theorem fail_ne_ok {α : Type} {flaw : Flaw} {s : List Char} {a : α} : fail flaw s ≠ .ok a :=
  fun h => nomatch h

/-- Where a sequence ends: with the text, before the brace of its body, before the closing tag of its
tag. -/
inductive Stop (scope : Scope) (inTag : Bool) : List Char → Prop
  | endOfText : Stop scope inTag []
  | brace (r : List Char) : scope.inBody = true → Stop scope inTag ('}' :: r)
  | closing (c : Char) (r : List Char) : scope.tags = true → inTag = true → isLetter c = true →
      Stop scope inTag ('<' :: '/' :: c :: r)

theorem Stop.stops {scope : Scope} {inTag : Bool} {r : List Char} (h : Stop scope inTag r) :
    scope.stops r = true := by
  cases h with
  | endOfText => rfl
  | brace r hb => simp [Scope.stops, hb]
  | closing c r ht _ hc => simp [Scope.stops, ht, startsTag, hc]

inductive Opening (scope : Scope) (inTag : Bool) : List Char → Prop
  | stop {s : List Char} : Stop scope inTag s → Opening scope inTag s
  | stray (c : Char) (r : List Char) : scope.tags = true → inTag = false → isLetter c = true →
      Opening scope inTag ('<' :: '/' :: c :: r)
  | placeholder (r : List Char) : Opening scope inTag ('{' :: r)
  | tag (c : Char) (r : List Char) : scope.tags = true → isLetter c = true →
      Opening scope inTag ('<' :: c :: r)
  | hash (r : List Char) : scope.inPlural = true → Opening scope inTag ('#' :: r)
  | text (c : Char) (r : List Char) : scope.stops (c :: r) = false → Opening scope inTag (c :: r)

/-- Every text opens in one of these ways. -/
theorem opening (scope : Scope) (inTag : Bool) (s : List Char) : Opening scope inTag s := by
  cases s with
  | nil => exact .stop .endOfText
  | cons c r =>
    cases hs : scope.stops (c :: r) with
    | false => exact .text c r hs
    | true =>
      simp only [Scope.stops, Bool.or_eq_true, Bool.and_eq_true, beq_iff_eq] at hs
      rcases hs with ((rfl | ⟨rfl, hb⟩) | ⟨rfl, hp⟩) | ⟨⟨rfl, ht⟩, hstart⟩
      · exact .placeholder r
      · exact .stop (.brace r hb)
      · exact .hash r hp
      · obtain ⟨d, r', hd, h | h⟩ := startsTag_eq_true_iff.mp hstart
        · rw [h]
          cases inTag with
          | false => exact .stray d r' ht rfl hd
          | true => exact .stop (.closing d r' ht rfl hd)
        · rw [h]
          exact .tag d r' ht hd

/-! Cases. -/

section Cases

variable {κ : Type} (key : List Char → Except Failure (Read κ)) (keyText : κ → String)
  (body : Body)

/-- A list of cases ends with the text or before a closing brace. -/
def EndsCases (s : List Char) : Prop := s = [] ∨ s.head? = some '}'

/-- A key and its body, and the blanks after them. -/
def oneCase (s : List Char) : Except Failure (Read (Case κ (List Node))) := do
  let (k, r) ← key s
  let (nodes, r) ← caseBody (keyText k) body r
  return (⟨k, nodes⟩, skipBlanks r)

/-- The cases after one that was read. -/
def caseContinued (fuel : Nat) (a : Read (Case κ (List Node))) :
    Except Failure (Read (List (Case κ (List Node)))) := do
  let (more, r) ← caseList key keyText body fuel a.2
  return (a.1 :: more, r)

theorem caseList_of_end {s : List Char} (h : EndsCases s) (fuel : Nat) :
    caseList key keyText body fuel s = .ok ([], s) := by
  rcases h with rfl | h
  · cases fuel <;> rfl
  · obtain ⟨r, rfl⟩ := List.head?_eq_some_iff.mp h
    cases fuel <;> rfl

theorem caseList_of_key {s : List Char} (h : ¬ EndsCases s) (fuel : Nat) :
    caseList key keyText body (fuel + 1) s =
      oneCase key keyText body s >>= caseContinued key keyText body fuel := by
  cases s with
  | nil => exact absurd (.inl rfl) h
  | cons c r =>
    have hc : c ≠ '}' := by
      intro hx
      subst hx
      exact h (.inr rfl)
    rw [caseList.eq_def]
    split <;> simp_all [oneCase, caseContinued]

end Cases

/-! Sequences. -/

variable {limit : Int} {inner : Option Inner} {scope : Scope} {inTag : Bool} {fuel : Nat}

/-- The nodes after one that was read. -/
def continued (limit : Int) (inner : Option Inner) (scope : Scope) (inTag : Bool) (fuel : Nat)
    (a : Read Node) : Except Failure (Read (List Node)) := do
  let (more, rest) ← sequence limit inner scope inTag fuel a.2
  return (a.1 :: more, rest)

/-- What the first character decides. -/
theorem sequence_cons (c : Char) (r : List Char) :
    sequence limit inner scope inTag (fuel + 1) (c :: r) =
      if c = '{' then placeholder limit inner scope (c :: r) >>= continued limit inner scope inTag fuel
      else if c = '}' && scope.inBody then .ok ([], c :: r)
      else if scope.tags && startsTag (c :: r) then
        if closesTag (c :: r) then
          if inTag then .ok ([], c :: r) else .error (strayClosingTag (c :: r))
        else tag limit inner scope (c :: r) >>= continued limit inner scope inTag fuel
      else if c = '#' && scope.inPlural then continued limit inner scope inTag fuel (.hash, r)
      else
        continued limit inner scope inTag fuel
          (.literal (String.ofList (text scope false (c :: r)).1), (text scope false (c :: r)).2) :=
  rfl

theorem sequence_of_stop {s : List Char} (h : Stop scope inTag s) :
    sequence limit inner scope inTag fuel s = .ok ([], s) := by
  cases fuel with
  | zero => rfl
  | succ fuel =>
    cases h with
    | endOfText => rfl
    | brace r hb => simp [sequence_cons, hb]
    | closing c r ht hi hc => simp [sequence_cons, ht, hi, startsTag, closesTag, hc]

theorem sequence_stray {c : Char} (r : List Char) (ht : scope.tags = true) (hi : inTag = false)
    (hc : isLetter c = true) :
    sequence limit inner scope inTag (fuel + 1) ('<' :: '/' :: c :: r) =
      .error (strayClosingTag ('<' :: '/' :: c :: r)) := by
  simp [sequence_cons, ht, hi, startsTag, closesTag, hc]

theorem sequence_placeholder (r : List Char) :
    sequence limit inner scope inTag (fuel + 1) ('{' :: r) =
      placeholder limit inner scope ('{' :: r) >>=
        continued limit inner scope inTag fuel := by
  rw [sequence_cons, if_pos rfl]

theorem sequence_tag {c : Char} (r : List Char) (ht : scope.tags = true) (hc : isLetter c = true) :
    sequence limit inner scope inTag (fuel + 1) ('<' :: c :: r) =
      tag limit inner scope ('<' :: c :: r) >>= continued limit inner scope inTag fuel := by
  have hn := ne_slash_of_isLetter hc
  have hs : startsTag ('<' :: c :: r) = true := startsTag_eq_true_iff.mpr ⟨c, r, hc, .inr rfl⟩
  have hk : closesTag ('<' :: c :: r) = false := by simp [closesTag, hn]
  simp [sequence_cons, ht, hs, hk]

theorem sequence_hash (r : List Char) (hp : scope.inPlural = true) :
    sequence limit inner scope inTag (fuel + 1) ('#' :: r) =
      continued limit inner scope inTag fuel (.hash, r) := by
  simp [sequence_cons, hp, startsTag]

theorem sequence_text {c : Char} {r : List Char} (h : scope.stops (c :: r) = false) :
    sequence limit inner scope inTag (fuel + 1) (c :: r) =
      continued limit inner scope inTag fuel
        (.literal (String.ofList (text scope false (c :: r)).1), (text scope false (c :: r)).2) := by
  have hs : startsTag (c :: r) = true → c = '<' := by
    intro hs
    obtain ⟨d, r', -, h | h⟩ := startsTag_eq_true_iff.mp hs <;> exact (List.cons.inj h).1
  obtain ⟨ho, hc, hh, ha⟩ := stops_eq_false_iff.mp h
  have htag : ¬ (scope.tags = true ∧ startsTag (c :: r) = true) := by
    intro hx
    obtain ⟨ht, hst⟩ := hx
    simp [ha (hs hst) ht] at hst
  rw [sequence_cons, if_neg ho, if_neg (by simpa using hc), if_neg (by simpa using htag),
    if_neg (by simpa using hh)]

end MessageFormat.Pattern

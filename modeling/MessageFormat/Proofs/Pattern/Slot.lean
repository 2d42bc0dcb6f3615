import MessageFormat.Proofs.Pattern.Word

/-!
Styles and attributes run to an end mark that nesting and quotes can hide. The readers of both stop at
the mark that the grammar means.
-/

set_option autoImplicit false

namespace MessageFormat.Pattern.Grammar

open Text

theorem onto_eq_iff {α : Type} {c : Char} {p : List Char × α} {w : List Char} {x : α} :
    onto c p = (w, x) ↔ ∃ w', w = c :: w' ∧ p = (w', x) := by
  obtain ⟨v, y⟩ := p
  constructor
  · intro h
    obtain ⟨rfl, rfl⟩ := Prod.mk.inj h
    exact ⟨v, rfl, rfl⟩
  · intro hx
    obtain ⟨w', rfl, h⟩ := hx
    rw [h, onto]

theorem map_onto_eq_some_iff {α : Type} {c : Char} {o : Option (List Char × α)} {w : List Char}
    {x : α} : o.map (onto c) = some (w, x) ↔ ∃ w', w = c :: w' ∧ o = some (w', x) := by
  cases o <;> simp [onto_eq_iff]

/-! Styles. -/

/-- More characters in front of what was read. -/
def prepend {α : Type} (w : List Char) (p : List Char × α) : List Char × α := (w ++ p.1, p.2)

theorem onto_eq_prepend {α : Type} (c : Char) :
    (onto c : List Char × α → List Char × α) = prepend [c] := rfl

theorem map_prepend_nil {α : Type} (o : Option (List Char × α)) : o.map (prepend []) = o := by
  cases o <;> rfl

theorem map_prepend_prepend {α : Type} (a b : List Char) (o : Option (List Char × α)) :
    (o.map (prepend b)).map (prepend a) = o.map (prepend (a ++ b)) := by
  cases o <;> simp [prepend]

theorem styleText_nil (depth : Nat) (quoted : Bool) : styleText depth quoted [] = none := by
  cases depth <;> cases quoted <;> rfl

theorem styleText_open (depth : Nat) (s : List Char) :
    styleText depth false ('{' :: s) = (styleText (depth + 1) false s).map (onto '{') := by
  cases depth <;> rfl

theorem styleText_close (s : List Char) : styleText 0 false ('}' :: s) = some ([], '}' :: s) := rfl

theorem styleText_close_succ (depth : Nat) (s : List Char) :
    styleText (depth + 1) false ('}' :: s) = (styleText depth false s).map (onto '}') := rfl

/-- Two apostrophes that adjoin change the quotation twice, so each may be taken by itself. -/
theorem styleText_apostrophe (depth : Nat) (quoted : Bool) (s : List Char) :
    styleText depth quoted ('\'' :: s) = (styleText depth (!quoted) s).map (onto '\'') := by
  induction s generalizing quoted with
  | nil => simp [styleText]
  | cons c s ih =>
    by_cases hc : c = '\''
    · subst hc
      rw [ih (!quoted), styleText]
      simp [Function.comp_def]
    · simp [styleText, hc]

theorem styleText_quoted {depth : Nat} {c : Char} (hc : c ≠ '\'') (s : List Char) :
    styleText depth true (c :: s) = (styleText depth true s).map (onto c) := by
  simp [styleText, hc]

theorem styleText_plain {depth : Nat} {c : Char} (hc : c ≠ '\'') (hl : c ≠ '{') (hr : c ≠ '}')
    (s : List Char) : styleText depth false (c :: s) = (styleText depth false s).map (onto c) := by
  simp [styleText, hc, hr]

theorem IsStyle.append {s t : List Char} (hs : IsStyle s) (ht : IsStyle t) : IsStyle (s ++ t) := by
  induction hs with
  | nil => exact ht
  | char hc hl hr _ ih => exact .char hc hl hr ih
  | quoted hq _ ih => simpa using IsStyle.quoted hq ih
  | braces hb _ _ ih => simpa using IsStyle.braces hb ih

/-- Styles with a number of unpaired closing braces among them. -/
def Closes : Nat → List Char → Prop
  | 0, t => IsStyle t
  | depth + 1, t => ∃ s u, IsStyle s ∧ Closes depth u ∧ t = s ++ '}' :: u

theorem Closes.append {depth : Nat} {s t : List Char} (hs : IsStyle s) (ht : Closes depth t) :
    Closes depth (s ++ t) := by
  cases depth with
  | zero => exact hs.append ht
  | succ depth =>
    obtain ⟨a, u, ha, hu, rfl⟩ := ht
    exact ⟨s ++ a, u, hs.append ha, hu, by simp⟩

/-- What a quotation still has to close before the rest of the style. -/
def ClosesFrom (depth : Nat) (quoted : Bool) (t : List Char) : Prop :=
  if quoted then ∃ q u, '\'' ∉ q ∧ Closes depth u ∧ t = q ++ '\'' :: u else Closes depth t

theorem styleText_sound {depth : Nat} {quoted : Bool} {s t r : List Char}
    (h : styleText depth quoted s = some (t, r)) :
    s = t ++ r ∧ r.head? = some '}' ∧ ClosesFrom depth quoted t := by
  induction s generalizing depth quoted t with
  | nil => simp [styleText_nil] at h
  | cons c s ih =>
    by_cases hc : c = '\''
    · subst hc
      rw [styleText_apostrophe] at h
      obtain ⟨t, rfl, h'⟩ := map_onto_eq_some_iff.mp h
      obtain ⟨rfl, hr, ht⟩ := ih h'
      refine ⟨rfl, hr, ?_⟩
      cases quoted with
      | false =>
        obtain ⟨q, u, hq, hu, rfl⟩ := ht
        simpa [ClosesFrom] using hu.append (.quoted hq .nil)
      | true => exact ⟨[], t, by simp, ht, rfl⟩
    cases quoted with
    | true =>
      rw [styleText_quoted hc] at h
      obtain ⟨t, rfl, h'⟩ := map_onto_eq_some_iff.mp h
      obtain ⟨rfl, hr, q, u, hq, hu, rfl⟩ := ih h'
      exact ⟨rfl, hr, c :: q, u, by simp [hq, Ne.symm hc], hu, rfl⟩
    | false =>
      by_cases hl : c = '{'
      · subst hl
        rw [styleText_open] at h
        obtain ⟨t, rfl, h'⟩ := map_onto_eq_some_iff.mp h
        obtain ⟨rfl, hr, a, u, ha, hu, rfl⟩ := ih h'
        refine ⟨rfl, hr, ?_⟩
        simpa [ClosesFrom] using hu.append (.braces ha .nil)
      by_cases hr : c = '}'
      · subst hr
        cases depth with
        | zero =>
          rw [styleText_close] at h
          obtain ⟨rfl, rfl⟩ := Prod.mk.inj (Option.some.inj h)
          exact ⟨rfl, rfl, IsStyle.nil⟩
        | succ depth =>
          rw [styleText_close_succ] at h
          obtain ⟨t, rfl, h'⟩ := map_onto_eq_some_iff.mp h
          obtain ⟨rfl, hq, ht⟩ := ih h'
          exact ⟨rfl, hq, [], t, .nil, ht, rfl⟩
      rw [styleText_plain hc hl hr] at h
      obtain ⟨t, rfl, h'⟩ := map_onto_eq_some_iff.mp h
      obtain ⟨rfl, hq, ht⟩ := ih h'
      refine ⟨rfl, hq, ?_⟩
      simpa [ClosesFrom] using Closes.append (.char hc hl hr .nil) ht

theorem styleText_quotation {depth : Nat} {q : List Char} (hq : '\'' ∉ q) (s : List Char) :
    styleText depth true (q ++ '\'' :: s) =
      (styleText depth false s).map (prepend (q ++ ['\''])) := by
  induction q with
  | nil => rw [List.nil_append, styleText_apostrophe, onto_eq_prepend]; rfl
  | cons c q ih =>
    have hc : c ≠ '\'' := by intro h; subst h; simp at hq
    rw [List.cons_append, styleText_quoted hc, ih (by simp_all), onto_eq_prepend,
      map_prepend_prepend]
    rfl

/-- A style is read whole, whatever follows it. -/
theorem styleText_append {t : List Char} (ht : IsStyle t) (depth : Nat) (s : List Char) :
    styleText depth false (t ++ s) = (styleText depth false s).map (prepend t) := by
  induction ht generalizing depth s with
  | nil => exact (map_prepend_nil _).symm
  | char hc hl hr _ ih =>
    rw [List.cons_append, styleText_plain hc hl hr, ih, onto_eq_prepend, map_prepend_prepend]
    rfl
  | quoted hq _ ih =>
    simp only [List.cons_append, List.append_assoc]
    rw [styleText_apostrophe, Bool.not_false, styleText_quotation hq, ih]
    simp only [onto_eq_prepend, map_prepend_prepend, List.cons_append, List.nil_append,
      List.append_assoc]
  | braces _ _ iha ihb =>
    simp only [List.cons_append, List.append_assoc]
    rw [styleText_open, iha, styleText_close_succ, ihb]
    simp only [onto_eq_prepend, map_prepend_prepend, List.cons_append, List.nil_append]

theorem style?_eq_some_iff {s t r : List Char} :
    style? s = some (t, r) ↔ IsStyle t ∧ s = t ++ r ∧ r.head? = some '}' := by
  constructor
  · intro h
    obtain ⟨hs, hr, ht⟩ := styleText_sound h
    exact ⟨ht, hs, hr⟩
  · intro hx
    obtain ⟨ht, rfl, hr⟩ := hx
    obtain ⟨r, rfl⟩ := List.head?_eq_some_iff.mp hr
    rw [style?, styleText_append ht, styleText_close]
    simp [prepend]

/-! Attributes. -/

/-- The end of a tag that opens. -/
def ClosesAngle (r : List Char) : Prop := (∃ r', r = '>' :: r') ∨ ∃ r', r = '/' :: '>' :: r'

/-- What an open quotation has to close before the rest of the attributes. -/
def AttributesFrom : Option Char → List Char → Prop
  | none, a => IsAttributes a
  | some mark, a => ∃ q u, mark ∉ q ∧ IsAttributes u ∧ a = q ++ mark :: u

theorem IsAttributes.append {a b : List Char} (ha : IsAttributes a) (hb : IsAttributes b) :
    IsAttributes (a ++ b) := by
  induction ha with
  | nil => exact hb
  | char hd hq hgt _ ih => exact .char hd hq hgt ih
  | quoted hm hq _ ih => simpa using IsAttributes.quoted hm hq ih

theorem IsAttributes.head_ne {a : List Char} (h : IsAttributes a) : a.head? ≠ some '>' := by
  cases h with
  | nil => simp
  | char _ _ hc _ => simpa using hc
  | quoted hm _ _ => rcases hm with rfl | rfl <;> simp

theorem attributes_nil (mark : Option Char) : attributes mark [] = ([], []) := by
  cases mark <;> rfl

theorem attributes_plain {c : Char} {s : List Char} (hd : c ≠ '"') (hs : c ≠ '\'') (hc : c ≠ '>')
    (hn : c = '/' → s.head? ≠ some '>') : attributes none (c :: s) = onto c (attributes none s) := by
  cases s with
  | nil => simp [attributes]
  | cons d s =>
    by_cases hd' : d = '>'
    · have hc' : c ≠ '/' := fun h => hn h (by simp [hd'])
      simp [attributes, hd, hs, hc']
    · simp [attributes, hd, hs, hd']

theorem attributes_mark {c : Char} (hc : c = '"' ∨ c = '\'') (s : List Char) :
    attributes none (c :: s) = onto c (attributes (some c) s) := by
  rcases hc with rfl | rfl <;> rfl

theorem attributes_inside {mark c : Char} (s : List Char) :
    attributes (some mark) (c :: s) =
      onto c (attributes (if c = mark then none else some mark) s) := rfl

theorem attributes_end {r : List Char} (h : ClosesAngle r) : attributes none r = ([], r) := by
  rcases h with ⟨r, rfl⟩ | ⟨r, rfl⟩ <;> rfl

theorem last_slash_cons {c : Char} {a r : List Char}
    (h : a.getLast? = some '/' → r.head? ≠ some '>') (hc : a = [] → c = '/' → r.head? ≠ some '>') :
    (c :: a).getLast? = some '/' → r.head? ≠ some '>' := by
  cases a with
  | nil => simpa using hc
  | cons d a => simpa using h

theorem attributes_sound {s a r : List Char} {q : Option Char}
    (hq : ∀ mark ∈ q, mark = '"' ∨ mark = '\'') (h : attributes q s = (a, r)) (hr : r ≠ []) :
    s = a ++ r ∧ ClosesAngle r ∧ AttributesFrom q a ∧
      (a.getLast? = some '/' → r.head? ≠ some '>') := by
  induction s generalizing q a with
  | nil =>
    rw [attributes_nil] at h
    exact absurd (Prod.mk.inj h).2.symm hr
  | cons c s ih =>
    cases q with
    | some mark =>
      rw [attributes_inside] at h
      obtain ⟨a, rfl, h'⟩ := onto_eq_iff.mp h
      by_cases hc : c = mark
      · subst hc
        rw [if_pos rfl] at h'
        obtain ⟨rfl, ha, hu, hl⟩ := ih (by simp) h'
        refine ⟨rfl, ha, ⟨[], a, by simp, hu, rfl⟩, last_slash_cons hl ?_⟩
        intro _ hx
        subst hx
        simp at hq
      · rw [if_neg hc] at h'
        obtain ⟨rfl, ha, ⟨w, u, hw, hu, rfl⟩, hl⟩ := ih hq h'
        exact ⟨rfl, ha, ⟨c :: w, u, by simp [hw, Ne.symm hc], hu, rfl⟩, last_slash_cons hl (by simp)⟩
    | none =>
      by_cases hend : ClosesAngle (c :: s)
      · rw [attributes_end hend] at h
        obtain ⟨rfl, rfl⟩ := Prod.mk.inj h
        exact ⟨rfl, hend, IsAttributes.nil, by simp⟩
      by_cases hm : c = '"' ∨ c = '\''
      · rw [attributes_mark hm] at h
        obtain ⟨a, rfl, h'⟩ := onto_eq_iff.mp h
        obtain ⟨rfl, ha, ⟨w, u, hw, hu, rfl⟩, hl⟩ := ih (q := some c) (by simpa using hm) h'
        exact ⟨rfl, ha, .quoted hm hw hu, last_slash_cons hl (by simp)⟩
      · have hgt : c ≠ '>' := fun hc => hend (.inl ⟨s, by rw [hc]⟩)
        have hslash : c = '/' → s.head? ≠ some '>' := by
          intro hx hs
          subst hx
          obtain ⟨s, rfl⟩ := List.head?_eq_some_iff.mp hs
          exact hend (.inr ⟨s, rfl⟩)
        obtain ⟨hd, hq'⟩ := not_or.mp hm
        rw [attributes_plain hd hq' hgt hslash] at h
        obtain ⟨a, rfl, h'⟩ := onto_eq_iff.mp h
        obtain ⟨rfl, ha, hu, hl⟩ := ih (by simp) h'
        refine ⟨rfl, ha, .char hd hq' hgt hu, last_slash_cons hl ?_⟩
        intro hx
        subst hx
        exact hslash

theorem attributes_quotation {mark : Char} {q : List Char} (hq : mark ∉ q) (s : List Char) :
    attributes (some mark) (q ++ mark :: s) = prepend (q ++ [mark]) (attributes none s) := by
  induction q with
  | nil => simp [attributes_inside, onto_eq_prepend]
  | cons c q ih =>
    have hc : c ≠ mark := by intro h; subst h; simp at hq
    rw [List.cons_append, attributes_inside, if_neg hc, ih (by simp_all)]
    rfl

/-- Attributes are read up to the end of the tag. -/
theorem attributes_append {a r : List Char} (ha : IsAttributes a) (hr : ClosesAngle r)
    (hl : a.getLast? = some '/' → r.head? ≠ some '>') : attributes none (a ++ r) = (a, r) := by
  induction ha with
  | nil => exact attributes_end hr
  | @char c s hd hq hgt hs ih =>
    have hslash : c = '/' → (s ++ r).head? ≠ some '>' := by
      intro hc
      cases s with
      | nil => exact hl (by simp [hc])
      | cons d s => simpa using hs.head_ne
    have hl' : s.getLast? = some '/' → r.head? ≠ some '>' := by
      intro h
      exact hl (by rw [List.getLast?_cons, h]; rfl)
    rw [List.cons_append, attributes_plain hd hq hgt hslash, ih hl']
    rfl
  | @quoted mark q s hm hq hs ih =>
    have hl' : s.getLast? = some '/' → r.head? ≠ some '>' := by
      intro h
      exact hl (by simp [List.getLast?_cons, List.getLast?_append, h])
    simp only [List.cons_append, List.append_assoc]
    rw [attributes_mark hm, attributes_quotation hq, ih hl']
    simp [prepend, onto]

theorem isPlain_of_isBlank {b : Char} (h : isBlank b = true) :
    b ≠ '"' ∧ b ≠ '\'' ∧ b ≠ '>' ∧ b ≠ '/' := by
  refine ⟨?_, ?_, ?_, ?_⟩ <;> (intro hx; subst hx; revert h; decide)

theorem tagAttributes_of_isBlank {b : Char} (hb : isBlank b = true) (s : List Char) :
    tagAttributes (b :: s) = (trim (b :: (attributes none s).1), (attributes none s).2) := by
  obtain ⟨hd, hq, hgt, hslash⟩ := isPlain_of_isBlank hb
  have hp := attributes_plain (s := s) hd hq hgt (fun h => absurd h hslash)
  simp only [tagAttributes, hb, if_true, hp]
  rfl

theorem tagAttributes_eq_iff {s r : List Char} {x : String} (hr : ClosesAngle r) :
    (String.ofList (tagAttributes s).1 = x ∧ (tagAttributes s).2 = r) ↔ Attributes s r x := by
  have hn : r ≠ [] := by rcases hr with ⟨_, rfl⟩ | ⟨_, rfl⟩ <;> simp
  constructor
  · intro hx
    obtain ⟨rfl, hs⟩ := hx
    cases s with
    | nil => exact absurd hs.symm hn
    | cons b s =>
      by_cases hb : isBlank b = true
      · rw [tagAttributes_of_isBlank hb] at hs ⊢
        obtain ⟨a, r', h⟩ : ∃ a r', attributes none s = (a, r') := ⟨_, _, rfl⟩
        rw [h] at hs ⊢
        obtain rfl : r' = r := hs
        obtain ⟨rfl, -, ha, hl⟩ := attributes_sound (by simp) h hn
        exact .present rfl hb ha hl
      · simp only [tagAttributes, hb] at hs ⊢
        obtain rfl : b :: s = r := hs
        exact .absent
  · intro h
    cases h with
    | absent => rcases hr with ⟨r, rfl⟩ | ⟨r, rfl⟩ <;> exact ⟨rfl, rfl⟩
    | present hs hb ha hl =>
      subst hs
      rw [tagAttributes_of_isBlank hb, attributes_append ha hr hl]
      exact ⟨rfl, rfl⟩

end MessageFormat.Pattern.Grammar

import MessageFormat.Format.List
import MessageFormat.Proofs.Text.Places

/-!
Items joined by list patterns. Joining never fails with patterns of two places, and where each pattern has both
places once the items come out in their order, each once and as they are.
-/

set_option autoImplicit false

namespace MessageFormat

namespace ListPatterns

variable {p : ListPatterns}

theorem join_cons_cons_cons (a b c : String) (rest : List String) : p.join (a :: b :: c :: rest) =
    join.joinInner p.middle p.last (b :: c :: rest) >>= fun joined => Text.Template.fill p.start [a, joined] := rfl

theorem joinInner_cons_cons_cons (middle last a b c : String) (rest : List String) :
    join.joinInner middle last (a :: b :: c :: rest) =
      join.joinInner middle last (b :: c :: rest) >>= fun joined => Text.Template.fill middle [a, joined] := rfl

theorem exists_append_pair (inner : List String) (y z : String) :
    ∃ a b rest, inner ++ [y, z] = a :: b :: rest := by
  match inner with
  | [] => exact ⟨y, z, [], rfl⟩
  | [a] => exact ⟨a, y, [z], rfl⟩
  | a :: b :: rest => exact ⟨a, b, rest ++ [y, z], rfl⟩

/-! Patterns of two places. -/

/-- The fields of the patterns are places of two items. -/
structure TwoPlaces (p : ListPatterns) : Prop where
  start : Text.Template.TwoPlaces p.start
  middle : Text.Template.TwoPlaces p.middle
  last : Text.Template.TwoPlaces p.last
  pair : Text.Template.TwoPlaces p.pair

theorem twoPlaces_commas : commas.TwoPlaces := by
  have hcomma : Text.Template.TwoPlaces "\x7b0\x7d, \x7b1\x7d" := ⟨[.first, .char ',', .char ' ', .second], rfl⟩
  exact ⟨hcomma, hcomma, hcomma, hcomma⟩

theorem exists_joinInner {middle last : String} (hm : Text.Template.TwoPlaces middle)
    (hl : Text.Template.TwoPlaces last) (items : List String) :
    ∃ text, join.joinInner middle last items = .ok text := by
  induction items with
  | nil => exact ⟨_, rfl⟩
  | cons a items ih =>
    match items with
    | [] => exact ⟨_, rfl⟩
    | [b] =>
      obtain ⟨parts, hparts⟩ := hl
      exact ⟨_, Text.Template.fill_of_parts hparts a b⟩
    | b :: c :: rest =>
      obtain ⟨joined, hjoined⟩ := ih
      obtain ⟨parts, hparts⟩ := hm
      rw [joinInner_cons_cons_cons, hjoined]
      exact ⟨_, Text.Template.fill_of_parts hparts a joined⟩

/-- Whatever the items are, they are joined. -/
theorem TwoPlaces.exists_join (h : p.TwoPlaces) (items : List String) : ∃ text, p.join items = .ok text := by
  match items with
  | [] => exact ⟨_, rfl⟩
  | [a] => exact ⟨_, rfl⟩
  | [a, b] =>
    obtain ⟨parts, hparts⟩ := h.pair
    exact ⟨_, Text.Template.fill_of_parts hparts a b⟩
  | a :: b :: c :: rest =>
    obtain ⟨joined, hjoined⟩ := exists_joinInner h.middle h.last (b :: c :: rest)
    obtain ⟨parts, hparts⟩ := h.start
    rw [join_cons_cons_cons, hjoined]
    exact ⟨_, Text.Template.fill_of_parts hparts a joined⟩

/-! Patterns with each place once. -/

/-- The inner items are put one into the other from the last two on. -/
theorem joinInner_nests (middle last : Joint) (inner : List String) (y z : String) :
    join.joinInner middle.pattern last.pattern (inner ++ [y, z]) = .ok (inner.foldr middle.put (last.put y z)) := by
  induction inner with
  | nil => exact last.fill_pattern y z
  | cons x inner ih =>
    obtain ⟨a, b, rest, hrest⟩ := exists_append_pair inner y z
    rw [hrest] at ih
    rw [List.cons_append, hrest, joinInner_cons_cons_cons, ih]
    exact middle.fill_pattern x _

/-- What stands before the innermost text, and the ends of the patterns after it. -/
theorem foldr_put (middle : Joint) (inner : List String) (text : String) : inner.foldr middle.put text =
    String.join (inner.map fun x => middle.before ++ x ++ middle.between) ++ text ++
      String.join (List.replicate inner.length middle.after) := by
  induction inner with
  | nil => simp
  | cons x inner ih =>
    have hafter : String.join (List.replicate inner.length middle.after) ++ middle.after =
        String.join (List.replicate (inner.length + 1) middle.after) := by
      rw [← String.toList_inj]
      simp [List.replicate_succ']
    simp only [List.foldr_cons, ih, Joint.put, List.map_cons, String.join_cons, List.length_cons, ← hafter,
      String.append_assoc]

/-- Joining loses, repeats and reorders nothing. No items give no text, one item stands for itself, two are put into
the pattern of a pair, and more are put one into the other from the last two on: all in their order, each once and as
it is, with the separator of the start once, that of the middle for each inner item but the last two, and that of
the end once. -/
theorem join_nests (start middle last pair : Joint) :
    let p : ListPatterns := ⟨start.pattern, middle.pattern, last.pattern, pair.pattern⟩
    p.join [] = .ok "" ∧ (∀ x, p.join [x] = .ok x) ∧ (∀ x y, p.join [x, y] = .ok (pair.put x y)) ∧
    ∀ x inner y z,
      p.join (x :: inner ++ [y, z]) = .ok (start.put x (inner.foldr middle.put (last.put y z))) ∧
      start.put x (inner.foldr middle.put (last.put y z)) =
        start.before ++ x ++ start.between ++
          String.join (inner.map fun item => middle.before ++ item ++ middle.between) ++
          (last.before ++ y ++ last.between ++ z ++ last.after) ++
          String.join (List.replicate inner.length middle.after) ++ start.after := by
  intro p
  refine ⟨rfl, fun x => rfl, fun x y => pair.fill_pattern x y, fun x inner y z => ⟨?_, ?_⟩⟩
  · have hinner := joinInner_nests middle last inner y z
    obtain ⟨a, b, rest, hrest⟩ := exists_append_pair inner y z
    rw [hrest] at hinner
    rw [List.cons_append, hrest, join_cons_cons_cons, hinner]
    exact start.fill_pattern x _
  · simp only [foldr_put, Joint.put, String.append_assoc]

/-- Items that look like places and braces, and ends of patterns that nest. -/
theorem join_nests_braces :
    (⟨"(\x7b0\x7d; \x7b1\x7d)", "\x7b0\x7d, \x7b1\x7d!", "\x7b0\x7d & \x7b1\x7d", "\x7b0\x7d + \x7b1\x7d"⟩ :
      ListPatterns).join ["\x7b1\x7d", "a", "b", "\x7b", "\x7b0\x7d\x7d"] =
        .ok "(\x7b1\x7d; a, b, \x7b & \x7b0\x7d\x7d!!)" := by
  have hjoin := (join_nests { before := "(", between := "; ", after := ")" }
    { before := "", between := ", ", after := "!" } { before := "", between := " & ", after := "" }
    { before := "", between := " + ", after := "" }).2.2.2 "\x7b1\x7d" ["a", "b"] "\x7b" "\x7b0\x7d\x7d"
  exact hjoin.1

end ListPatterns
end MessageFormat

import Mathlib.Data.List.TakeWhile
import Mathlib.Logic.Relation
import MessageFormat.Proofs.Locale.Spelling
import MessageFormat.Proofs.Text.Trim
import MessageFormat.Proofs.Text.Words

/-!
The shape of a fallback chain. It is what comes of a loop that takes subtags off the end and skips what it has seen
in any case: all shortenings of the request, which differ in their hyphens and so in any case, and the fallback.
-/

set_option autoImplicit false

namespace MessageFormat.Locale

open Text

variable {requested fallback : String} {tags : List (List Char)}

/-! Subtags. -/

/-- Hyphens and low lines part subtags. -/
def isSeparator (c : Char) : Bool := c == '-' || c == '_'

theorem pieces_swapChar (s : List Char) :
    pieces (· == '-') (swapChar '_' '-' s) = pieces isSeparator s := by
  induction s with
  | nil => rfl
  | cons c s ih =>
    rw [swapChar_cons, pieces, pieces, ih]
    by_cases hlow : c = '_'
    · simp [hlow, isSeparator]
    · simp [hlow, isSeparator]

theorem subtags_eq (requested : String) :
    subtags requested = fields isSeparator (trim requested.toList) := by
  rw [subtags, hyphenated, String.toList_ofList, fields, pieces_swapChar, fields]

/-- A request may be written with another separator in the place of one, with one twice, or with one more at
either end. -/
inductive Respelled : List Char → List Char → Prop
  | exchanged (s t : List Char) {a b : Char} (ha : isSeparator a = true) (hb : isSeparator b = true) :
    Respelled (s ++ a :: t) (s ++ b :: t)
  | doubled (s t : List Char) {a : Char} (ha : isSeparator a = true) :
    Respelled (s ++ a :: t) (s ++ a :: a :: t)
  | front (s : List Char) {a : Char} (ha : isSeparator a = true) : Respelled s (a :: s)
  | back (s : List Char) {a : Char} (ha : isSeparator a = true) : Respelled s (s ++ [a])

namespace Respelled

variable {s t : List Char}

theorem fields_eq (h : Respelled s t) : fields isSeparator t = fields isSeparator s := by
  have hnone : fields isSeparator [] = [] := rfl
  cases h with
  | exchanged s t ha hb => rw [fields_append s ha, fields_append s hb]
  | @doubled s t a ha =>
    have hend := fields_append [] ha t
    rw [fields_append s ha, fields_append s ha, ← List.nil_append (a :: t), hend, hnone, List.nil_append]
  | @front s a ha =>
    have hend := fields_append [] ha s
    rwa [hnone, List.nil_append, List.nil_append] at hend
  | back s ha => rw [fields_append s ha, hnone, List.append_nil]

theorem isBlank_of_isSeparator {c : Char} (h : isSeparator c = true) : isBlank c = false := by
  have hc : c = '-' ∨ c = '_' := by simpa [isSeparator] using h
  rcases hc with rfl | rfl <;> rfl

theorem getLast_cons_iff {a : Char} (ha : isSeparator a = true) (t : List Char) :
    (∀ c ∈ (a :: t).getLast?, isBlank c = false) ↔ ∀ c ∈ t.getLast?, isBlank c = false := by
  rw [List.getLast?_cons]
  cases t.getLast? with
  | none => simp [isBlank_of_isSeparator ha]
  | some c => rfl

theorem trim_around {a : Char} (ha : isSeparator a = true) (s t : List Char) :
    trim (s ++ a :: t) = s ++ a :: t ↔
      (∀ c ∈ s.head?, isBlank c = false) ∧ ∀ c ∈ t.getLast?, isBlank c = false := by
  rw [trim_eq_self_iff, List.getLast?_append_cons, getLast_cons_iff ha]
  refine and_congr_left fun _ => ?_
  cases s with
  | nil => simp [isBlank_of_isSeparator ha]
  | cons c s => rfl

/-- Separators are no blanks, so no blank comes to stand at an end. -/
theorem trim_eq (h : Respelled s t) (hs : trim s = s) : trim t = t := by
  cases h with
  | exchanged s t ha hb => rwa [trim_around hb, ← trim_around ha]
  | doubled s t ha => rwa [trim_around ha, getLast_cons_iff ha, ← trim_around ha]
  | front s ha => exact (trim_around ha [] s).mpr ⟨by simp, (trim_eq_self_iff.mp hs).2⟩
  | back s ha => exact (trim_around ha s []).mpr ⟨(trim_eq_self_iff.mp hs).1, by simp⟩

/-- Written otherwise any number of times, a request without blanks around it keeps its subtags. -/
theorem subtags_eq {other : String} (h : Relation.ReflTransGen Respelled requested.toList other.toList)
    (hs : trim requested.toList = requested.toList) : subtags other = subtags requested := by
  have hkept (u : List Char) (hu : Relation.ReflTransGen Respelled requested.toList u) :
      trim u = u ∧ fields isSeparator u = fields isSeparator requested.toList := by
    induction hu with
    | refl => exact ⟨hs, rfl⟩
    | tail _ hstep ih => exact ⟨hstep.trim_eq ih.1, hstep.fields_eq.trans ih.2⟩
  obtain ⟨htrim, hfields⟩ := hkept other.toList h
  rw [Locale.subtags_eq, Locale.subtags_eq, htrim, hs, hfields]

end Respelled

/-! Shortenings. -/

/-- The first identifier is the second one and has more subtags after it. -/
def MoreSpecific (a b : String) : Prop := ∃ rest, a.toList = b.toList ++ '-' :: rest

theorem joinSubtags_append {u v : List (List Char)} (hu : u ≠ []) (hv : v ≠ []) :
    (joinSubtags (u ++ v)).toList = (joinSubtags u).toList ++ '-' :: (joinSubtags v).toList := by
  simp only [joinSubtags, String.toList_ofList]
  induction u with
  | nil => exact absurd rfl hu
  | cons w u ih =>
    cases u with
    | nil =>
      cases v with
      | nil => exact absurd rfl hv
      | cons x v => simp [List.intercalate]
    | cons x u => simpa [List.intercalate_cons_cons] using ih (List.cons_ne_nil x u)

theorem shortenings_concat (tags : List (List Char)) (tag : List Char) :
    shortenings (tags ++ [tag]) = joinSubtags (tags ++ [tag]) :: shortenings tags := by
  simp only [shortenings, List.length_append, List.length_singleton, List.range_succ_eq_map, List.map_cons,
    List.map_map, Nat.sub_zero]
  rw [List.take_of_length_le (by simp)]
  refine congrArg _ (List.map_congr_left fun k hk => ?_)
  rw [Function.comp_apply, Nat.succ_eq_add_one, Nat.add_sub_add_right, List.take_append_of_le_length (Nat.sub_le _ _)]

theorem exists_of_mem_shortenings {locale : String} (h : locale ∈ shortenings tags) :
    ∃ u v, u ≠ [] ∧ tags = u ++ v ∧ locale = joinSubtags u := by
  induction tags using List.reverseRecOn with
  | nil => cases h
  | append_singleton tags tag ih =>
    rw [shortenings_concat] at h
    rcases List.mem_cons.mp h with rfl | h
    · exact ⟨tags ++ [tag], [], by simp, by simp, rfl⟩
    · obtain ⟨u, v, hu, rfl, rfl⟩ := ih h
      exact ⟨u, v ++ [tag], hu, List.append_assoc u v [tag], rfl⟩

theorem pairwise_shortenings (tags : List (List Char)) : (shortenings tags).Pairwise MoreSpecific := by
  induction tags using List.reverseRecOn with
  | nil => exact .nil
  | append_singleton tags tag ih =>
    rw [shortenings_concat]
    refine .cons (fun locale h => ?_) ih
    obtain ⟨u, v, hu, rfl, rfl⟩ := exists_of_mem_shortenings h
    rw [List.append_assoc]
    exact ⟨_, joinSubtags_append hu (by simp)⟩

/-- Lower case keeps the number of hyphens. -/
theorem count_lowerFrom {mark : Char} (hmark : mark ∈ ['-', '_']) (s before : List Char) :
    (lowerFrom before s).count mark = s.count mark := by
  induction s generalizing before with
  | nil => rfl
  | cons c s ih =>
    rw [lowerFrom, List.count_append, ih, List.count_cons, Nat.add_comm]
    congr 1
    by_cases hc : c = mark
    · subst hc
      rcases List.mem_pair.mp hmark with rfl | rfl <;> rfl
    · simp only [beq_iff_eq, hc, if_false, List.count_eq_zero]
      split_ifs with hlow
      · simpa using (toLower_ne hmark hc hlow).symm
      · rcases List.mem_pair.mp hmark with rfl | rfl <;> decide
      · rcases List.mem_pair.mp hmark with rfl | rfl <;> decide
      · exact mapCase_lower_ne hmark hc

theorem MoreSpecific.lowerString_ne {a b : String} (h : MoreSpecific a b) : lowerString a ≠ lowerString b := by
  obtain ⟨rest, hrest⟩ := h
  intro heq
  have hcount : a.toList.count '-' = b.toList.count '-' := by
    rw [← count_lowerFrom (by decide) a.toList [], ← count_lowerFrom (by decide) b.toList []]
    exact congrArg (List.count '-') (String.ofList_inj.mp heq)
  rw [hrest, List.count_append, List.count_cons_self] at hcount
  omega

/-! Gathering. -/

/-- Identifiers as they are gathered: those taken so far, and in lower case those seen. -/
structure Gathering where
  taken : List String := []
  seen : List String := []

namespace Gathering

/-- An identifier is taken unless it is empty or was seen in some case. -/
def add (g : Gathering) (candidate : String) : Gathering :=
  if !candidate.isEmpty && !g.seen.contains (lowerString candidate) then
    ⟨g.taken ++ [candidate], g.seen ++ [lowerString candidate]⟩
  else g

/-- As long as there are subtags, the identifier that they make is added and the last of them is dropped. -/
def strip (g : Gathering) (tags : List (List Char)) : Gathering :=
  if tags = [] then g else (g.add (joinSubtags tags)).strip tags.dropLast
termination_by tags.length
decreasing_by
  have hlength := List.length_pos_iff.mpr ‹tags ≠ []›
  rw [List.length_dropLast]
  omega

theorem strip_nil (g : Gathering) : g.strip [] = g := by
  unfold strip
  rfl

theorem strip_concat (g : Gathering) (tags : List (List Char)) (tag : List Char) :
    g.strip (tags ++ [tag]) = (g.add (joinSubtags (tags ++ [tag]))).strip tags := by
  rw [strip.eq_def, if_neg (by simp), List.dropLast_concat]

/-- What was gathered if these identifiers were taken. -/
def of (locales : List String) : Gathering := ⟨locales, locales.map lowerString⟩

theorem taken_of (locales : List String) : (of locales).taken = locales := rfl

/-- Where what was seen is what was taken, an identifier is skipped that is one of them in some case. -/
theorem add_of (locales : List String) (candidate : String) :
    (of locales).add candidate =
      of (if candidate.isEmpty || locales.any (sameIgnoringCase candidate) then locales
        else locales ++ [candidate]) := by
  have hseen : (of locales).seen.contains (lowerString candidate) =
      locales.any (sameIgnoringCase candidate) := by
    rw [of, List.contains_eq_any_beq, List.any_map]
    rfl
  rw [add, hseen]
  cases candidate.isEmpty <;> cases locales.any (sameIgnoringCase candidate) <;> simp [of]

theorem joinSubtags_isEmpty {tag : List Char} (h : tag ≠ []) (tags : List (List Char)) :
    (joinSubtags (tags ++ [tag])).isEmpty = false := by
  rw [Bool.eq_false_iff, Ne, String.isEmpty_iff, ← String.toList_inj]
  cases tags with
  | nil => simpa [joinSubtags] using h
  | cons w tags =>
    rw [joinSubtags_append (List.cons_ne_nil w tags) (List.cons_ne_nil tag [])]
    simp

/-- No shortening is skipped, since all that was taken before is more specific. -/
theorem strip_of (hne : ∀ tag ∈ tags, tag ≠ []) {locales : List String}
    (hmore : ∀ a ∈ locales, ∀ b ∈ shortenings tags, MoreSpecific a b) :
    (of locales).strip tags = of (locales ++ shortenings tags) := by
  induction tags using List.reverseRecOn generalizing locales with
  | nil => rw [strip_nil, show shortenings [] = [] from rfl, List.append_nil]
  | append_singleton tags tag ih =>
    have hall := pairwise_shortenings (tags ++ [tag])
    rw [shortenings_concat] at hmore hall ⊢
    have hnew : locales.any (sameIgnoringCase (joinSubtags (tags ++ [tag]))) = false := by
      rw [List.any_eq_false]
      intro a ha
      simpa [sameIgnoringCase] using (hmore a ha _ List.mem_cons_self).lowerString_ne.symm
    have hempty := joinSubtags_isEmpty (hne tag (by simp)) tags
    rw [strip_concat, add_of, hnew, hempty, Bool.or_false, if_neg Bool.false_ne_true,
      ih (fun t ht => hne t (List.mem_append_left _ ht)), List.append_assoc, List.singleton_append]
    intro a ha b hb
    rcases List.mem_append.mp ha with ha | ha
    · exact hmore a ha b (List.mem_cons_of_mem _ hb)
    · rw [List.mem_singleton.mp ha]
      exact List.rel_of_pairwise_cons hall hb

end Gathering

/-- All that is left of the request when one subtag after the other is taken off its end, and then the
fallback, without what was seen before in some case. -/
def gathered (requested fallback : String) : List String :=
  (((Gathering.of []).strip (subtags requested)).add (hyphenated fallback)).taken

theorem chain_eq_gathered (requested fallback : String) :
    chain requested fallback = gathered requested fallback := by
  have hne : ∀ tag ∈ subtags requested, tag ≠ [] := fun _ => ne_nil_of_mem_fields
  rw [gathered, Gathering.strip_of hne (by simp), List.nil_append, Gathering.add_of, Gathering.taken_of]
  unfold chain
  rfl

/-- Hyphenated, the fallback is not empty and is none of these in any case. -/
def IsApart (fallback : String) (locales : List String) : Prop :=
  hyphenated fallback ≠ "" ∧ ∀ locale ∈ locales, lowerString (hyphenated fallback) ≠ lowerString locale

instance (fallback : String) (locales : List String) : Decidable (IsApart fallback locales) :=
  inferInstanceAs (Decidable (_ ∧ _))

theorem chain_eq_append (requested fallback : String) :
    chain requested fallback = shortenings (subtags requested) ++
      if IsApart fallback (shortenings (subtags requested)) then [hyphenated fallback] else [] := by
  have hskip : ((hyphenated fallback).isEmpty ||
      (shortenings (subtags requested)).any (sameIgnoringCase (hyphenated fallback))) = true ↔
        ¬ IsApart fallback (shortenings (subtags requested)) := by
    simp [IsApart, sameIgnoringCase, or_iff_not_imp_left]
  unfold chain
  dsimp only
  by_cases h : IsApart fallback (shortenings (subtags requested))
  · rw [if_neg (hskip.not.mpr (not_not.mpr h)), if_pos h]
  · rw [if_pos (hskip.mpr h), if_neg h, List.append_nil]

theorem pairwise_chain (requested fallback : String) :
    (chain requested fallback).Pairwise fun a b => lowerString a ≠ lowerString b := by
  have hown := (pairwise_shortenings (subtags requested)).imp MoreSpecific.lowerString_ne
  rw [chain_eq_append]
  split_ifs with h
  · refine List.pairwise_append.mpr ⟨hown, List.pairwise_singleton _ _, fun a ha b hb => ?_⟩
    rw [List.mem_singleton.mp hb]
    exact (h.2 a ha).symm
  · rwa [List.append_nil]

/-- A fallback chain is what is gathered by taking subtags off the end of a request. It has the shortenings of
the request, each less specific than those before it, and last the hyphenated fallback, if that is not empty and
none of them in any case. No two of its identifiers are the same in any case. It stays what it is when the
separators of a request without blanks around it are written otherwise. -/
theorem chain_shape (requested fallback : String) :
    subtags requested = fields isSeparator (trim requested.toList) ∧
    chain requested fallback = gathered requested fallback ∧
    chain requested fallback = shortenings (subtags requested) ++
      (if IsApart fallback (shortenings (subtags requested)) then [hyphenated fallback] else []) ∧
    (shortenings (subtags requested)).Pairwise MoreSpecific ∧
    (chain requested fallback).Pairwise (fun a b => lowerString a ≠ lowerString b) ∧
    (trim requested.toList = requested.toList → ∀ other : String,
      Relation.ReflTransGen Respelled requested.toList other.toList →
        chain other fallback = chain requested fallback) := by
  refine ⟨subtags_eq requested, chain_eq_gathered requested fallback, chain_eq_append requested fallback,
    pairwise_shortenings _, pairwise_chain requested fallback, fun htrim other hother => ?_⟩
  rw [chain_eq_append, chain_eq_append, Respelled.subtags_eq hother htrim]

/-- A request with low lines, and with hyphens, one of them doubled and one at the end. -/
theorem chain_shape_taiwan : trim "zh_Hant_TW".toList = "zh_Hant_TW".toList ∧
    Relation.ReflTransGen Respelled "zh_Hant_TW".toList "zh--Hant_TW-".toList ∧
    chain "zh--Hant_TW-" "en" = chain "zh_Hant_TW" "en" ∧
    chain "zh_Hant_TW" "en" = ["zh-Hant-TW", "zh-Hant", "zh", "en"] := by
  have htrim : trim "zh_Hant_TW".toList = "zh_Hant_TW".toList := by decide
  have hwritten : Relation.ReflTransGen Respelled "zh_Hant_TW".toList "zh--Hant_TW-".toList :=
    .tail (.tail (.single (.exchanged ['z', 'h'] "Hant_TW".toList (a := '_') (b := '-') rfl rfl))
      (.doubled ['z', 'h'] "Hant_TW".toList rfl)) (.back "zh--Hant_TW".toList (a := '-') rfl)
  exact ⟨htrim, hwritten, (chain_shape "zh_Hant_TW" "en").2.2.2.2.2 htrim _ hwritten, rfl⟩

end MessageFormat.Locale

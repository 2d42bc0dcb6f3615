import Mathlib.Data.List.Infix
import MessageFormat.Value.Escape

/-!
Escaped text: how it reads apart from the function that writes it, and that it stands for one text only.
-/

set_option autoImplicit false

namespace MessageFormat.Text

/-- What markup characters and quotes are written as. -/
def markupReferences : List (List Char) :=
  ["&amp;".toList, "&lt;".toList, "&gt;".toList, "&quot;".toList, "&#x27;".toList]

/-- Neither an angle bracket nor a quote. -/
def isInert (c : Char) : Bool := !(['<', '>', '"', '\''].contains c)

/-- There are no angle brackets and no quotes, and every ampersand starts a reference to a markup character. -/
structure Escaped (s : List Char) : Prop where
  inert : ∀ c ∈ s, isInert c = true
  referring : ∀ after, '&' :: after <:+ s → ∃ r ∈ markupReferences, r <+: '&' :: after

theorem Escaped.suffix {s t : List Char} (h : Escaped s) (ht : t <:+ s) : Escaped t :=
  ⟨fun c hc => h.inert c (ht.subset hc), fun after hafter => h.referring after (hafter.trans ht)⟩

theorem escapeChar_of_inert {c : Char} (hc : c ≠ '&') (h : isInert c = true) : escapeChar c = [c] := by
  simp only [isInert, List.contains_cons, List.contains_nil, Bool.not_eq_true', Bool.or_eq_false_iff,
    beq_eq_false_iff_ne, and_true] at h
  obtain ⟨hlt, hgt, hquot, hapos⟩ := h
  simp [escapeChar, hc, hlt, hgt, hquot, hapos]

/-- A character is written as the reference to it, or as it is. -/
theorem escapeChar_cases (c : Char) :
    escapeChar c ∈ markupReferences ∨ escapeChar c = [c] ∧ c ≠ '&' ∧ isInert c = true := by
  unfold escapeChar
  split_ifs with hamp hlt hgt hquot hapos
  iterate 5 exact .inl (by simp [markupReferences])
  exact .inr ⟨rfl, hamp, by simp [isInert, hlt, hgt, hquot, hapos]⟩

/-- The first semicolon ends a name; what follows it is not looked at. -/
theorem reference?_name {name : List Char} (hname : name ≠ []) (hlength : name.length < longestReference)
    (h : ∀ c ∈ name, isReferenceChar c = true) (rest : List Char) :
    reference? (name ++ ';' :: rest) = some (namedReference (name ++ [';']), rest) := by
  obtain ⟨room, hroom⟩ := Nat.exists_eq_add_of_lt hlength
  have htaken : ((name ++ ';' :: rest).take longestReference).takeWhile isReferenceChar = name := by
    rw [hroom, Nat.add_assoc, List.take_length_add_append, List.takeWhile_append_of_pos h]
    simp [isReferenceChar]
  unfold reference?
  split
  · rename_i r heq
    cases name with
    | nil => exact (hname rfl).elim
    | cons c name =>
      obtain rfl : c = '#' := (List.cons.inj heq).1
      exact absurd (h '#' List.mem_cons_self) (by decide)
  · simp [htaken, hname]

/-- What a character is written as is read as that character. -/
theorem decodeReferences_escapeChar (fuel : Nat) (c : Char) (rest : List Char) :
    decodeReferences (fuel + 1) (escapeChar c ++ rest) = c :: decodeReferences fuel rest := by
  have hnamed : namedReference "amp;".toList = ['&'] ∧ namedReference "lt;".toList = ['<'] ∧
      namedReference "gt;".toList = ['>'] ∧ namedReference "quot;".toList = ['"'] ∧
      numberedReference 39 = ['\''] := ⟨rfl, rfl, rfl, rfl, rfl⟩
  obtain ⟨hamp, hlt, hgt, hquot, hapos⟩ := hnamed
  have hname (name : List Char) (hne : name ≠ []) (hlength : name.length < longestReference)
      (h : ∀ c ∈ name, isReferenceChar c = true) (hc : namedReference (name ++ [';']) = [c]) :
      decodeReferences (fuel + 1) ('&' :: (name ++ ';' :: rest)) = c :: decodeReferences fuel rest := by
    rw [decodeReferences, reference?_name hne hlength h, hc]
    rfl
  unfold escapeChar
  split_ifs with h1 h2 h3 h4 h5
  · subst h1
    exact hname "amp".toList (by decide) (by decide) (List.all_eq_true.mp (by decide)) hamp
  · subst h2
    exact hname "lt".toList (by decide) (by decide) (List.all_eq_true.mp (by decide)) hlt
  · subst h3
    exact hname "gt".toList (by decide) (by decide) (List.all_eq_true.mp (by decide)) hgt
  · subst h4
    exact hname "quot".toList (by decide) (by decide) (List.all_eq_true.mp (by decide)) hquot
  · subst h5
    have hread : reference? ("#x27;".toList ++ rest) = some (numberedReference 39, rest) := rfl
    have hopen : "&#x27;".toList ++ rest = '&' :: ("#x27;".toList ++ rest) := rfl
    rw [hopen, decodeReferences, hread, hapos]
    rfl
  · rw [List.singleton_append, decodeReferences]
    exact h1

theorem length_le_escape (s : List Char) : s.length ≤ (escape s).length := by
  induction s with
  | nil => simp
  | cons c s ih =>
    have hc : 1 ≤ (escapeChar c).length := by
      unfold escapeChar
      split_ifs <;> simp
    rw [escape, List.flatMap_cons, List.length_append, List.length_cons]
    exact Nat.add_comm 1 _ ▸ Nat.add_le_add hc ih

/-- Nothing is lost by escaping. -/
theorem unescape_escape (s : List Char) : unescape (escape s) = s := by
  have hdecode : ∀ fuel, s.length ≤ fuel → decodeReferences fuel (escape s) = s := by
    induction s with
    | nil => exact fun fuel _ => by cases fuel <;> rfl
    | cons c s ih =>
      intro fuel hfuel
      obtain ⟨fuel, rfl⟩ : ∃ n, fuel = n + 1 := ⟨fuel - 1, by simp at hfuel; omega⟩
      rw [escape, List.flatMap_cons, decodeReferences_escapeChar]
      exact congrArg (c :: ·) (ih fuel (by simpa using hfuel))
  exact hdecode _ (length_le_escape s)

theorem suffix_of_suffix_append {c : Char} {s t after : List Char} (hc : c ∉ s)
    (h : c :: after <:+ s ++ t) : c :: after <:+ t := by
  induction s with
  | nil => exact h
  | cons d s ih =>
    obtain ⟨hd, hs⟩ := not_or.mp (mt List.mem_cons.mpr hc)
    rcases List.suffix_cons_iff.mp h with heq | h
    · exact (hd (List.cons.inj heq).1).elim
    · exact ih hs h

/-- A reference is what one character is written as, and there is nothing to refer to inside it. -/
theorem reference_cases {r : List Char} (h : r ∈ markupReferences) :
    ∃ c name, escapeChar c = r ∧ r = '&' :: name ∧ '&' ∉ name ∧ ∀ d ∈ name, isInert d = true := by
  simp only [markupReferences, List.mem_cons, List.not_mem_nil, or_false] at h
  rcases h with rfl | rfl | rfl | rfl | rfl
  · exact ⟨'&', _, rfl, rfl, by decide, List.all_eq_true.mp (by decide)⟩
  · exact ⟨'<', _, rfl, rfl, by decide, List.all_eq_true.mp (by decide)⟩
  · exact ⟨'>', _, rfl, rfl, by decide, List.all_eq_true.mp (by decide)⟩
  · exact ⟨'"', _, rfl, rfl, by decide, List.all_eq_true.mp (by decide)⟩
  · exact ⟨'\'', _, rfl, rfl, by decide, List.all_eq_true.mp (by decide)⟩

/-- Before escaped text there may be any character, as it is written. -/
theorem Escaped.append_escapeChar {s : List Char} (h : Escaped s) (c : Char) :
    Escaped (escapeChar c ++ s) := by
  rcases escapeChar_cases c with hr | ⟨hplain, hc, hinert⟩
  · obtain ⟨-, name, -, heq, hname, hinert⟩ := reference_cases hr
    refine ⟨fun d hd => ?_, fun after hafter => ?_⟩
    · rw [heq, List.cons_append, List.mem_cons, List.mem_append] at hd
      rcases hd with rfl | hd | hd
      · decide
      · exact hinert d hd
      · exact h.inert d hd
    · rw [heq, List.cons_append] at hafter
      rcases List.suffix_cons_iff.mp hafter with hall | hafter
      · exact ⟨_, hr, heq ▸ hall ▸ List.prefix_append _ _⟩
      · exact h.referring after (suffix_of_suffix_append hname hafter)
  · rw [hplain]
    exact ⟨by simpa [hinert] using h.inert,
      fun after hafter => h.referring after (suffix_of_suffix_append (by simpa using hc.symm) hafter)⟩

theorem escaped_escape (s : List Char) : Escaped (escape s) := by
  induction s with
  | nil => exact ⟨by simp [escape], by simp [escape]⟩
  | cons c s ih => exact ih.append_escapeChar c

/-- Escaped text starts with what a character is written as. -/
theorem Escaped.exists_escapeChar {c : Char} {s : List Char} (h : Escaped (c :: s)) :
    ∃ d rest, c :: s = escapeChar d ++ rest := by
  by_cases hc : c = '&'
  · subst hc
    obtain ⟨r, hr, rest, hrest⟩ := h.referring s List.suffix_rfl
    obtain ⟨d, -, hd, -⟩ := reference_cases hr
    exact ⟨d, rest, hd ▸ hrest.symm⟩
  · exact ⟨c, s, by rw [escapeChar_of_inert hc (h.inert c List.mem_cons_self), List.singleton_append]⟩

/-- Escaped text is what some text is written as. -/
theorem Escaped.exists_escape {s : List Char} (h : Escaped s) : ∃ t, escape t = s := by
  induction hn : s.length using Nat.strongRecOn generalizing s with
  | ind n ih =>
    cases s with
    | nil => exact ⟨[], rfl⟩
    | cons c s =>
      obtain ⟨d, rest, hsplit⟩ := h.exists_escapeChar
      have hlt : rest.length < n := by
        have hpos : 0 < (escapeChar d).length := by
          unfold escapeChar
          split_ifs <;> simp
        rw [← hn, hsplit, List.length_append]
        omega
      obtain ⟨t, rfl⟩ := ih _ hlt (h.suffix ⟨escapeChar d, hsplit.symm⟩) rfl
      exact ⟨d :: t, hsplit.symm⟩

/-- Escaping what a text stands for is the one way to write that without markup. -/
theorem escapeOnce_eq_iff {s t : List Char} :
    escapeOnce t = s ↔ Escaped s ∧ unescape s = unescape t := by
  constructor
  · rintro rfl
    exact ⟨escaped_escape _, unescape_escape _⟩
  · rintro ⟨hs, heq⟩
    obtain ⟨u, rfl⟩ := hs.exists_escape
    rw [escapeOnce, ← heq, unescape_escape]

/-- There is nothing to escape: neither an ampersand nor a bracket nor a quote. -/
def Harmless (s : List Char) : Prop := ∀ c ∈ s, c ≠ '&' ∧ isInert c = true

instance (s : List Char) : Decidable (Harmless s) :=
  List.decidableBAll (fun c => c ≠ '&' ∧ isInert c = true) s

theorem Harmless.escapeOnce_eq {s : List Char} (h : Harmless s) : escapeOnce s = s := by
  have hescape : escape s = s := by
    induction s with
    | nil => rfl
    | cons c s ih =>
      obtain ⟨⟨hc, hinert⟩, hs⟩ := List.forall_mem_cons.mp h
      rw [escape, List.flatMap_cons, escapeChar_of_inert hc hinert]
      exact congrArg (c :: ·) (ih hs)
  have hunescape : unescape s = s := by
    rw [← hescape, unescape_escape, hescape]
  rw [escapeOnce, hunescape, hescape]

end MessageFormat.Text

namespace MessageFormat

open Text

/-- Escaping text that is escaped changes nothing. What comes out stands for the same as the text did, without
markup and with every ampersand in a reference; no other text that is escaped stands for that. -/
theorem escapeText_exact (t : String) :
    escapeText (escapeText t) = escapeText t ∧
    unescape (escapeText t).toList = unescape t.toList ∧
    Escaped (escapeText t).toList ∧
    ∀ s : String, escapeText t = s ↔ Escaped s.toList ∧ unescape s.toList = unescape t.toList := by
  have htext : (escapeText t).toList = escapeOnce t.toList := String.toList_ofList
  have hunique : ∀ s : String,
      escapeText t = s ↔ Escaped s.toList ∧ unescape s.toList = unescape t.toList := by
    intro s
    rw [← String.toList_inj, htext]
    exact escapeOnce_eq_iff
  obtain ⟨hescaped, hunescape⟩ := (hunique _).mp rfl
  refine ⟨?_, hunescape, hescaped, hunique⟩
  rw [escapeText, escapeOnce, hunescape]
  rfl

/-- The ampersand of a reference that a text shows is escaped, and nothing else. -/
example : escapeText "&amp;amp;lt <i>" = "&amp;amp;lt &lt;i&gt;" := by rfl

end MessageFormat

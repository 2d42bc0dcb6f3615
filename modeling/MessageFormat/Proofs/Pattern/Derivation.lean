import Mathlib
import MessageFormat.Proofs.Pattern.Location
import MessageFormat.Proofs.Pattern.Nesting
import MessageFormat.Proofs.Pattern.Reading

/-!
The reader of patterns reads what the grammar derives. A limit on nesting gives the induction its measure.
-/

set_option autoImplicit false

namespace MessageFormat.Pattern.Grammar

open Text

/-! Bodies. A rule that holds with fewer derivations for its bodies is a rule about those bodies. -/

/-- The derivations of sequences with a property. -/
def Derivation.only (B : Derivation (List Node)) (Q : List Node → Prop) : Derivation (List Node) :=
  fun scope s r nodes => B scope s r nodes ∧ Q nodes

variable {B : Derivation (List Node)} {Q : List Node → Prop} {scope : Scope} {s r : List Char}

theorem cases_only_iff {κ : Type} {IsKey : κ → Prop} {text : κ → String}
    {found : List (Case κ (List Node))} :
    Cases IsKey text (B.only Q) scope s r found ↔
      Cases IsKey text B scope s r found ∧ ∀ c ∈ found, Q c.body := by
  constructor
  · intro h
    induction h with
    | close hs => exact ⟨.close hs, by simp⟩
    | case hs hk hs₁ hb _ ih =>
      refine ⟨.case hs hk hs₁ hb.1 ih.1, ?_⟩
      simpa using ⟨hb.2, ih.2⟩
  · intro hx
    obtain ⟨h, hQ⟩ := hx
    induction h with
    | close hs => exact .close hs
    | case hs hk hs₁ hb _ ih =>
      simp only [List.mem_cons, forall_eq_or_imp] at hQ
      exact .case hs hk hs₁ ⟨hb, hQ.1⟩ (ih hQ.2)

theorem typed_only_iff {argument formatter : String} {node : Node} :
    Typed (B.only Q) argument formatter scope s r node ↔
      Typed B argument formatter scope s r node ∧ ∀ body ∈ node.bodies, Q body := by
  constructor
  · intro h
    cases h with
    | call hsel hrange hst => exact ⟨.call hsel hrange hst, by simp [Node.bodies]⟩
    | range hrange hs hs₁ hn hst => exact ⟨.range hrange hs hs₁ hn hst, by simp [Node.bodies]⟩
    | plural o hf hs ho hc hn =>
      obtain ⟨hc, hQ⟩ := cases_only_iff.mp hc
      exact ⟨.plural o hf hs ho hc hn, by simpa [Node.bodies] using hQ⟩
    | select hf hs hc hn =>
      obtain ⟨hc, hQ⟩ := cases_only_iff.mp hc
      exact ⟨.select hf hs hc hn, by simpa [Node.bodies] using hQ⟩
  · intro hx
    obtain ⟨h, hQ⟩ := hx
    cases h with
    | call hsel hrange hst => exact .call hsel hrange hst
    | range hrange hs hs₁ hn hst => exact .range hrange hs hs₁ hn hst
    | plural o hf hs ho hc hn =>
      exact .plural o hf hs ho (cases_only_iff.mpr ⟨hc, by simpa [Node.bodies] using hQ⟩) hn
    | select hf hs hc hn =>
      exact .select hf hs (cases_only_iff.mpr ⟨hc, by simpa [Node.bodies] using hQ⟩) hn

theorem placeholder_only_iff {node : Node} :
    Placeholder (B.only Q) scope s r node ↔
      Placeholder B scope s r node ∧ ∀ body ∈ node.bodies, Q body := by
  constructor
  · intro h
    cases h with
    | argument hs hn hs₁ => exact ⟨.argument hs hn hs₁, by simp [Node.bodies]⟩
    | typed hs hn hs₁ hs₂ hf ht =>
      obtain ⟨ht, hQ⟩ := typed_only_iff.mp ht
      exact ⟨.typed hs hn hs₁ hs₂ hf ht, hQ⟩
  · intro hx
    obtain ⟨h, hQ⟩ := hx
    cases h with
    | argument hs hn hs₁ => exact .argument hs hn hs₁
    | typed hs hn hs₁ hs₂ hf ht => exact .typed hs hn hs₁ hs₂ hf (typed_only_iff.mpr ⟨ht, hQ⟩)

/-- A self-closing tag has the empty sequence for its body. -/
theorem tag_only_iff (hnil : Q []) {node : Node} :
    Tag (B.only Q) scope s r node ↔ Tag B scope s r node ∧ ∀ body ∈ node.bodies, Q body := by
  constructor
  · intro h
    cases h with
    | selfClosing hs hx ha => exact ⟨.selfClosing hs hx ha, by simpa [Node.bodies] using hnil⟩
    | enclosing hs hx ha hb hs₃ hy hl hs₄ =>
      exact ⟨.enclosing hs hx ha hb.1 hs₃ hy hl hs₄, by simpa [Node.bodies] using hb.2⟩
  · intro hall
    obtain ⟨h, hQ⟩ := hall
    cases h with
    | selfClosing hs hx ha => exact .selfClosing hs hx ha
    | enclosing hs hx ha hb hs₃ hy hl hs₄ =>
      exact .enclosing hs hx ha ⟨hb, by simpa [Node.bodies] using hQ⟩ hs₃ hy hl hs₄

theorem placeholder_opens {node : Node} (h : Placeholder B scope s r node) :
    node.opens = true := by
  cases h with
  | argument => rfl
  | typed _ _ _ _ _ ht => cases ht <;> rfl

theorem tag_opens {node : Node} (h : Tag B scope s r node) : node.opens = true := by
  cases h <;> rfl

/-! One level. -/

/-- The readers of bodies with fewer levels, if there are any levels to read. -/
def ReadsLevels (n : Nat) : Option Inner → Prop
  | none => n = 0
  | some inner => ∃ k, n = k + 1 ∧ Reads inner (Derivation.only Sequence (Node.levelsOf · ≤ k))

variable {limit : Int} {inner : Option Inner} {n : Nat} {node : Node}

theorem placeholder_eq_ok_levels_iff (hi : ReadsLevels n inner) :
    placeholder limit inner scope ('{' :: s) = .ok (node, r) ↔
      Placeholder Sequence scope s r node ∧ node.levels ≤ n := by
  cases inner with
  | none =>
    obtain rfl : n = 0 := hi
    constructor
    · intro h
      exact absurd h fail_ne_ok
    · intro hx
      obtain ⟨h, hl⟩ := hx
      have := Node.levels_pos_of_opens (placeholder_opens h)
      omega
  | some inner =>
    obtain ⟨k, rfl, hr⟩ := hi
    rw [placeholder_eq_ok_iff hr, placeholder_only_iff, Node.levels_le_succ_iff]

theorem tag_eq_ok_levels_iff (hi : ReadsLevels n inner) {c : Char} (hc : isLetter c = true)
    (ht : scope.tags = true) :
    tag limit inner scope ('<' :: c :: s) = .ok (node, r) ↔
      Tag Sequence scope (c :: s) r node ∧ node.levels ≤ n := by
  cases inner with
  | none =>
    obtain rfl : n = 0 := hi
    constructor
    · intro h
      exact absurd h fail_ne_ok
    · intro hx
      obtain ⟨h, hl⟩ := hx
      have := Node.levels_pos_of_opens (tag_opens h)
      omega
  | some inner =>
    obtain ⟨k, rfl, hr⟩ := hi
    rw [tag_eq_ok_iff hr hc ht, tag_only_iff (by simp [Node.levelsOf]), Node.levels_le_succ_iff]

theorem Tag.head (h : Tag B scope s r node) : ∃ c s', s = c :: s' ∧ isLetter c = true := by
  have hx : ∀ {x : String} {s₁}, s = x.toList ++ s₁ → IsTagName x →
      ∃ c s', s = c :: s' ∧ isLetter c = true := by
    intro x s₁ heq hx
    subst heq
    obtain ⟨c, w, hw, hc⟩ := hx.head
    exact ⟨c, w ++ s₁, by rw [hw]; rfl, hc⟩
  cases h with
  | selfClosing hs hn => exact hx hs hn
  | enclosing hs hn => exact hx hs hn

/-- Text stops where nodes follow that do not start with text. -/
theorem Sequence.stops_of_ne_nil {nodes : List Node} (h : Sequence scope s r nodes)
    (hne : nodes ≠ []) (hn : startsWithText nodes = false) : scope.stops s = true := by
  cases h with
  | done => exact absurd rfl hne
  | text => simp [startsWithText] at hn
  | hash hp => simp [Scope.stops, hp]
  | placeholder => simp [Scope.stops]
  | tag ht h =>
    obtain ⟨c, s', rfl, hc⟩ := h.head
    simp [Scope.stops, ht, startsTag, hc, ne_slash_of_isLetter hc]

/-- A sequence that does not go on with text starts where text stops. -/
theorem Sequence.stops {nodes : List Node} {inTag : Bool} (h : Sequence scope s r nodes)
    (hn : startsWithText nodes = false) (hr : Stop scope inTag r) : scope.stops s = true := by
  by_cases hne : nodes = []
  · subst hne
    cases h with
    | done => exact hr.stops
  · exact h.stops_of_ne_nil hne hn

theorem Sequence.not_text {nodes : List Node} (h : Sequence scope s r nodes)
    (hs : scope.stops s = true) : startsWithText nodes = false := by
  cases h with
  | done => rfl
  | text ht hn =>
    obtain ⟨c, s', rfl, hc, -⟩ := ht.head hn
    simp [hs] at hc
  | hash => rfl
  | placeholder h =>
    cases h with
    | argument => rfl
    | typed _ _ _ _ _ ht => cases ht <;> rfl
  | tag _ h => cases h <;> rfl

variable {inTag : Bool} {fuel : Nat} {nodes : List Node}

theorem continued_eq_ok_iff :
    continued limit inner scope inTag fuel (node, s) = .ok (nodes, r) ↔
      ∃ more, sequence limit inner scope inTag fuel s = .ok (more, r) ∧ node :: more = nodes := by
  unfold continued
  rw [bind_eq_ok_iff]
  constructor
  · intro hx
    obtain ⟨⟨more, r'⟩, h, h'⟩ := hx
    obtain ⟨rfl, rfl⟩ := Prod.mk.inj (Except.ok.inj h')
    exact ⟨more, h, rfl⟩
  · intro hx
    obtain ⟨more, h, rfl⟩ := hx
    exact ⟨_, h, rfl⟩

theorem levelsOf_cons_le_iff {more : List Node} :
    Node.levelsOf (node :: more) ≤ n ↔ node.levels ≤ n ∧ Node.levelsOf more ≤ n := by
  rw [Node.levelsOf, Nat.max_le]

theorem sequence_sound (hi : ReadsLevels n inner) (hw : ∀ source, InnerWithin source inner)
    (hf : s.length ≤ fuel) (h : sequence limit inner scope inTag fuel s = .ok (nodes, r)) :
    Sequence scope s r nodes ∧ Node.levelsOf nodes ≤ n ∧ Stop scope inTag r := by
  -- each node takes a character at least, which the fuel counts
  induction fuel generalizing s nodes with
  | zero =>
    obtain rfl : s = [] := List.eq_nil_of_length_eq_zero (by omega)
    obtain ⟨rfl, rfl⟩ := Prod.mk.inj (Except.ok.inj h)
    exact ⟨.done, by simp [Node.levelsOf], .endOfText⟩
  | succ fuel ih =>
    cases opening scope inTag s with
    | stop hs =>
      rw [sequence_of_stop hs] at h
      obtain ⟨rfl, rfl⟩ := Prod.mk.inj (Except.ok.inj h)
      exact ⟨.done, by simp [Node.levelsOf], hs⟩
    | stray c s ht hin hc =>
      rw [sequence_stray s ht hin hc] at h
      cases h
    | placeholder s =>
      rw [sequence_placeholder] at h
      obtain ⟨⟨node, s₁⟩, hp, h⟩ := bind_eq_ok_iff.mp h
      obtain ⟨more, hm, rfl⟩ := continued_eq_ok_iff.mp h
      have hl := placeholder_length hw hp
      simp only [List.length_cons] at hf
      obtain ⟨hseq, hlevels, hstop⟩ := ih (by omega) hm
      obtain ⟨hp, hn⟩ := (placeholder_eq_ok_levels_iff hi).mp hp
      exact ⟨.placeholder hp hseq, levelsOf_cons_le_iff.mpr ⟨hn, hlevels⟩, hstop⟩
    | tag c s ht hc =>
      rw [sequence_tag s ht hc] at h
      obtain ⟨⟨node, s₁⟩, hp, h⟩ := bind_eq_ok_iff.mp h
      obtain ⟨more, hm, rfl⟩ := continued_eq_ok_iff.mp h
      have hl := tag_length hw hp
      simp only [List.length_cons] at hf hl
      obtain ⟨hseq, hlevels, hstop⟩ := ih (by omega) hm
      obtain ⟨hp, hn⟩ := (tag_eq_ok_levels_iff hi hc ht).mp hp
      exact ⟨.tag ht hp hseq, levelsOf_cons_le_iff.mpr ⟨hn, hlevels⟩, hstop⟩
    | hash s hp =>
      rw [sequence_hash s hp] at h
      obtain ⟨more, hm, rfl⟩ := continued_eq_ok_iff.mp h
      simp only [List.length_cons] at hf
      obtain ⟨hseq, hlevels, hstop⟩ := ih (by omega) hm
      exact ⟨.hash hp hseq, levelsOf_cons_le_iff.mpr ⟨by simp [Node.levels], hlevels⟩, hstop⟩
    | text c s hs =>
      rw [sequence_text hs] at h
      obtain ⟨t, s₁, ht⟩ : ∃ t s₁, text scope false (c :: s) = (t, s₁) := ⟨_, _, rfl⟩
      rw [ht] at h
      obtain ⟨more, hm, rfl⟩ := continued_eq_ok_iff.mp h
      obtain ⟨hrun, hs₁⟩ := text_eq_iff.mp ht
      have hne := hrun.ne_nil hs hs₁
      have hl' : s₁.length ≤ fuel := by
        have hl := text_length hs
        rw [ht] at hl
        simp only [List.length_cons] at hf hl
        omega
      obtain ⟨hseq, hlevels, hstop⟩ := ih hl' hm
      exact ⟨.text hrun hne (hseq.not_text hs₁) hseq,
        levelsOf_cons_le_iff.mpr ⟨by simp [Node.levels], hlevels⟩, hstop⟩

theorem sequence_complete (hi : ReadsLevels n inner) (hw : ∀ source, InnerWithin source inner)
    (hf : s.length ≤ fuel) (h : Sequence scope s r nodes) (hn : Node.levelsOf nodes ≤ n)
    (hr : Stop scope inTag r) : sequence limit inner scope inTag fuel s = .ok (nodes, r) := by
  induction fuel generalizing s nodes with
  | zero =>
    obtain rfl : s = [] := List.eq_nil_of_length_eq_zero (by omega)
    cases h with
    | done => rfl
    | text hrun hne =>
      obtain ⟨c, s', h, -⟩ := hrun.head hne
      cases h
  | succ fuel ih =>
    cases h with
    | done => exact sequence_of_stop hr
    | text hrun hne hnodes hseq =>
      -- the reader takes all the text there is, so the run of the derivation must end where text stops
      rename_i s₁ t more
      have hs₁ := hseq.stops hnodes hr
      obtain ⟨d, s', rfl, hs, hl⟩ := hrun.head hne
      have hl' : s₁.length ≤ fuel := by
        simp only [List.length_cons] at hf
        omega
      have hm := ih hl' hseq (levelsOf_cons_le_iff.mp hn).2
      rw [sequence_text hs, text_of_textRun hrun hs₁]
      exact continued_eq_ok_iff.mpr ⟨more, hm, rfl⟩
    | hash hp hseq =>
      simp only [List.length_cons] at hf
      have hm := ih (by omega) hseq (levelsOf_cons_le_iff.mp hn).2
      rw [sequence_hash _ hp]
      exact continued_eq_ok_iff.mpr ⟨_, hm, rfl⟩
    | placeholder hp hseq =>
      rename_i s' s₁ node more
      have hp' : placeholder limit inner scope ('{' :: s') = .ok (node, s₁) :=
        (placeholder_eq_ok_levels_iff hi).mpr ⟨hp, (levelsOf_cons_le_iff.mp hn).1⟩
      have hl := placeholder_length hw hp'
      simp only [List.length_cons] at hf
      have hm := ih (by omega) hseq (levelsOf_cons_le_iff.mp hn).2
      rw [sequence_placeholder]
      exact bind_eq_ok_iff.mpr ⟨_, hp', continued_eq_ok_iff.mpr ⟨_, hm, rfl⟩⟩
    | tag ht hp hseq =>
      rename_i s' s₁ node more
      obtain ⟨c, s', rfl, hc⟩ := hp.head
      have hp' : tag limit inner scope ('<' :: c :: s') = .ok (node, s₁) :=
        (tag_eq_ok_levels_iff hi hc ht).mpr ⟨hp, (levelsOf_cons_le_iff.mp hn).1⟩
      have hl := tag_length hw hp'
      simp only [List.length_cons] at hf hl
      have hm := ih (by omega) hseq (levelsOf_cons_le_iff.mp hn).2
      rw [sequence_tag _ ht hc]
      exact bind_eq_ok_iff.mpr ⟨_, hp', continued_eq_ok_iff.mpr ⟨_, hm, rfl⟩⟩

theorem sequence_eq_ok_iff (hi : ReadsLevels n inner) (hw : ∀ source, InnerWithin source inner) :
    sequence limit inner scope inTag s.length s = .ok (nodes, r) ↔
      Sequence scope s r nodes ∧ Node.levelsOf nodes ≤ n ∧ Stop scope inTag r := by
  constructor
  · exact sequence_sound hi hw (Nat.le_refl _)
  · intro hx
    obtain ⟨h, hn, hr⟩ := hx
    exact sequence_complete hi hw (Nat.le_refl _) h hn hr

theorem readsLevels_of_eq_ok_iff
    (h : ∀ {scope inTag s r nodes}, nodesWithin limit n scope inTag s = .ok (nodes, r) ↔
      Sequence scope s r nodes ∧ Node.levelsOf nodes ≤ n ∧ Stop scope inTag r) :
    ReadsLevels (n + 1) (some (nodesWithin limit n)) := by
  refine ⟨n, rfl, ?_, ?_⟩
  · intro scope inTag s r nodes h
    have hs := within_nodesWithin s limit n scope inTag s List.suffix_rfl
    rw [h] at hs
    exact hs
  · intro scope inTag s r nodes
    rw [h, Derivation.only, and_assoc]

/-- The induction over the recursion of the readers: each level hands on what the one below reads. -/
theorem nodesWithin_eq_ok_iff (limit : Int) (n : Nat) {scope : Scope} {inTag : Bool}
    {s r : List Char} {nodes : List Node} :
    nodesWithin limit n scope inTag s = .ok (nodes, r) ↔
      Sequence scope s r nodes ∧ Node.levelsOf nodes ≤ n ∧ Stop scope inTag r := by
  induction n generalizing scope inTag s r nodes with
  | zero => exact sequence_eq_ok_iff rfl (by simp [InnerWithin])
  | succ n ih =>
    exact sequence_eq_ok_iff (readsLevels_of_eq_ok_iff ih) fun source =>
      innerWithin_nodesWithin source limit n

theorem readsLevels_nodesWithin (limit : Int) (n : Nat) :
    ReadsLevels (n + 1) (some (nodesWithin limit n)) :=
  readsLevels_of_eq_ok_iff (nodesWithin_eq_ok_iff limit n)

theorem stop_top_iff {tags : Bool} {r : List Char} : Stop { tags } false r ↔ r = [] := by
  constructor
  · intro h
    cases h with
    | endOfText => rfl
    | brace _ hb => cases hb
    | closing _ _ _ hi => cases hi
  · intro hx
    subst hx
    exact .endOfText

/-! Patterns. -/

variable {settings : Settings} {p : List Char} {m : Message}

/-- What is read at the top is read to the end. -/
theorem nodes_eq_ok_iff :
    settings.nodes p = .ok (nodes, r) ↔
      Derives (!settings.ignoreTags) p ⟨nodes⟩ ∧ Node.FitsWithin settings.maxDepth nodes ∧
        r = [] := by
  rw [Settings.nodes, nodesWithin_eq_ok_iff, stop_top_iff, Node.fitsWithin_iff, Derives]
  constructor
  · intro hx
    obtain ⟨h, hn, rfl⟩ := hx
    exact ⟨h, hn, rfl⟩
  · intro hx
    obtain ⟨h, hn, rfl⟩ := hx
    exact ⟨h, hn, rfl⟩

theorem parse_eq_ok_iff :
    settings.parse p = .ok m ↔
      settings.Admits p ∧ Derives (!settings.ignoreTags) p m ∧ m.FitsWithin settings.maxDepth := by
  rw [Settings.parse_eq_ok_nodes_iff]
  constructor
  · intro hx
    obtain ⟨ha, r, hn⟩ := hx
    obtain ⟨hd, hf, -⟩ := nodes_eq_ok_iff.mp hn
    exact ⟨ha, hd, hf⟩
  · intro hx
    obtain ⟨ha, hd, hf⟩ := hx
    exact ⟨ha, [], nodes_eq_ok_iff.mpr ⟨hd, hf, rfl⟩⟩

/-- The grammar gives a text one meaning at most. -/
theorem Derives.unique {tags : Bool} {m' : Message} (h : Derives tags p m)
    (h' : Derives tags p m') : m = m' := by
  -- a reader is a function, so two derivations agree under any limit that refuses neither
  let k := max (Node.levelsOf m.body) (Node.levelsOf m'.body)
  let settings : Settings := ⟨0, k, !tags⟩
  have hp : ∀ {m : Message}, Derives tags p m → Node.levelsOf m.body ≤ k →
      settings.parse p = .ok m := by
    intro m hd hk
    refine parse_eq_ok_iff.mpr ⟨by simp [settings, Settings.Admits], by simpa [settings] using hd, ?_⟩
    exact Node.fitsWithin_iff.mpr (by simpa [settings] using hk)
  have hm := hp h (Nat.le_max_left _ _)
  rw [hp h' (Nat.le_max_right _ _)] at hm
  exact (Except.ok.inj hm).symm

/-- A pattern is accepted with a message just if the size limit admits it, the grammar derives the
message from all of it, and the message stays within the nesting limit. The loop over the nodes of
the top never leaves anything. -/
theorem parse_iff_derives (settings : Settings) (p : List Char) (m : Message) :
    (settings.parse p = .ok m ↔
      settings.Admits p ∧ Derives (!settings.ignoreTags) p m ∧
        m.FitsWithin settings.maxDepth) ∧
    (∀ nodes r, settings.nodes p = .ok (nodes, r) → r = []) := by
  refine ⟨parse_eq_ok_iff, ?_⟩
  intro nodes r h
  exact (nodes_eq_ok_iff.mp h).2.2

set_option maxRecDepth 4000 in
/-- Bodies, tags and quotations in one text. -/
theorem parse_iff_derives_nested :
    Derives true "\x7bn, plural, =1 \x7b<b>#</b>\x7d other \x7b'\x7b'#\x7d\x7d".toList
      ⟨[.plural "n" Decimal.zero false
        [⟨.exact "=1" ⟨false, 1, 0⟩, [.tag "b" "" false [.hash]]⟩,
          ⟨.category "other", [.literal "\x7b", .hash]⟩]]⟩ :=
  ((parse_iff_derives {} _ _).1.mp (by cbv)).2.1

end MessageFormat.Pattern.Grammar

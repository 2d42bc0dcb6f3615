import Mathlib
import MessageFormat.Proofs.Pattern.Continuation
import MessageFormat.Proofs.Pattern.Printer

/-!
Patterns in patterns. A pattern without apostrophes means in a case body or in a tag what it means by
itself; only `#` is a number in a plural selection.
-/

set_option autoImplicit false

namespace MessageFormat

namespace Node

mutual

/-- The text outside of case bodies. -/
def outerText : Node → List Char
  | .literal text => text.toList
  | .tag _ _ _ children => outerTextOf children
  | _ => []

def outerTextOf : List Node → List Char
  | [] => []
  | n :: ns => outerText n ++ outerTextOf ns

end

/-- A character before nodes. It belongs to the text that they start with. -/
def withChar (c : Char) : List Node → List Node
  | .literal text :: ns => .literal (String.ofList (c :: text.toList)) :: ns
  | ns => .literal (String.ofList [c]) :: ns

/-- Text in a plural selection, before the nodes that follow it. -/
def numberText (t : List Char) (ns : List Node) : List Node :=
  t.foldr (fun c ns => if c = '#' then .hash :: ns else withChar c ns) ns

mutual

/-- A node in the body of a plural selection. Plural selections in it are no other than before. -/
def numbered : Node → Node
  | .select subject cases => .select subject (numberedCases cases)
  | .tag name attributes selfClosing children =>
    .tag name attributes selfClosing (numberedAll children)
  | n => n

/-- Nodes in the body of a plural selection. In all of their text `#` is a number. -/
def numberedAll : List Node → List Node
  | [] => []
  | .literal text :: ns => numberText text.toList (numberedAll ns)
  | n :: ns => numbered n :: numberedAll ns

def numberedCases : List (Case String (List Node)) → List (Case String (List Node))
  | [] => []
  | ⟨key, body⟩ :: cases => ⟨key, numberedAll body⟩ :: numberedCases cases

end

theorem numberedCases_eq (cases : List (Case String (List Node))) :
    numberedCases cases = cases.map (Case.map numberedAll) := by
  induction cases with
  | nil => rfl
  | cons c cases ih => rw [numberedCases, ih]; rfl

theorem numbered_eq (n : Node) : numbered n = n.mapBodies id numberedAll := by
  cases n with
  | plural => simp [numbered, mapBodies, Case.map_id]
  | select => rw [numbered, mapBodies, numberedCases_eq]
  | _ => rfl

theorem levelsOf_withChar (c : Char) (ns : List Node) : levelsOf (withChar c ns) = levelsOf ns := by
  unfold withChar
  split <;> simp [levelsOf, levels]

theorem levelsOf_numberText (t : List Char) (ns : List Node) :
    levelsOf (numberText t ns) = levelsOf ns := by
  induction t with
  | nil => rfl
  | cons c t ih =>
    rw [numberText, List.foldr_cons, ← numberText]
    split
    · simp [levelsOf, levels, ih]
    · rw [levelsOf_withChar, ih]

mutual

theorem levels_numbered : ∀ n : Node, levels (numbered n) = levels n
  | .literal _ | .argument _ | .hash | .call _ | .plural .. | .foreign _ => rfl
  | .select _ cases => by rw [numbered, levels, levels, selectLevels_numberedCases]
  | .tag _ _ _ children => by rw [numbered, levels, levels, levelsOf_numberedAll]

theorem levelsOf_numberedAll : ∀ ns : List Node, levelsOf (numberedAll ns) = levelsOf ns
  | [] => rfl
  | n :: ns => by
    have hn := levels_numbered n
    have hns := levelsOf_numberedAll ns
    cases n with
    | literal => simp [numberedAll, levelsOf_numberText, levelsOf, levels, hns]
    | _ => rw [numberedAll, levelsOf, levelsOf, hn, hns]; simp

theorem selectLevels_numberedCases : ∀ cs : List (Case String (List Node)),
    selectLevels (numberedCases cs) = selectLevels cs
  | [] => rfl
  | ⟨_, body⟩ :: cs => by
    rw [numberedCases, selectLevels, selectLevels, levelsOf_numberedAll, selectLevels_numberedCases]

end

end Node

namespace Pattern.Grammar

open Text Node

variable {s r x source : List Char} {scope scope' : Scope} {nodes : List Node} {node : Node}

/-! Text. -/

/-- A source without quotation, such that no tag opens where `x` joins it. -/
structure Joins (source x : List Char) : Prop where
  unquoted : '\'' ∉ source
  seam : ∀ u, '<' :: u <:+ source → ¬ OpensTag u → ¬ OpensTag (u ++ x)

theorem joins_of_head (hp : '\'' ∉ source) (hx : ∀ c ∈ x.head?, isLetter c = false ∧ c ≠ '/') :
    Joins source x := by
  refine ⟨hp, fun u _ hu hopens => hu ?_⟩
  have hletter : ∀ {c : Char} {r : List Char}, x = c :: r → isLetter c ≠ true := by
    intro c r h hc
    have hl := (hx c (by rw [h]; rfl)).1
    rw [hc] at hl
    cases hl
  obtain ⟨c, r, hc, h | h⟩ := hopens
  · cases u with
    | nil => exact absurd hc (hletter h)
    | cons d u =>
      obtain ⟨rfl, -⟩ := List.cons.inj h
      exact ⟨d, u, hc, .inl rfl⟩
  · cases u with
    | nil =>
      have hslash : x = '/' :: c :: r := h
      exact absurd rfl (hx '/' (by rw [hslash]; rfl)).2
    | cons d u =>
      obtain ⟨rfl, htail⟩ := List.cons.inj h
      cases u with
      | nil => exact absurd hc (hletter htail)
      | cons e u =>
        obtain ⟨rfl, -⟩ := List.cons.inj htail
        exact ⟨e, u, hc, .inr rfl⟩

theorem TextRun.carried {t : List Char} (hj : Joins source x) (htags : scope'.tags = scope.tags)
    (hplural : scope'.inPlural = scope.inPlural) (h : TextRun scope s r t) (hs : s <:+ source)
    (hbrace : scope.inBody = false → scope'.inBody = true → '}' ∉ t) :
    TextRun scope' (s ++ x) (r ++ x) t := by
  induction h with
  | nil => exact .nil
  | apostrophes | quotation | apostrophe =>
    exact absurd (hs.subset List.mem_cons_self) hj.unquoted
  | @plain c s r t hc _ ih =>
    refine .plain ⟨hc.not_apostrophe, hc.not_open, fun hx => ?_, fun hx => ?_, fun hx ht => ?_⟩ ?_
    · by_contra hin
      have h := hbrace (hc.close hx) (by simpa using hin)
      exact h (hx ▸ List.mem_cons_self)
    · rw [hplural]
      exact hc.hash hx
    · subst hx
      exact hj.seam s hs (hc.angle rfl (htags ▸ ht))
    · exact ih ((List.suffix_cons c s).trans hs) fun h h' =>
        List.not_mem_of_not_mem_cons (hbrace h h')

theorem withChar_of_not_text (c : Char) (h : startsWithText nodes = false) :
    withChar c nodes = .literal (String.ofList [c]) :: nodes := by
  unfold withChar
  split
  · simp [startsWithText] at h
  · rfl

theorem Sequence.cons_plain {c : Char} (hc : IsPlain scope c s) (h : Sequence scope s r nodes) :
    Sequence scope (c :: s) r (withChar c nodes) := by
  have halone : startsWithText nodes = false → Sequence scope (c :: s) r (withChar c nodes) := by
    intro hn
    rw [withChar_of_not_text c hn]
    exact .text (.plain hc .nil) (List.cons_ne_nil _ _) hn h
  cases h with
  | done => exact halone rfl
  | text ht hne hn hseq =>
    rw [withChar, String.toList_ofList]
    exact .text (.plain hc ht) (List.cons_ne_nil _ _) hn hseq
  | hash => exact halone rfl
  | placeholder hp => exact halone (by rw [startsWithText_cons, hp.not_text])
  | tag _ hp => exact halone (by rw [startsWithText_cons, hp.not_text])

/-- Before the same nodes text is the same text, with numbers for its `#`. -/
theorem TextRun.numbered {t : List Char} (hp : '\'' ∉ s) (h : TextRun scope s r t) {q : List Char}
    (hr : Sequence { scope with inPlural := true } r q nodes) :
    Sequence { scope with inPlural := true } s q (numberText t nodes) := by
  induction h with
  | nil => exact hr
  | apostrophes | quotation | apostrophe => exact absurd List.mem_cons_self hp
  | @plain c s r t hc _ ih =>
    have ih := ih (List.not_mem_of_not_mem_cons hp) hr
    rw [numberText, List.foldr_cons, ← numberText]
    split
    · rename_i hx
      subst hx
      exact .hash rfl ih
    · rename_i hx
      exact ih.cons_plain
        ⟨hc.not_apostrophe, hc.not_open, hc.close, fun h => absurd h hx, hc.angle⟩

/-! Sequences. -/

theorem outerTextOf_of_tag {B : Derivation (List Node)} (h : Tag B scope s r node) :
    ∀ body ∈ node.bodies, outerTextOf body = outerText node := by
  cases h <;> simp [bodies, outerText, outerTextOf]

/-- No brace that is text in the one scope closes a body in the other. -/
def Unbraced (scope scope' : Scope) (nodes : List Node) : Prop :=
  scope.inBody = false → scope'.inBody = true → '}' ∉ outerTextOf nodes

/-- Nodes are read before more text, and in another scope, if the sequences in them are. -/
theorem Sequence.carried_of_bodies (hj : Joins source x) {k : Nat} (htags : scope'.tags = scope.tags)
    (hplural : scope'.inPlural = scope.inPlural)
    (hcase : ∀ plural, Carries source x id
      (Derivation.only Sequence (levelsOf · < k) (scope.body plural)) (Sequence (scope'.body plural)))
    (hcontent : Carries source x id
      (Derivation.only Sequence (fun ns => levelsOf ns < k ∧ Unbraced scope scope' ns) scope)
      (Sequence scope'))
    (h : Sequence scope s r nodes) (hs : s <:+ source) (hk : levelsOf nodes ≤ k)
    (hbrace : Unbraced scope scope' nodes) : r <:+ s ∧ Sequence scope' (s ++ x) (r ++ x) nodes := by
  induction nodes generalizing s with
  | nil =>
    cases h with
    | done => exact ⟨List.suffix_refl _, .done⟩
  | cons node nodes ih =>
    obtain ⟨hnode, hrest⟩ := levelsOf_cons_le_iff.mp hk
    have hlevels : ∀ body ∈ node.bodies, levelsOf body < k := fun body hb =>
      Nat.lt_of_lt_of_le (levelsOf_lt_of_mem hb) hnode
    simp only [Unbraced, outerTextOf, List.mem_append, not_or] at hbrace
    have hafter : Unbraced scope scope' nodes := fun hin hin' => (hbrace hin hin').2
    cases h with
    | text ht hne hn hseq =>
      obtain ⟨hr, hseq'⟩ := ih hseq (ht.suffix.trans hs) hrest hafter
      have ht' := ht.carried hj htags hplural hs fun hin hin' => by
        simpa [outerText] using (hbrace hin hin').1
      exact ⟨hr.trans ht.suffix, .text ht' hne hn hseq'⟩
    | @hash _ s _ _ hp hseq =>
      have hs' := List.suffix_cons '#' s
      obtain ⟨hr, hseq'⟩ := ih hseq (hs'.trans hs) hrest hafter
      exact ⟨hr.trans hs', .hash (hplural ▸ hp) hseq'⟩
    | @placeholder _ s s₁ _ _ _ hp hseq =>
      have hs' := List.suffix_cons '{' s
      obtain ⟨hs₁, hp'⟩ := carries_placeholder (hcase true) (hcase false) _ _ _ (hs'.trans hs)
        (placeholder_only_iff.mpr ⟨hp, hlevels⟩)
      rw [mapBodies_id] at hp'
      obtain ⟨hr, hseq'⟩ := ih hseq ((hs₁.trans hs').trans hs) hrest hafter
      exact ⟨hr.trans (hs₁.trans hs'), .placeholder hp' hseq'⟩
    | @tag _ s s₁ _ _ _ ht hp hseq =>
      have hs' := List.suffix_cons '<' s
      have hpos : 0 < k := Nat.lt_of_lt_of_le (levels_pos_of_opens (tag_opens hp)) hnode
      -- the content of a tag is in the same body, so the braces of its text count too
      have hbodies : ∀ body ∈ node.bodies, levelsOf body < k ∧ Unbraced scope scope' body := by
        refine fun body hb => ⟨hlevels body hb, fun hin hin' => ?_⟩
        rw [outerTextOf_of_tag hp body hb]
        exact (hbrace hin hin').1
      have htag : Carries source x (mapBodies id id) (Tag _ scope) (Tag Sequence scope') :=
        carries_tag rfl hcontent
      obtain ⟨hs₁, hp'⟩ := htag _ _ _ (hs'.trans hs)
        ((tag_only_iff ⟨hpos, by simp [Unbraced, outerTextOf]⟩).mpr ⟨hp, hbodies⟩)
      rw [mapBodies_id] at hp'
      obtain ⟨hr, hseq'⟩ := ih hseq ((hs₁.trans hs').trans hs) hrest hafter
      exact ⟨hr.trans (hs₁.trans hs'), .tag (htags ▸ ht) hp' hseq'⟩

/-- Nodes are read before more text, and in a body, as they are read by themselves. The induction is on
the levels, which the sequences in them have fewer of. -/
theorem Sequence.carried (hj : Joins source x) (h : Sequence scope s r nodes) (hs : s <:+ source)
    (htags : scope'.tags = scope.tags) (hplural : scope'.inPlural = scope.inPlural)
    (hbrace : Unbraced scope scope' nodes) : r <:+ s ∧ Sequence scope' (s ++ x) (r ++ x) nodes := by
  induction hk : levelsOf nodes using Nat.strongRecOn generalizing scope scope' s r nodes with
  | ind k ih =>
    refine Sequence.carried_of_bodies hj htags hplural (fun plural s r nodes hs h => ?_)
      (fun s r nodes hs h => ?_) h hs (Nat.le_of_eq hk) hbrace
    · have hp : (scope'.body plural).inPlural = (scope.body plural).inPlural := by
        simp [Scope.body, hplural]
      exact ih _ h.2 h.1 hs htags hp (by simp [Unbraced, Scope.body]) rfl
    · exact ih _ h.2.1 h.1 hs htags hplural h.2.2 rfl

theorem numberedAll_cons (hn : startsWithText [node] = false) (nodes : List Node) :
    numberedAll (node :: nodes) = node.mapBodies id numberedAll :: numberedAll nodes := by
  cases node with
  | literal => simp [startsWithText] at hn
  | _ => rw [← numbered_eq]; rfl

/-- Nodes are read in the body of a plural selection, up to `#`, if the sequences in them are. The bodies
of plural selections are in one scope in both readings. -/
theorem Sequence.numbered_of_bodies (hp : '\'' ∉ source) {k : Nat}
    (hother : ∀ scope : Scope, Carries source [] numberedAll
      (Derivation.only Sequence (levelsOf · < k) scope) (Sequence { scope with inPlural := true }))
    (h : Sequence scope s r nodes) (hs : s <:+ source) (hk : levelsOf nodes ≤ k) :
    r <:+ s ∧ Sequence { scope with inPlural := true } (s ++ []) (r ++ []) (numberedAll nodes) := by
  have hplural : Carries source [] id (Derivation.only Sequence (levelsOf · < k) (scope.body true))
      (Sequence ({ scope with inPlural := true }.body true)) := fun s r nodes hs h =>
    Sequence.carried (joins_of_head hp (by simp)) h.1 hs rfl rfl (by simp [Unbraced, Scope.body])
  induction nodes generalizing s with
  | nil =>
    cases h with
    | done => exact ⟨List.suffix_refl _, .done⟩
  | cons node nodes ih =>
    obtain ⟨hnode, hrest⟩ := levelsOf_cons_le_iff.mp hk
    have hlevels : ∀ body ∈ node.bodies, levelsOf body < k := fun body hb =>
      Nat.lt_of_lt_of_le (levelsOf_lt_of_mem hb) hnode
    cases h with
    | text ht hne hn hseq =>
      obtain ⟨hr, hseq'⟩ := ih hseq (ht.suffix.trans hs) hrest
      refine ⟨hr.trans ht.suffix, ?_⟩
      rw [List.append_nil, List.append_nil] at hseq' ⊢
      rw [numberedAll, String.toList_ofList]
      exact ht.numbered (fun hx => hp (hs.subset hx)) hseq'
    | @hash _ s _ _ hin hseq =>
      have hs' := List.suffix_cons '#' s
      obtain ⟨hr, hseq'⟩ := ih hseq (hs'.trans hs) hrest
      exact ⟨hr.trans hs', .hash rfl hseq'⟩
    | @placeholder _ s s₁ _ _ _ hopen hseq =>
      have hs' := List.suffix_cons '{' s
      obtain ⟨hs₁, hopen'⟩ := carries_placeholder hplural (hother (scope.body false)) _ _ _
        (hs'.trans hs) (placeholder_only_iff.mpr ⟨hopen, hlevels⟩)
      obtain ⟨hr, hseq'⟩ := ih hseq ((hs₁.trans hs').trans hs) hrest
      rw [numberedAll_cons hopen.not_text]
      exact ⟨hr.trans (hs₁.trans hs'), .placeholder hopen' hseq'⟩
    | @tag _ s s₁ _ _ _ ht hopen hseq =>
      have hs' := List.suffix_cons '<' s
      have hpos : 0 < k := Nat.lt_of_lt_of_le (levels_pos_of_opens (tag_opens hopen)) hnode
      have htag : Carries source [] (mapBodies id numberedAll) (Tag _ scope)
          (Tag Sequence { scope with inPlural := true }) := carries_tag rfl (hother scope)
      obtain ⟨hs₁, hopen'⟩ := htag _ _ _ (hs'.trans hs) ((tag_only_iff hpos).mpr ⟨hopen, hlevels⟩)
      obtain ⟨hr, hseq'⟩ := ih hseq ((hs₁.trans hs').trans hs) hrest
      rw [numberedAll_cons hopen.not_text]
      exact ⟨hr.trans (hs₁.trans hs'), .tag ht hopen' hseq'⟩

/-- Nodes are read in the body of a plural selection as they are read outside of it, up to `#`. -/
theorem Sequence.numbered (hp : '\'' ∉ source) (h : Sequence scope s r nodes) (hs : s <:+ source) :
    r <:+ s ∧ Sequence { scope with inPlural := true } (s ++ []) (r ++ []) (numberedAll nodes) := by
  induction hk : levelsOf nodes using Nat.strongRecOn generalizing scope s r nodes with
  | ind k ih =>
    refine Sequence.numbered_of_bodies hp (fun scope s r nodes hs h => ?_) h hs (Nat.le_of_eq hk)
    exact ih _ h.2 h.1 hs rfl

/-! Patterns in patterns. -/

/-- A pattern as the only case of a selection. -/
def inChoice (keyword argument : String) (p : List Char) : List Char :=
  '{' :: (argument.toList ++ ',' :: ' ' :: (keyword.toList ++ ',' :: ' ' ::
    ("other".toList ++ ' ' :: '{' :: (p ++ ['}', '}']))))

/-- A pattern in a tag. -/
def inTag (name : String) (p : List Char) : List Char :=
  '<' :: (name.toList ++ '>' :: (p ++ '<' :: '/' :: (name.toList ++ ['>'])))

variable {tags : Bool} {p : List Char} {argument name : String}

theorem isKey_other : IsSelectKey "other" ∧ IsMatcher (.category "other") :=
  ⟨⟨by decide, List.all_eq_true.mp (by decide)⟩, ⟨by decide, List.all_eq_true.mp (by decide)⟩⟩

/-- The closing braces of a body end no sequence before its own end. -/
theorem Derives.inBody (h : Derives tags p ⟨nodes⟩) (hp : '\'' ∉ p)
    (hbrace : '}' ∉ outerTextOf nodes) :
    Sequence { tags, inBody := true } (p ++ ['}', '}']) ['}', '}'] nodes := by
  have hj : Joins p ['}', '}'] := joins_of_head hp (by simp [isLetter_marks])
  have htop : Sequence { tags } p [] nodes := h
  have hbody : [] <:+ p ∧ Sequence { tags, inBody := true } (p ++ ['}', '}']) ['}', '}'] nodes :=
    htop.carried hj (List.suffix_refl p) rfl rfl fun _ _ => hbrace
  exact hbody.2

theorem derives_inSelect (h : Derives tags p ⟨nodes⟩) (hp : '\'' ∉ p)
    (hbrace : '}' ∉ outerTextOf nodes) (hx : IsName argument) :
    Derives tags (inChoice "select" argument p) ⟨[.select argument [⟨"other", nodes⟩]]⟩ := by
  have hcases : Cases IsSelectKey id Sequence { tags, inBody := true }
      (' ' :: ("other".toList ++ ' ' :: '{' :: (p ++ ['}', '}']))) [] [⟨"other", nodes⟩] :=
    .case (blanks_space _) isKey_other.1 (blanks_space _) (h.inBody hp hbrace) (.close (blanks_refl _))
  have ht : Typed Sequence argument "select" { tags } _ [] _ :=
    .select lowerString_selection.1 (blanks_refl _) hcases (List.cons_ne_nil _ _)
  exact .placeholder (.typed (blanks_refl _) hx (blanks_refl _) (blanks_space _)
    isName_selection.1 ht) .done

theorem derives_inPlural (h : Derives tags p ⟨nodes⟩) (hp : '\'' ∉ p)
    (hbrace : '}' ∉ outerTextOf nodes) (hx : IsName argument) :
    Derives tags (inChoice "plural" argument p)
      ⟨[.plural argument Decimal.zero false [⟨.category "other", numberedAll nodes⟩]]⟩ := by
  have hbody : Sequence { tags, inBody := true, inPlural := true } (p ++ ['}', '}']) ['}', '}']
      (numberedAll nodes) := by
    have hq : '\'' ∉ p ++ ['}', '}'] := by simp [hp]
    have hn := (h.inBody hp hbrace).numbered hq (List.suffix_refl _)
    rw [List.append_nil, List.append_nil] at hn
    exact hn.2
  have hcases : Cases IsMatcher Matcher.text Sequence { tags, inBody := true, inPlural := true }
      (' ' :: ("other".toList ++ ' ' :: '{' :: (p ++ ['}', '}']))) []
      [⟨.category "other", numberedAll nodes⟩] :=
    .case (blanks_space _) isKey_other.2 (blanks_space _) hbody (.close (blanks_refl _))
  have ht : Typed Sequence argument "plural" { tags } _ [] _ :=
    .plural false (lowerString_selection.2 false) (blanks_refl _) .absent hcases (List.cons_ne_nil _ _)
  exact .placeholder (.typed (blanks_refl _) hx (blanks_refl _) (blanks_space _)
    (isName_selection.2 false) ht) .done

theorem derives_inTag (h : Derives true p ⟨nodes⟩) (hp : '\'' ∉ p) (hx : IsTagName name) :
    Derives true (inTag name p) ⟨[.tag name "" false nodes]⟩ := by
  have hj : Joins p ('<' :: '/' :: (name.toList ++ ['>'])) :=
    joins_of_head hp (by simp [isLetter_marks])
  have htop : Sequence {} p [] nodes := h
  have hbody := htop.carried hj (List.suffix_refl p) rfl rfl (by simp [Unbraced])
  exact .tag rfl (.enclosing rfl hx .absent hbody.2 rfl hx rfl (blanks_refl _)) .done

/-- The settings under which there is room for one level around a pattern. -/
def deeper (settings : Settings) : Settings := { settings with maxDepth := settings.maxDepth + 1 }

theorem fitsWithin_deeper {settings : Settings} (hlimit : 0 ≤ settings.maxDepth)
    (hf : FitsWithin settings.maxDepth nodes) (hn : node.levels = levelsOf nodes + 1) :
    Message.FitsWithin (deeper settings).maxDepth ⟨[node]⟩ := by
  have hnodes := fitsWithin_iff.mp hf
  refine fitsWithin_iff.mpr ?_
  simp only [levelsOf, deeper]
  omega

/-- A pattern without apostrophes that is read by itself is read in the only case of a selection, if no
`}` stands in its text outside of case bodies, and in a tag. There it means the same nodes; only a plural
selection makes a number of every `#` in their text. The limit on nesting is to be one greater and
not to be negative before, and the limit on size is to admit the longer text. -/
theorem parse_embedded {settings : Settings} {p : List Char} {nodes : List Node}
    (hlimit : 0 ≤ settings.maxDepth) (hp : '\'' ∉ p) (h : settings.parse p = .ok ⟨nodes⟩) :
    (∀ argument, IsName argument → '}' ∉ outerTextOf nodes →
      ((deeper settings).Admits (inChoice "select" argument p) →
        (deeper settings).parse (inChoice "select" argument p) =
          .ok ⟨[.select argument [⟨"other", nodes⟩]]⟩) ∧
      ((deeper settings).Admits (inChoice "plural" argument p) →
        (deeper settings).parse (inChoice "plural" argument p) =
          .ok ⟨[.plural argument Decimal.zero false [⟨.category "other", numberedAll nodes⟩]]⟩)) ∧
    (settings.ignoreTags = false → (deeper settings).Admits (inTag "b" p) →
      (deeper settings).parse (inTag "b" p) = .ok ⟨[.tag "b" "" false nodes]⟩) := by
  obtain ⟨-, hd, hf⟩ := parse_eq_ok_iff.mp h
  refine ⟨fun argument hx hbrace => ⟨fun ha => ?_, fun ha => ?_⟩, fun ht ha => ?_⟩
  · refine parse_eq_ok_iff.mpr ⟨ha, derives_inSelect hd hp hbrace hx, fitsWithin_deeper hlimit hf ?_⟩
    simp [levels, selectLevels]
  · refine parse_eq_ok_iff.mpr ⟨ha, derives_inPlural hd hp hbrace hx, fitsWithin_deeper hlimit hf ?_⟩
    simp [levels, pluralLevels, levelsOf_numberedAll]
  · rw [ht] at hd
    have hb : IsTagName "b" := ⟨⟨by decide, List.all_eq_true.mp (by decide +kernel)⟩,
      'b', by simp, by decide +kernel⟩
    have htag := derives_inTag hd hp hb
    refine parse_eq_ok_iff.mpr ⟨ha, ?_, fitsWithin_deeper hlimit hf rfl⟩
    simpa [deeper, ht] using htag

set_option maxRecDepth 4000 in
/-- A `#` at the top and in a tag. -/
theorem parse_embedded_hash :
    Settings.parse { maxDepth := 1 } "#<i>x#</i>".toList =
      .ok ⟨[.literal "#", .tag "i" "" false [.literal "x#"]]⟩ ∧
    Settings.parse { maxDepth := 2 } (inChoice "plural" "n" "#<i>x#</i>".toList) =
      .ok ⟨[.plural "n" Decimal.zero false
        [⟨.category "other", [.hash, .tag "i" "" false [.literal "x", .hash]]⟩]]⟩ ∧
    Settings.parse { maxDepth := 2 } (inTag "b" "#<i>x#</i>".toList) =
      .ok ⟨[.tag "b" "" false [.literal "#", .tag "i" "" false [.literal "x#"]]]⟩ := by
  have hparse : Settings.parse { maxDepth := 1 } "#<i>x#</i>".toList =
      .ok ⟨[.literal "#", .tag "i" "" false [.literal "x#"]]⟩ := by cbv
  obtain ⟨hchoice, htag⟩ := parse_embedded (by decide) (by decide) hparse
  have hn : IsName "n" := ⟨by decide, List.all_eq_true.mp (by decide +kernel)⟩
  refine ⟨hparse, ?_, htag rfl fun _ => by decide⟩
  exact (hchoice "n" hn (by simp [outerTextOf, outerText])).2 fun _ => by decide

set_option maxRecDepth 4000 in
/-- A text without placeholders is read under any limit on nesting, and a selection is not; and a text may
be as long as the limit on size allows. -/
theorem parse_not_embedded :
    (Settings.parse { maxDepth := -1 } ['x'] = .ok ⟨[.literal "x"]⟩ ∧
      (deeper { maxDepth := -1 }).parse (inChoice "select" "g" ['x']) =
        .error (.malformed (.nestingDepthExceeded 0) ⟨0, 0, 1, 1⟩)) ∧
    (Settings.parse { maxSize := 1 } ['x'] = .ok ⟨[.literal "x"]⟩ ∧
      (deeper { maxSize := 1 }).parse (inChoice "select" "g" ['x']) = .error (.oversized 22 1)) := by
  refine ⟨⟨by cbv, by cbv⟩, by cbv, by cbv⟩

end Pattern.Grammar
end MessageFormat

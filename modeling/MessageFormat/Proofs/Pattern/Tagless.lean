import Mathlib
import MessageFormat.Proofs.Pattern.Continuation
import MessageFormat.Proofs.Pattern.WellFormed

/-!
Patterns without tags. Where tags are plain text, nothing is read as a tag and no tag is at fault, and
where they are not, a pattern that turns out to have none is read the same.
-/

set_option autoImplicit false

namespace MessageFormat

/-- The faults of tags. -/
def Diagnostic.Code.isOfTag : Diagnostic.Code → Bool
  | .expectedTagName | .expectedTagEnd | .unclosedTag | .mismatchedTag | .unexpectedClosingTag => true
  | _ => false

namespace Node

/-- There is no tag at any depth. -/
def Tagless (nodes : List Node) : Prop := ∀ n ∈ subtrees nodes, n.isTag = false

theorem tagless_cons {n : Node} {ns : List Node} :
    Tagless (n :: ns) ↔ n.isTag = false ∧ (∀ body ∈ n.bodies, Tagless body) ∧ Tagless ns :=
  forall_subtrees_cons

end Node

namespace Pattern

open Text Node

/-- The same place with tags as plain text. -/
def Scope.withoutTags (scope : Scope) : Scope := { scope with tags := false }

namespace Grammar

variable {scope : Scope} {s r : List Char}

/-! Messages. -/

theorem IsPlain.withoutTags {c : Char} (h : IsPlain scope c r) : IsPlain scope.withoutTags c r :=
  { h with angle := fun _ ht => Bool.noConfusion ht }

theorem TextRun.withoutTags {t : List Char} (h : TextRun scope s r t) :
    TextRun scope.withoutTags s r t := by
  induction h with
  | nil => exact .nil
  | apostrophes _ ih => exact .apostrophes ih
  | quotation hc hq _ ih => exact .quotation hc hq ih
  | apostrophe hs _ ih => exact .apostrophe hs ih
  | plain hc _ ih => exact .plain hc.withoutTags ih

/-- The induction is on the nodes, and in each of them on its bodies. -/
theorem Sequence.withoutTags {nodes : List Node} (h : Sequence scope s r nodes)
    (hn : Tagless nodes) : r <:+ s ∧ Sequence scope.withoutTags (s ++ []) (r ++ []) nodes := by
  induction nodes using bodies_induction generalizing scope s r with
  | nil =>
    cases h with
    | done => exact ⟨List.suffix_refl _, .done⟩
  | cons node nodes ihbodies ih =>
    obtain ⟨hnode, hbodies, hrest⟩ := tagless_cons.mp hn
    cases h with
    | text ht hne htext hseq =>
      obtain ⟨hr, hseq'⟩ := ih hseq hrest
      rw [List.append_nil, List.append_nil] at hseq' ⊢
      exact ⟨hr.trans ht.suffix, .text ht.withoutTags hne htext hseq'⟩
    | hash hp hseq =>
      obtain ⟨hr, hseq'⟩ := ih hseq hrest
      exact ⟨hr.trans (List.suffix_cons _ _), .hash hp hseq'⟩
    | @placeholder _ s s₁ _ _ _ hp hseq =>
      have hbody : ∀ plural, Carries s [] id
          (Derivation.only Sequence (· ∈ node.bodies) (scope.body plural))
          (Sequence (scope.withoutTags.body plural)) :=
        fun _ _ _ body _ h => ihbodies body h.2 h.1 (hbodies body h.2)
      obtain ⟨hs₁, hp'⟩ := carries_placeholder (hbody true) (hbody false) _ _ _
        (List.suffix_refl s) (placeholder_only_iff.mpr ⟨hp, fun _ hb => hb⟩)
      rw [mapBodies_id] at hp'
      obtain ⟨hr, hseq'⟩ := ih hseq hrest
      exact ⟨hr.trans (hs₁.trans (List.suffix_cons _ _)), .placeholder hp' hseq'⟩
    | tag _ hp =>
      cases hp with
      | selfClosing | enclosing => cases hnode

theorem Derives.withoutTags {p : List Char} {m : Message} (h : Derives true p m)
    (hm : Tagless m.body) : Derives false p m := by
  have hseq := (Sequence.withoutTags h hm).2
  rwa [List.append_nil] at hseq

/-- A tag is well-formed only where there are tags. -/
theorem AllWellFormed.tagless {nodes : List Node} (h : AllWellFormed scope nodes)
    (ht : scope.tags = false) : Tagless nodes := by
  induction nodes using bodies_induction generalizing scope with
  | nil => simp [Tagless, subtrees]
  | cons node nodes ihbodies ih =>
    obtain ⟨hnode, -, hrest⟩ := h
    refine tagless_cons.mpr ⟨?_, fun body hb => ?_, ih hrest ht⟩
    · cases node with
      | tag => simp [WellFormed, ht] at hnode
      | _ => rfl
    · cases node with
      | plural => exact ihbodies body hb (hnode.2.2.2.of_mem body hb) ht
      | select => exact ihbodies body hb (hnode.2.2.of_mem body hb) ht
      | tag => simp [WellFormed, ht] at hnode
      | _ => simp [bodies] at hb

end Grammar

/-! Flaws. -/

variable {α β : Type}

/-- If the reader fails, it is not for a tag. -/
def BlamesNoTag (x : Except Failure α) : Prop :=
  ∀ failure, x = .error failure → failure.flaw.code.isOfTag = false

theorem blamesNoTag_ok (a : α) : BlamesNoTag (.ok a) := fun _ h => nomatch h

theorem blamesNoTag_fail {flaw : Flaw} (h : flaw.code.isOfTag = false) (s : List Char) :
    BlamesNoTag (α := α) (fail flaw s) := by
  intro failure hf
  obtain rfl := Except.error.inj hf
  exact h

theorem BlamesNoTag.bind {x : Except Failure α} {f : α → Except Failure β} (h : BlamesNoTag x)
    (hf : ∀ a, BlamesNoTag (f a)) : BlamesNoTag (x >>= f) := by
  cases x with
  | ok a => exact hf a
  | error e =>
    intro failure he
    obtain rfl := Except.error.inj he
    exact h e rfl

theorem blamesNoTag_expectName {flaw : Flaw} (h : flaw.code.isOfTag = false) (s : List Char) :
    BlamesNoTag (expectName flaw s) := by
  unfold expectName
  split
  · exact blamesNoTag_ok _
  · exact blamesNoTag_fail h s

theorem blamesNoTag_pluralKey (construct : String) (s : List Char) :
    BlamesNoTag (pluralKey construct s) := by
  unfold pluralKey
  split
  · split
    · exact blamesNoTag_ok _
    · exact blamesNoTag_fail rfl _
  · exact (blamesNoTag_expectName rfl _).bind fun _ => blamesNoTag_ok _

theorem blamesNoTag_selectKey (s : List Char) : BlamesNoTag (selectKey s) := by
  unfold selectKey
  split
  · exact blamesNoTag_ok _
  · exact blamesNoTag_fail rfl s

theorem blamesNoTag_pluralOffset (s : List Char) : BlamesNoTag (pluralOffset s) := by
  unfold pluralOffset
  split
  · exact blamesNoTag_ok _
  · dsimp only
    split
    · exact blamesNoTag_ok _
    · exact blamesNoTag_fail rfl _

theorem blamesNoTag_expectCases (construct : String) (origin s : List Char) :
    BlamesNoTag (expectCases construct origin s) := by
  unfold expectCases
  split
  · exact blamesNoTag_ok _
  · exact blamesNoTag_fail rfl _
  · exact blamesNoTag_fail rfl _

theorem blamesNoTag_formatterCall (argument formatter : String) (second : Option String)
    (origin s : List Char) : BlamesNoTag (formatterCall argument formatter second origin s) := by
  refine BlamesNoTag.bind ?_ fun _ => blamesNoTag_ok _
  unfold styleSlot
  split
  · split
    · exact blamesNoTag_ok _
    · exact blamesNoTag_fail rfl _
  · exact blamesNoTag_ok _

theorem blamesNoTag_rangeCall (argument formatter : String) (origin s : List Char) :
    BlamesNoTag (rangeCall argument formatter origin s) := by
  unfold rangeCall
  split
  · exact (blamesNoTag_expectName rfl _).bind fun _ => blamesNoTag_formatterCall _ _ _ _ _
  · exact blamesNoTag_fail rfl _

section Bodies

variable {body : Body} (hb : ∀ s, BlamesNoTag (body s))

include hb

variable {κ : Type} {key : List Char → Except Failure (Read κ)} {keyText : κ → String}

theorem blamesNoTag_oneCase (hk : ∀ s, BlamesNoTag (key s)) (s : List Char) :
    BlamesNoTag (oneCase key keyText body s) := by
  refine (hk s).bind fun a => BlamesNoTag.bind ?_ fun _ => blamesNoTag_ok _
  unfold caseBody
  split
  · refine (hb _).bind fun _ => ?_
    dsimp only
    split
    · exact blamesNoTag_ok _
    · exact blamesNoTag_fail rfl _
  · exact blamesNoTag_fail rfl _

theorem blamesNoTag_caseList (hk : ∀ s, BlamesNoTag (key s)) (fuel : Nat) (s : List Char) :
    BlamesNoTag (caseList key keyText body fuel s) := by
  induction fuel generalizing s with
  | zero => exact blamesNoTag_ok _
  | succ fuel ih =>
    by_cases he : EndsCases s
    · rw [caseList_of_end _ _ _ he]
      exact blamesNoTag_ok _
    · rw [caseList_of_key _ _ _ he]
      exact (blamesNoTag_oneCase hb hk s).bind fun _ => (ih _).bind fun _ => blamesNoTag_ok _

theorem blamesNoTag_cases (hk : ∀ s, BlamesNoTag (key s)) (construct : String)
    (origin s : List Char) : BlamesNoTag (cases construct key keyText body origin s) := by
  refine (blamesNoTag_caseList hb hk _ s).bind fun a => ?_
  dsimp only
  split
  · exact blamesNoTag_fail rfl _
  · exact blamesNoTag_ok _

theorem blamesNoTag_plural (ordinal : Bool) (argument : String) (origin s : List Char) :
    BlamesNoTag (plural ordinal argument body origin s) := by
  refine (blamesNoTag_expectCases _ _ _).bind fun _ => (blamesNoTag_pluralOffset _).bind fun _ => ?_
  exact (blamesNoTag_cases hb (blamesNoTag_pluralKey _) _ _ _).bind fun _ => blamesNoTag_ok _

theorem blamesNoTag_select (argument : String) (origin s : List Char) :
    BlamesNoTag (select argument body origin s) := by
  refine (blamesNoTag_expectCases _ _ _).bind fun _ => ?_
  exact (blamesNoTag_cases hb blamesNoTag_selectKey _ _ _).bind fun _ => blamesNoTag_ok _

end Bodies

theorem blamesNoTag_typed {body : Bool → Body} (hb : ∀ plural s, BlamesNoTag (body plural s))
    (argument formatter : String) (origin s : List Char) :
    BlamesNoTag (typed argument formatter body origin s) := by
  unfold typed
  split
  · exact blamesNoTag_plural (hb true) _ _ _ _
  · exact blamesNoTag_plural (hb true) _ _ _ _
  · exact blamesNoTag_select (hb false) _ _ _
  · exact blamesNoTag_rangeCall _ _ _ _
  · exact blamesNoTag_rangeCall _ _ _ _
  · exact blamesNoTag_formatterCall _ _ _ _ _

/-- The readers of the next level, where tags are plain text. -/
def InnerBlamesNoTag (inner : Option Inner) : Prop :=
  ∀ read ∈ inner, ∀ (scope : Scope) (inTag : Bool) (s : List Char), scope.tags = false →
    BlamesNoTag (read scope inTag s)

variable {limit : Int} {inner : Option Inner} {scope : Scope}

theorem blamesNoTag_placeholder (hi : InnerBlamesNoTag inner) (ht : scope.tags = false)
    (origin : List Char) : BlamesNoTag (placeholder limit inner scope origin) := by
  cases inner with
  | none => exact blamesNoTag_fail rfl origin
  | some inner =>
    refine (blamesNoTag_expectName rfl _).bind fun a => ?_
    dsimp only
    split
    · exact blamesNoTag_ok _
    · refine (blamesNoTag_expectName rfl _).bind fun b => ?_
      refine (blamesNoTag_typed (fun plural s => hi inner rfl (scope.body plural) false s ht)
        _ _ _ _).bind fun c => ?_
      split
      · exact blamesNoTag_ok _
      · exact blamesNoTag_fail rfl _
    · exact blamesNoTag_fail rfl _

theorem blamesNoTag_sequence (hi : InnerBlamesNoTag inner) (ht : scope.tags = false) (inTag : Bool)
    (fuel : Nat) (s : List Char) : BlamesNoTag (sequence limit inner scope inTag fuel s) := by
  induction fuel generalizing s with
  | zero => exact blamesNoTag_ok _
  | succ fuel ih =>
    have hnext : ∀ a : Read Node, BlamesNoTag (continued limit inner scope inTag fuel a) :=
      fun a => (ih a.2).bind fun _ => blamesNoTag_ok _
    cases opening scope inTag s with
    | stop h =>
      rw [sequence_of_stop h]
      exact blamesNoTag_ok _
    | stray c r htags => simp [ht] at htags
    | placeholder r =>
      rw [sequence_placeholder]
      exact (blamesNoTag_placeholder hi ht _).bind hnext
    | tag c r htags => simp [ht] at htags
    | hash r hp =>
      rw [sequence_hash r hp]
      exact hnext _
    | text c r h =>
      rw [sequence_text h]
      exact hnext _

theorem blamesNoTag_nodesWithin (limit : Int) (n : Nat) (ht : scope.tags = false) (inTag : Bool)
    (s : List Char) : BlamesNoTag (nodesWithin limit n scope inTag s) := by
  induction n generalizing scope inTag s with
  | zero => exact blamesNoTag_sequence (fun _ h => by cases h) ht inTag _ s
  | succ n ih =>
    refine blamesNoTag_sequence (fun read hr scope inTag s ht => ?_) ht inTag _ s
    obtain rfl := Option.mem_some.mp hr
    exact ih ht inTag s

namespace Settings

/-- A pattern that turns out to have no tag means the same where tags are plain text. There no pattern has
a tag, and none is refused for one. -/
theorem parse_without_tags (settings : Settings) (p : List Char) :
    (∀ m, { settings with ignoreTags := false }.parse p = .ok m → (∀ n ∈ m.nodes, n.isTag = false) →
      { settings with ignoreTags := true }.parse p = .ok m) ∧
    (∀ m, { settings with ignoreTags := true }.parse p = .ok m → ∀ n ∈ m.nodes, n.isTag = false) ∧
    ∀ flaw span, { settings with ignoreTags := true }.parse p = .error (.malformed flaw span) →
      flaw.code.isOfTag = false := by
  refine ⟨fun m h hm => ?_, fun m h => ?_, fun flaw span h => ?_⟩
  · obtain ⟨ha, hd, hf⟩ := Grammar.parse_eq_ok_iff.mp h
    exact Grammar.parse_eq_ok_iff.mpr ⟨ha, hd.withoutTags hm, hf⟩
  · exact (Grammar.isMessage_of_parse h).nodes.tagless rfl
  · obtain ⟨-, rest, hn, -⟩ := parse_eq_malformed_iff.mp h
    exact blamesNoTag_nodesWithin _ _ rfl false p _ hn

set_option maxRecDepth 4000 in
/-- A quoted tag in a case body and a bare angle bracket; and a stray tag where it is plain text. -/
theorem parse_without_tags_quoted :
    Settings.parse { ignoreTags := true } "\x7bg,select,other\x7b'<'b> <\x7d\x7d".toList =
      .ok ⟨[.select "g" [⟨"other", [.literal "<b> <"]⟩]]⟩ ∧
    (∀ n ∈ Message.nodes ⟨[.literal "</b>", .argument "x"]⟩, n.isTag = false) ∧
    Flaw.expectedClosingBrace.code.isOfTag = false := by
  have hquoted : Settings.parse {} "\x7bg,select,other\x7b'<'b> <\x7d\x7d".toList =
    .ok ⟨[.select "g" [⟨"other", [.literal "<b> <"]⟩]]⟩ := by cbv
  have hstray : Settings.parse { ignoreTags := true } "</b>\x7bx\x7d".toList =
    .ok ⟨[.literal "</b>", .argument "x"]⟩ := by cbv
  have hopen : Settings.parse { ignoreTags := true } "<b>\x7bx".toList =
    .error (.malformed .expectedClosingBrace ⟨3, 3, 1, 4⟩) := by cbv
  refine ⟨(parse_without_tags {} _).1 _ hquoted (by decide), ?_, ?_⟩
  · exact (parse_without_tags {} _).2.1 _ hstray
  · exact (parse_without_tags {} _).2.2 _ _ hopen

end Settings

end Pattern
end MessageFormat

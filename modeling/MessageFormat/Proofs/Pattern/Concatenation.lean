import MessageFormat.Proofs.Pattern.Embedding
import MessageFormat.Proofs.Pattern.Span

/-!
One pattern after another. What a pattern without quotation reads as, it reads as at the front of a longer
text, and the rest is read as if it stood alone.
-/

set_option autoImplicit false

namespace MessageFormat

namespace Node

/-- A node before others. Text that meets text is one text. -/
def meeting : Node → List Node → List Node
  | .literal a, .literal b :: more => .literal (a ++ b) :: more
  | n, more => n :: more

/-- One sequence after another, met at the seam. -/
def joined : List Node → List Node → List Node
  | [], more => more
  | [n], more => meeting n more
  | n :: m :: ns, more => n :: joined (m :: ns) more

end Node

namespace Pattern.Grammar

open Text Node

theorem meeting_of_not_text {node : Node} (h : startsWithText [node] = false) (more : List Node) :
    meeting node more = node :: more := by
  cases node with
  | literal => simp [startsWithText] at h
  | _ => rfl

theorem meeting_of_not_starts (node : Node) {more : List Node} (h : startsWithText more = false) :
    meeting node more = node :: more := by
  cases more with
  | nil => cases node <;> rfl
  | cons m more =>
    cases m with
    | literal => simp [startsWithText] at h
    | _ => cases node <;> rfl

theorem startsWithText_joined {node : Node} (nodes more : List Node)
    (h : startsWithText [node] = false) : startsWithText (joined (node :: nodes) more) = false := by
  cases nodes with
  | nil => rw [joined, meeting_of_not_text h, startsWithText_cons, h]
  | cons => rw [joined, startsWithText_cons, h]

/-- Only text meets what follows it. -/
theorem joined_cons_of_not_text {node : Node} (h : startsWithText [node] = false)
    (nodes more : List Node) : joined (node :: nodes) more = node :: joined nodes more := by
  cases nodes with
  | nil => exact meeting_of_not_text h more
  | cons => rfl

/-- Text that is not followed by text meets what follows only if nothing else does. -/
theorem meeting_joined {node : Node} {nodes : List Node} (h : startsWithText nodes = false)
    (more : List Node) : meeting node (joined nodes more) = joined (node :: nodes) more := by
  cases nodes with
  | nil => rfl
  | cons m nodes =>
    rw [startsWithText_cons] at h
    exact meeting_of_not_starts node (startsWithText_joined nodes more h)

/-! Readers. -/

variable {limit : Int} {inner : Option Inner} {scope : Scope} {inTag : Bool} {s r : List Char}
  {node : Node} {nodes : List Node} {n : Nat}

/-- Nodes in front of those that were read. -/
def onNodes (f : List Node → List Node) (x : Except Failure (Read (List Node))) :
    Except Failure (Read (List Node)) := x.map fun a => (f a.1, a.2)

theorem onNodes_onNodes (f g : List Node → List Node) (x : Except Failure (Read (List Node))) :
    onNodes f (onNodes g x) = onNodes (f ∘ g) x := by
  cases x <;> rfl

theorem onNodes_id (x : Except Failure (Read (List Node))) : onNodes id x = x := by
  cases x <;> rfl

theorem onNodes_congr {f g : List Node → List Node} {x : Except Failure (Read (List Node))}
    (h : ∀ nodes r, x = .ok (nodes, r) → f nodes = g nodes) : onNodes f x = onNodes g x := by
  cases x with
  | error => rfl
  | ok a => exact congrArg (fun nodes => Except.ok (nodes, a.2)) (h a.1 a.2 rfl)

theorem continued_eq (fuel : Nat) :
    continued limit inner scope inTag fuel (node, s) =
      onNodes (node :: ·) (sequence limit inner scope inTag fuel s) := by
  unfold continued
  cases sequence limit inner scope inTag fuel s <;> rfl

/-- Any bound on the number of nodes that is not below the number of characters will do. -/
theorem sequence_eq_of_le (hw : ∀ source, InnerWithin source inner) {fuel fuel' : Nat}
    (h : s.length ≤ fuel) (h' : s.length ≤ fuel') :
    sequence limit inner scope inTag fuel s = sequence limit inner scope inTag fuel' s := by
  induction fuel generalizing s fuel' with
  | zero =>
    obtain rfl : s = [] := List.eq_nil_of_length_eq_zero (by omega)
    rw [sequence_of_stop .endOfText, sequence_of_stop .endOfText]
  | succ fuel ih =>
    cases fuel' with
    | zero =>
      obtain rfl : s = [] := List.eq_nil_of_length_eq_zero (by omega)
      rw [sequence_of_stop .endOfText, sequence_of_stop .endOfText]
    | succ fuel' =>
      have hnext : ∀ {c : Char} {r : List Char} {x : Except Failure (Read Node)},
          s = c :: r → (∀ node t, x = .ok (node, t) → t.length ≤ r.length) →
          x >>= continued limit inner scope inTag fuel = x >>= continued limit inner scope inTag fuel' := by
        intro c r x hs hx
        subst hs
        simp only [List.length_cons] at h h'
        cases x with
        | error => rfl
        | ok a =>
          have ha := hx a.1 a.2 rfl
          have hrest : sequence limit inner scope inTag fuel a.2 =
              sequence limit inner scope inTag fuel' a.2 := ih (by omega) (by omega)
          change continued limit inner scope inTag fuel (a.1, a.2) =
            continued limit inner scope inTag fuel' (a.1, a.2)
          rw [continued_eq, continued_eq, hrest]
      cases opening scope inTag s with
      | stop hs => rw [sequence_of_stop hs, sequence_of_stop hs]
      | stray c r ht hi hc => rw [sequence_stray r ht hi hc, sequence_stray r ht hi hc]
      | placeholder r =>
        rw [sequence_placeholder, sequence_placeholder]
        exact hnext rfl fun _ _ hp => placeholder_length hw hp
      | tag c r ht hc =>
        rw [sequence_tag r ht hc, sequence_tag r ht hc]
        exact hnext rfl fun _ _ hp => tag_length hw hp
      | hash r hp =>
        rw [sequence_hash r hp, sequence_hash r hp]
        exact hnext (x := .ok (.hash, r)) rfl fun _ _ hx => by cases hx; exact Nat.le_refl _
      | text c r hs =>
        rw [sequence_text hs, sequence_text hs]
        refine hnext (x := .ok (.literal _, _)) rfl fun _ t hx => ?_
        obtain ⟨-, rfl⟩ := Prod.mk.inj (Except.ok.inj hx)
        exact text_length hs

/-- One node, and then what is read after it. -/
theorem bind_continued {x : Except Failure (Read Node)} (fuel : Nat) (h : x = .ok (node, s)) :
    x >>= continued limit inner scope inTag fuel =
      onNodes (node :: ·) (sequence limit inner scope inTag fuel s) := by
  rw [h]
  exact continued_eq fuel

/-- Text is read on past its own end, and what follows is read as if it began there. -/
theorem sequence_text_run {t : List Char} (hi : ReadsLevels n inner)
    (hw : ∀ source, InnerWithin source inner) (h : TextRun scope s r t) (ht : t ≠ []) :
    sequence limit inner scope inTag s.length s =
      onNodes (meeting (.literal (String.ofList t)))
        (sequence limit inner scope inTag r.length r) := by
  obtain ⟨c, s, rfl, hs, hl⟩ := h.head ht
  rw [List.length_cons, sequence_text hs, h.text_eq, continued_eq]
  cases hr : scope.stops r with
  | true =>
    rw [text_of_stops hr, prepend, List.append_nil, sequence_eq_of_le hw hl (Nat.le_refl _)]
    refine onNodes_congr fun nodes rest hx => ?_
    have hseq := (sequence_sound hi hw (Nat.le_refl _) hx).1
    exact (meeting_of_not_starts _ (hseq.not_text hr)).symm
  | false =>
    -- the text goes on where the run ends
    obtain ⟨d, r, rfl⟩ : ∃ d r', r = d :: r' := by
      cases r with
      | nil => simp [Scope.stops] at hr
      | cons d r => exact ⟨d, r, rfl⟩
    have hl' := text_length hr
    simp only [List.length_cons] at hl
    rw [List.length_cons, sequence_text hr, continued_eq, onNodes_onNodes, prepend,
      sequence_eq_of_le hw (Nat.le_trans hl' (by omega)) hl']
    refine onNodes_congr fun nodes _ _ => ?_
    rw [Function.comp_apply, meeting, String.ofList_append]

/-- The nodes that a text reads as are read off it before anything, and the rest is read as it is alone. -/
theorem sequence_joined (hi : ReadsLevels n inner) (hw : ∀ source, InnerWithin source inner)
    (h : Sequence scope s r nodes) (hn : levelsOf nodes ≤ n) :
    sequence limit inner scope inTag s.length s =
      onNodes (joined nodes) (sequence limit inner scope inTag r.length r) := by
  induction nodes generalizing s with
  | nil =>
    cases h with
    | done => exact (onNodes_id _).symm
  | cons node nodes ih =>
    obtain ⟨hnode, hrest⟩ := levelsOf_cons_le_iff.mp hn
    -- a node that is not text is read for itself
    have hnext : ∀ {c : Char} {s₁ s₂ : List Char} {x : Except Failure (Read Node)},
        s = c :: s₁ → x = .ok (node, s₂) → s₂.length ≤ s₁.length →
        startsWithText [node] = false → Sequence scope s₂ r nodes →
        x >>= continued limit inner scope inTag s₁.length =
          onNodes (joined (node :: nodes)) (sequence limit inner scope inTag r.length r) := by
      intro c s₁ s₂ x _ hx hl htext hseq
      rw [bind_continued _ hx, sequence_eq_of_le hw hl (Nat.le_refl _), ih hseq hrest, onNodes_onNodes]
      exact onNodes_congr fun more _ _ => (joined_cons_of_not_text htext nodes more).symm
    cases h with
    | text hrun hne htext hseq =>
      rw [sequence_text_run hi hw hrun hne, ih hseq hrest, onNodes_onNodes]
      exact onNodes_congr fun more _ _ => meeting_joined htext more
    | hash hp hseq =>
      rw [List.length_cons, sequence_hash _ hp]
      exact hnext (x := .ok (.hash, _)) rfl rfl (Nat.le_refl _) rfl hseq
    | placeholder hp hseq =>
      have hx : placeholder limit inner scope _ = .ok (node, _) :=
        (placeholder_eq_ok_levels_iff hi).mpr ⟨hp, hnode⟩
      rw [List.length_cons, sequence_placeholder]
      exact hnext rfl hx (placeholder_length hw hx) hp.not_text hseq
    | tag ht hp hseq =>
      obtain ⟨c, s, rfl, hc⟩ := hp.head
      have hx : tag limit inner scope _ = .ok (node, _) :=
        (tag_eq_ok_levels_iff hi hc ht).mpr ⟨hp, hnode⟩
      rw [List.length_cons, sequence_tag s ht hc]
      exact hnext rfl hx (tag_length hw hx) hp.not_text hseq

/-- The induction over the recursion of the readers. -/
theorem nodesWithin_joined (h : Sequence scope s r nodes) (hn : levelsOf nodes ≤ n) :
    nodesWithin limit n scope inTag s =
      onNodes (joined nodes) (nodesWithin limit n scope inTag r) := by
  cases n with
  | zero => exact sequence_joined rfl (by simp [InnerWithin]) h hn
  | succ n =>
    exact sequence_joined (readsLevels_nodesWithin limit n)
      (fun source => innerWithin_nodesWithin source limit n) h hn

/-! Patterns. -/

/-- Two texts join where the first leaves no tag to be opened by the second. -/
theorem joins_of_not_open {p q : List Char} (hp : '\'' ∉ p) (hopen : ¬ ['<'] <:+ p)
    (hclose : ¬ ['<', '/'] <:+ p) : Joins p q := by
  refine ⟨hp, fun u hu hn hx => hn ?_⟩
  obtain ⟨c, r, hc, h | h⟩ := hx
  · cases u with
    | nil => exact absurd hu hopen
    | cons d u =>
      obtain ⟨rfl, -⟩ := List.cons.inj h
      exact ⟨d, u, hc, .inl rfl⟩
  · cases u with
    | nil => exact absurd hu hopen
    | cons d u =>
      obtain ⟨rfl, htail⟩ := List.cons.inj h
      cases u with
      | nil => exact absurd hu hclose
      | cons e u =>
        obtain ⟨rfl, -⟩ := List.cons.inj htail
        exact ⟨e, u, hc, .inr rfl⟩

variable {settings : Settings} {p q : List Char}

/-- The first of two patterns is read off before the second. -/
theorem nodes_append (hj : Joins p q) (h : Derives (!settings.ignoreTags) p ⟨nodes⟩)
    (hf : FitsWithin settings.maxDepth nodes) :
    settings.nodes (p ++ q) = onNodes (joined nodes) (settings.nodes q) := by
  have htop : Sequence { tags := !settings.ignoreTags } p [] nodes := h
  have hseq : [] <:+ p ∧ Sequence { tags := !settings.ignoreTags } (p ++ q) q nodes :=
    htop.carried hj (List.suffix_refl p) rfl rfl (by simp [Unbraced])
  exact nodesWithin_joined hseq.2 (fitsWithin_iff.mp hf)

/-- A place in the second of two texts is as much further on as the first is long. -/
theorem locates_append (p : List Char) {q rest : List Char} (h : rest.length ≤ q.length) :
    Locates (p ++ q) (p.length + (q.length - rest.length)) (emptySpan (p ++ q) rest) := by
  have hl := locates_emptySpan (p ++ q) rest
  rwa [List.length_append, Nat.add_sub_assoc h] at hl

theorem rest_length_le {flaw : Flaw} {rest : List Char} (h : settings.nodes q = .error ⟨flaw, rest⟩) :
    rest.length ≤ q.length := by
  have hw : Within Prod.snd q q (settings.nodes q) := within_nodesWithin q _ _ _ _ q List.suffix_rfl
  rw [h] at hw
  exact hw.1.length_le

/-- After a pattern without apostrophes that leaves no tag to be opened, a text is read as it is read by
itself: the nodes of both follow each other, with one text where two would meet, or the second has the
flaw that it has alone, as much further on as the first is long. The limit on size is to admit the
longer text. -/
theorem parse_append {settings : Settings} {p q : List Char} {nodes : List Node} (hp : '\'' ∉ p)
    (hopen : ¬ ['<'] <:+ p) (hclose : ¬ ['<', '/'] <:+ p) (h : settings.parse p = .ok ⟨nodes⟩)
    (ha : settings.Admits (p ++ q)) :
    (∀ more, settings.parse q = .ok ⟨more⟩ → settings.parse (p ++ q) = .ok ⟨joined nodes more⟩) ∧
    ∀ flaw span, settings.parse q = .error (.malformed flaw span) → ∃ start span',
      Locates q start span ∧ Locates (p ++ q) (p.length + start) span' ∧
        settings.parse (p ++ q) = .error (.malformed flaw span') := by
  obtain ⟨-, hd, hf⟩ := parse_eq_ok_iff.mp h
  have hnodes := nodes_append (joins_of_not_open (q := q) hp hopen hclose) hd hf
  refine ⟨fun more hmore => ?_, fun flaw span hflaw => ?_⟩
  · obtain ⟨-, r, hq⟩ := Settings.parse_eq_ok_nodes_iff.mp hmore
    rw [hq] at hnodes
    exact Settings.parse_eq_ok_nodes_iff.mpr ⟨ha, r, hnodes⟩
  · obtain ⟨-, rest, hq, rfl⟩ := Settings.parse_eq_malformed_iff.mp hflaw
    rw [hq] at hnodes
    exact ⟨_, _, locates_emptySpan q rest, locates_append p (rest_length_le hq),
      Settings.parse_eq_malformed_iff.mpr ⟨ha, rest, hnodes, rfl⟩⟩

set_option maxRecDepth 4000 in
/-- Text that meets text, and a stray tag behind it. -/
theorem parse_append_tagged :
    Settings.parse {} "a<i>b</i>c".toList =
      .ok ⟨[.literal "a", .tag "i" "" false [.literal "b"], .literal "c"]⟩ ∧
    Settings.parse {} ("a<i>b</i>c".toList ++ "d\x7bn\x7d".toList) =
      .ok ⟨[.literal "a", .tag "i" "" false [.literal "b"], .literal "cd", .argument "n"]⟩ ∧
    Settings.parse {} "d</b>".toList = .error (.malformed (.unexpectedClosingTag "b") ⟨1, 1, 1, 2⟩) ∧
    ∃ span', span'.start = 11 ∧ Settings.parse {} ("a<i>b</i>c".toList ++ "d</b>".toList) =
      .error (.malformed (.unexpectedClosingTag "b") span') := by
  have hparse : Settings.parse {} "a<i>b</i>c".toList =
      .ok ⟨[.literal "a", .tag "i" "" false [.literal "b"], .literal "c"]⟩ := by cbv
  have hargument : Settings.parse {} "d\x7bn\x7d".toList =
      .ok ⟨[.literal "d", .argument "n"]⟩ := by cbv
  have hstray : Settings.parse {} "d</b>".toList =
      .error (.malformed (.unexpectedClosingTag "b") ⟨1, 1, 1, 2⟩) := by cbv
  have hmerged := (parse_append (by decide) (by decide) (by decide) hparse fun _ => by decide).1 _
    hargument
  obtain ⟨start, span', hq, hpq, herror⟩ :=
    (parse_append (by decide) (by decide) (by decide) hparse fun _ => by decide).2 _ _ hstray
  have hstart : (1 : Int) = start := hq.start_eq
  refine ⟨hparse, hmerged, hstray, span', ?_, herror⟩
  rw [hpq.start_eq, Int.natCast_add, ← hstart]
  decide

/-- A text may be as long as the limit on size allows, and two such texts may not follow each other. -/
theorem parse_not_append :
    Settings.parse { maxSize := 1 } ['x'] = .ok ⟨[.literal "x"]⟩ ∧
      Settings.parse { maxSize := 1 } (['x'] ++ ['x']) = .error (.oversized 2 1) := by
  refine ⟨by cbv, by cbv⟩

end Pattern.Grammar
end MessageFormat

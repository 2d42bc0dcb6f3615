import MessageFormat.Proofs.Pattern.WellFormed

/-!
Patterns before more text. What is read off a text is read off it before any continuation, as far as words
look no further than they did.
-/

set_option autoImplicit false

namespace MessageFormat.Pattern.Grammar

open Text

variable {s r x source : List Char}

/-! Words. -/

theorem Blanks.suffix (h : Blanks s r) : r <:+ s := by
  obtain ⟨b, -, rfl⟩ := h
  exact List.suffix_append b r

theorem Blanks.suffix_word {w : List Char} (h : Blanks s (w ++ r)) : r <:+ s :=
  (List.suffix_append w r).trans h.suffix

theorem Blanks.suffix_mark {c : Char} (h : Blanks s (c :: r)) : r <:+ s :=
  (List.suffix_cons c r).trans h.suffix

theorem Blanks.append (h : Blanks s r) (x : List Char) : Blanks (s ++ x) (r ++ x) := by
  obtain ⟨b, hb, rfl⟩ := h
  exact ⟨b, hb, List.append_assoc b r x⟩

theorem Blanks.append_word {w : List Char} (h : Blanks s (w ++ r)) (x : List Char) :
    Blanks (s ++ x) (w ++ (r ++ x)) := by
  rw [← List.append_assoc]
  exact h.append x

theorem Quoted.suffix {q : List Char} (h : Quoted s r q) : r <:+ s := by
  induction h with
  | @char c _ _ _ _ _ ih => exact ih.trans (List.suffix_cons c _)
  | apostrophe _ ih => exact ih.trans ((List.suffix_cons _ _).trans (List.suffix_cons _ _))
  | close => exact List.suffix_cons _ _
  | endOfText => exact List.suffix_refl _

theorem TextRun.suffix {scope : Scope} {t : List Char} (h : TextRun scope s r t) : r <:+ s := by
  induction h with
  | nil => exact List.suffix_refl _
  | apostrophes _ ih => exact ih.trans ((List.suffix_cons _ _).trans (List.suffix_cons _ _))
  | quotation _ hq _ ih => exact ih.trans (hq.suffix.trans (List.suffix_cons _ _))
  | apostrophe _ _ ih => exact ih.trans (List.suffix_cons _ _)
  | plain _ _ ih => exact ih.trans (List.suffix_cons _ _)

/-- A number that is not the last of a text ends where it did: more text is looked at only behind what
there is. -/
theorem Literal.append {value : Decimal} (h : Literal s r value) (hr : '}' ∈ r) (x : List Char) :
    Literal (s ++ x) (r ++ x) value := by
  obtain ⟨w, rfl, hw, hends, hfraction⟩ := h
  obtain ⟨c, r, rfl⟩ := List.exists_cons_of_ne_nil (List.ne_nil_of_mem hr)
  refine ⟨w, List.append_assoc w _ x, hw, hends, fun hdot f rest hf heq => ?_⟩
  obtain ⟨rfl, hrest⟩ := List.cons.inj heq
  obtain ⟨d, f, rfl⟩ := List.exists_cons_of_ne_nil hf.1
  have hmem : '}' ∈ r := by simpa using hr
  obtain ⟨e, r, rfl⟩ := List.exists_cons_of_ne_nil (List.ne_nil_of_mem hmem)
  obtain ⟨rfl, -⟩ := List.cons.inj hrest
  refine hfraction hdot [e] r ⟨List.cons_ne_nil e [], ?_⟩ rfl
  simpa using hf.2 e List.mem_cons_self

theorem Literal.suffix {value : Decimal} (h : Literal s r value) : r <:+ s := by
  obtain ⟨w, rfl, -⟩ := h
  exact List.suffix_append w r

theorem Offset.suffix {value : Decimal} (h : Offset s r value) : r <:+ s := by
  cases h with
  | absent => exact List.suffix_refl s
  | present hs hs₁ hl => exact hl.suffix.trans (hs₁.suffix.trans hs.suffix_word)

theorem Offset.append {value : Decimal} (h : Offset s r value) (hr : '}' ∈ r) (x : List Char) :
    Offset (s ++ x) (r ++ x) value := by
  cases h with
  | absent => exact .absent
  | present hs hs₁ hl => exact .present (hs.append_word x) (hs₁.append x) (hl.append hr x)

theorem Style.suffix {style : Option String} (h : Style s r style) : r <:+ s := by
  cases h with
  | absent hs => exact hs.suffix_mark
  | present hs =>
    have h := (List.suffix_cons ',' _).trans hs.suffix
    exact (List.suffix_cons '}' r).trans ((List.suffix_append _ _).trans h)

theorem Style.append {style : Option String} (h : Style s r style) (x : List Char) :
    Style (s ++ x) (r ++ x) style := by
  cases h with
  | absent hs => exact .absent (hs.append x)
  | present hs ht =>
    refine .present ?_ ht
    simpa using hs.append x

theorem Attributes.suffix {a : String} (h : Attributes s r a) : r <:+ s := by
  cases h with
  | absent => exact List.suffix_refl s
  | present hs =>
    subst hs
    exact (List.suffix_append _ r).trans (List.suffix_cons _ _)

theorem Attributes.append {a : String} (h : Attributes s r a) (hr : r ≠ []) (x : List Char) :
    Attributes (s ++ x) (r ++ x) a := by
  cases h with
  | absent => exact .absent
  | present hs hb ha hslash =>
    subst hs
    refine .present (by simp) hb ha fun hl => ?_
    rw [List.head?_append_of_ne_nil r hr]
    exact hslash hl

/-! Bodies. A rule whose bodies are carried is carried itself. -/

/-- What is read off a suffix of the source is read, as `f` makes it, off the suffix before `x`. -/
def Carries {α : Type} (source x : List Char) (f : α → α) (P P' : List Char → List Char → α → Prop) :
    Prop :=
  ∀ s r a, s <:+ source → P s r a → r <:+ s ∧ P' (s ++ x) (r ++ x) (f a)

variable {B B' : Derivation (List Node)} {scope scope' : Scope} {f plural other : List Node → List Node}

theorem Cases.brace_mem {κ : Type} {IsKey : κ → Prop} {text : κ → String}
    {found : List (Case κ (List Node))} (hB : Carries source x f (B scope) (B' scope'))
    (h : Cases IsKey text B scope s r found) (hs : s <:+ source) : '}' ∈ s := by
  cases h with
  | close hb => exact hb.suffix.subset List.mem_cons_self
  | case hkey _ hopen hbody _ =>
    have hs₂ := hopen.suffix_mark.trans hkey.suffix_word
    have hclose := (hB _ _ _ (hs₂.trans hs) hbody).1
    exact (hclose.trans hs₂).subset List.mem_cons_self

theorem carries_cases {κ : Type} {IsKey : κ → Prop} {text : κ → String}
    (hB : Carries source x f (B scope) (B' scope')) :
    Carries source x (List.map (Case.map f)) (Cases IsKey text B scope)
      (Cases IsKey text B' scope') := by
  intro s r found hs h
  induction h with
  | close hb => exact ⟨hb.suffix_mark, .close (hb.append x)⟩
  | case hkey hk hopen hbody hcases ih =>
    have hs₂ := hopen.suffix_mark.trans hkey.suffix_word
    obtain ⟨hclose, hbody'⟩ := hB _ _ _ (hs₂.trans hs) hbody
    have hs₃ := ((List.suffix_cons '}' _).trans hclose).trans hs₂
    obtain ⟨hr, hcases'⟩ := ih hB (hs₃.trans hs)
    exact ⟨hr.trans hs₃, .case (hkey.append_word x) hk (hopen.append x) hbody' hcases'⟩

theorem carries_typed {argument formatter : String}
    (hplural : Carries source x plural (B (scope.body true)) (B' (scope'.body true)))
    (hother : Carries source x other (B (scope.body false)) (B' (scope'.body false))) :
    Carries source x (Node.mapBodies plural other) (Typed B argument formatter scope)
      (Typed B' argument formatter scope') := by
  intro s r node hs h
  cases h with
  | call hsel hrange hstyle => exact ⟨hstyle.suffix, .call hsel hrange (hstyle.append x)⟩
  | range hrange hcomma hsecond hname hstyle =>
    refine ⟨hstyle.suffix.trans (hsecond.suffix_word.trans hcomma.suffix_mark), ?_⟩
    exact .range hrange (hcomma.append x) (hsecond.append_word x) hname (hstyle.append x)
  | plural ordinal hf hcomma hoffset hcases hne =>
    have hs₂ := hoffset.suffix.trans hcomma.suffix_mark
    obtain ⟨hr, hcases'⟩ := carries_cases hplural _ _ _ (hs₂.trans hs) hcases
    have hbrace := hcases.brace_mem hplural (hs₂.trans hs)
    refine ⟨hr.trans hs₂, ?_⟩
    exact .plural ordinal hf (hcomma.append x) (hoffset.append hbrace x) hcases' (by simpa using hne)
  | select hf hcomma hcases hne =>
    have hs₁ := hcomma.suffix_mark
    obtain ⟨hr, hcases'⟩ := carries_cases hother _ _ _ (hs₁.trans hs) hcases
    exact ⟨hr.trans hs₁, .select hf (hcomma.append x) hcases' (by simpa using hne)⟩

theorem carries_placeholder
    (hplural : Carries source x plural (B (scope.body true)) (B' (scope'.body true)))
    (hother : Carries source x other (B (scope.body false)) (B' (scope'.body false))) :
    Carries source x (Node.mapBodies plural other) (Placeholder B scope) (Placeholder B' scope') := by
  intro s r node hs h
  cases h with
  | argument hname hn hclose =>
    refine ⟨hclose.suffix_mark.trans hname.suffix_word, ?_⟩
    exact .argument (hname.append_word x) hn (hclose.append x)
  | typed hname hn hcomma hformatter hf ht =>
    have hs₃ := hformatter.suffix_word.trans (hcomma.suffix_mark.trans hname.suffix_word)
    obtain ⟨hr, ht'⟩ := carries_typed hplural hother _ _ _ (hs₃.trans hs) ht
    refine ⟨hr.trans hs₃, ?_⟩
    exact .typed (hname.append_word x) hn (hcomma.append x) (hformatter.append_word x) hf ht'

/-- The content of a tag is in the scope of the tag. -/
theorem carries_tag (hnil : other [] = []) (hB : Carries source x other (B scope) (B' scope')) :
    Carries source x (Node.mapBodies plural other) (Tag B scope) (Tag B' scope') := by
  intro s r node hs h
  cases h with
  | @selfClosing _ _ s₁ _ name _ hname hx ha =>
    subst hname
    have hs₁ := ha.suffix.trans (List.suffix_append name.toList s₁)
    refine ⟨((List.suffix_cons '>' r).trans (List.suffix_cons '/' _)).trans hs₁, ?_⟩
    rw [Node.mapBodies, hnil]
    exact .selfClosing (List.append_assoc _ _ x) hx (ha.append (List.cons_ne_nil _ _) x)
  | @enclosing _ _ s₁ s₂ s₃ s₄ _ name closing _ _ hname hx ha hbody hclose hy hl hend =>
    subst hname hclose
    have hs₂ := (List.suffix_cons '>' s₂).trans (ha.suffix.trans (List.suffix_append name.toList s₁))
    obtain ⟨hs₃, hbody'⟩ := hB _ _ _ (hs₂.trans hs) hbody
    have hs₄ := (List.suffix_append closing.toList s₄).trans
      (((List.suffix_cons '/' _).trans (List.suffix_cons '<' _)).trans (hs₃.trans hs₂))
    refine ⟨hend.suffix_mark.trans hs₄, ?_⟩
    rw [List.cons_append, List.cons_append, List.append_assoc] at hbody'
    exact .enclosing (List.append_assoc _ _ x) hx (ha.append (List.cons_ne_nil _ _) x) hbody'
      rfl hy hl (hend.append x)

end MessageFormat.Pattern.Grammar

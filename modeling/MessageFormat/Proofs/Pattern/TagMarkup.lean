import MessageFormat.Evaluator
import MessageFormat.Proofs.Pattern.Printer
import MessageFormat.Proofs.Text.Case

/-!
Messages of tags and text, and how they are written as markup. Written so, a message is read again unless
a tag that is not closed by itself has attributes that end in a slash.
-/

set_option autoImplicit false

namespace MessageFormat

namespace Node

/-- A tag, or text that has no characters of patterns in it. -/
def IsTagOrText : Node → Prop
  | .tag .. => True
  | .literal text => ∀ c ∈ text.toList, c ∉ ['\'', '{', '}', '#', '<']
  | _ => False

/-- A slash before the bracket at the end of a tag closes it. -/
def StaysOpen : Node → Prop
  | .tag _ attributes false _ => attributes.toList.getLast? ≠ some '/'
  | _ => True

mutual

/-- Tags with what is in them, and text. -/
def markup : Node → String
  | .literal text => text
  | .tag name attributes selfClosing children =>
    tagMarkup name attributes selfClosing (markupAll children)
  | _ => ""

def markupAll : List Node → String
  | [] => ""
  | n :: ns => markup n ++ markupAll ns

end

end Node

namespace Pattern.Grammar

open Text Node

/-- Attributes after a name. -/
def attributesText (x : String) : List Char := if x = "" then [] else ' ' :: x.toList

variable {scope : Scope} {s r : List Char} {x attributes content : String}

theorem toList_tagMarkup_closed : (tagMarkup x attributes true content).toList =
    '<' :: (x.toList ++ (attributesText attributes ++ ['/', '>'])) := by
  by_cases h : attributes = ""
  · simp [tagMarkup, attributesText, h]
  · simp [tagMarkup, attributesText, h]

theorem toList_tagMarkup_open : (tagMarkup x attributes false content).toList =
    '<' :: (x.toList ++ (attributesText attributes ++ '>' :: (content.toList ++
      '<' :: '/' :: (x.toList ++ ['>'])))) := by
  by_cases h : attributes = ""
  · simp [tagMarkup, attributesText, h]
  · simp [tagMarkup, attributesText, h]

theorem IsTagOrText.not_quotable {text : String} (h : (Node.literal text).IsTagOrText) :
    ∀ c ∈ text.toList, c ≠ '\'' ∧ isQuotable c = false := by
  intro c hc
  have hne := h c hc
  simp only [List.mem_cons, List.not_mem_nil, or_false, not_or] at hne
  simp [isQuotable, hne]

/-! Reading. -/

theorem textRun_append {t u : List Char} (ht : ∀ c ∈ t, c ≠ '\'' ∧ isQuotable c = false)
    (h : TextRun scope s r u) : TextRun scope (t ++ s) r (t ++ u) := by
  induction t with
  | nil => exact h
  | cons c t ih =>
    obtain ⟨⟨hq, hc⟩, ht⟩ := List.forall_mem_cons.mp ht
    exact .plain (isPlain_of_not_quotable hq hc _) (ih ht)

theorem attributes_written (h : IsAttributeText x)
    (hr : x.toList.getLast? = some '/' → r.head? ≠ some '>') :
    Attributes (attributesText x ++ r) r x := by
  by_cases hx : x = ""
  · subst hx
    exact .absent
  · have ha : Attributes (' ' :: (x.toList ++ r)) r (String.ofList (trim (' ' :: x.toList))) :=
      .present rfl (by decide) h.balanced hr
    rw [trim_cons_blank (by decide), h.trimmed, String.ofList_toList] at ha
    simpa [attributesText, hx] using ha

theorem sequence_markupAll (ns : List Node) : ∀ scope r, AllWellFormed scope ns →
    (∀ n ∈ subtrees ns, n.IsTagOrText) → (∀ n ∈ subtrees ns, n.StaysOpen) →
    Sequence scope ((markupAll ns).toList ++ r) r ns := by
  induction ns using bodies_induction with
  | nil => exact fun _ _ _ _ _ => .done
  | cons n ns hbodies ih =>
    intro scope r hw hkind hopen
    obtain ⟨hn, htext, hrest⟩ := hw
    obtain ⟨hkind, hinside, hafter⟩ := forall_subtrees_cons.mp hkind
    obtain ⟨hopen, hinside', hafter'⟩ := forall_subtrees_cons.mp hopen
    have hseq := ih scope r hrest hafter hafter'
    cases n with
    | literal text =>
      have hrun : TextRun scope (text.toList ++ ((markupAll ns).toList ++ r))
          ((markupAll ns).toList ++ r) (text.toList ++ []) :=
        textRun_append (IsTagOrText.not_quotable hkind) .nil
      rw [List.append_nil] at hrun
      have h := Sequence.text hrun hn (htext rfl) hseq
      simpa [markupAll, markup] using h
    | tag x attributes selfClosing children =>
      obtain ⟨htags, hx, hattributes, hself, hchildren⟩ := hn
      cases selfClosing with
      | true =>
        obtain rfl := hself rfl
        have ha := attributes_written hattributes (r := '/' :: '>' :: ((markupAll ns).toList ++ r)) (by simp)
        have h := Sequence.tag htags (.selfClosing rfl hx ha) hseq
        simpa [markupAll, markup, toList_tagMarkup_closed] using h
      | false =>
        have hb := hbodies children (List.mem_singleton_self _) scope
          ('<' :: '/' :: (x.toList ++ '>' :: ((markupAll ns).toList ++ r))) hchildren
          (hinside _ (List.mem_singleton_self _)) (hinside' _ (List.mem_singleton_self _))
        have ha := attributes_written hattributes (r := '>' :: ((markupAll children).toList ++
          '<' :: '/' :: (x.toList ++ '>' :: ((markupAll ns).toList ++ r)))) (fun h => absurd h hopen)
        have h := Sequence.tag htags (.enclosing rfl hx ha hb rfl hx rfl (blanks_refl _)) hseq
        simpa [markupAll, markup, toList_tagMarkup_open] using h
    | _ => exact hkind.elim

/-! Reading again. -/

theorem textRun_rest {t rest s₁ : List Char} (ht : ∀ c ∈ t, c ≠ '\'' ∧ isQuotable c = false)
    (h : TextRun scope (t ++ rest) s₁ t) : s₁ = rest := by
  induction t with
  | nil =>
    rw [List.nil_append] at h
    generalize hu : ([] : List Char) = u at h
    cases h with
    | nil => rfl
    | @quotation c _ _ _ q t hc hq _ =>
      cases hq with
      | char => cases hu
      | apostrophe => cases hu
      | close => exact absurd hc (by decide)
    | _ => cases hu
  | cons c t ih =>
    obtain ⟨⟨hq, hc⟩, ht⟩ := List.forall_mem_cons.mp ht
    generalize hs : c :: t ++ rest = v at h
    generalize hu : c :: t = u at h
    cases h with
    | plain _ h =>
      obtain ⟨rfl, rfl⟩ := List.cons.inj hu
      obtain ⟨-, rfl⟩ := List.cons.inj hs
      exact ih ht h
    | nil => cases hu
    | apostrophes | quotation | apostrophe => exact absurd (List.cons.inj hs).1 hq

theorem Attributes.rest_eq {r' : List Char} {x' : String} (h : Attributes s r x) (h' : Attributes s r' x')
    (hr : ClosesAngle r) (hr' : ClosesAngle r') : r = r' :=
  ((tagAttributes_eq_iff hr).mpr h).2.symm.trans ((tagAttributes_eq_iff hr').mpr h').2

/-- Attributes that end in a slash are cut short where they are written before the bracket of an opening tag. -/
theorem not_attributes_of_slash (hx : IsAttributeText x) (hslash : x.toList.getLast? = some '/') (more : List Char)
    : ¬ Attributes (attributesText x ++ '>' :: r) ('>' :: more) x := by
  intro h
  obtain ⟨a, ha⟩ := List.getLast?_eq_some_iff.mp hslash
  have hne : x ≠ "" := by
    rintro rfl
    cases hslash
  have hshort : Attributes (' ' :: (a ++ '/' :: '>' :: r)) ('/' :: '>' :: r) (String.ofList (trim (' ' :: a))) :=
    .present rfl (by decide) ((ha ▸ hx.balanced).of_append_singleton (by decide) (by decide)) (by simp)
  rw [attributesText, if_neg hne, ha] at h
  simp only [List.cons_append, List.append_assoc, List.nil_append] at h
  have hrest := h.rest_eq hshort (.inl ⟨_, rfl⟩) (.inr ⟨_, rfl⟩)
  cases hrest

/-- The name at the end of a tag is the one that is written there. -/
theorem rest_of_closing {y : String} {s₄ rest : List Char} (hx : IsName x) (hy : IsName y)
    (h : x.toList ++ '>' :: rest = y.toList ++ s₄) (hs : Blanks s₄ ('>' :: r)) : r = rest := by
  have hangle : isNameChar '>' = false := isNameChar_marks.2.2.2.2.2.2
  have hends : Ends isNameChar s₄ := hs.ends (fun _ => isNameChar_of_isBlank) hangle
  have hname : expectName .expectedTagName (x.toList ++ '>' :: rest) = .ok (x, '>' :: rest) :=
    expectName_eq_ok_iff.mpr ⟨hx, rfl, by simp [Ends, hangle]⟩
  rw [h, expectName_eq_ok_iff.mpr ⟨hy, rfl, hends⟩] at hname
  obtain rfl : s₄ = '>' :: rest := (Prod.mk.inj (Except.ok.inj hname)).2
  have hskip := (skipBlanks_eq_iff (by decide)).mpr hs
  exact (List.cons.inj (hskip.symm.trans ((skipBlanks_eq_iff (by decide)).mpr (blanks_refl _)))).2

/-- A tag that closes itself ends where it ends in its markup. -/
theorem rest_of_closed {s₁ : List Char} {children : List Node} (hattributes : IsAttributeText attributes)
    (h : Tag Sequence scope (x.toList ++ (attributesText attributes ++ '/' :: '>' :: s)) s₁
      (.tag x attributes true children)) : s₁ = s := by
  cases h with
  | selfClosing hs _ ha =>
    rw [← List.append_cancel_left hs] at ha
    have hwritten := attributes_written hattributes (r := '/' :: '>' :: s) (by simp)
    simpa using ha.rest_eq hwritten (.inr ⟨_, rfl⟩) (.inr ⟨_, rfl⟩)

/-- A tag that is open in its markup has no slash there, and what is in it is read from behind its bracket, up
to its end. -/
theorem inside_of_open {s₁ : List Char} {children : List Node} (hattributes : IsAttributeText attributes)
    (h : Tag Sequence scope (x.toList ++ (attributesText attributes ++ '>' :: s)) s₁
      (.tag x attributes false children)) :
    attributes.toList.getLast? ≠ some '/' ∧ ∃ y s₄, Sequence scope s ('<' :: '/' :: (y.toList ++ s₄)) children ∧
      IsName y ∧ Blanks s₄ ('>' :: s₁) := by
  cases h with
  | @enclosing _ _ _ _ _ s₄ _ _ y _ _ hs _ ha hb hs₃ hy _ hs₄ =>
    rw [← List.append_cancel_left hs] at ha
    have hopen : attributes.toList.getLast? ≠ some '/' := fun hslash =>
      not_attributes_of_slash hattributes hslash _ ha
    have hwritten := attributes_written hattributes (r := '>' :: s) (fun h => absurd h hopen)
    obtain ⟨-, rfl⟩ := List.cons.inj (ha.rest_eq hwritten (.inl ⟨_, rfl⟩) (.inl ⟨_, rfl⟩))
    exact ⟨hopen, y, s₄, hs₃ ▸ hb, hy.1, hs₄⟩

theorem staysOpen_of_sequence (ns : List Node) : ∀ scope r r', AllWellFormed scope ns →
    (∀ n ∈ subtrees ns, n.IsTagOrText) → Sequence scope ((markupAll ns).toList ++ r) r' ns →
    r' = r ∧ ∀ n ∈ subtrees ns, n.StaysOpen := by
  induction ns using bodies_induction with
  | nil =>
    intro scope r r' _ _ h
    cases h
    exact ⟨rfl, by simp [subtrees]⟩
  | cons n ns hbodies ih =>
    intro scope r r' hw hkind h
    obtain ⟨hn, -, hrest⟩ := hw
    obtain ⟨hkind, hinside, hafter⟩ := forall_subtrees_cons.mp hkind
    rw [forall_subtrees_cons]
    cases n with
    | literal text =>
      rw [markupAll, markup, String.toList_append, List.append_assoc] at h
      generalize hs : text.toList ++ ((markupAll ns).toList ++ r) = s at h
      cases h with
      | text hrun _ _ hseq =>
        rw [← hs, String.toList_ofList] at hrun
        obtain rfl := textRun_rest (by simpa using IsTagOrText.not_quotable hkind) hrun
        obtain ⟨hr, hopen⟩ := ih scope r r' hrest hafter hseq
        exact ⟨hr, trivial, by simp [bodies], hopen⟩
      | placeholder hp => cases hp.not_text
      | tag _ hp => cases hp.not_text
    | tag x attributes selfClosing children =>
      obtain ⟨htags, hx, hattributes, hself, hchildren⟩ := hn
      cases selfClosing with
      | true =>
        simp only [markupAll, markup, String.toList_append, toList_tagMarkup_closed, List.cons_append,
          List.append_assoc, List.nil_append] at h
        cases h with
        | tag _ htag hseq =>
          obtain rfl := hself rfl
          obtain rfl := rest_of_closed hattributes htag
          obtain ⟨hr, hopen⟩ := ih scope r r' hrest hafter hseq
          exact ⟨hr, trivial, by simp [bodies, subtrees], hopen⟩
      | false =>
        simp only [markupAll, markup, String.toList_append, toList_tagMarkup_open, List.cons_append,
          List.append_assoc, List.nil_append] at h
        cases h with
        | tag _ htag hseq =>
          obtain ⟨hopen, y, s₄, hb, hy, hs₄⟩ := inside_of_open hattributes htag
          obtain ⟨hclosing, hchildren'⟩ := hbodies children (List.mem_singleton_self _) scope _ _ hchildren
            (hinside _ (List.mem_singleton_self _)) hb
          simp only [List.cons.injEq, true_and] at hclosing
          obtain rfl := rest_of_closing hx.1 hy hclosing.symm hs₄
          obtain ⟨hr, hafter'⟩ := ih scope r r' hrest hafter hseq
          exact ⟨hr, hopen, by simpa [bodies] using hchildren', hafter'⟩
    | _ => exact hkind.elim

/-! Lengths. -/

theorem Attributes.length_le (h : Attributes s r x) :
    (attributesText x).length + r.length ≤ s.length := by
  cases h with
  | absent => simp [attributesText]
  | @present a _ _ hs hb =>
    have htrim := length_trim_le a
    rw [hs, trim_cons_blank hb]
    unfold attributesText
    split_ifs
    · simp only [List.length_nil, List.length_cons, List.length_append]
      omega
    · simp only [String.toList_ofList, List.length_cons, List.length_append]
      omega

/-- Two names that agree up to case are of one length: none of their characters is a dot that lower case
could have left. -/
theorem IsName.length_eq {y : String} (hx : IsName x) (hy : IsName y) (h : lowerString y = lowerString x) :
    x.toList.length = y.toList.length := by
  have hdot : isNameChar (Char.ofNat dotAbove) = false := by decide +kernel
  have hne : ∀ {z : String}, IsName z → ∀ c ∈ z.toList, c.toNat ≠ dotAbove := by
    intro z hz c hc hcode
    have hname := hz.2 c hc
    rw [← Char.ofNat_toNat c, hcode, hdot] at hname
    cases hname
  exact length_eq_of_lower_eq (hne hx) (hne hy) (String.ofList_injective h).symm

/-- A message of tags and text is written as markup in no more characters than its pattern has. -/
theorem length_markupAll (ns : List Node) : ∀ scope s r, Sequence scope s r ns →
    (∀ n ∈ subtrees ns, n.IsTagOrText) → (markupAll ns).toList.length + r.length ≤ s.length := by
  induction ns using bodies_induction with
  | nil =>
    intro scope s r h _
    cases h
    simp [markupAll]
  | cons n ns hbodies ih =>
    intro scope s r h hkind
    obtain ⟨hkind, hinside, hafter⟩ := forall_subtrees_cons.mp hkind
    rw [markupAll, String.toList_append, List.length_append]
    cases h with
    | text hrun _ _ hseq =>
      have hrest := ih scope _ r hseq hafter
      have htext := hrun.length_add_le
      rw [markup, String.toList_ofList]
      omega
    | tag _ htag hseq =>
      have hrest := ih scope _ r hseq hafter
      cases htag with
      | selfClosing hs _ ha =>
        have hattributes := ha.length_le
        subst hs
        simp only [markup, toList_tagMarkup_closed, List.length_cons, List.length_append, List.length_nil] at hattributes ⊢
        omega
      | enclosing hs hx ha hb hs₃ hy hname hs₄ =>
        have hattributes := ha.length_le
        have hchildren := hbodies _ (List.mem_singleton_self _) scope _ _ hb
          (hinside _ (List.mem_singleton_self _))
        have hlength := hx.1.length_eq hy.1 hname
        obtain ⟨blanks, -, hblanks⟩ := hs₄
        subst hs hs₃ hblanks
        simp only [markup, toList_tagMarkup_open, List.length_cons, List.length_append,
          List.length_nil] at hattributes hchildren ⊢
        omega
    | placeholder hp =>
      cases hp with
      | argument => exact hkind.elim
      | typed _ _ _ _ _ ht => cases ht <;> exact hkind.elim
    | hash => exact hkind.elim

/-- A message of tags and text that a pattern has is read again from its markup, by the same settings, just if
no slash at the end of attributes closes a tag that was not closed by itself. -/
theorem parse_markupAll_iff {settings : Settings} {p : List Char} {m : Message} (h : settings.parse p = .ok m)
    (hkind : ∀ n ∈ m.nodes, n.IsTagOrText) :
    settings.parse (markupAll m.body).toList = .ok m ↔ ∀ n ∈ m.nodes, n.StaysOpen := by
  obtain ⟨hadmits, hderives, hdepth⟩ := parse_eq_ok_iff.mp h
  have hwell := (isMessage_of_parse h).nodes
  have hlength := length_markupAll m.body _ _ _ hderives hkind
  have hsize : settings.Admits (markupAll m.body).toList := fun hpos => by
    have := hadmits hpos
    simp only [List.length_nil] at hlength
    omega
  rw [parse_eq_ok_iff]
  constructor
  · rintro ⟨-, hagain, -⟩
    rw [Derives, ← List.append_nil (markupAll m.body).toList] at hagain
    exact (staysOpen_of_sequence m.body _ _ _ hwell hkind hagain).2
  · intro hopen
    have hagain := sequence_markupAll m.body _ [] hwell hkind hopen
    rw [List.append_nil] at hagain
    exact ⟨hsize, hagain, hdepth⟩

end Pattern.Grammar
end MessageFormat

import MessageFormat.Pattern.Cursor
import MessageFormat.Proofs.Pattern.Opening

/-!
Where readers stop. What is left is a suffix of what was there, and a flaw is shown at a place of the
source where the construct at fault begins.
-/

set_option autoImplicit false

namespace MessageFormat.Pattern

open Text Grammar

/-- What stands where a flaw is shown is the construct at fault. -/
def AnchoredAt (flaw : Flaw) (c : Option Char) : Prop :=
  match flaw.code with
  | .expectedClosingBrace | .emptyCases => c = some '{'
  | .unclosedTag | .mismatchedTag | .unexpectedClosingTag => c = some '<'
  | .nestingDepthExceeded => c = some '{' ∨ c = some '<'
  | _ => True

def Failure.Anchored (f : Failure) : Prop := AnchoredAt f.flaw f.rest.head?

variable {α β : Type}

/-- A reader of `s` leaves a suffix of it, or names a flaw at a place of the source. -/
def Within (rest : α → List Char) (source s : List Char) : Except Failure α → Prop
  | .ok a => rest a <:+ s
  | .error f => f.rest <:+ source ∧ f.Anchored

theorem Within.mono {rest : α → List Char} {source s t : List Char} {x : Except Failure α}
    (h : Within rest source s x) (hs : s <:+ t) : Within rest source t x := by
  cases x with
  | ok a => exact h.trans hs
  | error f => exact h

theorem Within.bind {rest : α → List Char} {rest' : β → List Char} {source s : List Char}
    {x : Except Failure α} {f : α → Except Failure β} (h : Within rest source s x)
    (hf : ∀ a, rest a <:+ s → Within rest' source (rest a) (f a)) :
    Within rest' source s (x >>= f) := by
  cases x with
  | ok a => exact (hf a h).mono h
  | error e => exact h

theorem within_fail {rest : α → List Char} {source s t : List Char} {flaw : Flaw}
    (ht : t <:+ source) (h : Failure.Anchored ⟨flaw, t⟩) :
    Within rest source s (fail flaw t) := ⟨ht, h⟩

variable {source s origin : List Char}

theorem skipBlanks_suffix (s : List Char) : skipBlanks s <:+ s := List.dropWhile_suffix isBlank

theorem suffix_of_cons {c : Char} {r : List Char} (h : c :: r <:+ s) : r <:+ s :=
  (List.suffix_cons c r).trans h

theorem run?_suffix {p : Char → Bool} {w r : List Char} (h : run? p s = some (w, r)) :
    r <:+ s := by
  obtain ⟨-, -, rfl, -⟩ := run?_eq_some_iff.mp h
  exact List.suffix_append w r

theorem decimal?_suffix {value : Decimal} {r : List Char} (h : decimal? s = some (value, r)) :
    r <:+ s := by
  obtain ⟨w, rfl, -⟩ := decimal?_eq_some_iff.mp h
  exact List.suffix_append w r

theorem style?_suffix {t r : List Char} (h : style? s = some (t, r)) : r <:+ s := by
  obtain ⟨-, rfl, -⟩ := style?_eq_some_iff.mp h
  exact List.suffix_append t r

theorem attributes_suffix (q : Option Char) (s : List Char) : (attributes q s).2 <:+ s := by
  fun_induction attributes q s with
  | case1 q => exact List.suffix_rfl
  | case2 q c r ih => exact ih.trans (List.suffix_cons c r)
  | case3 r => exact List.suffix_rfl
  | case4 r => exact List.suffix_rfl
  | case5 c r _ _ ih => exact ih.trans (List.suffix_cons c r)

theorem tagAttributes_suffix (s : List Char) : (tagAttributes s).2 <:+ s := by
  unfold tagAttributes
  split
  · split
    · exact attributes_suffix none _
    · exact List.suffix_rfl
  · exact List.suffix_rfl

theorem text_suffix (scope : Scope) (quoted : Bool) (s : List Char) :
    (text scope quoted s).2 <:+ s := by
  fun_induction text scope quoted s with
  | case1 => exact List.suffix_rfl
  | case2 _ r ih => exact ih.trans ((List.suffix_cons _ r).trans (List.suffix_cons _ _))
  | case3 r _ ih => exact ih.trans (List.suffix_cons _ r)
  | case4 c r _ _ ih => exact ih.trans (List.suffix_cons c r)
  | case5 c r _ _ ih => exact ih.trans (List.suffix_cons _ _)
  | case6 c r _ _ ih => exact ih.trans (List.suffix_cons _ _)
  | case7 => exact List.suffix_rfl
  | case8 c r _ _ _ ih => exact ih.trans (List.suffix_cons c r)

/-! Words and keys. -/

theorem within_expectName (flaw : Flaw) (hs : s <:+ source)
    (h : ∀ t, Failure.Anchored ⟨flaw, t⟩) : Within Prod.snd source s (expectName flaw s) := by
  unfold expectName
  split
  · rename_i w r hw
    exact run?_suffix hw
  · exact within_fail hs (h s)

theorem within_pluralKey (construct : String) (hs : s <:+ source) :
    Within Prod.snd source s (pluralKey construct s) := by
  unfold pluralKey
  split
  · split
    · rename_i value r h
      exact (decimal?_suffix h).trans (List.suffix_cons _ _)
    · exact within_fail hs trivial
  · exact (within_expectName (.expectedCaseKey construct) hs fun _ => trivial).bind
      fun _ _ => List.suffix_rfl

theorem within_selectKey (hs : s <:+ source) : Within Prod.snd source s (selectKey s) := by
  unfold selectKey
  split
  · rename_i w r h
    exact run?_suffix h
  · exact within_fail hs trivial

theorem strip?_suffix {p r : List Char} (h : strip? p s = some r) : r <:+ s := by
  unfold strip? at h
  split at h
  · rw [← Option.some.inj h]
    exact List.drop_suffix _ s
  · cases h

theorem within_pluralOffset (hs : s <:+ source) :
    Within Prod.snd source s (pluralOffset s) := by
  unfold pluralOffset
  split
  · exact List.suffix_rfl
  · rename_i r h
    have hr := (skipBlanks_suffix r).trans (strip?_suffix h)
    dsimp only
    split
    · rename_i value rest hv
      exact (skipBlanks_suffix rest).trans ((decimal?_suffix hv).trans hr)
    · exact within_fail (hr.trans hs) trivial

/-! What an opening brace is named for. -/

section Brace

variable (ho : origin <:+ source) (hb : origin.head? = some '{')

include ho hb

theorem within_expectCases (construct : String) :
    Within id source s (expectCases construct origin s) := by
  unfold expectCases
  split
  · exact (skipBlanks_suffix _).trans (List.suffix_cons _ _)
  · exact within_fail ho hb
  · exact within_fail ho hb

theorem within_styleSlot : Within Prod.snd source s (styleSlot origin s) := by
  unfold styleSlot
  split
  · split
    · rename_i t r h
      exact (style?_suffix h).trans (List.suffix_cons _ _)
    · exact within_fail ho hb
  · exact List.suffix_rfl

theorem within_formatterCall (argument formatter : String) (second : Option String) :
    Within Prod.snd source s (formatterCall argument formatter second origin s) :=
  (within_styleSlot ho hb).bind fun _ _ => List.suffix_rfl

theorem within_rangeCall (argument formatter : String) (hs : s <:+ source) :
    Within Prod.snd source s (rangeCall argument formatter origin s) := by
  unfold rangeCall
  split
  · rename_i r
    have hr : skipBlanks r <:+ ',' :: r := (skipBlanks_suffix r).trans (List.suffix_cons _ r)
    have hn := within_expectName (.expectedRangeEnd formatter) (hr.trans hs) fun _ => trivial
    refine (hn.bind fun a _ => ?_).mono hr
    exact (within_formatterCall ho hb _ _ _).mono (skipBlanks_suffix _)
  · exact within_fail hs trivial

end Brace

/-! Bodies. -/

/-- A reader of sequences that stays within the source. -/
def BodyWithin (source : List Char) (body : Body) : Prop :=
  ∀ s, s <:+ source → Within Prod.snd source s (body s)

theorem within_caseBody {key : String} {body : Body} (hbody : BodyWithin source body)
    (hs : s <:+ source) : Within Prod.snd source s (caseBody key body s) := by
  unfold caseBody
  have hr := skipBlanks_suffix s
  split
  · rename_i r h
    rw [h] at hr
    refine ((hbody r (suffix_of_cons (hr.trans hs))).bind fun a _ => ?_).mono (suffix_of_cons hr)
    obtain ⟨nodes, rest⟩ := a
    dsimp only
    split
    · exact List.suffix_cons _ _
    · exact within_fail (hr.trans hs) rfl
  · exact within_fail (hr.trans hs) trivial

section Cases

variable {κ : Type} {key : List Char → Except Failure (Read κ)} {keyText : κ → String}
  {body : Body}

theorem within_oneCase (hkey : ∀ s, s <:+ source → Within Prod.snd source s (key s))
    (hbody : BodyWithin source body) (hs : s <:+ source) :
    Within Prod.snd source s (oneCase key keyText body s) := by
  refine (hkey s hs).bind fun k hk => ?_
  exact (within_caseBody hbody (hk.trans hs)).bind fun a _ => skipBlanks_suffix a.2

theorem within_caseList (hkey : ∀ s, s <:+ source → Within Prod.snd source s (key s))
    (hbody : BodyWithin source body) (fuel : Nat) (hs : s <:+ source) :
    Within Prod.snd source s (caseList key keyText body fuel s) := by
  induction fuel generalizing s with
  | zero => exact List.suffix_rfl
  | succ fuel ih =>
    by_cases he : EndsCases s
    · rw [caseList_of_end _ _ _ he]
      exact List.suffix_rfl
    · rw [caseList_of_key _ _ _ he]
      refine (within_oneCase hkey hbody hs).bind fun a ha => ?_
      exact (ih (ha.trans hs)).bind fun _ _ => List.suffix_rfl

theorem within_cases (ho : origin <:+ source) (hb : origin.head? = some '{') (construct : String)
    (hkey : ∀ s, s <:+ source → Within Prod.snd source s (key s)) (hbody : BodyWithin source body)
    (hs : s <:+ source) :
    Within Prod.snd source s (cases construct key keyText body origin s) := by
  unfold cases
  refine (within_caseList hkey hbody _ hs).bind fun a _ => ?_
  obtain ⟨found, rest⟩ := a
  dsimp only
  split
  · exact within_fail ho hb
  · exact List.suffix_rfl

end Cases

/-! Placeholders. -/

section Placeholder

variable (ho : origin <:+ source) (hb : origin.head? = some '{') {body : Body}

include ho hb

theorem within_plural (ordinal : Bool) (argument : String) (hbody : BodyWithin source body)
    (hs : s <:+ source) : Within Prod.snd source s (plural ordinal argument body origin s) := by
  unfold plural
  refine (within_expectCases ho hb _).bind fun r hr => ?_
  have hr' : r <:+ source := hr.trans hs
  refine (within_pluralOffset hr').bind fun a ha => ?_
  have hkey : ∀ s, s <:+ source →
      Within Prod.snd source s (pluralKey (pluralConstruct ordinal) s) :=
    fun _ hs => within_pluralKey _ hs
  refine (within_cases ho hb _ hkey hbody (ha.trans hr')).bind fun _ _ => List.suffix_rfl

theorem within_select (argument : String) (hbody : BodyWithin source body)
    (hs : s <:+ source) : Within Prod.snd source s (select argument body origin s) := by
  unfold select
  refine (within_expectCases ho hb _).bind fun r hr => ?_
  have hkey : ∀ s, s <:+ source → Within Prod.snd source s (selectKey s) :=
    fun _ hs => within_selectKey hs
  exact (within_cases ho hb _ hkey hbody (hr.trans hs)).bind fun _ _ => List.suffix_rfl

theorem within_typed (argument formatter : String) {body : Bool → Body}
    (hbody : ∀ plural, BodyWithin source (body plural)) (hs : s <:+ source) :
    Within Prod.snd source s (typed argument formatter body origin s) := by
  unfold typed
  split
  · exact within_plural ho hb _ _ (hbody _) hs
  · exact within_plural ho hb _ _ (hbody _) hs
  · exact within_select ho hb _ (hbody _) hs
  · exact within_rangeCall ho hb _ _ hs
  · exact within_rangeCall ho hb _ _ hs
  · exact within_formatterCall ho hb _ _ _

end Placeholder

/-- What the readers of the next level do with a source. -/
def InnerWithin (source : List Char) (inner : Option Inner) : Prop :=
  ∀ body ∈ inner, ∀ scope inTag, BodyWithin source (body scope inTag)

theorem within_placeholder (limit : Int) {inner : Option Inner} (hi : InnerWithin source inner)
    (scope : Scope) (hs : '{' :: s <:+ source) :
    Within Prod.snd source s (placeholder limit inner scope ('{' :: s)) := by
  unfold placeholder
  split
  · exact within_fail hs (.inl rfl)
  rename_i inner
  have hb := skipBlanks_suffix s
  have hn := within_expectName .expectedArgumentName (hb.trans (suffix_of_cons hs)) fun _ => trivial
  refine (hn.bind fun a ha => ?_).mono hb
  have hr := skipBlanks_suffix a.2
  obtain ⟨argument, r⟩ := a
  dsimp only at ha hr ⊢
  split
  · rename_i rest h
    rw [h] at hr
    exact suffix_of_cons hr
  · rename_i r' h
    rw [h] at hr
    have hr' : skipBlanks r' <:+ r := (skipBlanks_suffix r').trans (suffix_of_cons hr)
    have hs' : skipBlanks r' <:+ source := hr'.trans (ha.trans (hb.trans (suffix_of_cons hs)))
    have hn := within_expectName .expectedFormatterName hs' fun _ => trivial
    refine (hn.bind fun a ha => ?_).mono hr'
    have hr := skipBlanks_suffix a.2
    have ht := within_typed hs rfl argument a.1
      (fun plural => hi inner rfl (scope.body plural) false) (hr.trans (ha.trans hs'))
    refine (ht.bind fun a ha => ?_).mono hr
    have hr := skipBlanks_suffix a.2
    obtain ⟨node, r⟩ := a
    dsimp only at hr ⊢
    split
    · rename_i rest h
      rw [h] at hr
      exact suffix_of_cons hr
    · exact within_fail hs rfl
  · exact within_fail hs rfl

/-! Tags. -/

theorem within_closingTag (opened : String) (ho : origin <:+ source) (hb : origin.head? = some '<')
    (hs : s <:+ source) : Within id source s (closingTag opened origin s) := by
  unfold closingTag
  split
  · rename_i r
    have hr : r.drop 1 <:+ '<' :: r := (List.drop_suffix 1 r).trans (List.suffix_cons _ r)
    have hn := within_expectName .expectedTagName (hr.trans hs) fun _ => trivial
    refine (hn.bind fun a ha => ?_).mono hr
    have hb := skipBlanks_suffix a.2
    obtain ⟨closed, after⟩ := a
    dsimp only at ha hb ⊢
    split
    · exact within_fail hs rfl
    · split
      · rename_i rest h
        rw [h] at hb
        exact suffix_of_cons hb
      · exact within_fail (hb.trans (ha.trans (hr.trans hs))) trivial
  · exact within_fail ho hb

theorem within_tag (limit : Int) {inner : Option Inner} (hi : InnerWithin source inner)
    (scope : Scope) (hs : '<' :: s <:+ source) :
    Within Prod.snd source s (tag limit inner scope ('<' :: s)) := by
  unfold tag
  split
  · exact within_fail hs (.inr rfl)
  rename_i inner
  have hs' : s <:+ source := suffix_of_cons hs
  refine (within_expectName .expectedTagName hs' fun _ => trivial).bind fun a ha => ?_
  have hr := tagAttributes_suffix a.2
  obtain ⟨name, r⟩ := a
  dsimp only at ha hr ⊢
  split
  · rename_i rest h
    rw [h] at hr
    exact suffix_of_cons (suffix_of_cons hr)
  · rename_i r' h
    rw [h] at hr
    have hc := suffix_of_cons hr
    refine ((hi inner rfl scope true r' (hc.trans (ha.trans hs'))).bind fun a hr' => ?_).mono hc
    have hs'' := hr'.trans (hc.trans (ha.trans hs'))
    exact (within_closingTag name hs rfl hs'').bind fun _ _ => List.suffix_rfl
  · exact within_fail (hr.trans (ha.trans hs')) trivial

/-! Sequences. -/

theorem placeholder_length {limit : Int} {inner : Option Inner} {scope : Scope} {node : Node}
    {s r : List Char} (hw : ∀ source, InnerWithin source inner)
    (h : placeholder limit inner scope ('{' :: s) = .ok (node, r)) : r.length ≤ s.length := by
  have hr := within_placeholder limit (hw _) scope (s := s) List.suffix_rfl
  rw [h] at hr
  exact List.IsSuffix.length_le hr

theorem tag_length {limit : Int} {inner : Option Inner} {scope : Scope} {node : Node}
    {s r : List Char} (hw : ∀ source, InnerWithin source inner)
    (h : tag limit inner scope ('<' :: s) = .ok (node, r)) : r.length ≤ s.length := by
  have hr := within_tag limit (hw _) scope (s := s) List.suffix_rfl
  rw [h] at hr
  exact List.IsSuffix.length_le hr

theorem within_sequence (limit : Int) {inner : Option Inner} (hi : InnerWithin source inner)
    (scope : Scope) (inTag : Bool) (fuel : Nat) (hs : s <:+ source) :
    Within Prod.snd source s (sequence limit inner scope inTag fuel s) := by
  induction fuel generalizing s with
  | zero => exact List.suffix_rfl
  | succ fuel ih =>
    have hnext : ∀ a : Read Node, a.2 <:+ source →
        Within Prod.snd source a.2 (continued limit inner scope inTag fuel a) :=
      fun a ha => (ih ha).bind fun _ _ => List.suffix_rfl
    cases opening scope inTag s with
    | stop h =>
      rw [sequence_of_stop h]
      exact List.suffix_rfl
    | stray c r ht hin hc =>
      rw [sequence_stray r ht hin hc]
      exact within_fail hs rfl
    | placeholder r =>
      rw [sequence_placeholder]
      exact ((within_placeholder limit hi scope hs).bind fun a ha =>
        hnext a (ha.trans (suffix_of_cons hs))).mono (List.suffix_cons _ r)
    | tag c r ht hc =>
      rw [sequence_tag r ht hc]
      exact ((within_tag limit hi scope hs).bind fun a ha =>
        hnext a (ha.trans (suffix_of_cons hs))).mono (List.suffix_cons _ _)
    | hash r hp =>
      rw [sequence_hash r hp]
      exact (hnext _ (suffix_of_cons hs)).mono (List.suffix_cons _ r)
    | text c r h =>
      rw [sequence_text h]
      have ht := text_suffix scope false (c :: r)
      exact (hnext _ (ht.trans hs)).mono ht

theorem within_nodesWithin (source : List Char) (limit : Int) (levels : Nat) (scope : Scope)
    (inTag : Bool) : BodyWithin source (nodesWithin limit levels scope inTag) := by
  induction levels generalizing scope inTag with
  | zero => exact fun s hs => within_sequence limit (by simp [InnerWithin]) scope inTag _ hs
  | succ levels ih =>
    refine fun s hs => within_sequence limit ?_ scope inTag _ hs
    intro body hb
    cases hb
    exact ih

theorem innerWithin_nodesWithin (source : List Char) (limit : Int) (levels : Nat) :
    InnerWithin source (some (nodesWithin limit levels)) := by
  intro body hb
  cases hb
  exact within_nodesWithin source limit levels

/-! Patterns. -/

namespace Settings

/-- Whether the size limit lets a text pass. -/
def Admits (settings : Settings) (p : List Char) : Prop :=
  0 < settings.maxSize → (p.length : Int) ≤ settings.maxSize

/-- The nodes of a whole text, without a look at its size. -/
def nodes (settings : Settings) (p : List Char) : Except Failure (Read (List Node)) :=
  nodesWithin settings.maxDepth settings.maxDepth.toNat { tags := !settings.ignoreTags } false p

variable {settings : Settings} {p : List Char}

theorem parse_of_not_admits (h : ¬ settings.Admits p) :
    settings.parse p = .error (.oversized p.length settings.maxSize) := by
  rw [Admits, Classical.not_imp, Int.not_le] at h
  rw [parse, if_pos h]

theorem parse_of_admits (h : settings.Admits p) :
    settings.parse p = match settings.nodes p with
      | .ok (nodes, _) => .ok ⟨nodes⟩
      | .error failure => .error (.malformed failure.flaw (emptySpan p failure.rest)) := by
  rw [parse, if_neg (fun hp => absurd (h hp.1) (Int.not_le.mpr hp.2))]
  rfl

/-- A message is the nodes of a text that is not too long. -/
theorem parse_eq_ok_nodes_iff {m : Message} : settings.parse p = .ok m ↔
    settings.Admits p ∧ ∃ r, settings.nodes p = .ok (m.body, r) := by
  by_cases ha : settings.Admits p
  · rw [parse_of_admits ha]
    cases settings.nodes p with
    | ok a =>
      constructor
      · intro h
        obtain rfl := Except.ok.inj h
        exact ⟨ha, a.2, rfl⟩
      · rintro ⟨-, r, h⟩
        obtain rfl := Except.ok.inj h
        rfl
    | error failure => simp
  · rw [parse_of_not_admits ha]
    simp [ha]

/-- A flaw is that of the nodes of a text that is not too long, and is shown where they stop. -/
theorem parse_eq_malformed_iff {flaw : Flaw} {span : Span} :
    settings.parse p = .error (.malformed flaw span) ↔
      settings.Admits p ∧ ∃ rest, settings.nodes p = .error ⟨flaw, rest⟩ ∧ emptySpan p rest = span := by
  by_cases ha : settings.Admits p
  · rw [parse_of_admits ha]
    cases settings.nodes p with
    | ok a => simp
    | error failure =>
      constructor
      · intro h
        obtain ⟨rfl, rfl⟩ := Rejection.malformed.inj (Except.error.inj h)
        exact ⟨ha, failure.rest, rfl, rfl⟩
      · rintro ⟨-, rest, h, rfl⟩
        obtain rfl := Except.error.inj h
        rfl
  · rw [parse_of_not_admits ha]
    simp [ha]

end Settings

end MessageFormat.Pattern

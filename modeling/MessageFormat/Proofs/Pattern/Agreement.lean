import Mathlib
import MessageFormat.Proofs.Pattern.Facing

/-!
Reading one character at a time comes to the same as reading the text. No run is without an end, none
looks past the end of the text and none shows a span that is none.
-/

set_option autoImplicit false

namespace MessageFormat.Pattern

open Text

namespace Scan

open Cursor Grammar

variable {α β : Type} {source s r : List Char}

/-! Cases. -/

theorem expectCases_facing (construct : String) (origin : List Char) (h : s <:+ source) :
    expectCases construct (facing source origin) (facing source s) =
      liftWith source (facing source) (Pattern.expectCases construct origin s) := by
  unfold Pattern.expectCases
  split
  · rw [expectCases, expect_cons h, pure_bind]
    exact blanks_facing (suffix_of_cons h)
  · rw [expectCases, expect_none h (by simp), pure_bind, atEnd_facing h, look_facing h]
    simp only [List.isEmpty_cons, Bool.false_eq_true, if_false, pure_bind, if_true]
    exact flawed_facing _ source origin
  · rename_i hcomma hbrace
    rw [expectCases, expect_none h (fun r hr => hcomma r hr), pure_bind, atEnd_facing h]
    cases s with
    | nil => exact flawed_facing _ source origin
    | cons c s =>
      have hc : c ≠ '}' := fun hc => hbrace s (by rw [hc])
      rw [look_facing h]
      simp only [List.isEmpty_cons, pure_bind, hc]
      exact flawed_facing _ source origin

/-- A run of sequences comes to the same as a reader of them. -/
def BodyAgrees (source : List Char) (body : Scan.Body) (body' : Pattern.Body) : Prop :=
  ∀ s, s <:+ source → body (facing source s) = lift source (body' s)

section Cases

variable {body : Scan.Body} {body' : Pattern.Body} (hb : BodyAgrees source body body')
  (hw : BodyWithin source body')

include hb hw

theorem caseBody_facing (key : String) (h : s <:+ source) :
    caseBody key body (facing source s) = lift source (Pattern.caseBody key body' s) := by
  have hr := (skipBlanks_suffix s).trans h
  rw [caseBody, blanks_facing h, pure_bind, Pattern.caseBody]
  split
  · rename_i r hs
    rw [hs] at hr ⊢
    rw [expect_cons hr, pure_bind]
    dsimp only
    rw [hb r (suffix_of_cons hr)]
    refine liftWith_bind (hw r (suffix_of_cons hr)) fun a _ he => ?_
    obtain ⟨nodes, e⟩ := a
    have he' : e <:+ source := he.trans (suffix_of_cons hr)
    dsimp only
    split
    · rw [expect_cons he', pure_bind]
      rfl
    · rename_i hn
      rw [expect_none he' (fun r hr => hn r hr), pure_bind]
      exact flawed_eq_liftWith _ source _ _
  · rename_i hn
    rw [expect_none hr (fun r hr => hn r hr), pure_bind]
    exact flawed_eq_liftWith _ source _ _

omit hb in
theorem caseBody_length {key : String} {nodes : List Node} (h : s <:+ source)
    (he : Pattern.caseBody key body' s = .ok (nodes, r)) : r.length < s.length := by
  have hs := skipBlanks_suffix s
  unfold Pattern.caseBody at he
  split at he
  · rename_i r' hr'
    rw [hr'] at hs
    obtain ⟨⟨nodes', e⟩, hbody, he⟩ := bind_eq_ok_iff.mp he
    have hsuffix := hw r' (suffix_of_cons (hs.trans h))
    rw [hbody] at hsuffix
    dsimp only at he
    split at he
    · obtain ⟨rfl, rfl⟩ := Prod.mk.inj (Except.ok.inj he)
      have hl := List.IsSuffix.length_le hsuffix
      have hl' := hs.length_le
      simp only [List.length_cons] at hl hl'
      omega
    · exact absurd he fail_ne_ok
  · exact absurd he fail_ne_ok

variable {κ : Type} {key : Cursor → Run (Found κ)}
  {key' : List Char → Except Failure (Read κ)} (keyText : κ → String)
  (hk : ∀ s, s <:+ source → s ≠ [] → key (facing source s) = lift source (key' s))
  (hkw : ∀ s, s <:+ source → Within Prod.snd source s (key' s))

include hk hkw

theorem oneCase_facing (h : s <:+ source) (hs : s ≠ []) :
    oneCase key keyText body (facing source s) =
      lift source (Pattern.oneCase key' keyText body' s) := by
  rw [oneCase, hk s h hs, Pattern.oneCase]
  refine liftWith_bind (hkw s h) fun k _ hks => ?_
  have hk' := hks.trans h
  refine (congrArg (· >>= _) (caseBody_facing hb hw _ hk')).trans ?_
  refine liftWith_bind (within_caseBody hw hk') fun a _ has => ?_
  dsimp only
  rw [blanks_facing (has.trans hk'), pure_bind]
  rfl

omit hb hk in
theorem oneCase_length {one : Case κ (List Node)} (h : s <:+ source)
    (ho : Pattern.oneCase key' keyText body' s = .ok (one, r)) : r.length < s.length := by
  obtain ⟨⟨k, t⟩, hkey, ho⟩ := bind_eq_ok_iff.mp ho
  obtain ⟨⟨nodes, e⟩, hbody, ho⟩ := bind_eq_ok_iff.mp ho
  obtain ⟨rfl, rfl⟩ := Prod.mk.inj (Except.ok.inj ho)
  have hts := hkw s h
  rw [hkey] at hts
  have hl := List.IsSuffix.length_le hts
  have hl' := caseBody_length hw (hts.trans h) hbody
  have hl'' := skipBlanks_length_le e
  dsimp only at hl hl' ⊢
  omega

theorem caseLoop_facing (found : List (Case κ (List Node))) {fuel : Nat} (hf : s.length ≤ fuel)
    (h : s <:+ source) :
    loop (caseRound key keyText body) (found, facing source s) =
      liftWith source (fun q => (found ++ q.1, facing source q.2))
        (Pattern.caseList key' keyText body' fuel s) := by
  induction fuel generalizing s found with
  | zero =>
    obtain rfl : s = [] := List.eq_nil_of_length_eq_zero (by omega)
    refine (loop_of_done (a := (found, facing source [])) ?_).trans ?_
    · rw [caseRound, atEnd_facing h]
      rfl
    · simp [Pattern.caseList, liftWith]
  | succ fuel ih =>
    by_cases he : EndsCases s
    · rw [caseList_of_end _ _ _ he]
      refine (loop_of_done (a := (found, facing source s)) ?_).trans (by simp [liftWith])
      rw [caseRound, atEnd_facing h]
      rcases he with rfl | he
      · rfl
      · obtain ⟨r, rfl⟩ := List.head?_eq_some_iff.mp he
        rw [look_facing h]
        simp
    · obtain ⟨c, t, rfl⟩ := List.exists_cons_of_ne_nil fun hs => he (.inl hs)
      have hc : c ≠ '}' := fun hc => he (.inr (by rw [hc]; rfl))
      have hround : caseRound key keyText body (found, facing source (c :: t)) =
          liftWith source (fun a => .inr (found ++ [a.1], facing source a.2))
            (Pattern.oneCase key' keyText body' (c :: t)) := by
        rw [caseRound, atEnd_facing h, look_facing h,
          oneCase_facing hb hw keyText hk hkw h (by simp)]
        simp only [List.isEmpty_cons, Bool.false_eq_true, if_false, pure_bind, hc]
        exact liftWith_map _ fun _ => rfl
      rw [caseList_of_key _ _ _ he]
      refine loop_liftWith hround fun a ha => ?_
      have hl := oneCase_length hw keyText hkw h ha
      have hs : Within Prod.snd source (c :: t) (Pattern.oneCase key' keyText body' (c :: t)) :=
        within_oneCase hkw hw h
      rw [ha] at hs
      rw [ih _ (by omega) (List.IsSuffix.trans hs h), caseContinued]
      cases Pattern.caseList key' keyText body' fuel a.2 with
      | ok q => simp [liftWith]
      | error f => rfl

theorem caseList_facing (h : s <:+ source) :
    caseList key keyText body (facing source s) =
      lift source (Pattern.caseList key' keyText body' s.length s) :=
  caseLoop_facing hb hw keyText hk hkw [] (Nat.le_refl _) h

theorem cases_facing (construct : String) (origin : List Char) (h : s <:+ source) :
    cases key keyText body construct (facing source origin) (facing source s) =
      lift source (Pattern.cases construct key' keyText body' origin s) := by
  rw [cases, caseList_facing hb hw keyText hk hkw h, Pattern.cases]
  refine liftWith_bind (within_caseList hkw hw _ h) fun a _ _ => ?_
  obtain ⟨found, r⟩ := a
  dsimp only
  split
  · exact flawed_eq_liftWith _ source _ _
  · rfl

omit hk hkw

theorem plural_facing (ordinal : Bool) (argument : String) (origin : List Char)
    (ho : origin <:+ source) (hbrace : origin.head? = some '{') (h : s <:+ source) :
    plural ordinal argument body (facing source origin) (facing source s) =
      lift source (Pattern.plural ordinal argument body' origin s) := by
  have hkey : ∀ s, s <:+ source →
      Within Prod.snd source s (Pattern.pluralKey (pluralConstruct ordinal) s) :=
    fun _ hs => within_pluralKey _ hs
  rw [plural, Pattern.plural, expectCases_facing _ origin h]
  refine liftWith_bind (within_expectCases ho hbrace _) fun r _ hr => ?_
  have hr' : r <:+ source := hr.trans h
  rw [pluralOffset_facing hr']
  refine liftWith_bind (within_pluralOffset hr') fun a _ ha => ?_
  have ha' := ha.trans hr'
  dsimp only
  rw [cases_facing hb hw _ (fun _ => pluralKey_facing _) hkey _ origin ha']
  exact liftWith_bind (within_cases ho hbrace _ hkey hw ha') fun _ _ _ => rfl

theorem select_facing (argument : String) (origin : List Char)
    (ho : origin <:+ source) (hbrace : origin.head? = some '{') (h : s <:+ source) :
    select argument body (facing source origin) (facing source s) =
      lift source (Pattern.select argument body' origin s) := by
  have hkey : ∀ s, s <:+ source → Within Prod.snd source s (Pattern.selectKey s) :=
    fun _ hs => within_selectKey hs
  rw [select, Pattern.select, expectCases_facing _ origin h]
  refine liftWith_bind (within_expectCases ho hbrace _) fun r _ hr => ?_
  have hr' : r <:+ source := hr.trans h
  rw [cases_facing hb hw _ (fun _ hs _ => selectKey_facing hs) hkey _ origin hr']
  exact liftWith_bind (within_cases ho hbrace _ hkey hw hr') fun _ _ _ => rfl

end Cases

/-! Calls. -/

section Brace

variable {origin : List Char} (ho : origin <:+ source) (hbrace : origin.head? = some '{')

theorem styleSlot_facing (origin : List Char) (h : s <:+ source) :
    styleSlot (facing source origin) (facing source s) =
      lift source (Pattern.styleSlot origin s) := by
  unfold Pattern.styleSlot
  split
  · rename_i r
    have hr := suffix_of_cons h
    rw [styleSlot, expect_cons h, pure_bind]
    dsimp only
    rw [Cursor.styleEnd?, rest_facing hr]
    cases hst : style? r with
    | none => exact flawed_eq_liftWith _ source _ _
    | some q =>
      obtain ⟨t, e⟩ := q
      obtain ⟨-, rfl, -⟩ := style?_eq_some_iff.mp hst
      simp only [Option.map_some, before_facing (List.suffix_append t e), sliceTo_facing hr]
      rfl
  · rename_i hn
    rw [styleSlot, expect_none h (fun r hr => hn r hr), pure_bind]
    rfl

include ho hbrace

theorem formatterCall_facing (argument formatter : String) (second : Option String)
    (h : s <:+ source) :
    formatterCall argument formatter second (facing source origin) (facing source s) =
      lift source (Pattern.formatterCall argument formatter second origin s) := by
  rw [formatterCall, styleSlot_facing origin h]
  exact liftWith_bind (within_styleSlot ho hbrace) fun _ _ _ => rfl

theorem rangeCall_facing (argument formatter : String) (h : s <:+ source) :
    rangeCall argument formatter (facing source origin) (facing source s) =
      lift source (Pattern.rangeCall argument formatter origin s) := by
  unfold Pattern.rangeCall
  split
  · rename_i r
    have hr := (skipBlanks_suffix r).trans (suffix_of_cons h)
    rw [rangeCall, expect_cons h, pure_bind]
    dsimp only
    rw [blanks_facing (suffix_of_cons h), pure_bind, name_facing _ hr]
    refine liftWith_bind (within_expectName _ hr fun _ => trivial) fun a _ ha => ?_
    have ha' := ha.trans hr
    dsimp only
    rw [blanks_facing ha', pure_bind]
    exact formatterCall_facing ho hbrace _ _ _ ((skipBlanks_suffix a.2).trans ha')
  · rename_i hn
    rw [rangeCall, expect_none h (fun r hr => hn r hr), pure_bind]
    exact flawed_eq_liftWith _ source _ _

theorem typed_facing (argument formatter : String) {body : Bool → Scan.Body}
    {body' : Bool → Pattern.Body}
    (hb : ∀ plural, BodyAgrees source (body plural) (body' plural))
    (hw : ∀ plural, BodyWithin source (body' plural)) (h : s <:+ source) :
    typed argument formatter body (facing source origin) (facing source s) =
      lift source (Pattern.typed argument formatter body' origin s) := by
  unfold typed
  split
  · rename_i hf
    rw [Pattern.typed, hf]
    exact plural_facing (hb _) (hw _) _ _ _ ho hbrace h
  · rename_i hf
    rw [Pattern.typed, hf]
    exact plural_facing (hb _) (hw _) _ _ _ ho hbrace h
  · rename_i hf
    rw [Pattern.typed, hf]
    exact select_facing (hb _) (hw _) _ _ ho hbrace h
  · rename_i hf
    rw [Pattern.typed, hf]
    exact rangeCall_facing ho hbrace _ _ h
  · rename_i hf
    rw [Pattern.typed, hf]
    exact rangeCall_facing ho hbrace _ _ h
  · rename_i hplural hordinal hselect hnumber hdate
    have ht : Pattern.typed argument formatter body' origin s =
        Pattern.formatterCall argument formatter none origin s := by
      unfold Pattern.typed
      split
      · next hf => exact absurd hf hplural
      · next hf => exact absurd hf hordinal
      · next hf => exact absurd hf hselect
      · next hf => exact absurd hf hnumber
      · next hf => exact absurd hf hdate
      · rfl
    rw [ht]
    exact formatterCall_facing ho hbrace _ _ _ h

end Brace

/-! Placeholders. -/

/-- The runs of the next level come to the same as its readers. -/
def InnerAgrees (source : List Char) : Option Scan.Inner → Option Pattern.Inner → Prop
  | none, none => True
  | some inner, some inner' =>
    ∀ scope inTag, BodyAgrees source (inner scope inTag) (inner' scope inTag)
  | _, _ => False

section Inner

variable {inner : Option Scan.Inner} {inner' : Option Pattern.Inner}
  (hi : InnerAgrees source inner inner') (hw : InnerWithin source inner') (limit : Int)
  (scope : Scope)

include hi hw

theorem placeholder_facing (h : '{' :: s <:+ source) :
    placeholder limit inner scope (facing source ('{' :: s)) =
      lift source (Pattern.placeholder limit inner' scope ('{' :: s)) := by
  cases inner with
  | none =>
    cases inner' with
    | none => exact flawed_eq_liftWith _ source _ _
    | some inner' => exact hi.elim
  | some inner =>
    cases inner' with
    | none => exact hi.elim
    | some inner' =>
      have hs := suffix_of_cons h
      have hb := (skipBlanks_suffix s).trans hs
      rw [placeholder, Pattern.placeholder]
      simp only [List.drop_succ_cons, List.drop_zero]
      rw [advance_facing_cons h, blanks_facing hs, pure_bind, name_facing _ hb]
      refine liftWith_bind (within_expectName _ hb fun _ => trivial) fun a _ ha => ?_
      obtain ⟨argument, r⟩ := a
      have hr := ha.trans hb
      have hr' := (skipBlanks_suffix r).trans hr
      dsimp only
      rw [blanks_facing hr, pure_bind]
      split
      · rename_i e he
        rw [he] at hr' ⊢
        rw [expect_cons hr', pure_bind]
        rfl
      · rename_i t ht
        rw [ht] at hr' ⊢
        have hts := suffix_of_cons hr'
        have htb := (skipBlanks_suffix t).trans hts
        rw [expect_none hr' (by simp), pure_bind]
        dsimp only
        rw [expect_cons hr', pure_bind]
        dsimp only
        rw [blanks_facing hts, pure_bind, name_facing _ htb]
        refine liftWith_bind (within_expectName _ htb fun _ => trivial) fun b _ hb' => ?_
        have hbs := hb'.trans htb
        have hbb := (skipBlanks_suffix b.2).trans hbs
        have hbody := fun plural => hi (scope.body plural) false
        have hwbody := fun plural => hw inner' rfl (scope.body plural) false
        dsimp only
        rw [blanks_facing hbs, pure_bind, typed_facing h rfl _ _ hbody hwbody hbb]
        refine liftWith_bind (within_typed h rfl _ _ hwbody hbb) fun q _ hq => ?_
        obtain ⟨node, e⟩ := q
        have hes := hq.trans hbb
        have heb := (skipBlanks_suffix e).trans hes
        dsimp only
        rw [blanks_facing hes, pure_bind]
        split
        · rename_i e' he
          rw [he] at heb ⊢
          rw [expect_cons heb, pure_bind]
          rfl
        · rename_i hn
          rw [expect_none heb (fun r hr => hn r hr), pure_bind]
          exact flawed_eq_liftWith _ source _ _
      · rename_i hn hn'
        rw [expect_none hr' (fun r hr => hn r hr), pure_bind]
        dsimp only
        rw [expect_none hr' (fun r hr => hn' r hr), pure_bind]
        exact flawed_eq_liftWith _ source _ _

end Inner

/-! Tags. -/

theorem attributes_concat (mark : Option Char) (s : List Char) :
    (Pattern.attributes mark s).1 ++ (Pattern.attributes mark s).2 = s := by
  fun_induction Pattern.attributes mark s <;> simp_all [onto]

theorem attributes_facing (mark : Option Char) (h : s <:+ source) :
    attributes mark (facing source s) =
      pure (facing source (Pattern.attributes mark s).2) := by
  induction s generalizing mark with
  | nil =>
    rw [attributes_nil]
    refine loop_of_done ?_
    rw [attributesRound, atEnd_facing h]
    rfl
  | cons c s ih =>
    have hs := suffix_of_cons h
    have hnext : ∀ mark', attributesRound (mark, facing source (c :: s)) =
          pure (.inr (mark', facing source s)) →
        attributes mark (facing source (c :: s)) =
          pure (facing source (Pattern.attributes mark' s).2) :=
      fun mark' hround => (loop_of_next hround).trans (ih mark' hs)
    cases mark with
    | some q =>
      refine hnext _ ?_
      rw [attributesRound, atEnd_facing h, look_facing h, advance_facing_cons h]
      simp
    | none =>
      have hround : attributesRound (none, facing source (c :: s)) =
          pure (if c = '"' ∨ c = '\'' then .inr (some c, facing source s)
            else if c = '>' ∨ (c = '/' ∧ s.head? = some '>') then .inl (facing source (c :: s))
            else .inr (none, facing source s)) := by
        rw [attributesRound, atEnd_facing h, look_facing h, advance_facing_cons h, peek?_next h]
        simp only [List.isEmpty_cons, Bool.false_eq_true, if_false, pure_bind]
        split_ifs <;> rfl
      by_cases hm : c = '"' ∨ c = '\''
      · rw [if_pos hm] at hround
        rw [hnext _ hround, attributes_mark hm]
        rfl
      · rw [if_neg hm] at hround
        by_cases hend : c = '>' ∨ (c = '/' ∧ s.head? = some '>')
        · rw [if_pos hend] at hround
          have hangle : ClosesAngle (c :: s) := by
            rcases hend with rfl | ⟨rfl, hs⟩
            · exact .inl ⟨s, rfl⟩
            · obtain ⟨r, rfl⟩ := List.head?_eq_some_iff.mp hs
              exact .inr ⟨r, rfl⟩
          rw [attributes_end hangle]
          exact loop_of_done hround
        · rw [if_neg hend] at hround
          obtain ⟨hgt, hslash⟩ := not_or.mp hend
          obtain ⟨hd, hq⟩ := not_or.mp hm
          rw [hnext _ hround, attributes_plain hd hq hgt fun hc hs => hslash ⟨hc, hs⟩]
          rfl

theorem tagAttributes_facing (h : s <:+ source) :
    tagAttributes (facing source s) =
      pure ((Pattern.tagAttributes s).1, facing source (Pattern.tagAttributes s).2) := by
  cases s with
  | nil =>
    rw [tagAttributes, atEnd_facing h]
    rfl
  | cons c s =>
    rw [tagAttributes, atEnd_facing h, look_facing h]
    simp only [List.isEmpty_cons, Bool.false_eq_true, if_false, pure_bind]
    rw [Pattern.tagAttributes]
    by_cases hc : isBlank c = true
    · have hs := attributes_concat none (c :: s)
      simp only [hc, if_true]
      rw [attributes_facing none h, pure_bind]
      generalize Pattern.attributes none (c :: s) = q at hs ⊢
      obtain ⟨a, r⟩ := q
      rw [← hs] at h ⊢
      rw [sliceTo_facing h]
    · simp only [hc, Bool.false_eq_true, if_false]

theorem closingTag_facing (opened : String) {origin : List Char} (h : s <:+ source) :
    closingTag opened (facing source origin) (facing source s) =
      liftWith source (facing source) (Pattern.closingTag opened origin s) := by
  cases s with
  | nil =>
    rw [closingTag, atEnd_facing h]
    exact flawed_facing _ source origin
  | cons c s =>
    rw [closingTag, atEnd_facing h, look_facing h]
    simp only [List.isEmpty_cons, Bool.false_eq_true, if_false, pure_bind]
    by_cases hc : c = '<'
    · subst hc
      have hd : (facing source ('<' :: s)).advance 2 = facing source (s.drop 1) :=
        advance_facing h 2
      have hs := (List.drop_suffix 1 s).trans (suffix_of_cons h)
      rw [hd, Pattern.closingTag]
      simp only [ne_eq, not_true_eq_false, if_false]
      rw [name_facing _ hs]
      refine liftWith_bind (within_expectName _ hs fun _ => trivial) fun a _ ha => ?_
      obtain ⟨closed, e⟩ := a
      have he := ha.trans hs
      have hb := (skipBlanks_suffix e).trans he
      dsimp only
      split
      · exact flawed_facing _ source _
      · rw [blanks_facing he, pure_bind]
        split
        · rename_i r hr
          rw [hr] at hb ⊢
          rw [expect_cons hb, pure_bind]
          rfl
        · rename_i hn
          rw [expect_none hb (fun r hr => hn r hr), pure_bind]
          exact flawed_facing _ source _
    · have hclosing : Pattern.closingTag opened origin (c :: s) =
          fail (.unclosedTag opened) origin := by
        unfold Pattern.closingTag
        split
        · rename_i heq
          exact absurd (List.cons.inj heq).1 hc
        · rfl
      rw [if_pos hc, hclosing]
      exact flawed_facing _ source _

section Inner

variable {inner : Option Scan.Inner} {inner' : Option Pattern.Inner}
  (hi : InnerAgrees source inner inner') (hw : InnerWithin source inner') (limit : Int)
  (scope : Scope)

include hi hw

theorem tag_facing (h : '<' :: s <:+ source) :
    tag limit inner scope (facing source ('<' :: s)) =
      lift source (Pattern.tag limit inner' scope ('<' :: s)) := by
  cases inner with
  | none =>
    cases inner' with
    | none => exact flawed_eq_liftWith _ source _ _
    | some inner' => exact hi.elim
  | some inner =>
    cases inner' with
    | none => exact hi.elim
    | some inner' =>
      have hs := suffix_of_cons h
      rw [tag, Pattern.tag]
      simp only [List.drop_succ_cons, List.drop_zero]
      rw [advance_facing_cons h, name_facing _ hs]
      refine liftWith_bind (within_expectName _ hs fun _ => trivial) fun a _ ha => ?_
      obtain ⟨x, r⟩ := a
      have hr := ha.trans hs
      have hr' := (tagAttributes_suffix r).trans hr
      dsimp only
      rw [tagAttributes_facing hr, pure_bind]
      generalize Pattern.tagAttributes r = q at hr' ⊢
      obtain ⟨taken, t⟩ := q
      have hpeek : ∀ k : Nat, (facing source t).peek? k = t[k]? := peek?_facing hr'
      dsimp only
      rw [show (0 : Int) = ((0 : Nat) : Int) from rfl, show (1 : Int) = ((1 : Nat) : Int) from rfl,
        hpeek, hpeek]
      split
      · rename_i hself
        obtain ⟨e, rfl⟩ : ∃ e, t = '/' :: '>' :: e := by
          match t, hself with
          | c :: d :: e, hself => exact ⟨e, by simp at hself; rw [hself.1, hself.2]⟩
        have hd : (facing source ('/' :: '>' :: e)).advance 2 = facing source e :=
          advance_facing hr' 2
        rw [hd]
        rfl
      · rename_i hself
        split
        · exact absurd ⟨rfl, rfl⟩ hself
        · rename_i t
          have ht := suffix_of_cons hr'
          rw [expect_cons hr', pure_bind]
          dsimp only
          rw [hi scope true t ht]
          refine liftWith_bind (hw inner' rfl scope true t ht) fun b _ hb => ?_
          have hb' := hb.trans ht
          dsimp only
          rw [closingTag_facing x hb']
          exact liftWith_bind (within_closingTag x h rfl hb') fun _ _ _ => rfl
        · rename_i hn
          rw [expect_none hr' (fun r hr => hn r hr), pure_bind]
          exact flawed_eq_liftWith _ source _ _

end Inner

/-! Text. -/

/-- A quotation is read up to where it closes. -/
theorem quotedLoop_facing (n : Nat) (taken : List Char) (hn : s.length ≤ n) (h : s <:+ source) :
    ∃ q r, Quoted s r q ∧ r <:+ s ∧
      loop quotedRound (taken, facing source s) = pure (taken ++ q, facing source r) := by
  induction n generalizing s taken with
  | zero =>
    obtain rfl : s = [] := List.eq_nil_of_length_eq_zero (by omega)
    refine ⟨[], [], .endOfText, List.suffix_rfl, ?_⟩
    rw [List.append_nil]
    refine loop_of_done ?_
    rw [quotedRound, atEnd_facing h]
    rfl
  | succ n ih =>
    cases s with
    | nil =>
      refine ⟨[], [], .endOfText, List.suffix_rfl, ?_⟩
      rw [List.append_nil]
      refine loop_of_done ?_
      rw [quotedRound, atEnd_facing h]
      rfl
    | cons c s =>
      have hs := suffix_of_cons h
      simp only [List.length_cons] at hn
      have hround : quotedRound (taken, facing source (c :: s)) =
          pure (if c = '\'' then
              if s.head? = some '\'' then
                .inr (taken ++ ['\''], (facing source (c :: s)).advance 2)
              else .inl (taken, facing source s)
            else .inr (taken ++ [c], facing source s)) := by
        rw [quotedRound, atEnd_facing h, look_facing h, peek?_next h, advance_facing_cons h]
        simp only [List.isEmpty_cons, Bool.false_eq_true, if_false, pure_bind]
        split_ifs <;> rfl
      by_cases hc : c = '\''
      · subst hc
        rw [if_pos rfl] at hround
        by_cases hd : s.head? = some '\''
        · obtain ⟨s, rfl⟩ := List.head?_eq_some_iff.mp hd
          rw [if_pos hd, advance_two h] at hround
          simp only [List.length_cons] at hn
          obtain ⟨q, r, hq, hr, hrun⟩ := ih (taken ++ ['\'']) (by omega) (suffix_of_cons hs)
          have hr' := hr.trans ((List.suffix_cons '\'' s).trans (List.suffix_cons '\'' _))
          refine ⟨_, r, .apostrophe hq, hr', (loop_of_next hround).trans ?_⟩
          simp [hrun]
        · rw [if_neg hd] at hround
          refine ⟨[], s, .close hd, List.suffix_cons _ _, ?_⟩
          rw [List.append_nil]
          exact loop_of_done hround
      · rw [if_neg hc] at hround
        obtain ⟨q, r, hq, hr, hrun⟩ := ih (taken ++ [c]) (by omega) hs
        refine ⟨_, r, .char hc hq, hr.trans (List.suffix_cons _ _), (loop_of_next hround).trans ?_⟩
        simp [hrun]

/-- What an apostrophe begins is taken, and text goes on after it. -/
theorem quotation_facing (scope : Scope) (h : '\'' :: s <:+ source) :
    ∃ q r, quotation (facing source ('\'' :: s)) = pure (q, facing source r) ∧ r <:+ s ∧
      Pattern.text scope false ('\'' :: s) = prepend q (Pattern.text scope false r) := by
  have hs := suffix_of_cons h
  rw [quotation, peek?_next h]
  cases s with
  | nil =>
    refine ⟨['\''], [], ?_, List.suffix_rfl, ?_⟩
    · rw [advance_facing_cons h]
      rfl
    · simp [Pattern.text, onto, prepend]
  | cons d s =>
    by_cases hd : d = '\''
    · subst hd
      refine ⟨['\''], s, ?_, List.suffix_cons _ _, ?_⟩
      · simp [advance_two h]
      · simp [Pattern.text, onto, prepend]
    cases hq : isQuotable d with
    | true =>
      obtain ⟨q, r, hquoted, hr, hrun⟩ := quotedLoop_facing _ [] (Nat.le_refl _) hs
      refine ⟨q, r, ?_, hr, ?_⟩
      · simpa [hq, advance_facing_cons h, quoted] using hrun
      · rw [Pattern.text.eq_def]
        simp [hq, text_of_quoted hquoted]
    | false =>
      refine ⟨['\''], d :: s, ?_, List.suffix_rfl, ?_⟩
      · simp [hq, advance_facing_cons h]
      · rw [Pattern.text.eq_def]
        simp [hq, onto, prepend]

theorem stopsText_facing (scope : Scope) {c : Char} (h : c :: s <:+ source) :
    stopsText scope (facing source (c :: s)) = pure (scope.stops (c :: s)) := by
  rw [stopsText, look_facing h, pure_bind, opensTag_facing h]
  rfl

theorem textLoop_facing (scope : Scope) (n : Nat) (taken : List Char) (hn : s.length ≤ n)
    (h : s <:+ source) :
    loop (textRound scope) (taken, facing source s) =
      pure (taken ++ (Pattern.text scope false s).1,
        facing source (Pattern.text scope false s).2) := by
  -- a quotation is one round, whatever its length
  induction n generalizing s taken with
  | zero =>
    obtain rfl : s = [] := List.eq_nil_of_length_eq_zero (by omega)
    rw [text_of_stops rfl, List.append_nil]
    refine loop_of_done ?_
    rw [textRound, atEnd_facing h]
    rfl
  | succ n ih =>
    cases s with
    | nil =>
      rw [text_of_stops rfl, List.append_nil]
      refine loop_of_done ?_
      rw [textRound, atEnd_facing h]
      rfl
    | cons c s =>
      simp only [List.length_cons] at hn
      by_cases hc : c = '\''
      · subst hc
        obtain ⟨q, r, hquotation, hr, ht⟩ := quotation_facing scope h
        have hround : textRound scope (taken, facing source ('\'' :: s)) =
            pure (.inr (taken ++ q, facing source r)) := by
          rw [textRound, atEnd_facing h, look_facing h, hquotation]
          simp
        have hl := hr.length_le
        rw [loop_of_next hround, ih _ (by omega) (hr.trans (suffix_of_cons h)), ht, prepend,
          List.append_assoc]
      · have hround : textRound scope (taken, facing source (c :: s)) =
            pure (if scope.stops (c :: s) then .inl (taken, facing source (c :: s))
              else .inr (taken ++ [c], facing source s)) := by
          rw [textRound, atEnd_facing h, look_facing h, stopsText_facing scope h,
            advance_facing_cons h]
          simp only [List.isEmpty_cons, Bool.false_eq_true, if_false, pure_bind, hc]
          split_ifs <;> rfl
        cases hstop : scope.stops (c :: s) with
        | true =>
          rw [hstop, if_pos rfl] at hround
          rw [text_of_stops hstop, List.append_nil]
          exact loop_of_done hround
        | false =>
          rw [hstop, if_neg (by simp)] at hround
          have ht : Pattern.text scope false (c :: s) = onto c (Pattern.text scope false s) := by
            rw [Pattern.text.eq_def]
            simp [hc, hstop]
          rw [loop_of_next hround, ih _ (by omega) (suffix_of_cons h), ht, onto,
            List.append_assoc]
          rfl

theorem text_facing (scope : Scope) (h : s <:+ source) :
    text scope (facing source s) =
      pure ((Pattern.text scope false s).1, facing source (Pattern.text scope false s).2) :=
  textLoop_facing scope _ [] (Nat.le_refl _) h

/-! Sequences. -/

section Inner

variable {inner : Option Scan.Inner} {inner' : Option Pattern.Inner}
  (hi : InnerAgrees source inner inner') (hw : ∀ source, InnerWithin source inner') (limit : Int)
  (scope : Scope)

include hi hw

theorem sequenceLoop_facing (inTag : Bool) (nodes : List Node) {fuel : Nat} (hf : s.length ≤ fuel)
    (h : s <:+ source) :
    loop (sequenceRound limit inner scope inTag) (nodes, facing source s) =
      liftWith source (fun q => (nodes ++ q.1, facing source q.2))
        (Pattern.sequence limit inner' scope inTag fuel s) := by
  induction fuel generalizing s nodes with
  | zero =>
    obtain rfl : s = [] := List.eq_nil_of_length_eq_zero (by omega)
    rw [sequence_of_stop .endOfText, liftWith, List.append_nil]
    refine loop_of_done ?_
    rw [sequenceRound, atEnd_facing h]
    rfl
  | succ fuel ih =>
    -- after each node the loop is where the fuel of the reader is still enough
    have hnext : ∀ a : Read Node, a.2.length ≤ fuel → a.2 <:+ source →
        loop (sequenceRound limit inner scope inTag) (nodes ++ [a.1], facing source a.2) =
          liftWith source (fun q => (nodes ++ q.1, facing source q.2))
            (continued limit inner' scope inTag fuel a) := by
      intro a hl ha
      rw [ih _ hl ha, continued]
      cases Pattern.sequence limit inner' scope inTag fuel a.2 with
      | ok q => simp [liftWith]
      | error f => rfl
    cases opening scope inTag s with
    | stop hs =>
      rw [sequence_of_stop hs, liftWith, List.append_nil]
      refine loop_of_done ?_
      rw [sequenceRound, atEnd_facing h]
      cases hs with
      | endOfText => rfl
      | brace r hb =>
        rw [look_facing h]
        simp [hb]
      | closing c r ht hin hc =>
        rw [look_facing h, peek?_next h, opensTag_facing h]
        simp [ht, hin, startsTag, hc]
    | stray c r ht hin hc =>
      have hr := suffix_of_cons (suffix_of_cons h)
      have hd : (facing source ('<' :: '/' :: c :: r)).advance 2 = facing source (c :: r) :=
        advance_facing h 2
      rw [sequence_stray r ht hin hc]
      refine loop_of_halt ?_
      rw [sequenceRound, atEnd_facing h, look_facing h, peek?_next h, opensTag_facing h, hd,
        word_facing _ hr]
      simp only [ht, hin, startsTag, hc, List.isEmpty_cons, Bool.false_eq_true, if_false, pure_bind,
        List.head?_cons, Bool.and_true]
      rw [if_neg (by decide), if_neg (by simp), if_pos (by decide), if_pos trivial,
        Option.map_map]
      exact flawed_facing _ source _
    | placeholder r =>
      have hround : sequenceRound limit inner scope inTag (nodes, facing source ('{' :: r)) =
          liftWith source (fun a => .inr (nodes ++ [a.1], facing source a.2))
            (Pattern.placeholder limit inner' scope ('{' :: r)) := by
        rw [sequenceRound, atEnd_facing h, look_facing h,
          placeholder_facing hi (hw source) limit scope h]
        simp only [List.isEmpty_cons, Bool.false_eq_true, if_false, pure_bind, if_true]
        exact liftWith_map _ fun _ => rfl
      rw [sequence_placeholder]
      refine loop_liftWith hround fun a ha => ?_
      have has := within_placeholder limit (hw source) scope h
      have hl := placeholder_length hw ha
      rw [ha] at has
      simp only [List.length_cons] at hf
      exact hnext a (by omega) (List.IsSuffix.trans has (suffix_of_cons h))
    | tag c r ht hc =>
      have hround : sequenceRound limit inner scope inTag (nodes, facing source ('<' :: c :: r)) =
          liftWith source (fun a => .inr (nodes ++ [a.1], facing source a.2))
            (Pattern.tag limit inner' scope ('<' :: c :: r)) := by
        have hn := ne_slash_of_isLetter hc
        have hs : startsTag ('<' :: c :: r) = true :=
          startsTag_eq_true_iff.mpr ⟨c, r, hc, .inr rfl⟩
        rw [sequenceRound, atEnd_facing h, look_facing h, peek?_next h, opensTag_facing h,
          tag_facing hi (hw source) limit scope h]
        simp only [ht, hs, hn, List.isEmpty_cons, Bool.false_eq_true, if_false, pure_bind,
          List.head?_cons, Option.some.injEq, Bool.and_true]
        rw [if_neg (by decide), if_neg (by simp), if_pos (by decide)]
        exact liftWith_map _ fun _ => rfl
      rw [sequence_tag r ht hc]
      refine loop_liftWith hround fun a ha => ?_
      have has := within_tag limit (hw source) scope h
      have hl := tag_length hw ha
      rw [ha] at has
      simp only [List.length_cons] at hf hl
      exact hnext a (by omega) (List.IsSuffix.trans has (suffix_of_cons h))
    | hash r hp =>
      have hround : sequenceRound limit inner scope inTag (nodes, facing source ('#' :: r)) =
          pure (.inr (nodes ++ [.hash], facing source r)) := by
        rw [sequenceRound, atEnd_facing h, look_facing h, advance_facing_cons h]
        simp [hp]
      rw [sequence_hash r hp, loop_of_next hround]
      exact hnext (.hash, r) (by simpa using hf) (suffix_of_cons h)
    | text c r hs =>
      have ht := text_suffix scope false (c :: r)
      have hl := text_length hs
      have hround : sequenceRound limit inner scope inTag (nodes, facing source (c :: r)) =
          pure (.inr (nodes ++ [.literal (String.ofList (Pattern.text scope false (c :: r)).1)],
            facing source (Pattern.text scope false (c :: r)).2)) := by
        obtain ⟨ho, hb, hh, ha⟩ := stops_eq_false_iff.mp hs
        rw [sequenceRound, atEnd_facing h, look_facing h, text_facing scope h, opensTag_facing h]
        simp only [List.isEmpty_cons, Bool.false_eq_true, if_false, pure_bind]
        rw [if_neg ho, if_neg (by simpa using hb), if_neg (by simpa using ha),
          if_neg (by simpa using hh)]
      rw [sequence_text hs, loop_of_next hround]
      simp only [List.length_cons] at hf
      exact hnext (_, _) (Nat.le_trans hl (by omega)) (ht.trans h)

theorem sequence_facing (inTag : Bool) (h : s <:+ source) :
    sequence limit inner scope inTag (facing source s) =
      lift source (Pattern.sequence limit inner' scope inTag s.length s) :=
  sequenceLoop_facing hi hw limit scope inTag [] (Nat.le_refl _) h

end Inner

theorem nodesWithin_facing (source : List Char) (limit : Int) (levels : Nat) (scope : Scope)
    (inTag : Bool) :
    BodyAgrees source (nodesWithin limit levels scope inTag)
      (Pattern.nodesWithin limit levels scope inTag) := by
  induction levels generalizing scope inTag with
  | zero =>
    intro s hs
    have hi : InnerAgrees source none none := trivial
    exact sequence_facing hi (by simp [InnerWithin]) limit scope inTag hs
  | succ levels ih =>
    intro s hs
    have hi : InnerAgrees source (some (nodesWithin limit levels))
        (some (Pattern.nodesWithin limit levels)) := ih
    exact sequence_facing hi (fun source => innerWithin_nodesWithin source limit levels) limit scope
      inTag hs

/-- The end of a run that a reader gives. -/
def outcome {α : Type} : Except Rejection α → Run α
  | .ok a => pure a
  | .error r => throw (.rejected r)

end Scan

/-! Patterns. -/

namespace Settings

variable (settings : Settings) (p : List Char)

theorem scan_eq_outcome : settings.scan p = Scan.outcome (settings.parse p) := by
  by_cases h : settings.Admits p
  · have hs : ¬ (0 < settings.maxSize ∧ settings.maxSize < p.length) := fun hp =>
      absurd (h hp.1) (Int.not_le.mpr hp.2)
    have hf : ({ source := p } : Cursor) = Cursor.facing p p := by simp [Cursor.facing]
    rw [scan, if_neg hs, parse_of_admits h, hf]
    dsimp only
    rw [Scan.nodesWithin_facing p _ _ _ _ p List.suffix_rfl]
    change (Scan.lift p (settings.nodes p) >>= _) = _
    cases settings.nodes p with
    | ok a => exact pure_bind _ _
    | error failure => exact Scan.throw_bind _ _
  · rw [parse_of_not_admits h]
    rw [Admits, Classical.not_imp, Int.not_le] at h
    rw [scan, if_pos h]
    rfl

variable {settings p}

theorem parse_eq_oversized_iff {size limit : Int} :
    settings.parse p = .error (.oversized size limit) ↔
      (0 < settings.maxSize ∧ settings.maxSize < p.length) ∧ size = p.length ∧
        limit = settings.maxSize := by
  constructor
  · intro h
    by_cases ha : settings.Admits p
    · rw [parse_of_admits ha] at h
      split at h <;> cases h
    · rw [parse_of_not_admits ha] at h
      obtain ⟨rfl, rfl⟩ := Rejection.oversized.inj (Except.error.inj h)
      rw [Admits, Classical.not_imp, Int.not_le] at ha
      exact ⟨ha, rfl, rfl⟩
  · intro hx
    obtain ⟨hs, rfl, rfl⟩ := hx
    rw [parse, if_pos hs]

/-- The place of a flaw, and what stands there. -/
theorem located_of_parse_eq {flaw : Flaw} {span : Span}
    (h : settings.parse p = .error (.malformed flaw span)) :
    ∃ start : Nat, Locates p start span ∧ AnchoredAt flaw p[start]? := by
  obtain ⟨-, rest, hn, rfl⟩ := parse_eq_malformed_iff.mp h
  have hw : Within Prod.snd p p (settings.nodes p) :=
    within_nodesWithin p _ _ _ _ p List.suffix_rfl
  rw [hn] at hw
  obtain ⟨hr, hanchor⟩ := hw
  refine ⟨p.length - rest.length, locates_emptySpan p rest, ?_⟩
  have hhead := Cursor.getElem?_facing hr 0
  rw [← List.head?_eq_getElem?] at hhead
  exact hhead ▸ hanchor

variable (settings p)

end Settings

end MessageFormat.Pattern

import Mathlib.Data.List.DropRight
import MessageFormat.Proofs.Pattern.Opening

/-!
The readers of placeholders and tags read what the grammar derives, if the readers of their bodies do.
-/

set_option autoImplicit false

namespace MessageFormat.Pattern.Grammar

open Text

/-- A reader of bodies takes what `B` derives, up to the place where a sequence ends. -/
structure Reads (inner : Inner) (B : Derivation (List Node)) : Prop where
  suffix : ∀ {scope inTag s r nodes}, inner scope inTag s = .ok (nodes, r) → r <:+ s
  iff : ∀ {scope inTag s r nodes},
    inner scope inTag s = .ok (nodes, r) ↔ B scope s r nodes ∧ Stop scope inTag r

variable {inner : Inner} {B : Derivation (List Node)} {scope : Scope} {s r : List Char}

/-! Keys. -/

/-- A reader of case keys takes the keys of a kind, each up to the blanks and the brace after it. -/
structure ReadsKey {κ : Type} (key : List Char → Except Failure (Read κ)) (IsKey : κ → Prop)
    (text : κ → String) : Prop where
  sound : ∀ {s r k}, key s = .ok (k, r) → IsKey k ∧ s = (text k).toList ++ r
  complete : ∀ {r r' k}, IsKey k → Blanks r ('{' :: r') → key ((text k).toList ++ r) = .ok (k, r)
  head : ∀ {k}, IsKey k → ∃ c w, (text k).toList = c :: w ∧ isBlank c = false ∧ c ≠ '}'

theorem readsKey_selectKey : ReadsKey selectKey IsSelectKey id where
  sound h := by
    obtain ⟨hk, hs, -⟩ := selectKey_eq_ok_iff.mp h
    exact ⟨hk, hs⟩
  complete hk hr := by
    refine selectKey_eq_ok_iff.mpr ⟨hk, rfl, ?_⟩
    exact hr.ends (fun _ => isKeyChar_of_isBlank) (by decide)
  head := by
    intro k hk
    obtain ⟨c, w, hw⟩ := List.exists_cons_of_ne_nil hk.1
    have hc := hk.2 c (by simp [hw])
    simp only [isKeyChar, Bool.and_eq_true, Bool.not_eq_true', bne_iff_ne, ne_eq] at hc
    exact ⟨c, w, hw, hc.1.1, hc.2⟩

theorem IsName.head {x : String} (h : IsName x) :
    ∃ c w, x.toList = c :: w ∧ isNameChar c = true ∧ isBlank c = false := by
  obtain ⟨c, w, hw⟩ := List.exists_cons_of_ne_nil h.1
  have hc := h.2 c (by simp [hw])
  refine ⟨c, w, hw, hc, ?_⟩
  cases hb : isBlank c with
  | false => rfl
  | true => simp [isNameChar_of_isBlank hb] at hc

theorem isNameChar_marks : isNameChar '{' = false ∧ isNameChar '}' = false ∧
    isNameChar ',' = false ∧ isNameChar ':' = false ∧ isNameChar '=' = false ∧
    isNameChar '/' = false ∧ isNameChar '>' = false := by decide +kernel

theorem readsKey_pluralKey (construct : String) :
    ReadsKey (pluralKey construct) IsMatcher Matcher.text where
  sound := by
    intro s r k h
    unfold pluralKey at h
    split at h
    · split at h
      · rename_i value rest hd
        obtain ⟨rfl, rfl⟩ := Prod.mk.inj (Except.ok.inj h)
        obtain ⟨w, rfl, hw, -⟩ := decimal?_eq_some_iff.mp hd
        rw [between_cons_append]
        exact ⟨⟨w, rfl, hw⟩, by simp [Matcher.text]⟩
      · exact absurd h fail_ne_ok
    · obtain ⟨⟨x, rest⟩, hx, h'⟩ := bind_eq_ok_iff.mp h
      obtain ⟨rfl, rfl⟩ := Prod.mk.inj (Except.ok.inj h')
      obtain ⟨hn, hs, -⟩ := expectName_eq_ok_iff.mp hx
      exact ⟨hn, hs⟩
  complete := by
    intro r r' k hk hr
    cases k with
    | exact text value =>
      obtain ⟨w, rfl, hw⟩ := hk
      have hd : Ends isDigit r := hr.ends (fun _ => isDigit_of_isBlank) (by decide)
      have hp : ∀ f r'', IsDigits f → r ≠ '.' :: (f ++ r'') := by
        intro f r'' _ heq
        subst heq
        obtain ⟨b, hb, h⟩ := hr
        cases b with
        | nil => simp at h
        | cons c b =>
          have hc := hb c (by simp)
          rw [List.cons_append] at h
          rw [← (List.cons.inj h).1] at hc
          revert hc
          decide
      have hl := decimal?_eq_some_iff.mpr ⟨w, rfl, hw, hd, fun _ => hp⟩
      simp [pluralKey, Matcher.text, hl, between_cons_append]
    | category name =>
      have hn : IsName name := hk
      obtain ⟨c, w, hw, hc, -⟩ := hn.head
      have he : c ≠ '=' := by
        intro heq
        subst heq
        simp [isNameChar_marks] at hc
      have hx : expectName (.expectedCaseKey construct) (name.toList ++ r) = .ok (name, r) :=
        expectName_eq_ok_iff.mpr
          ⟨hn, rfl, hr.ends (fun _ => isNameChar_of_isBlank) isNameChar_marks.1⟩
      rw [hw, List.cons_append] at hx
      simp only [Matcher.text, hw, List.cons_append]
      unfold pluralKey
      split
      · rename_i heq
        exact absurd (List.cons.inj heq).1 he
      · rw [hx]
        rfl
  head := by
    intro k hk
    cases k with
    | exact text value =>
      obtain ⟨w, rfl, -⟩ := hk
      exact ⟨'=', w, by simp [Matcher.text], by decide, by decide⟩
    | category name =>
      obtain ⟨c, w, hw, hc, hb⟩ := IsName.head hk
      refine ⟨c, w, hw, hb, ?_⟩
      intro heq
      subst heq
      simp [isNameChar_marks] at hc

/-! Cases. -/

theorem caseBody_eq_ok_iff (hi : Reads inner B) {key : String} {plural : Bool}
    {nodes : List Node} :
    caseBody key (inner (scope.body plural) false) s = .ok (nodes, r) ↔
      ∃ s', Blanks s ('{' :: s') ∧ B (scope.body plural) s' ('}' :: r) nodes := by
  unfold caseBody
  constructor
  · intro h
    split at h
    · rename_i s' hs
      obtain ⟨⟨nodes', rest⟩, hb, h'⟩ := bind_eq_ok_iff.mp h
      dsimp only at h'
      split at h'
      · obtain ⟨rfl, rfl⟩ := Prod.mk.inj (Except.ok.inj h')
        exact ⟨s', (skipBlanks_eq_iff (by decide)).mp hs, (hi.iff.mp hb).1⟩
      · exact absurd h' fail_ne_ok
    · exact absurd h fail_ne_ok
  · intro hx
    obtain ⟨s', hs, hb⟩ := hx
    rw [(skipBlanks_eq_iff (by decide)).mpr hs]
    exact bind_eq_ok_iff.mpr ⟨_, hi.iff.mpr ⟨hb, .brace r rfl⟩, rfl⟩

theorem Blanks.length_le {s r : List Char} (h : Blanks s r) : r.length ≤ s.length := by
  obtain ⟨b, -, rfl⟩ := h
  simp

theorem skipBlanks_skipBlanks (s : List Char) : skipBlanks (skipBlanks s) = skipBlanks s := by
  rw [skipBlanks, skipBlanks, List.dropWhile_idempotent]

section Cases

variable {κ : Type} {key : List Char → Except Failure (Read κ)} {IsKey : κ → Prop}
  {text : κ → String} {plural : Bool} {found : List (Case κ (List Node))}

theorem ReadsKey.blanks (hk : ReadsKey key IsKey text) {k : κ} (h : IsKey k) {r : List Char}
    (hs : Blanks s ((text k).toList ++ r)) :
    skipBlanks s = (text k).toList ++ r ∧ ¬ EndsCases (skipBlanks s) := by
  obtain ⟨c, w, hw, hb, hc⟩ := hk.head h
  have he := skipBlanks_of_blanks hs (by simp [hw, Ends, hb])
  refine ⟨he, ?_⟩
  rw [he, hw]
  intro hx
  rcases hx with h | h
  · cases h
  · exact hc (by simpa using h)

/-- A case is shorter than the text that it is read from. -/
theorem case_length (hi : Reads inner B) {s₁ s₂ s₃ : List Char} {nodes : List Node}
    (hs : Blanks s₁ ('{' :: s₂)) (hb : B (scope.body plural) s₂ ('}' :: s₃) nodes) :
    s₃.length + 2 ≤ s₁.length := by
  have h₁ := hs.length_le
  have hstop : Stop (scope.body plural) false ('}' :: s₃) := .brace s₃ rfl
  have h₂ := (hi.suffix (hi.iff.mpr ⟨hb, hstop⟩)).length_le
  simp only [List.length_cons] at h₁ h₂
  omega

theorem caseList_end_iff (hk : ReadsKey key IsKey text) (he : EndsCases (skipBlanks s))
    (body : Body) (fuel : Nat) :
    (∃ rest, caseList key text body fuel (skipBlanks s) = .ok (found, rest) ∧
        skipBlanks rest = '}' :: r) ↔
      Cases IsKey text B (scope.body plural) s r found := by
  rw [caseList_of_end _ _ _ he]
  constructor
  · intro hx
    obtain ⟨rest, h, hr⟩ := hx
    obtain ⟨rfl, rfl⟩ := Prod.mk.inj (Except.ok.inj h)
    rw [skipBlanks_skipBlanks] at hr
    exact .close ((skipBlanks_eq_iff (by decide)).mp hr)
  · intro h
    cases h with
    | close hs =>
      have hs' := skipBlanks_of_blanks hs (by simp [Ends]; decide)
      exact ⟨_, rfl, by rw [skipBlanks_skipBlanks, hs']⟩
    | case hs hkey => exact absurd he (hk.blanks hkey hs).2

theorem caseList_eq_ok_iff (hi : Reads inner B) (hk : ReadsKey key IsKey text) {fuel : Nat}
    (hf : (skipBlanks s).length ≤ fuel) :
    (∃ rest, caseList key text (inner (scope.body plural) false) fuel (skipBlanks s) =
        .ok (found, rest) ∧ skipBlanks rest = '}' :: r) ↔
      Cases IsKey text B (scope.body plural) s r found := by
  induction fuel generalizing s found with
  | zero =>
    exact caseList_end_iff hk (.inl (List.eq_nil_of_length_eq_zero (by omega))) _ _
  | succ fuel ih =>
    by_cases he : EndsCases (skipBlanks s)
    · exact caseList_end_iff hk he _ _
    · rw [caseList_of_key _ _ _ he]
      constructor
      · intro hx
        obtain ⟨rest, h, hr⟩ := hx
        obtain ⟨⟨one, s₄⟩, hone, h⟩ := bind_eq_ok_iff.mp h
        obtain ⟨⟨more, rest'⟩, hmore, h⟩ := bind_eq_ok_iff.mp h
        obtain ⟨rfl, rfl⟩ := Prod.mk.inj (Except.ok.inj h)
        obtain ⟨⟨k, s₁⟩, hkey, hone⟩ := bind_eq_ok_iff.mp hone
        obtain ⟨⟨nodes, s₃⟩, hbody, hone⟩ := bind_eq_ok_iff.mp hone
        obtain ⟨rfl, rfl⟩ := Prod.mk.inj (Except.ok.inj hone)
        obtain ⟨hK, hs⟩ := hk.sound hkey
        obtain ⟨s₂, hs₁, hb⟩ := (caseBody_eq_ok_iff hi).mp hbody
        have hl : s₃.length + 2 ≤ s₁.length := case_length hi hs₁ hb
        have hl' : s₁.length ≤ (skipBlanks s).length := by simp [hs]
        have hb' := skipBlanks_length_le s₃
        have hc := (ih (by omega)).mp ⟨rest', hmore, hr⟩
        exact .case (hs ▸ blanks_skipBlanks s) hK hs₁ hb hc
      · intro h
        cases h with
        | close hs =>
          exact absurd (.inr (by rw [skipBlanks_of_blanks hs (by simp [Ends]; decide)]; rfl)) he
        | case hs hK hs₁ hb hc =>
          rename_i s₁ s₂ s₃ k nodes more
          obtain ⟨hs', -⟩ := hk.blanks hK hs
          have hl := case_length hi hs₁ hb
          have hl' : s₁.length ≤ (skipBlanks s).length := by simp [hs']
          have hb' := skipBlanks_length_le s₃
          obtain ⟨rest, hmore, hr⟩ := (ih (by omega)).mpr hc
          rw [hs']
          have hone : oneCase key text (inner (scope.body plural) false)
              ((text k).toList ++ s₁) = .ok (⟨k, nodes⟩, skipBlanks s₃) := by
            refine bind_eq_ok_iff.mpr ⟨_, hk.complete hK hs₁, ?_⟩
            exact bind_eq_ok_iff.mpr ⟨_, (caseBody_eq_ok_iff hi).mpr ⟨s₂, hs₁, hb⟩, rfl⟩
          refine ⟨rest, bind_eq_ok_iff.mpr ⟨_, hone, ?_⟩, hr⟩
          exact bind_eq_ok_iff.mpr ⟨_, hmore, rfl⟩

theorem cases_eq_ok_iff (hi : Reads inner B) (hk : ReadsKey key IsKey text) (construct : String)
    (origin : List Char) :
    (∃ rest, cases construct key text (inner (scope.body plural) false) origin (skipBlanks s) =
        .ok (found, rest) ∧ skipBlanks rest = '}' :: r) ↔
      Cases IsKey text B (scope.body plural) s r found ∧ found ≠ [] := by
  rw [← caseList_eq_ok_iff hi hk (Nat.le_refl _)]
  unfold cases
  constructor
  · intro hx
    obtain ⟨rest, h, hr⟩ := hx
    obtain ⟨⟨found', rest'⟩, hc, h⟩ := bind_eq_ok_iff.mp h
    dsimp only at h
    split at h
    · exact absurd h fail_ne_ok
    · rename_i hn
      obtain ⟨rfl, rfl⟩ := Prod.mk.inj (Except.ok.inj h)
      exact ⟨⟨_, hc, hr⟩, by simpa using hn⟩
  · intro hx
    obtain ⟨⟨rest, hc, hr⟩, hn⟩ := hx
    refine ⟨rest, bind_eq_ok_iff.mpr ⟨_, hc, ?_⟩, hr⟩
    simp [hn, pure, Except.pure]

end Cases

theorem expectCases_eq_ok_iff {construct : String} {origin : List Char} :
    expectCases construct origin (skipBlanks s) = .ok r ↔
      ∃ s', Blanks s (',' :: s') ∧ skipBlanks s' = r := by
  unfold expectCases
  constructor
  · intro h
    split at h
    · rename_i s' hs
      exact ⟨s', (skipBlanks_eq_iff (by decide)).mp hs, Except.ok.inj h⟩
    · exact absurd h fail_ne_ok
    · exact absurd h fail_ne_ok
  · intro hx
    obtain ⟨s', hs, rfl⟩ := hx
    rw [(skipBlanks_eq_iff (by decide)).mpr hs]
    rfl

/-! Offsets. -/

theorem strip?_eq_some_iff {p s r : List Char} : strip? p s = some r ↔ s = p ++ r := by
  unfold strip?
  constructor
  · intro h
    split at h
    · rename_i hp
      obtain ⟨r', rfl⟩ := List.isPrefixOf_iff_prefix.mp hp
      simpa using h
    · cases h
  · intro hx
    subst hx
    simp

theorem IsLiteral.head {w : List Char} {value : Decimal} (h : IsLiteral w value) :
    ∃ c w', w = c :: w' ∧ isBlank c = false := by
  have hd : ∀ (negative : Bool) {d : List Char} (t : List Char), IsDigits d →
      ∃ c w', minus negative ++ (d ++ t) = c :: w' ∧ isBlank c = false := by
    intro negative d t hd
    obtain ⟨c, d', rfl⟩ := List.exists_cons_of_ne_nil hd.1
    cases negative with
    | true => exact ⟨'-', _, rfl, by decide⟩
    | false =>
      refine ⟨c, _, rfl, ?_⟩
      have hc := hd.2 c (by simp)
      cases hb : isBlank c with
      | false => rfl
      | true => simp [isDigit_of_isBlank hb] at hc
  cases h with
  | whole negative hw => simpa using hd negative [] hw
  | fraction negative hw _ => exact hd negative _ hw

theorem Literal.ends {s r : List Char} {value : Decimal} (h : Literal s r value) :
    Ends isBlank s := by
  obtain ⟨w, rfl, hw, -⟩ := h
  obtain ⟨c, w', rfl, hc⟩ := hw.head
  simp [Ends, hc]

theorem offsetKeyword_eq : offsetKeyword = ['o', 'f', 'f', 's', 'e', 't', ':'] := String.toList_ofList

theorem isName_offset : IsName "offset" := ⟨by decide, List.all_eq_true.mp (by decide)⟩

/-- No key of a plural case begins with the keyword of offsets: the colon is not of a name. -/
theorem Cases.no_offset {found : List (Case Matcher (List Node))}
    (h : Cases IsMatcher Matcher.text B scope s r found) :
    strip? offsetKeyword (skipBlanks s) = none := by
  rw [← Option.not_isSome_iff_eq_none, Option.isSome_iff_exists]
  intro hx
  obtain ⟨t, ht⟩ := hx
  rw [strip?_eq_some_iff] at ht
  cases h with
  | close hs =>
    rw [skipBlanks_of_blanks hs (by simp [Ends]; decide)] at ht
    cases ht
  | @case _ _ s₁ s₂ s₃ _ k nodes more hs hk hs₁ _ _ =>
    rw [((readsKey_pluralKey "plural").blanks hk hs).1] at ht
    cases k with
    | exact text value =>
      obtain ⟨w, rfl, -⟩ := hk
      rw [Matcher.text, String.toList_ofList, offsetKeyword_eq] at ht
      exact absurd (List.cons.inj ht).1 (by decide)
    | category name =>
      have hn : IsName name := hk
      have he : Ends isNameChar s₁ := hs₁.ends (fun _ => isNameChar_of_isBlank) isNameChar_marks.1
      have hspan := span_eq_iff.mpr ⟨rfl, hn.2, he⟩
      rw [show name.toList ++ s₁ = "offset".toList ++ ':' :: t from ht] at hspan
      have hcolon : Ends isNameChar (':' :: t) := by simp [Ends, isNameChar_marks]
      rw [span_eq_iff.mpr ⟨rfl, isName_offset.2, hcolon⟩] at hspan
      obtain ⟨-, rfl⟩ := Prod.mk.inj hspan
      obtain ⟨b, hb, h⟩ := hs₁
      cases b with
      | nil => simp at h
      | cons c b =>
        rw [List.cons_append] at h
        have hc := hb c (by simp)
        rw [← (List.cons.inj h).1] at hc
        revert hc
        decide

theorem pluralOffset_eq_ok_iff {value : Decimal} :
    pluralOffset (skipBlanks s) = .ok (value, r) ↔
      (strip? offsetKeyword (skipBlanks s) = none ∧ value = Decimal.zero ∧ skipBlanks s = r) ∨
      ∃ s₁ s₂ s₃, Blanks s (offsetKeyword ++ s₁) ∧ Blanks s₁ s₂ ∧ Literal s₂ s₃ value ∧
        skipBlanks s₃ = r := by
  unfold pluralOffset
  constructor
  · intro h
    split at h
    · rename_i hn
      obtain ⟨rfl, rfl⟩ := Prod.mk.inj (Except.ok.inj h)
      exact .inl ⟨hn, rfl, rfl⟩
    · rename_i s₁ hs
      rw [strip?_eq_some_iff] at hs
      dsimp only at h
      split at h
      · rename_i value' s₃ hd
        obtain ⟨rfl, rfl⟩ := Prod.mk.inj (Except.ok.inj h)
        exact .inr ⟨s₁, skipBlanks s₁, s₃, hs ▸ blanks_skipBlanks s, blanks_skipBlanks s₁,
          decimal?_eq_some_iff.mp hd, rfl⟩
      · exact absurd h fail_ne_ok
  · intro hx
    rcases hx with ⟨hn, rfl, rfl⟩ | ⟨s₁, s₂, s₃, hs, hs₁, hl, rfl⟩
    · rw [hn]
    · have he : Ends isBlank (offsetKeyword ++ s₁) := by
        rw [offsetKeyword_eq]
        simp [Ends]
        decide
      rw [strip?_eq_some_iff.mpr (skipBlanks_of_blanks hs he)]
      simp [skipBlanks_of_blanks hs₁ hl.ends, decimal?_eq_some_iff.mpr hl]

/-! Selections. -/

theorem plural_eq_ok_iff (hi : Reads inner B) {ordinal : Bool} {argument : String}
    {origin : List Char} {node : Node} :
    (∃ rest, plural ordinal argument (inner (scope.body true) false) origin (skipBlanks s) =
        .ok (node, rest) ∧ skipBlanks rest = '}' :: r) ↔
      ∃ s₁ s₂ offset found, Blanks s (',' :: s₁) ∧ Offset s₁ s₂ offset ∧
        Cases IsMatcher Matcher.text B (scope.body true) s₂ r found ∧ found ≠ [] ∧
        node = .plural argument offset ordinal found := by
  have hk := readsKey_pluralKey (pluralConstruct ordinal)
  unfold plural
  constructor
  · intro hx
    obtain ⟨rest, h, hr⟩ := hx
    obtain ⟨q, hq, h⟩ := bind_eq_ok_iff.mp h
    obtain ⟨⟨offset, q'⟩, ho, h⟩ := bind_eq_ok_iff.mp h
    obtain ⟨⟨found, rest'⟩, hc, h⟩ := bind_eq_ok_iff.mp h
    obtain ⟨rfl, rfl⟩ := Prod.mk.inj (Except.ok.inj h)
    obtain ⟨s₁, hs, rfl⟩ := expectCases_eq_ok_iff.mp hq
    rcases pluralOffset_eq_ok_iff.mp ho with ⟨-, rfl, rfl⟩ | ⟨t₁, t₂, t₃, ht, ht₁, hl, rfl⟩
    · obtain ⟨hc, hn⟩ := (cases_eq_ok_iff hi hk _ _).mp ⟨_, hc, hr⟩
      exact ⟨s₁, s₁, _, found, hs, .absent, hc, hn, rfl⟩
    · obtain ⟨hc, hn⟩ := (cases_eq_ok_iff hi hk _ _).mp ⟨_, hc, hr⟩
      exact ⟨s₁, t₃, _, found, hs, .present ht ht₁ hl, hc, hn, rfl⟩
  · intro hx
    obtain ⟨s₁, s₂, offset, found, hs, ho, hc, hn, rfl⟩ := hx
    have ho' : pluralOffset (skipBlanks s₁) = .ok (offset, skipBlanks s₂) := by
      cases ho with
      | absent => exact pluralOffset_eq_ok_iff.mpr (.inl ⟨hc.no_offset, rfl, rfl⟩)
      | present ht ht₁ hl => exact pluralOffset_eq_ok_iff.mpr (.inr ⟨_, _, _, ht, ht₁, hl, rfl⟩)
    obtain ⟨rest, hc', hr⟩ := (cases_eq_ok_iff hi hk (pluralConstruct ordinal) origin).mpr ⟨hc, hn⟩
    refine ⟨rest, bind_eq_ok_iff.mpr ⟨_, expectCases_eq_ok_iff.mpr ⟨s₁, hs, rfl⟩, ?_⟩, hr⟩
    exact bind_eq_ok_iff.mpr ⟨_, ho', bind_eq_ok_iff.mpr ⟨_, hc', rfl⟩⟩

theorem select_eq_ok_iff (hi : Reads inner B) {argument : String} {origin : List Char}
    {node : Node} :
    (∃ rest, select argument (inner (scope.body false) false) origin (skipBlanks s) =
        .ok (node, rest) ∧ skipBlanks rest = '}' :: r) ↔
      ∃ s₁ found, Blanks s (',' :: s₁) ∧ Cases IsSelectKey id B (scope.body false) s₁ r found ∧
        found ≠ [] ∧ node = .select argument found := by
  unfold select
  constructor
  · intro hx
    obtain ⟨rest, h, hr⟩ := hx
    obtain ⟨q, hq, h⟩ := bind_eq_ok_iff.mp h
    obtain ⟨⟨found, rest'⟩, hc, h⟩ := bind_eq_ok_iff.mp h
    obtain ⟨rfl, rfl⟩ := Prod.mk.inj (Except.ok.inj h)
    obtain ⟨s₁, hs, rfl⟩ := expectCases_eq_ok_iff.mp hq
    obtain ⟨hc, hn⟩ := (cases_eq_ok_iff hi readsKey_selectKey _ _).mp ⟨_, hc, hr⟩
    exact ⟨s₁, found, hs, hc, hn, rfl⟩
  · intro hx
    obtain ⟨s₁, found, hs, hc, hn, rfl⟩ := hx
    obtain ⟨rest, hc', hr⟩ :=
      (cases_eq_ok_iff hi readsKey_selectKey "select" origin).mpr ⟨hc, hn⟩
    refine ⟨rest, bind_eq_ok_iff.mpr ⟨_, expectCases_eq_ok_iff.mpr ⟨s₁, hs, rfl⟩, ?_⟩, hr⟩
    exact bind_eq_ok_iff.mpr ⟨_, hc', rfl⟩

/-! Calls. -/

theorem styleSlot_eq_ok_iff (origin : List Char) {style : Option String} :
    (∃ rest, styleSlot origin (skipBlanks s) = .ok (style, rest) ∧ skipBlanks rest = '}' :: r) ↔
      Style s r style := by
  unfold styleSlot
  constructor
  · intro hx
    obtain ⟨rest, h, hr⟩ := hx
    split at h
    · rename_i q hq
      have hs := (skipBlanks_eq_iff (by decide)).mp hq
      split at h
      · rename_i t rest' ht
        obtain ⟨rfl, rfl⟩ := Prod.mk.inj (Except.ok.inj h)
        obtain ⟨hst, rfl, hh⟩ := style?_eq_some_iff.mp ht
        obtain ⟨q, rfl⟩ := List.head?_eq_some_iff.mp hh
        obtain rfl : q = r := by
          rw [skipBlanks_of_blanks (blanks_refl _) (by simp [Ends]; decide)] at hr
          exact (List.cons.inj hr).2
        have hp := Style.present hs hst
        simpa [styleOf] using hp
      · exact absurd h fail_ne_ok
    · obtain ⟨rfl, rfl⟩ := Prod.mk.inj (Except.ok.inj h)
      rw [skipBlanks_skipBlanks] at hr
      exact .absent ((skipBlanks_eq_iff (by decide)).mp hr)
  · intro h
    cases h with
    | absent hs =>
      rw [(skipBlanks_eq_iff (by decide)).mpr hs]
      exact ⟨_, rfl, skipBlanks_of_blanks (blanks_refl _) (by simp [Ends]; decide)⟩
    | present hs ht =>
      rw [(skipBlanks_eq_iff (by decide)).mpr hs]
      have hst := style?_eq_some_iff.mpr ⟨ht, rfl, (rfl : ('}' :: r).head? = some '}')⟩
      refine ⟨'}' :: r, ?_, skipBlanks_of_blanks (blanks_refl _) (by simp [Ends]; decide)⟩
      simp [hst, styleOf]

theorem formatterCall_eq_ok_iff {argument formatter : String} {second : Option String}
    (origin : List Char) {node : Node} :
    (∃ rest, formatterCall argument formatter second origin (skipBlanks s) = .ok (node, rest) ∧
        skipBlanks rest = '}' :: r) ↔
      ∃ style, Style s r style ∧
        node = .call ⟨formatter, argument, style, skeletonOf formatter style, second⟩ := by
  unfold formatterCall
  constructor
  · intro hx
    obtain ⟨rest, h, hr⟩ := hx
    obtain ⟨⟨style, rest'⟩, hs, h⟩ := bind_eq_ok_iff.mp h
    obtain ⟨rfl, rfl⟩ := Prod.mk.inj (Except.ok.inj h)
    exact ⟨style, (styleSlot_eq_ok_iff origin).mp ⟨_, hs, hr⟩, rfl⟩
  · intro hx
    obtain ⟨style, hs, rfl⟩ := hx
    obtain ⟨rest, hs', hr⟩ := (styleSlot_eq_ok_iff origin).mpr hs
    exact ⟨rest, bind_eq_ok_iff.mpr ⟨_, hs', rfl⟩, hr⟩

theorem Style.ends {style : Option String} (h : Style s r style) : Ends isNameChar s := by
  cases h with
  | absent hs => exact hs.ends (fun _ => isNameChar_of_isBlank) isNameChar_marks.2.1
  | present hs _ => exact hs.ends (fun _ => isNameChar_of_isBlank) isNameChar_marks.2.2.1

theorem rangeCall_eq_ok_iff {argument formatter : String} {origin : List Char} {node : Node} :
    (∃ rest, rangeCall argument formatter origin (skipBlanks s) = .ok (node, rest) ∧
        skipBlanks rest = '}' :: r) ↔
      ∃ s₁ s₂ second style, Blanks s (',' :: s₁) ∧ Blanks s₁ (second.toList ++ s₂) ∧
        IsName second ∧ Style s₂ r style ∧
        node = .call ⟨formatter, argument, style, skeletonOf formatter style, some second⟩ := by
  unfold rangeCall
  constructor
  · intro hall
    obtain ⟨rest, h, hr⟩ := hall
    split at h
    · rename_i s₁ hs
      obtain ⟨⟨second, s₂⟩, hx, h⟩ := bind_eq_ok_iff.mp h
      obtain ⟨hn, hs₁, -⟩ := expectName_skipBlanks.mp hx
      obtain ⟨style, hst, rfl⟩ := (formatterCall_eq_ok_iff origin).mp ⟨rest, h, hr⟩
      exact ⟨s₁, s₂, second, style, (skipBlanks_eq_iff (by decide)).mp hs, hs₁, hn, hst, rfl⟩
    · exact absurd h fail_ne_ok
  · intro hall
    obtain ⟨s₁, s₂, second, style, hs, hs₁, hn, hst, rfl⟩ := hall
    rw [(skipBlanks_eq_iff (by decide)).mpr hs]
    obtain ⟨rest, hc, hr⟩ := (formatterCall_eq_ok_iff origin).mpr ⟨style, hst, rfl⟩
    have hx : expectName (.expectedRangeEnd formatter) (skipBlanks s₁) = .ok (second, s₂) :=
      expectName_skipBlanks.mpr ⟨hn, hs₁, hst.ends⟩
    exact ⟨rest, bind_eq_ok_iff.mpr ⟨_, hx, hc⟩, hr⟩

/-! Placeholders. -/

section Typed

variable {argument formatter : String} {node : Node}

theorem typed_plural_iff {ordinal : Bool} (hf : lowerString formatter = pluralConstruct ordinal) :
    Typed B argument formatter scope s r node ↔
      ∃ s₁ s₂ offset found, Blanks s (',' :: s₁) ∧ Offset s₁ s₂ offset ∧
        Cases IsMatcher Matcher.text B (scope.body true) s₂ r found ∧ found ≠ [] ∧
        node = .plural argument offset ordinal found := by
  constructor
  · intro h
    cases h with
    | call hsel _ _ => cases ordinal <;> simp [isSelectionName, hf, pluralConstruct] at hsel
    | range hrange => cases ordinal <;> simp [isRangeName, hf, pluralConstruct] at hrange
    | plural o ho hs hoff hc hn =>
      obtain rfl : o = ordinal := by
        rw [hf] at ho
        revert ho
        cases o <;> cases ordinal <;> simp [pluralConstruct]
      exact ⟨_, _, _, _, hs, hoff, hc, hn, rfl⟩
    | select hsel =>
      rw [hf] at hsel
      cases ordinal <;> simp [pluralConstruct] at hsel
  · intro hx
    obtain ⟨s₁, s₂, offset, found, hs, ho, hc, hn, rfl⟩ := hx
    exact .plural ordinal hf hs ho hc hn

theorem typed_select_iff (hf : lowerString formatter = "select") :
    Typed B argument formatter scope s r node ↔
      ∃ s₁ found, Blanks s (',' :: s₁) ∧ Cases IsSelectKey id B (scope.body false) s₁ r found ∧
        found ≠ [] ∧ node = .select argument found := by
  constructor
  · intro h
    cases h with
    | call hsel _ _ => simp [isSelectionName, hf] at hsel
    | range hrange => simp [isRangeName, hf] at hrange
    | plural o ho =>
      rw [hf] at ho
      cases o <;> simp [pluralConstruct] at ho
    | select _ hs hc hn => exact ⟨_, _, hs, hc, hn, rfl⟩
  · intro hx
    obtain ⟨s₁, found, hs, hc, hn, rfl⟩ := hx
    exact .select hf hs hc hn

theorem typed_range_iff (hf : isRangeName formatter = true) :
    Typed B argument formatter scope s r node ↔
      ∃ s₁ s₂ second style, Blanks s (',' :: s₁) ∧ Blanks s₁ (second.toList ++ s₂) ∧
        IsName second ∧ Style s₂ r style ∧
        node = .call ⟨formatter, argument, style, skeletonOf formatter style, some second⟩ := by
  constructor
  · intro h
    cases h with
    | call _ hrange => simp [hf] at hrange
    | range _ hs hs₁ hn hst => exact ⟨_, _, _, _, hs, hs₁, hn, hst, rfl⟩
    | plural o ho => cases o <;> simp [isRangeName, ho, pluralConstruct] at hf
    | select hsel => simp [isRangeName, hsel] at hf
  · intro hx
    obtain ⟨s₁, s₂, second, style, hs, hs₁, hn, hst, rfl⟩ := hx
    exact .range hf hs hs₁ hn hst

theorem typed_call_iff (hs : isSelectionName formatter = false)
    (hr : isRangeName formatter = false) :
    Typed B argument formatter scope s r node ↔
      ∃ style, Style s r style ∧
        node = .call ⟨formatter, argument, style, skeletonOf formatter style, none⟩ := by
  constructor
  · intro h
    cases h with
    | call _ _ hst => exact ⟨_, hst, rfl⟩
    | range hrange => simp [hr] at hrange
    | plural o ho => cases o <;> simp [isSelectionName, ho, pluralConstruct] at hs
    | select hsel => simp [isSelectionName, hsel] at hs
  · intro hx
    obtain ⟨style, hst, rfl⟩ := hx
    exact .call hs hr hst

theorem typed_eq_ok_iff (hi : Reads inner B) (origin : List Char) :
    (∃ rest, typed argument formatter (fun plural => inner (scope.body plural) false) origin
        (skipBlanks s) = .ok (node, rest) ∧ skipBlanks rest = '}' :: r) ↔
      Typed B argument formatter scope s r node := by
  unfold typed
  split
  · rename_i hf
    have hf' : lowerString formatter = pluralConstruct false := hf
    rw [plural_eq_ok_iff hi, typed_plural_iff hf']
  · rename_i hf
    have hf' : lowerString formatter = pluralConstruct true := hf
    rw [plural_eq_ok_iff hi, typed_plural_iff hf']
  · rename_i hf
    rw [select_eq_ok_iff hi, typed_select_iff hf]
  · rename_i hf
    rw [rangeCall_eq_ok_iff, typed_range_iff (by simp [isRangeName, hf])]
  · rename_i hf
    rw [rangeCall_eq_ok_iff, typed_range_iff (by simp [isRangeName, hf])]
  · rename_i hplural hordinal hselect hnumber hdate
    rw [formatterCall_eq_ok_iff, typed_call_iff]
    · simpa [isSelectionName, and_assoc] using ⟨hplural, hordinal, hselect⟩
    · simpa [isRangeName] using ⟨hnumber, hdate⟩

theorem Typed.ends (h : Typed B argument formatter scope s r node) : Ends isNameChar s := by
  have hc : ∀ {s₁}, Blanks s (',' :: s₁) → Ends isNameChar s :=
    fun hs => hs.ends (fun _ => isNameChar_of_isBlank) isNameChar_marks.2.2.1
  cases h with
  | call _ _ hst => exact hst.ends
  | range _ hs => exact hc hs
  | plural _ _ hs => exact hc hs
  | select _ hs => exact hc hs

end Typed

theorem placeholder_eq_ok_iff (hi : Reads inner B) {limit : Int} {node : Node} :
    placeholder limit (some inner) scope ('{' :: s) = .ok (node, r) ↔
      Placeholder B scope s r node := by
  unfold placeholder
  simp only [List.drop_succ_cons, List.drop_zero]
  constructor
  · intro h
    obtain ⟨⟨x, q⟩, hx, h⟩ := bind_eq_ok_iff.mp h
    obtain ⟨hn, hs, -⟩ := expectName_skipBlanks.mp hx
    dsimp only at h
    split at h
    · rename_i rest hq
      obtain ⟨rfl, rfl⟩ := Prod.mk.inj (Except.ok.inj h)
      exact .argument hs hn ((skipBlanks_eq_iff (by decide)).mp hq)
    · rename_i s₂ hq
      obtain ⟨⟨formatter, s₃⟩, hf, h⟩ := bind_eq_ok_iff.mp h
      obtain ⟨⟨node', rest⟩, ht, h⟩ := bind_eq_ok_iff.mp h
      obtain ⟨hfn, hs₂, -⟩ := expectName_skipBlanks.mp hf
      dsimp only at h
      split at h
      · rename_i rest' hrest
        obtain ⟨rfl, rfl⟩ := Prod.mk.inj (Except.ok.inj h)
        have ht' := (typed_eq_ok_iff hi _).mp ⟨rest, ht, hrest⟩
        exact .typed hs hn ((skipBlanks_eq_iff (by decide)).mp hq) hs₂ hfn ht'
      · exact absurd h fail_ne_ok
    · exact absurd h fail_ne_ok
  · intro h
    cases h with
    | argument hs hn hs₁ =>
      have he := hs₁.ends (fun _ => isNameChar_of_isBlank) isNameChar_marks.2.1
      refine bind_eq_ok_iff.mpr ⟨_, expectName_skipBlanks.mpr ⟨hn, hs, he⟩, ?_⟩
      simp [(skipBlanks_eq_iff (by decide)).mpr hs₁, pure, Except.pure]
    | typed hs hn hs₁ hs₂ hfn ht =>
      have he := hs₁.ends (fun _ => isNameChar_of_isBlank) isNameChar_marks.2.2.1
      obtain ⟨rest, ht', hr⟩ := (typed_eq_ok_iff hi ('{' :: s)).mpr ht
      refine bind_eq_ok_iff.mpr ⟨_, expectName_skipBlanks.mpr ⟨hn, hs, he⟩, ?_⟩
      simp only [(skipBlanks_eq_iff (by decide)).mpr hs₁]
      refine bind_eq_ok_iff.mpr ⟨_, expectName_skipBlanks.mpr ⟨hfn, hs₂, ht.ends⟩, ?_⟩
      refine bind_eq_ok_iff.mpr ⟨_, ht', ?_⟩
      simp [hr, pure, Except.pure]

/-! Tags. -/

theorem Blanks.ends_name {x : Char} (h : Blanks s (x :: r)) (hx : isNameChar x = false) :
    Ends isNameChar s := h.ends (fun _ => isNameChar_of_isBlank) hx

theorem closingTag_eq_ok_iff {opened : String} {origin : List Char} :
    closingTag opened origin ('<' :: '/' :: s) = .ok r ↔
      ∃ y s', s = y.toList ++ s' ∧ IsName y ∧ lowerString y = lowerString opened ∧
        Blanks s' ('>' :: r) := by
  unfold closingTag
  simp only [List.drop_succ_cons, List.drop_zero]
  constructor
  · intro h
    obtain ⟨⟨y, s'⟩, hy, h⟩ := bind_eq_ok_iff.mp h
    obtain ⟨hn, hs, -⟩ := expectName_eq_ok_iff.mp hy
    dsimp only at h
    split at h
    · exact absurd h fail_ne_ok
    · rename_i hl
      split at h
      · rename_i rest hr
        obtain rfl := Except.ok.inj h
        exact ⟨y, s', hs, hn, by simpa using hl, (skipBlanks_eq_iff (by decide)).mp hr⟩
      · exact absurd h fail_ne_ok
  · intro hx
    obtain ⟨y, s', rfl, hn, hl, hs'⟩ := hx
    have he := hs'.ends_name isNameChar_marks.2.2.2.2.2.2
    refine bind_eq_ok_iff.mpr ⟨_, expectName_eq_ok_iff.mpr ⟨hn, rfl, he⟩, ?_⟩
    simp [hl, (skipBlanks_eq_iff (by decide)).mpr hs', pure, Except.pure]

theorem Attributes.ends {x : String} (h : Attributes s r x) (hr : ClosesAngle r) :
    Ends isNameChar s := by
  cases h with
  | absent => rcases hr with ⟨r, rfl⟩ | ⟨r, rfl⟩ <;> simp [Ends, isNameChar_marks]
  | present hs hb =>
    subst hs
    simp [Ends, isNameChar_of_isBlank hb]

theorem IsTagName.head {x : String} (h : IsTagName x) :
    ∃ c w, x.toList = c :: w ∧ isLetter c = true := by
  obtain ⟨-, c, hc, hl⟩ := h
  obtain ⟨w, hw⟩ := List.head?_eq_some_iff.mp hc
  exact ⟨c, w, hw, hl⟩

/-- A name is one of a tag where a letter stands first. -/
theorem isTagName_of_append {x : String} {c : Char} {s r : List Char} (hx : IsName x)
    (h : c :: s = x.toList ++ r) (hc : isLetter c = true) : IsTagName x := by
  obtain ⟨d, w, hw⟩ := List.exists_cons_of_ne_nil hx.1
  rw [hw, List.cons_append] at h
  exact ⟨hx, c, by rw [hw, (List.cons.inj h).1]; rfl, hc⟩

/-- The closing tag that ends a sequence in a tag, with its name. -/
theorem closingTag_of_stop (opened : String) (origin : List Char) {q : List Char}
    (hq : Stop scope true q) :
    closingTag opened origin q = .ok r ↔
      ∃ s₁ y s₂, q = '<' :: '/' :: s₁ ∧ s₁ = y.toList ++ s₂ ∧ IsTagName y ∧
        lowerString y = lowerString opened ∧ Blanks s₂ ('>' :: r) := by
  constructor
  · intro h
    cases hq with
    | endOfText => exact absurd h fail_ne_ok
    | brace q _ => exact absurd h fail_ne_ok
    | closing d q _ _ hd =>
      obtain ⟨y, s', hs, hn, hl, hs'⟩ := closingTag_eq_ok_iff.mp h
      exact ⟨_, y, s', rfl, hs, isTagName_of_append hn hs hd, hl, hs'⟩
  · intro hx
    obtain ⟨s₁, y, s₂, rfl, hs, hn, hl, hs₂⟩ := hx
    exact closingTag_eq_ok_iff.mpr ⟨y, s₂, hs, hn.1, hl, hs₂⟩

theorem stop_of_closing {x : String} {s₁ s₂ : List Char} (hs : s₁ = x.toList ++ s₂)
    (hx : IsTagName x) (ht : scope.tags = true) : Stop scope true ('<' :: '/' :: s₁) := by
  obtain ⟨d, w, hw, hd⟩ := hx.head
  rw [hs, hw]
  exact .closing d _ ht rfl hd

theorem tag_eq_ok_iff (hi : Reads inner B) {limit : Int} {node : Node} {c : Char}
    (hc : isLetter c = true) (ht : scope.tags = true) :
    tag limit (some inner) scope ('<' :: c :: s) = .ok (node, r) ↔
      Tag B scope (c :: s) r node := by
  unfold tag
  simp only [List.drop_succ_cons, List.drop_zero]
  constructor
  · intro h
    obtain ⟨⟨x, s₁⟩, hx, h⟩ := bind_eq_ok_iff.mp h
    obtain ⟨hn, hs, -⟩ := expectName_eq_ok_iff.mp hx
    have hn' := isTagName_of_append hn hs hc
    dsimp only at h
    split at h
    · rename_i rest ha
      obtain ⟨rfl, rfl⟩ := Prod.mk.inj (Except.ok.inj h)
      exact .selfClosing hs hn' ((tagAttributes_eq_iff (.inr ⟨_, rfl⟩)).mp ⟨rfl, ha⟩)
    · rename_i s₂ ha
      obtain ⟨⟨children, q⟩, hb, h⟩ := bind_eq_ok_iff.mp h
      obtain ⟨rest, hclose, h⟩ := bind_eq_ok_iff.mp h
      obtain ⟨rfl, rfl⟩ := Prod.mk.inj (Except.ok.inj h)
      obtain ⟨hb, hstop⟩ := hi.iff.mp hb
      obtain ⟨s₃, y, s₄, rfl, hs₃, hy, hl, hs₄⟩ := (closingTag_of_stop x _ hstop).mp hclose
      have ha' := (tagAttributes_eq_iff (.inl ⟨_, rfl⟩)).mp ⟨rfl, ha⟩
      exact .enclosing hs hn' ha' hb hs₃ hy hl hs₄
    · exact absurd h fail_ne_ok
  · intro h
    cases h with
    | selfClosing hs hn ha =>
      have hangle : ClosesAngle ('/' :: '>' :: r) := .inr ⟨r, rfl⟩
      obtain ⟨rfl, ha'⟩ := (tagAttributes_eq_iff hangle).mpr ha
      refine bind_eq_ok_iff.mpr ⟨_, expectName_eq_ok_iff.mpr ⟨hn.1, hs, ha.ends hangle⟩, ?_⟩
      simp [ha', pure, Except.pure]
    | enclosing hs hn ha hb hs₃ hy hl hs₄ =>
      rename_i s₁ s₂ s₃ s₄ x y attributes children
      have hangle : ClosesAngle ('>' :: s₂) := .inl ⟨s₂, rfl⟩
      have hstop : Stop scope true ('<' :: '/' :: s₃) := stop_of_closing hs₃ hy ht
      obtain ⟨rfl, ha'⟩ := (tagAttributes_eq_iff hangle).mpr ha
      refine bind_eq_ok_iff.mpr ⟨_, expectName_eq_ok_iff.mpr ⟨hn.1, hs, ha.ends hangle⟩, ?_⟩
      simp only [ha']
      refine bind_eq_ok_iff.mpr ⟨_, hi.iff.mpr ⟨hb, hstop⟩, ?_⟩
      have hclose := (closingTag_of_stop x ('<' :: c :: s) hstop).mpr
        ⟨s₃, y, s₄, rfl, hs₃, hy, hl, hs₄⟩
      exact bind_eq_ok_iff.mpr ⟨_, hclose, rfl⟩

end MessageFormat.Pattern.Grammar

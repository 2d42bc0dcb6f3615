import MessageFormat.Proofs.Outcome
import MessageFormat.Proofs.Text.Unmarked
import MessageFormat.Text.Template

/-!
What templates are filled to. No angle bracket comes into a text from a template and items without any.
-/

set_option autoImplicit false

namespace MessageFormat

namespace Text.Template

variable {s : List Char}

/-- A text and what follows it, neither with angle brackets. -/
def BothUnmarked (p : List Char × List Char) : Prop := Unmarked p.1 ∧ Unmarked p.2

namespace Field

theorem gives_readName (hs : Unmarked s) : ∀ bracket,
    Gives (fun p => Unmarked p.2.2) (readName bracket s) := by
  induction s with
  | nil =>
    intro bracket
    cases bracket <;> exact gives_error _
  | cons c s ih =>
    have hrest := (unmarked_cons.mp hs).2
    intro bracket
    cases bracket with
    | true => exact (ih hrest _).map fun _ h => h
    | false =>
      unfold readName
      split
      · exact gives_ok hrest
      · split
        · exact gives_error _
        · exact (ih hrest _).map fun _ h => h

theorem gives_readStyle (hs : Unmarked s) : ∀ depth, Gives BothUnmarked (readStyle depth s) := by
  induction s with
  | nil =>
    intro depth
    cases depth <;> exact gives_error _
  | cons c s ih =>
    obtain ⟨hc, hrest⟩ := unmarked_cons.mp hs
    have honto : ∀ p : List Char × List Char, BothUnmarked p → BothUnmarked (onto c p) :=
      fun p hp => ⟨unmarked_cons.mpr ⟨hc, hp.1⟩, hp.2⟩
    intro depth
    unfold readStyle
    split
    · exact (ih hrest _).map honto
    · split
      · cases depth with
        | zero => exact gives_ok ⟨unmarked_nil, hrest⟩
        | succ depth => exact (ih hrest _).map honto
      · exact (ih hrest _).map honto

theorem gives_read (hs : Unmarked s) :
    Gives (fun p => Unmarked p.1.style ∧ Unmarked p.2) (read s) := by
  refine (gives_readName hs false).bind fun ⟨name, mark, r⟩ hr => ?_
  dsimp only at hr ⊢
  split
  · exact gives_error _
  · exact gives_error _
  · rename_i c d r
    have hrest := (unmarked_cons.mp (unmarked_cons.mp hr).2).2
    split
    · exact gives_ok ⟨unmarked_nil, hrest⟩
    · split
      · exact gives_error _
      · exact (gives_readStyle hrest 0).bind fun p hp => gives_ok hp
  · exact (gives_readStyle hr 0).bind fun p hp => gives_ok hp
  · exact gives_ok ⟨unmarked_nil, hr⟩

end Field

namespace Layout

theorem takeOne_unmarked {p : Char → Bool} {found : Option Char} {r : List Char}
    (h : takeOne p s = (found, r)) (hs : Unmarked s) :
    (∀ c ∈ found, isAngle c = false) ∧ Unmarked r := by
  cases s with
  | nil =>
    obtain ⟨rfl, rfl⟩ := Prod.mk.inj h
    exact ⟨nofun, unmarked_nil⟩
  | cons c s =>
    obtain ⟨hc, hrest⟩ := unmarked_cons.mp hs
    rw [takeOne] at h
    split at h
    · obtain ⟨rfl, rfl⟩ := Prod.mk.inj h
      refine ⟨?_, hrest⟩
      rintro _ ⟨⟩
      exact hc
    · obtain ⟨rfl, rfl⟩ := Prod.mk.inj h
      exact ⟨nofun, hs⟩

theorem readAlignment_unmarked (hs : Unmarked s) :
    (∀ c ∈ (readAlignment s).1, isAngle c = false) ∧ Unmarked (readAlignment s).2.2 := by
  have hnone : ∀ c ∈ (none : Option Char), isAngle c = false :=
    fun c hc => absurd hc (Option.not_mem_none c)
  have halone : ∀ c r, Unmarked (c :: r) →
      (∀ d ∈ (readAlignment.alone c r).1, isAngle d = false) ∧
        Unmarked (readAlignment.alone c r).2.2 := by
    intro c r h
    unfold readAlignment.alone
    cases Alignment.ofChar? c with
    | some a => exact ⟨hnone, (unmarked_cons.mp h).2⟩
    | none => exact ⟨hnone, h⟩
  rcases s with - | ⟨c, - | ⟨d, rest⟩⟩
  · exact ⟨hnone, hs⟩
  · exact halone c [] hs
  · rw [readAlignment]
    cases Alignment.ofChar? d with
    | some a =>
      obtain ⟨hc, hrest⟩ := unmarked_cons.mp hs
      exact ⟨fun e he => Option.mem_some.mp he ▸ hc, (unmarked_cons.mp hrest).2⟩
    | none => exact halone c (d :: rest) hs

/-- What a layout fills with stands in it, or is a blank or a zero. -/
theorem gives_read (hs : Unmarked s) : Gives (fun l => isAngle l.fill = false) (read s) := by
  obtain ⟨hfirst, hrest⟩ := readAlignment_unmarked hs
  unfold read
  split
  rename_i fill alignment r halign
  rw [halign] at hfirst hrest
  split
  rename_i sign r₁ hsign
  have hr₁ : Unmarked r₁ := (takeOne_unmarked hsign hrest).2
  split
  rename_i z r₂ hz
  have hr₂ : Unmarked r₂ := (takeOne_unmarked hz hr₁).2
  split
  rename_i alternate r₃ halternate
  have hr₃ : Unmarked r₃ := (takeOne_unmarked halternate hr₂).2
  split
  rename_i fill' r₄ hfill'
  have hfill : isAngle (fill'.getD ' ') = false := by
    have hfound : ∀ c ∈ fill', isAngle c = false := by
      split at hfill'
      · obtain ⟨rfl, -⟩ := Prod.mk.inj hfill'
        exact hfirst
      · exact (takeOne_unmarked hfill' hr₃).1
    cases fill' with
    | none => rfl
    | some c => exact hfound c rfl
  refine (gives_any _).bind fun p _ => ?_
  split
  split
  split
  extract_lets separator finish
  clear_value separator
  have hfinish : ∀ u, Gives (fun l => isAngle l.fill = false) (finish u) := by
    intro u
    refine (gives_any _).bind fun p _ => ?_
    split
    extract_lets withKind
    have hkind : ∀ kind, Gives (fun l => isAngle l.fill = false) (withKind kind) := by
      intro kind
      unfold withKind
      extract_lets make
      have hmake : ∀ u, Gives (fun l => isAngle l.fill = false) (make u) := fun u => gives_ok hfill
      split
      · split
        · exact gives_error _
        · exact hmake ()
      · exact hmake ()
    split
    · exact hkind _
    · exact hkind _
    · exact gives_error _
  split
  · exact gives_error _
  · exact hfinish ()

theorem unmarked_pad {l : Layout} (hfill : isAngle l.fill = false) (hs : Unmarked s) :
    Unmarked (l.pad s) := by
  unfold pad
  simp [hs, unmarked_replicate _ hfill]

theorem gives_apply {l : Layout} (hfill : isAngle l.fill = false) (hs : Unmarked s) :
    Gives Unmarked (l.apply s) := by
  unfold apply
  split
  · exact gives_error _
  · refine gives_ok (unmarked_pad hfill ?_)
    unfold cutTo
    split
    · exact hs.subset (List.take_subset _ _)
    · exact hs

end Layout

theorem gives_atIndex {item : List Char} (h : Unmarked item) (index : List Char) :
    Gives Unmarked (atIndex item index) := by
  refine (gives_any _).bind fun n _ => ?_
  split
  · rename_i n
    extract_lets pick
    have hpick : ∀ u, Gives Unmarked (pick u) := by
      intro u
      unfold pick
      split
      · rename_i c hc
        refine gives_ok fun d hd => ?_
        obtain rfl := List.mem_singleton.mp hd
        exact h _ (List.mem_of_getElem? hc)
      · exact gives_error _
    split
    · exact gives_error _
    · exact hpick ()
  · split <;> exact gives_error _

theorem gives_follow {item : List Char} (h : Unmarked item) (open? : Option (List Char))
    (path : List Char) : Gives Unmarked (follow item open? path) := by
  fun_induction follow item open? path with
  | case1 item => exact gives_ok h
  | case3 item r ih => exact ih h
  | case6 item index r ih => exact (gives_atIndex h index).bind fun part hpart => ih part hpart
  | case7 item index c r _ ih => exact ih h
  | _ => exact gives_error _

theorem gives_convert (hs : Unmarked s) (mark : Option Char) : Gives Unmarked (convert mark s) := by
  unfold convert
  split
  · exact gives_ok hs
  · exact gives_ok hs
  · exact gives_ok (unmarked_quote hs)
  · exact gives_ok (unmarked_quoteAscii hs)
  · exact gives_error _

/-- What is filled from a text without angle brackets has none. -/
def FillsUnmarked (inner : Fill) : Prop :=
  ∀ numbering s, Unmarked s → Gives (fun p => Unmarked p.1) (inner numbering s)

section Fill

variable {inner : Fill} {items : List (List Char)} (hinner : FillsUnmarked inner)
  (hitems : ∀ item ∈ items, Unmarked item)

include hinner in
theorem gives_expand (numbering : Numbering) (hs : Unmarked s) :
    Gives (fun p => Unmarked p.1) (expand inner numbering s) := by
  unfold expand
  split
  · exact hinner numbering s hs
  · exact gives_ok hs

include hinner hitems

theorem gives_fieldText (numbering : Numbering) {field : Field} (h : Unmarked field.style) :
    Gives (fun p => Unmarked p.1) (fieldText inner items numbering field) := by
  unfold fieldText
  split
  refine (gives_any _).bind fun p _ => ?_
  split
  split
  · rename_i item hitem
    refine (gives_follow (hitems item (List.mem_of_getElem? hitem)) none _).bind fun part hpart => ?_
    refine (gives_convert hpart _).bind fun text htext => ?_
    refine (gives_expand hinner _ h).bind fun q hq => ?_
    split
    refine (Layout.gives_read hq).bind fun layout hlayout => ?_
    exact (Layout.gives_apply hlayout htext).bind fun text htext => gives_ok htext
  · exact gives_error _

theorem fillsUnmarked_fillFields (fuel : Nat) : FillsUnmarked (fillFields inner items fuel) := by
  induction fuel with
  | zero => exact fun _ _ _ => gives_ok unmarked_nil
  | succ fuel ih =>
    intro numbering s hs
    cases s with
    | nil => exact gives_ok unmarked_nil
    | cons c s =>
      obtain ⟨hc, hrest⟩ := unmarked_cons.mp hs
      have honto : ∀ p : List Char × Numbering, Unmarked p.1 → Unmarked (onto c p).1 :=
        fun p hp => unmarked_cons.mpr ⟨hc, hp⟩
      unfold fillFields
      split
      · split
        · exact gives_error _
        · split
          · exact (ih _ _ (unmarked_cons.mp hrest).2).map honto
          · refine (Field.gives_read hrest).bind fun p hp => ?_
            split
            refine (gives_fieldText hinner hitems _ hp.1).bind fun q hq => ?_
            split
            refine (ih _ _ hp.2).bind fun t ht => ?_
            split
            exact gives_ok (unmarked_append.mpr ⟨hq, ht⟩)
      · split
        · split
          · exact gives_error _
          · split
            · exact (ih _ _ (unmarked_cons.mp hrest).2).map honto
            · exact gives_error _
        · exact (ih _ _ hrest).map honto

end Fill

theorem fillsUnmarked_fillLevels {items : List (List Char)} (hitems : ∀ item ∈ items, Unmarked item)
    (levels : Nat) : FillsUnmarked (fillLevels items levels) := by
  induction levels with
  | zero => exact fun _ _ _ => gives_error _
  | succ levels ih => exact fun numbering s hs => fillsUnmarked_fillFields ih hitems _ numbering s hs

theorem gives_fill {template : String} {items : List String} (h : Unmarked template.toList)
    (hitems : ∀ item ∈ items, Unmarked item.toList) :
    Gives (fun t => Unmarked t.toList) (fill template items) := by
  have hlists : ∀ item ∈ items.map String.toList, Unmarked item := by
    intro item hitem
    obtain ⟨x, hx, rfl⟩ := List.mem_map.mp hitem
    exact hitems x hx
  have hfill := fillsUnmarked_fillLevels hlists levels .open _ h
  refine (hfill.mapError _).bind fun p hp => gives_ok ?_
  rwa [String.toList_ofList]

end Text.Template
end MessageFormat

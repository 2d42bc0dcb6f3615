import MessageFormat.Format.Builtin
import MessageFormat.Proofs.Number.Unmarked
import MessageFormat.Proofs.Text.Template
import MessageFormat.Proofs.Value.Unmarked

/-!
Formatters write no angle brackets for values, styles and skeletons without any.
-/

set_option autoImplicit false

namespace MessageFormat

open Text Outcome
open MessageFormat.Locale (Context)

/-! Joined texts. -/

namespace ListPatterns

variable {p : ListPatterns} {items : List String}

theorem gives_joinInner {middle last : String} (hmiddle : Unmarked middle.toList)
    (hlast : Unmarked last.toList) (h : AllUnmarked items) :
    Gives (fun s => Unmarked s.toList) (join.joinInner middle last items) := by
  fun_induction join.joinInner middle last items with
  | case1 => exact gives_ok unmarked_nil
  | case2 item => exact gives_ok (h item List.mem_cons_self)
  | case3 a b => exact Template.gives_fill hlast h
  | case4 item rest _ _ ih =>
    obtain ⟨hitem, hrest⟩ := List.forall_mem_cons.mp h
    refine (ih hrest).bind fun joined hjoined => ?_
    exact Template.gives_fill hmiddle (List.forall_mem_cons.mpr ⟨hitem, allUnmarked_singleton hjoined⟩)

theorem gives_join (hp : AllUnmarked p.texts) (h : AllUnmarked items) :
    Gives (fun s => Unmarked s.toList) (p.join items) := by
  have hstart : Unmarked p.start.toList := hp _ (by simp [texts])
  have hmiddle : Unmarked p.middle.toList := hp _ (by simp [texts])
  have hlast : Unmarked p.last.toList := hp _ (by simp [texts])
  have hpair : Unmarked p.pair.toList := hp _ (by simp [texts])
  unfold join
  split
  · exact gives_ok unmarked_nil
  · exact gives_ok (h _ List.mem_cons_self)
  · exact Template.gives_fill hpair h
  · obtain ⟨hfirst, hrest⟩ := List.forall_mem_cons.mp h
    refine (gives_joinInner hmiddle hlast hrest).bind fun joined hjoined => ?_
    exact Template.gives_fill hstart (List.forall_mem_cons.mpr ⟨hfirst, allUnmarked_singleton hjoined⟩)

end ListPatterns

namespace Format

variable {context : Context} (h : context.AddsNoMarkup) {g : Graph} {value : Value}
  {skeleton : Option Number.Spec} {style : Option String}

/-- No style, or one without angle brackets. -/
abbrev StyleUnmarked (style : Option String) : Prop := ∀ s ∈ style, Unmarked s.toList

/-- No skeleton, or one without angle brackets. -/
abbrev SkeletonUnmarked (skeleton : Option Number.Spec) : Prop :=
  ∀ spec ∈ skeleton, AllUnmarked spec.texts

/-! Parts of styles and values. -/

theorem unmarked_rangeSeparator (requested : String) :
    Unmarked (rangeSeparator requested).toList := by
  unfold rangeSeparator
  split <;> decide

theorem isUnmarked_rangeEnds (hvalue : value.IsUnmarked) :
    (rangeEnds value).1.IsUnmarked ∧ (rangeEnds value).2.IsUnmarked := by
  unfold rangeEnds
  split
  · exact ⟨hvalue.1, hvalue.2.1⟩
  · exact ⟨hvalue, hvalue⟩

theorem unmarked_of_skeleton? {text : String} (hstyle : StyleUnmarked style)
    (htext : skeleton? style = some text) : Unmarked text.toList := by
  obtain ⟨s, hs, htext⟩ := Option.bind_eq_some_iff.mp htext
  obtain ⟨r, hr, rfl⟩ := Option.map_eq_some_iff.mp htext
  rw [String.toList_ofList]
  exact unmarked_trim (unmarked_of_strip? (hstyle s hs) hr)

theorem allUnmarked_styleWords (hstyle : StyleUnmarked style) : AllUnmarked (styleWords style) := by
  unfold styleWords
  split
  · exact allUnmarked_nil
  · rename_i style
    intro word hword
    obtain ⟨w, hw, rfl⟩ := List.mem_map.mp hword
    rw [String.toList_ofList]
    exact unmarked_fields (unmarked_lower (unmarked_trim (hstyle style rfl))) w hw

theorem gives_timer (seconds : Decimal) : Gives (fun s => Unmarked s.toList) (timer seconds) := by
  refine (gives_any _).bind fun total _ => ?_
  have hhours : Gives Unmarked (Text.Integer.write (total.toIntegral.integerPart / 3600)) := by
    unfold Text.Integer.write
    split
    · exact gives_error _
    · exact gives_ok unmarked_natDigits
  refine hhours.bind fun hours hhours => gives_ok ?_
  simp +decide [hhours]

theorem gives_durationParts (seconds : Decimal) :
    Gives (fun parts => AllUnmarked (parts.map Prod.fst)) (durationParts seconds) := by
  have hunits : AllUnmarked [hourUnit, minuteUnit, secondUnit] := by decide
  refine (gives_any _).bind fun total _ => (gives_any _).bind fun hours _ => ?_
  refine (gives_any _).bind fun minutes _ => gives_ok ?_
  split
  · exact allUnmarked_singleton (by decide)
  · refine fun unit hunit => hunits unit ?_
    obtain ⟨part, hpart, rfl⟩ := List.mem_map.mp hunit
    have hmem := (List.mem_filter.mp hpart).1
    simp only [List.mem_cons, List.not_mem_nil, or_false] at hmem
    rcases hmem with rfl | rfl | rfl <;> simp

section

include h

/-! Numbers. -/

theorem yields_localCurrency : (localCurrency context).YieldsUnmarked := by
  have hdefault : Unmarked defaultCurrency.toList := by decide
  unfold localCurrency
  split
  · exact yields_pure hdefault
  · rename_i locale hlocale
    refine (h.ask .defaultCurrency (h.localeFor hlocale) allUnmarked_nil).bind ?_
    intro currency hcurrency
    refine yields_pure ?_
    cases hnamed : Option.filter (!·.isEmpty) currency with
    | none => exact hdefault
    | some named =>
      have hmem : currency = some named := (Option.filter_eq_some_iff.mp hnamed).1
      exact hcurrency named (by simp [Locale.Request.answerTexts, hmem])

theorem yields_specOf (hskeleton : SkeletonUnmarked skeleton) (hstyle : StyleUnmarked style) :
    (specOf context skeleton style).Yields fun spec => AllUnmarked spec.texts := by
  have hcurrency : (localCurrency context).YieldsUnmarked := yields_localCurrency h
  unfold specOf
  split
  · rename_i spec
    exact yields_pure (hskeleton spec rfl)
  · unfold specOfStyle
    split
    · exact yields_pure allUnmarked_nil
    · rename_i style
      have hstyle : Unmarked style.toList := hstyle style rfl
      split
      · exact yields_pure allUnmarked_nil
      · exact yields_pure allUnmarked_nil
      · exact hcurrency.bind fun currency hc => yields_pure (allUnmarked_singleton hc)
      · split
        · exact yields_pure (Number.Spec.allUnmarked_ofSkeleton hstyle)
        · split
          · refine hcurrency.bind fun currency hc => yields_pure ?_
            exact List.forall_mem_cons.mpr ⟨hc, allUnmarked_singleton hstyle⟩
          · exact yields_pure (allUnmarked_singleton hstyle)

theorem yields_numberWith {spec : Number.Spec} (hspec : AllUnmarked spec.texts)
    (hvalue : value.IsUnmarked) : (numberWith context g spec value).YieldsUnmarked :=
  Number.yields_render h hspec _ (Graph.unmarked_plainText hvalue)

theorem yields_plainNumber (hvalue : value.IsUnmarked) :
    (plainNumber context g value).YieldsUnmarked :=
  yields_numberWith h allUnmarked_nil hvalue

theorem yields_plainAmount (amount : Decimal) : (plainAmount context amount).YieldsUnmarked := by
  have hspec : AllUnmarked ({} : Number.Spec).texts := allUnmarked_nil
  exact Number.yields_render h hspec _ (by simp [Decimal.toString])

theorem yields_number (hskeleton : SkeletonUnmarked skeleton) (hstyle : StyleUnmarked style)
    (hvalue : value.IsUnmarked) : (number context g skeleton style value).YieldsUnmarked :=
  (yields_specOf h hskeleton hstyle).bind fun _ hspec => yields_numberWith h hspec hvalue

theorem yields_numberRange (hskeleton : SkeletonUnmarked skeleton) (hstyle : StyleUnmarked style)
    (hvalue : value.IsUnmarked) : (numberRange context g skeleton style value).YieldsUnmarked := by
  obtain ⟨hstart, hstop⟩ := isUnmarked_rangeEnds hvalue
  refine (yields_specOf h hskeleton hstyle).bind fun spec hspec => ?_
  refine (yields_numberWith h hspec hstart).bind fun first hfirst => ?_
  refine (yields_numberWith h hspec hstop).bind fun second hsecond => ?_
  exact yields_pure (by simp [hfirst, hsecond, unmarked_rangeSeparator])

/-! Dates. -/

theorem yields_datePattern {locale : String} (hlocale : Unmarked locale.toList) (kind : DateKind)
    (hstyle : StyleUnmarked style) : (datePattern context kind style locale).YieldsUnmarked := by
  have hask : ∀ length : String, Unmarked length.toList →
      (context.ask (.datePattern kind length) locale).YieldsUnmarked := fun length hlength text htext =>
    h.ask (.datePattern kind length) hlocale (allUnmarked_singleton hlength) text htext text
      List.mem_cons_self
  unfold datePattern
  split
  · rename_i skeleton hskeleton
    have htext := unmarked_of_skeleton? hstyle hskeleton
    refine (h.ask (.skeletonPattern skeleton) hlocale (allUnmarked_singleton htext)).bind ?_
    intro pattern hpattern
    split
    · rename_i pattern
      exact yields_pure (hpattern pattern List.mem_cons_self)
    · exact hask _ (by decide)
  · split
    · exact hask _ (by decide)
    · rename_i style _
      have hstyle : Unmarked style.toList := hstyle style rfl
      dsimp only
      split
      · exact hask _ (unmarked_lowerString hstyle)
      · exact yields_pure hstyle

theorem yields_moment (kind : DateKind) (hstyle : StyleUnmarked style) (hvalue : value.IsUnmarked) :
    (moment context g kind style value).YieldsUnmarked := by
  unfold moment
  split
  · exact yields_pure (Graph.unmarked_plainText hvalue)
  · rename_i m _
    have hiso : (pure (momentIso m) : Outcome String).YieldsUnmarked :=
      yields_pure (by simp [momentIso])
    split
    · exact hiso
    · rename_i locale hlocale
      refine Yields.recover ?_ hiso _
      refine (yields_datePattern h (h.localeFor hlocale) kind hstyle).bind fun pattern hpattern => ?_
      intro text htext
      exact h.ask (.formatMoment m pattern) (h.localeFor hlocale) (allUnmarked_singleton hpattern) text
        htext text List.mem_cons_self

theorem yields_interval (hstyle : StyleUnmarked style) (value : Value) :
    (interval? context style value).Yields StyleUnmarked := by
  unfold interval?
  split
  · rename_i locale skeleton start stop hlocale hskeleton _ _
    refine Yields.recover ?_ (yields_pure nofun) _
    have htext := allUnmarked_singleton (unmarked_of_skeleton? hstyle hskeleton)
    refine (h.ask (.formatInterval start stop skeleton) (h.localeFor hlocale) htext).bind ?_
    intro text htext
    exact yields_pure (by rintro _ ⟨⟩; exact htext text List.mem_cons_self)
  · exact yields_pure nofun

theorem yields_dateRange (hstyle : StyleUnmarked style) (hvalue : value.IsUnmarked) :
    (dateRange context g style value).YieldsUnmarked := by
  obtain ⟨hstart, hstop⟩ := isUnmarked_rangeEnds hvalue
  refine (yields_interval h hstyle value).bind fun interval hinterval => ?_
  split
  · rename_i text
    exact yields_pure (hinterval text rfl)
  · refine (yields_moment h .date hstyle hstart).bind fun first hfirst => ?_
    refine (yields_moment h .date hstyle hstop).bind fun second hsecond => ?_
    split
    · exact yields_pure (by simp [hfirst, hsecond, unmarked_rangeSeparator])
    · rename_i locale hlocale
      refine (h.ask .intervalFallback (h.localeFor hlocale) allUnmarked_nil).bind ?_
      intro pattern hpattern
      refine yields_pure ?_
      simp only [replaceString, String.toList_ofList]
      exact unmarked_replaceAll hsecond
        (unmarked_replaceAll hfirst (hpattern pattern List.mem_cons_self))

theorem yields_plain (hvalue : value.IsUnmarked) : (plain context g value).YieldsUnmarked := by
  unfold plain
  split
  · exact yields_plainNumber h hvalue
  · exact yields_plainNumber h hvalue
  · exact yields_plainNumber h hvalue
  · exact yields_moment h .dateTime nofun hvalue
  · exact yields_moment h .date nofun hvalue
  · exact yields_pure (Graph.unmarked_plainText hvalue)

/-! Lists, durations and relative times. -/

theorem yields_listItems (hvalue : value.IsUnmarked) :
    (listItems context g value).Yields AllUnmarked := by
  unfold listItems
  split
  · exact yields_pure allUnmarked_nil
  · exact yields_mapM fun v hv => yields_plain h (Value.areUnmarked_iff.mp hvalue v hv)
  · exact yields_mapM fun v hv => yields_plain h (Value.areUnmarked_iff.mp hvalue v hv)
  · exact hvalue.elim
  · exact (yields_plain h hvalue).bind fun text htext => yields_pure (allUnmarked_singleton htext)

theorem yields_joinItems (type : ListType) (width : ListWidth) {items : List String}
    (hitems : AllUnmarked items) : (joinItems context type width items).YieldsUnmarked := by
  have hcommas : AllUnmarked ListPatterns.commas.texts := by decide
  unfold joinItems
  split
  · exact yields_ofFault (ListPatterns.gives_join hcommas hitems)
  · rename_i locale hlocale
    refine (h.ask (.listPatterns type width) (h.localeFor hlocale) allUnmarked_nil).bind ?_
    intro patterns hpatterns
    refine yields_ofFault (ListPatterns.gives_join ?_ hitems)
    cases patterns with
    | none => exact hcommas
    | some patterns => simpa [Locale.Request.answerTexts] using hpatterns

theorem yields_list (style : Option String) (hvalue : value.IsUnmarked) :
    (Format.list context g style value).YieldsUnmarked :=
  (yields_listItems h hvalue).bind fun _ hitems => yields_joinItems h _ _ hitems

theorem yields_durationPart (width : Number.UnitWidth) {part : String × Decimal}
    (hunit : Unmarked part.1.toList) : (durationPart context width part).YieldsUnmarked := by
  have hword : Unmarked (unitWord part.1).toList := by
    rw [unitWord, String.toList_ofList]
    exact hunit.subset (List.drop_subset 9 _)
  unfold durationPart
  extract_lets finish
  have hfinish : ∀ text : Option String, StyleUnmarked text → (finish text).YieldsUnmarked := by
    intro text htext
    unfold finish
    split
    · rename_i text' hsome
      exact yields_pure (htext text' (Option.filter_eq_some_iff.mp hsome).1)
    · refine (yields_plainAmount h part.2).bind fun amount hamount => ?_
      exact yields_pure (by simp +decide [hamount, hword])
  split
  · exact (yields_pure fun _ hnone => (Option.some_ne_none _ hnone.symm).elim).bind hfinish
  · rename_i locale hlocale
    refine (h.ask (.formatUnit part.2 part.1 width {}) (h.localeFor hlocale) ?_).bind ?_
    · exact allUnmarked_singleton hunit
    · exact fun text htext => hfinish text fun s hs => htext s (Option.mem_toList.mpr hs)

theorem yields_duration (style : Option String) (hvalue : value.IsUnmarked) :
    (Format.duration context g style value).YieldsUnmarked := by
  refine (yields_any _).bind fun seconds _ => ?_
  split
  · rename_i seconds
    extract_lets style width
    split
    · exact (yields_ofFault (gives_timer seconds)).bind fun text htext => h.transliterate htext
    · refine (yields_arithmetic (gives_durationParts seconds)).bind fun parts hparts => ?_
      have hrendered : (parts.mapM (durationPart context width)).Yields AllUnmarked :=
        yields_mapM fun part hpart => yields_durationPart h _ (hparts _ (List.mem_map_of_mem hpart))
      refine hrendered.bind fun rendered hrendered => ?_
      refine (yields_joinItems h _ _ hrendered).bind fun text htext => yields_pure ?_
      split
      · simp +decide [htext]
      · exact htext
  · exact yields_pure (Graph.unmarked_plainText hvalue)

theorem yields_relativeTime (hstyle : StyleUnmarked style) (value : Value) :
    (relativeTime context style value).YieldsUnmarked := by
  have hwords := allUnmarked_styleWords hstyle
  unfold relativeTime
  extract_lets words field width amount finish
  have hfield : Unmarked field.toList := by
    rcases hw : styleWords style with _ | ⟨word, rest⟩
    · simp +decide [field, words, hw]
    · simpa [field, words, hw] using hwords word (by simp [hw])
  have hfinish : ∀ text : Option String, StyleUnmarked text → (finish text).YieldsUnmarked := by
    intro text htext
    unfold finish
    split
    · rename_i text
      exact h.transliterate (htext text rfl)
    · refine (yields_plainAmount h amount).bind fun number hnumber => ?_
      exact yields_pure (by simp +decide [hnumber, hfield])
  have hnone : (pure none : Outcome (Option String)).Yields StyleUnmarked := yields_pure nofun
  split
  · exact hnone.bind hfinish
  · rename_i locale hlocale
    refine Yields.bind (Yields.recover ?_ hnone _) hfinish
    intro text htext s hs
    exact h.ask (.formatRelative field amount width) (h.localeFor hlocale)
      (allUnmarked_singleton hfield) text htext s (Option.mem_toList.mpr hs)

theorem yields_apply {call : FormatterCall} (hskeleton : SkeletonUnmarked call.skeleton)
    (hstyle : StyleUnmarked call.style) (hvalue : value.IsUnmarked) (builtin : Builtin) :
    (builtin.apply context g call value).YieldsUnmarked := by
  cases builtin with
  | number => exact yields_number h hskeleton hstyle hvalue
  | date => exact yields_moment h .date hstyle hvalue
  | time => exact yields_moment h .time hstyle hvalue
  | dateTime => exact yields_moment h .dateTime hstyle hvalue
  | list => exact yields_list h _ hvalue
  | duration => exact yields_duration h _ hvalue
  | relativeTime => exact yields_relativeTime h hstyle value
  | numberRange => exact yields_numberRange h hskeleton hstyle hvalue
  | dateRange => exact yields_dateRange h hstyle hvalue

end

end Format
end MessageFormat

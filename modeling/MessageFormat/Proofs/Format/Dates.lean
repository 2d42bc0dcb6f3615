import MessageFormat.Format.Moment
import MessageFormat.Locale.Table
import MessageFormat.Proofs.Number.Failure
import MessageFormat.Proofs.Text.Places
import MessageFormat.Proofs.Text.Replace

/-!
Dates and ranges of dates. Where rendering fails in the expected ways there is a text all the same: a date in its ISO
form, and a range joined from its two ends. What stands in the first end is read as part of the pattern that joins
them.
-/

set_option autoImplicit false

namespace MessageFormat

open Outcome

namespace Locale

/-- Date patterns, dates and intervals. -/
def Request.RendersDates : Request → Prop
  | .datePattern .. | .skeletonPattern _ | .formatMoment .. | .formatInterval .. => True
  | _ => False

/-- What dates are rendered with fails only by faults after which the ISO form is shown. -/
def Backend.DegradesDates (backend : Backend) : Prop :=
  ∀ request locale f, request.RendersDates → backend.answer request locale = .error f →
    f.kind ∈ Format.degradableDate

end Locale

namespace Format

open MessageFormat.Locale (Context)

variable {context : Context} {g : Graph} {kind : DateKind} {style : Option String} {value : Value}
  {locale pattern : String}

/-- The error is a fault after which the ISO form is shown. -/
def DegradableDate (e : Error) : Prop := ∃ f, e = .fault f ∧ f.kind ∈ degradableDate

section Degrades

variable (h : context.backend.DegradesDates)

include h

theorem degradableDate_ask (request : Locale.Request) (hr : request.RendersDates) (locale : String) :
    (context.ask request locale).FailsBy DegradableDate := by
  intro e he
  obtain ⟨f, hf, rfl⟩ := Context.exists_fault he
  exact ⟨f, rfl, h request locale f hr hf⟩

theorem degradableDate_datePattern (kind : DateKind) (style : Option String) (locale : String) :
    (datePattern context kind style locale).FailsBy DegradableDate := by
  have hlength : ∀ length, (context.ask (.datePattern kind length) locale).FailsBy DegradableDate :=
    fun length => degradableDate_ask h (.datePattern kind length) trivial locale
  unfold datePattern
  split
  · rename_i skeleton _
    refine (degradableDate_ask h (.skeletonPattern skeleton) trivial locale).bind fun pattern => ?_
    split
    · exact failsBy_pure _
    · exact hlength "medium"
  · split
    · exact hlength "medium"
    · dsimp only
      split
      · exact hlength _
      · exact failsBy_pure _

/-- A value is always shown as a date, if only in its ISO form or as it is. -/
theorem exists_moment (g : Graph) (kind : DateKind) (style : Option String) (value : Value) :
    ∃ text, (moment context g kind style value).result = .ok text := by
  unfold moment
  split
  · exact ⟨_, rfl⟩
  · split
    · exact ⟨_, rfl⟩
    · rename_i m _ _ locale _
      have hrendered := (degradableDate_datePattern h kind style locale).bind fun pattern =>
        degradableDate_ask h (.formatMoment m pattern) trivial locale
      exact ⟨_, result_recover_pure hrendered (momentIso m)⟩

end Degrades

/-! Ranges. -/

/-- Two texts in the places of a pattern: first the one, then the other in what came out. -/
def joinEnds (pattern first second : String) : String :=
  Text.replaceString "\x7b1\x7d" second (Text.replaceString "\x7b0\x7d" first pattern)

/-- The ends of a range one after the other, joined in the way of the locale. -/
def separateEnds (context : Context) (g : Graph) (style : Option String) (value : Value) : Outcome String :=
  moment context g .date style (rangeEnds value).1 >>= fun first =>
    moment context g .date style (rangeEnds value).2 >>= fun second =>
      match context.localeFor .date with
      | none => pure (first ++ rangeSeparator context.requested ++ second)
      | some locale => context.ask .intervalFallback locale >>= fun pattern => pure (joinEnds pattern first second)

theorem dateRange_eq (context : Context) (g : Graph) (style : Option String) (value : Value) :
    dateRange context g style value =
      interval? context style value >>= fun interval =>
        interval.elim (separateEnds context g style value) pure := by
  unfold dateRange
  refine bind_congr fun interval => ?_
  cases interval <;> rfl

/-- What is answered about the interval of a range, where it is asked for. -/
def intervalAnswer? (context : Context) (style : Option String) (value : Value) :
    Option (Except Fault String) :=
  match context.localeFor .date, skeleton? style, (rangeEnds value).1.moment?,
      (rangeEnds value).2.moment? with
  | some locale, some skeleton, some start, some stop =>
    some (context.backend.answer (.formatInterval start stop skeleton) locale)
  | _, _, _, _ => none

/-- Of the faults after which a date is shown in its ISO form, overflow alone leaves a range without its ends. -/
theorem mem_degradableInterval_iff {kind : FaultKind} (hkind : kind ∈ degradableDate) :
    kind ∈ degradableInterval ↔ kind ≠ .overflow := by
  simp only [degradableDate, List.mem_cons, List.not_mem_nil, or_false] at hkind
  rcases hkind with rfl | rfl | rfl | rfl <;> decide

/-- The interval comes out as answered; after most faults there is none. -/
theorem result_interval? (context : Context) (style : Option String) (value : Value) :
    (interval? context style value).result =
      match intervalAnswer? context style value with
      | none => .ok none
      | some (.ok text) => .ok (some text)
      | some (.error f) => if f.kind ∈ degradableInterval then .ok none else .error (.fault f) := by
  unfold interval? intervalAnswer?
  generalize context.localeFor .date = l, skeleton? style = s, (rangeEnds value).1.moment? = first,
    (rangeEnds value).2.moment? = second
  obtain _ | locale := l
  · rfl
  obtain _ | skeleton := s
  · rfl
  obtain _ | start := first
  · rfl
  obtain _ | stop := second
  · rfl
  cases hanswer : context.backend.answer (.formatInterval start stop skeleton) locale with
  | ok text => simp [Context.ask, Outcome.ask, hanswer, Outcome.bind, Outcome.recover, Except.mapError]
  | error f =>
    by_cases hkind : f.kind ∈ degradableInterval <;>
      simp [Context.ask, Outcome.ask, hanswer, Outcome.bind, Outcome.recover, Except.mapError, hkind]

theorem result_separateEnds {pattern first second : String}
    (hfirst : (moment context g .date style (rangeEnds value).1).result = .ok first)
    (hsecond : (moment context g .date style (rangeEnds value).2).result = .ok second)
    (hlocale : context.localeFor .date = some locale)
    (hpattern : context.backend.answer .intervalFallback locale = .ok pattern) :
    (separateEnds context g style value).result = .ok (joinEnds pattern first second) := by
  rw [separateEnds, result_bind hfirst, result_bind hsecond, hlocale]
  refine result_bind ?_
  rw [Context.ask, Outcome.ask, hpattern]
  rfl

/-- Without an interval the ends are joined. -/
theorem result_dateRange_of_none (hinterval : (interval? context style value).result = .ok none) :
    (dateRange context g style value).result = (separateEnds context g style value).result := by
  rw [dateRange_eq, result_bind hinterval, Option.elim_none]

section Degrades

variable (h : context.backend.DegradesDates)

include h

/-- The ends are always shown, so only the pattern that joins them can be missing. -/
theorem fails_separateEnds_iff (g : Graph) (style : Option String) (value : Value) :
    (separateEnds context g style value).Fails ↔
      ∃ locale f, context.localeFor .date = some locale ∧
        context.backend.answer .intervalFallback locale = .error f := by
  obtain ⟨first, hfirst⟩ := exists_moment h g .date style (rangeEnds value).1
  obtain ⟨second, hsecond⟩ := exists_moment h g .date style (rangeEnds value).2
  cases hlocale : context.localeFor .date with
  | none =>
    refine iff_of_false (not_fails_iff.mpr ⟨first ++ rangeSeparator context.requested ++ second, ?_⟩) (by simp)
    rw [separateEnds, result_bind hfirst, result_bind hsecond, hlocale]
    rfl
  | some locale =>
    cases hpattern : context.backend.answer .intervalFallback locale with
    | ok pattern =>
      have hresult := result_separateEnds hfirst hsecond hlocale hpattern
      refine iff_of_false (not_fails_iff.mpr ⟨_, hresult⟩) ?_
      rintro ⟨locale', f, hsome, herror⟩
      obtain rfl := Option.some.inj hsome
      rw [hpattern] at herror
      cases herror
    | error f =>
      refine iff_of_true ⟨.fault f, ?_⟩ ⟨locale, f, rfl, hpattern⟩
      rw [separateEnds, result_bind hfirst, result_bind hsecond, hlocale]
      simp [Context.ask, Outcome.ask, hpattern, Outcome.bind, Except.mapError]

theorem kind_of_intervalAnswer? {f : Fault} (hanswer : intervalAnswer? context style value = some (.error f)) :
    f.kind ∈ degradableDate := by
  unfold intervalAnswer? at hanswer
  split at hanswer
  · rename_i locale skeleton start stop _ _ _ _
    exact h (.formatInterval start stop skeleton) locale f trivial (Option.some.inj hanswer)
  · cases hanswer

/-- There is an interval if it is answered, and none after a fault that is not an overflow. -/
theorem interval?_cases (style : Option String) (value : Value) :
    (∃ text, intervalAnswer? context style value = some (.ok text) ∧
      (interval? context style value).result = .ok (some text)) ∨
    (∃ f, intervalAnswer? context style value = some (.error f) ∧ f.kind = .overflow ∧
      (interval? context style value).result = .error (.fault f)) ∨
    ((∀ answer, intervalAnswer? context style value = some answer → ∃ f, answer = .error f ∧ f.kind ≠ .overflow) ∧
      (interval? context style value).result = .ok none) := by
  have hresult := result_interval? context style value
  cases hanswer : intervalAnswer? context style value with
  | none => exact .inr (.inr ⟨by simp, by rw [hresult, hanswer]⟩)
  | some answer =>
    cases answer with
    | ok text => exact .inl ⟨text, rfl, by rw [hresult, hanswer]⟩
    | error f =>
      have hmem := mem_degradableInterval_iff (kind_of_intervalAnswer? h hanswer)
      by_cases hkind : f.kind = .overflow
      · have hnot : f.kind ∉ degradableInterval := fun hmem' => hmem.mp hmem' hkind
        exact .inr (.inl ⟨f, rfl, hkind, by simp [hresult, hanswer, hnot]⟩)
      · exact .inr (.inr ⟨by simpa using hkind, by simp [hresult, hanswer, hmem, hkind]⟩)

/-- A range fails just if rendering its interval overflows, or if it has no interval and the pattern for its ends
cannot be had. -/
theorem fails_dateRange_iff (g : Graph) (style : Option String) (value : Value) :
    (dateRange context g style value).Fails ↔
      (∃ f, intervalAnswer? context style value = some (.error f) ∧ f.kind = .overflow) ∨
        (∀ text, intervalAnswer? context style value ≠ some (.ok text)) ∧
          ∃ locale f, context.localeFor .date = some locale ∧
            context.backend.answer .intervalFallback locale = .error f := by
  rcases interval?_cases h style value with ⟨text, hanswer, hinterval⟩ | ⟨f, hanswer, hkind, hinterval⟩ |
    ⟨hanswer, hinterval⟩
  · have hrange : (dateRange context g style value).result = .ok text := by
      rw [dateRange_eq, result_bind hinterval]
      rfl
    simp [Fails, hrange, hanswer]
  · refine iff_of_true ?_ (.inl ⟨f, hanswer, hkind⟩)
    rw [dateRange_eq, fails_bind_iff]
    exact .inl ⟨_, hinterval⟩
  · rw [← fails_separateEnds_iff h g style value, Fails, result_dateRange_of_none hinterval, ← Fails]
    refine ⟨fun hfails => .inr ⟨fun text htext => ?_, hfails⟩, ?_⟩
    · obtain ⟨f, hf, -⟩ := hanswer _ htext
      cases hf
    · rintro (⟨f, herror, hkind⟩ | ⟨-, hfails⟩)
      · obtain ⟨f', hf', hne⟩ := hanswer _ herror
        obtain rfl := Except.error.inj hf'
        exact absurd hkind hne
      · exact hfails

/-- What rendering an interval fails with, if it does not overflow, leaves the two ends, joined in the way of the
locale. -/
theorem result_dateRange_of_fault (g : Graph) {f : Fault} {pattern : String}
    (hanswer : intervalAnswer? context style value = some (.error f)) (hkind : f.kind ≠ .overflow)
    (hlocale : context.localeFor .date = some locale)
    (hpattern : context.backend.answer .intervalFallback locale = .ok pattern) :
    ∃ first second, (moment context g .date style (rangeEnds value).1).result = .ok first ∧
      (moment context g .date style (rangeEnds value).2).result = .ok second ∧
      (dateRange context g style value).result = .ok (joinEnds pattern first second) := by
  have hmem := mem_degradableInterval_iff (kind_of_intervalAnswer? h hanswer)
  have hinterval : (interval? context style value).result = .ok none := by
    simp [result_interval?, hanswer, hmem, hkind]
  obtain ⟨first, hfirst⟩ := exists_moment h g .date style (rangeEnds value).1
  obtain ⟨second, hsecond⟩ := exists_moment h g .date style (rangeEnds value).2
  refine ⟨first, second, hfirst, hsecond, ?_⟩
  rw [result_dateRange_of_none hinterval, result_separateEnds hfirst hsecond hlocale hpattern]

end Degrades

/-- All data for one locale, of which no interval can be rendered. -/
def withoutIntervals (kind : FaultKind) : Context :=
  .build { englishTable with intervals := .failing kind }.backend "en" "en"

theorem degradesDates_withoutIntervals {kind : FaultKind} (hkind : kind ∈ degradableDate) :
    (withoutIntervals kind).backend.DegradesDates := by
  intro request locale f hrequest hanswer
  cases request <;> cases hanswer
  simp only [Locale.Rendering.fault]
  split
  · decide
  · exact hkind

/-- The fifth and the sixth of January 2024. -/
def twoDays : Value := .tuple [.date ⟨2024, 1, 5⟩, .date ⟨2024, 1, 6⟩]

section Ends

variable {u v a b c t : List Char}

/-- No text that ends a place stands before the next place starts. -/
theorem not_prefix_of_brace (hclose : '}' ∈ v) (hopen : '{' ∉ v) (hb : '}' ∉ b) : ¬ v <+: b ++ '{' :: t := by
  intro hv
  have hb' : b ++ ['{'] <+: b ++ '{' :: t := ⟨t, by simp⟩
  rcases List.prefix_or_prefix_of_prefix hv hb' with hle | hge
  · have hmem := hle.subset hclose
    simp [hb] at hmem
  · exact hopen (hge.subset (by simp))

theorem braces_of_second_place (h : ['{', '1', '}'] = u ++ v) (hu : u ≠ []) (hv : v ≠ []) : '}' ∈ v ∧ '{' ∉ v := by
  obtain ⟨d, u, rfl⟩ := List.exists_cons_of_ne_nil hu
  have hsuffix : v <:+ ['1', '}'] := ⟨u, (List.cons.inj h).2.symm⟩
  have hlast : v.getLast hv = '}' := hsuffix.getLast hv
  refine ⟨?_, fun hmem => by simpa using hsuffix.subset hmem⟩
  rw [← hlast]
  exact List.getLast_mem hv

/-- The place of the first end is found once. -/
theorem replaceAll_first (ha : '{' ∉ a) (hb : '{' ∉ b) (hc : '{' ∉ c) (x : List Char) :
    Text.replaceAll ['{', '0', '}'] x (a ++ (['{', '0', '}'] ++ (b ++ (['{', '1', '}'] ++ c)))) =
      a ++ (x ++ (b ++ (['{', '1', '}'] ++ c))) := by
  have hsecond : ¬ ['{', '0', '}'] <+: '{' :: (['1', '}'] ++ c) := by simp
  have hrest : '{' ∉ ['1', '}'] ++ c := by simp [hc]
  have hafter := Text.replaceAll_append_of_not_mem hrest ['0', '}'] x []
  rw [List.append_nil, Text.replaceAll_nil, List.append_nil] at hafter
  rw [Text.replaceAll_append_of_not_mem ha, Text.replaceAll_append (by decide),
    Text.replaceAll_append_of_not_mem hb, List.cons_append, Text.replaceAll_cons hsecond, hafter]

/-- The place of the second end is found once outside the first end, and as often as it stands there in it. -/
theorem replaceAll_second (ha : '{' ∉ a) (hb : '{' ∉ b) (hb' : '}' ∉ b) (hc : '{' ∉ c) (x y : List Char) :
    Text.replaceAll ['{', '1', '}'] y (a ++ (x ++ (b ++ (['{', '1', '}'] ++ c)))) =
      a ++ (Text.replaceAll ['{', '1', '}'] y x ++ (b ++ (y ++ c))) := by
  have hseam : ∀ u v, ['{', '1', '}'] = u ++ v → u ≠ [] → v ≠ [] → ¬ v <+: b ++ (['{', '1', '}'] ++ c) := by
    intro u v h hu hv
    obtain ⟨hclose, hopen⟩ := braces_of_second_place h hu hv
    exact not_prefix_of_brace hclose hopen hb'
  have hafter := Text.replaceAll_append_of_not_mem hc ['1', '}'] y []
  rw [List.append_nil, Text.replaceAll_nil, List.append_nil] at hafter
  rw [Text.replaceAll_append_of_not_mem ha, Text.replaceAll_append_of_apart (by decide) hseam,
    Text.replaceAll_append_of_not_mem hb, Text.replaceAll_append (by decide), hafter]

end Ends

/-- The first end is read again as part of the pattern: what looks like the place of the second end is filled. -/
theorem joinEnds_pattern (j : Joint) (first second : String) :
    joinEnds j.pattern first second = j.put (Text.replaceString "\x7b1\x7d" second first) second := by
  have hfirst := replaceAll_first j.before_plain.1 j.between_plain.1 j.after_plain.1 first.toList
  have hsecond := replaceAll_second j.before_plain.1 j.between_plain.1 j.between_plain.2 j.after_plain.1
    first.toList second.toList
  have hplaces : "\x7b0\x7d".toList = ['{', '0', '}'] ∧ "\x7b1\x7d".toList = ['{', '1', '}'] := by decide
  rw [← String.toList_inj]
  simp only [joinEnds, Text.replaceString, Joint.pattern, Joint.put, String.toList_append, String.toList_ofList,
    List.append_assoc, hplaces.1, hplaces.2]
  rw [hfirst, hsecond]

/-- The first end stays as it is unless it holds what looks like the place of the second. -/
theorem put_replaceString_iff (j : Joint) (first second : String) :
    j.put (Text.replaceString "\x7b1\x7d" second first) second = j.put first second ↔
      second = "\x7b1\x7d" ∨ ¬ "\x7b1\x7d".toList <:+: first.toList := by
  rw [← String.toList_inj, ← String.toList_inj]
  simp only [Joint.put, Text.replaceString, String.toList_append, String.toList_ofList, List.append_cancel_right_eq,
    List.append_cancel_left_eq]
  exact Text.replaceAll_eq_self_iff (by decide)

/-- In a style that is no skeleton the ends of a range are joined as they are, but for what looks like the place of
the second end in the first one: the second end stands there too. -/
theorem dateRange_of_plain_style (context : Context) (g : Graph) {style : Option String}
    (hstyle : skeleton? style = none) (value : Value) :
    (context.localeFor .date = none → dateRange context g style value =
      moment context g .date style (rangeEnds value).1 >>= fun first =>
        moment context g .date style (rangeEnds value).2 >>= fun second =>
          pure (first ++ rangeSeparator context.requested ++ second)) ∧
    (∀ (locale : String) (j : Joint), context.localeFor .date = some locale →
      context.backend.answer .intervalFallback locale = .ok j.pattern → dateRange context g style value =
        moment context g .date style (rangeEnds value).1 >>= fun first =>
          moment context g .date style (rangeEnds value).2 >>= fun second =>
            ⟨[⟨.intervalFallback, locale⟩], .ok (j.put (Text.replaceString "\x7b1\x7d" second first) second)⟩) ∧
    ∀ (j : Joint) (first second : String),
      j.put (Text.replaceString "\x7b1\x7d" second first) second = j.put first second ↔
        second = "\x7b1\x7d" ∨ ¬ "\x7b1\x7d".toList <:+: first.toList := by
  have hinterval : interval? context style value = pure none := by
    unfold interval?
    rw [hstyle]
    cases context.localeFor .date <;> rfl
  have hseparate : dateRange context g style value = separateEnds context g style value := by
    rw [dateRange_eq, hinterval, Outcome.pure_bind, Option.elim_none]
  refine ⟨fun hlocale => ?_, fun locale j hlocale hpattern => ?_, put_replaceString_iff⟩
  · rw [hseparate, separateEnds, hlocale]
  · rw [hseparate, separateEnds, hlocale]
    refine bind_congr fun first => bind_congr fun second => ?_
    have hask : context.ask .intervalFallback locale = ⟨[⟨.intervalFallback, locale⟩], .ok j.pattern⟩ := by
      rw [Context.ask, Outcome.ask, hpattern]
      rfl
    simp only [hask, ← joinEnds_pattern]
    rfl

/-- The pattern of the table. -/
def tilde : Joint := { before := "", between := " ~ ", after := "" }

/-- Two days in a pattern that has a place in quotes. -/
theorem dateRange_of_plain_style_quoted : skeleton? (some "'\x7b1\x7d' y") = none ∧
    englishContext.localeFor .date = some "en" ∧
    englishContext.backend.answer .intervalFallback "en" = .ok tilde.pattern ∧
    dateRange englishContext {} (some "'\x7b1\x7d' y") twoDays =
      moment englishContext {} .date (some "'\x7b1\x7d' y") (.date ⟨2024, 1, 5⟩) >>= fun first =>
        moment englishContext {} .date (some "'\x7b1\x7d' y") (.date ⟨2024, 1, 6⟩) >>= fun second =>
          ⟨[⟨.intervalFallback, "en"⟩], .ok (tilde.put (Text.replaceString "\x7b1\x7d" second first) second)⟩ := by
  have hstyle : skeleton? (some "'\x7b1\x7d' y") = none := by decide
  have hlocale : englishContext.localeFor .date = some "en" := by decide
  have hpattern : englishContext.backend.answer .intervalFallback "en" = .ok tilde.pattern := by decide
  exact ⟨hstyle, hlocale, hpattern,
    (dateRange_of_plain_style englishContext {} hstyle twoDays).2.1 "en" tilde hlocale hpattern⟩

/-- A text that looks like a place is lost. -/
theorem dateRange_rereads : skeleton? none = none ∧
    englishContext.backend.answer .intervalFallback "en" = .ok tilde.pattern ∧
    (moment englishContext {} .date none (.text "\x7b1\x7d")).result = .ok "\x7b1\x7d" ∧
    (moment englishContext {} .date none (.text "x")).result = .ok "x" ∧
    (dateRange englishContext {} none (.tuple [.text "\x7b1\x7d", .text "x"])).result = .ok "x ~ x" ∧
    tilde.put "\x7b1\x7d" "x" = "\x7b1\x7d ~ x" := by
  refine ⟨rfl, ?_, ?_, ?_, ?_, ?_⟩ <;> decide

end Format
end MessageFormat

import MessageFormat.Format.Builtin
import MessageFormat.Proofs.Locale.Served
import MessageFormat.Proofs.Number.Stages

/-!
What formatters ask for and how they fail. Each request goes to the locale that its data comes from; a
formatter fails only where arithmetic, writing a number or locale data does.
-/

set_option autoImplicit false

namespace MessageFormat

open MessageFormat.Locale (Context)

variable {context : Context} {g : Graph}

namespace Outcome

variable {α β : Type}

/-- Whatever error there is, it is a fault. -/
def FaultsOnly (o : Outcome α) : Prop := o.FailsBy fun e => ∃ f, e = .fault f

theorem FaultsOnly.failsBy {P : Error → Prop} {o : Outcome α} (h : o.FaultsOnly)
    (hP : ∀ f, P (.fault f)) : o.FailsBy P :=
  h.mono fun _ he => by
    obtain ⟨f, rfl⟩ := he
    exact hP f

theorem faultsOnly_ofFault (r : Except Fault α) : (ofFault r).FaultsOnly := by
  intro e he
  cases r with
  | ok a => cases he
  | error f => exact ⟨f, (Except.error.inj he).symm⟩

/-- Every request goes to the locale that the context has its data from, and whatever error there is, it
is a fault. -/
abbrev Consults (context : Context) (o : Outcome α) : Prop :=
  o.Obeys context.Serves fun e => ∃ f, e = .fault f

theorem Obeys.faultsOnly {o : Outcome α} (h : o.Consults context) : o.FaultsOnly := h.error

theorem consults_ofFault (r : Except Fault α) : (ofFault r).Consults context :=
  ⟨fun _ h => (List.not_mem_nil h).elim, faultsOnly_ofFault r⟩

theorem consults_arithmetic (r : Except Decimal.Signal α) : (arithmetic r).Consults context :=
  consults_ofFault _

theorem consults_ask {request : Locale.Request} {locale : String}
    (h : context.Serves ⟨request, locale⟩) : (context.ask request locale).Consults context := by
  refine ⟨fun call hc => ?_, faultsOnly_ofFault (context.backend.answer request locale)⟩
  rw [List.mem_singleton.mp hc]
  exact h

/-- A request that is about one kind of data. -/
theorem consults_ask_of_localeFor {request : Locale.Request} {kind : DataKind} {locale : String}
    (h : context.localeFor kind = some locale) (hkinds : request.kinds = [kind]) :
    (context.ask request locale).Consults context :=
  consults_ask (Context.serves_of_localeFor h hkinds)

end Outcome

open Outcome

namespace Locale.Context

theorem consults_pluralCategory (value : Value) (ordinal : Bool) :
    (context.pluralCategory value ordinal).Consults context := by
  unfold pluralCategory
  split
  · exact obeys_pure _
  · rename_i locale hlocale
    refine (consults_ofFault _).bind fun operands => ?_
    exact (consults_ask_of_localeFor hlocale rfl).bind fun name => obeys_pure _

theorem consults_numberSymbols : context.numberSymbols.Consults context := by
  unfold numberSymbols
  split
  · exact obeys_pure _
  · rename_i locale hlocale
    exact consults_ask_of_localeFor hlocale rfl

theorem consults_transliterate (text : String) : (context.transliterate text).Consults context := by
  unfold transliterate
  split
  · exact obeys_pure _
  · rename_i locale hlocale
    exact (consults_ask_of_localeFor hlocale rfl).bind fun digits => obeys_pure _

end Locale.Context

open MessageFormat.Locale.Context

namespace Number

/-- The locale that a spec's numbers are rendered for is the one that they are asked for at. -/
theorem findSome?_kinds (context : Context) (spec : Spec) (l : Limited) :
    (optionsOf spec l).kinds.findSome? context.localeFor = localeOf context spec := by
  rw [RenderOptions.kinds, optionsOf, localeOf]
  cases spec.currency with
  | none => cases h : context.localeFor .number <;> simp [h]
  | some currency =>
    cases h : context.localeFor .currency <;> cases h' : context.localeFor .number <;> simp [h, h']

section

variable {spec : Spec} {locale : String} {l : Limited}
  (h : (optionsOf spec l).kinds.findSome? context.localeFor = some locale)

include h

theorem consults_formatNumber (magnitude : Decimal) :
    (context.ask (.formatNumber magnitude (optionsOf spec l)) locale).Consults context :=
  consults_ask (serves_iff.mpr h)

theorem consults_renderScientific : (renderScientific context spec locale l).Consults context := by
  refine (consults_arithmetic _).bind fun mantissa => ?_
  -- the options of a mantissa have the same currency, and so the same kinds
  refine Obeys.bind (consults_ask (serves_iff.mpr h)) fun text => ?_
  exact consults_numberSymbols.bind fun symbols => obeys_pure _

theorem consults_renderUnit (unit : String) :
    (renderUnit context spec unit locale l).Consults context := by
  have hunit : context.Serves ⟨.formatUnit l.magnitude unit spec.unitWidth (optionsOf spec l),
      (context.localeFor .unit).getD locale⟩ := by
    rw [serves_iff, Locale.Request.kinds, List.findSome?_cons]
    cases context.localeFor .unit with
    | none => exact h
    | some unitLocale => rfl
  refine (consults_ask hunit).bind fun text => ?_
  split
  · exact obeys_pure _
  · exact (consults_formatNumber h _).bind fun number => obeys_pure _

theorem consults_renderMagnitude : (renderMagnitude context spec locale l).Consults context := by
  unfold renderMagnitude
  split
  · exact consults_renderScientific h
  · split
    · exact consults_renderUnit h _
    · exact consults_formatNumber h _

end

theorem consults_ordinalSuffix (magnitude : Decimal) :
    (ordinalSuffix context magnitude).Consults context := by
  unfold ordinalSuffix
  split
  · exact obeys_pure _
  · rename_i locale hlocale
    refine (consults_pluralCategory _ _).bind fun category => ?_
    exact (consults_ask_of_localeFor hlocale rfl).bind fun suffix => obeys_pure _

theorem consults_render (spec : Spec) (number : Option Decimal) (plain : String) :
    (render context spec number plain).Consults context := by
  unfold render
  cases number with
  | none => exact obeys_pure _
  | some number =>
    dsimp only
    split
    · exact obeys_pure _
    split
    · rename_i locale hlocale
      refine (consults_arithmetic _).bind fun number => ?_
      refine (consults_arithmetic _).bind fun magnitude => ?_
      refine (consults_arithmetic _).bind fun l => ?_
      have hm : (renderMagnitude context spec locale l).Consults context :=
        consults_renderMagnitude ((findSome?_kinds context spec l).trans hlocale)
      have hr := hm.bind fun text => obeys_pure (some text)
      refine (hr.recover (obeys_pure none) degradable).bind fun rendered => ?_
      cases rendered with
      | none => exact obeys_pure _
      | some text =>
        dsimp only
        split
        · refine (consults_ordinalSuffix _).bind fun suffix => ?_
          exact consults_numberSymbols.bind fun symbols => consults_transliterate _
        · refine (obeys_pure _).bind fun suffix => ?_
          exact consults_numberSymbols.bind fun symbols => consults_transliterate _
    · exact obeys_pure _

end Number

namespace Format

/-! Numbers. -/

theorem consults_localCurrency : (localCurrency context).Consults context := by
  unfold localCurrency
  split
  · exact obeys_pure _
  · rename_i locale hlocale
    exact (consults_ask_of_localeFor hlocale rfl).bind fun currency => obeys_pure _

theorem consults_specOfStyle (style : Option String) : (specOfStyle context style).Consults context := by
  have hc : (localCurrency context).Consults context := consults_localCurrency
  unfold specOfStyle
  split
  · exact obeys_pure _
  · split
    · exact obeys_pure _
    · exact obeys_pure _
    · exact hc.bind fun currency => obeys_pure _
    · split
      · exact obeys_pure _
      · split
        · exact hc.bind fun currency => obeys_pure _
        · exact obeys_pure _

theorem consults_specOf (skeleton : Option Number.Spec) (style : Option String) :
    (specOf context skeleton style).Consults context := by
  cases skeleton with
  | some spec => exact obeys_pure spec
  | none => exact consults_specOfStyle style

theorem consults_plainNumber (value : Value) : (plainNumber context g value).Consults context :=
  Number.consults_render _ _ _

theorem consults_plainAmount (amount : Decimal) : (plainAmount context amount).Consults context :=
  Number.consults_render _ _ _

theorem consults_number (skeleton : Option Number.Spec) (style : Option String) (value : Value) :
    (number context g skeleton style value).Consults context :=
  (consults_specOf _ _).bind fun _ => Number.consults_render _ _ _

theorem consults_numberRange (skeleton : Option Number.Spec) (style : Option String)
    (value : Value) : (numberRange context g skeleton style value).Consults context := by
  refine (consults_specOf _ _).bind fun spec => ?_
  refine (Number.consults_render _ _ _).bind fun first => ?_
  exact (Number.consults_render _ _ _).bind fun second => obeys_pure _

/-! Dates. -/

theorem consults_datePattern {locale : String} (h : context.localeFor .date = some locale)
    (kind : DateKind) (style : Option String) :
    (datePattern context kind style locale).Consults context := by
  unfold datePattern
  split
  · refine (consults_ask_of_localeFor h rfl).bind fun pattern => ?_
    split
    · exact obeys_pure _
    · exact consults_ask_of_localeFor h rfl
  · split
    · exact consults_ask_of_localeFor h rfl
    · dsimp only
      split
      · exact consults_ask_of_localeFor h rfl
      · exact obeys_pure _

theorem consults_moment (kind : DateKind) (style : Option String) (value : Value) :
    (moment context g kind style value).Consults context := by
  unfold moment
  split
  · exact obeys_pure _
  · split
    · exact obeys_pure _
    · rename_i locale hlocale
      refine Obeys.recover ?_ (obeys_pure _) _
      exact (consults_datePattern hlocale _ _).bind fun pattern =>
        consults_ask_of_localeFor hlocale rfl

theorem consults_interval (style : Option String) (value : Value) :
    (interval? context style value).Consults context := by
  unfold interval?
  split
  · rename_i locale _ _ _ hlocale _ _ _
    refine Obeys.recover ?_ (obeys_pure none) _
    exact (consults_ask_of_localeFor hlocale rfl).bind fun text => obeys_pure _
  · exact obeys_pure none

theorem consults_dateRange (style : Option String) (value : Value) :
    (dateRange context g style value).Consults context := by
  refine (consults_interval _ _).bind fun interval => ?_
  split
  · exact obeys_pure _
  · refine (consults_moment _ _ _).bind fun first => ?_
    refine (consults_moment _ _ _).bind fun second => ?_
    split
    · exact obeys_pure _
    · rename_i locale hlocale
      exact (consults_ask_of_localeFor hlocale rfl).bind fun pattern => obeys_pure _

theorem consults_plain (value : Value) : (plain context g value).Consults context := by
  unfold plain
  split
  · exact consults_plainNumber _
  · exact consults_plainNumber _
  · exact consults_plainNumber _
  · exact consults_moment _ _ _
  · exact consults_moment _ _ _
  · exact obeys_pure _

/-! Lists, durations and relative times. -/

theorem consults_listItems (value : Value) : (listItems context g value).Consults context := by
  unfold listItems
  split
  · exact obeys_pure _
  · exact obeys_mapM consults_plain _
  · exact obeys_mapM consults_plain _
  · exact obeys_mapM consults_plain _
  · exact (consults_plain _).bind fun text => obeys_pure _

theorem consults_joinItems (type : ListType) (width : ListWidth) (items : List String) :
    (joinItems context type width items).Consults context := by
  unfold joinItems
  split
  · exact consults_ofFault _
  · rename_i locale hlocale
    exact (consults_ask_of_localeFor hlocale rfl).bind fun patterns => consults_ofFault _

theorem consults_list (style : Option String) (value : Value) :
    (list context g style value).Consults context :=
  (consults_listItems _).bind fun _ => consults_joinItems _ _ _

theorem consults_durationPart (width : Number.UnitWidth) (part : String × Decimal) :
    (durationPart context width part).Consults context := by
  unfold durationPart
  split
  · refine (obeys_pure none).bind fun text => ?_
    dsimp only
    split
    · exact obeys_pure _
    · exact (consults_plainAmount _).bind fun amount => obeys_pure _
  · rename_i locale hlocale
    have hunit : context.Serves ⟨.formatUnit part.2 part.1 width {}, locale⟩ := by
      rw [serves_iff, Locale.Request.kinds, List.findSome?_cons, hlocale]
    refine (consults_ask hunit).bind fun text => ?_
    dsimp only
    split
    · exact obeys_pure _
    · exact (consults_plainAmount _).bind fun amount => obeys_pure _

theorem consults_duration (style : Option String) (value : Value) :
    (duration context g style value).Consults context := by
  refine (consults_arithmetic _).bind fun seconds => ?_
  cases seconds with
  | none => exact obeys_pure _
  | some seconds =>
    dsimp only
    split
    · exact (consults_ofFault _).bind fun text => Locale.Context.consults_transliterate _
    · refine (consults_arithmetic _).bind fun parts => ?_
      refine (obeys_mapM (consults_durationPart _) parts).bind fun rendered => ?_
      exact (consults_joinItems _ _ _).bind fun text => obeys_pure _

theorem consults_relativeTime (style : Option String) (value : Value) :
    (relativeTime context style value).Consults context := by
  unfold relativeTime
  dsimp only
  split
  · exact (consults_plainAmount _).bind fun number => obeys_pure _
  · rename_i locale hlocale
    refine Obeys.bind (Obeys.recover (consults_ask_of_localeFor hlocale rfl) ?_ _) fun text => ?_
    · exact obeys_pure none
    split
    · exact Locale.Context.consults_transliterate _
    · exact (consults_plainAmount _).bind fun number => obeys_pure _

theorem consults_apply (call : FormatterCall) (value : Value) (builtin : Builtin) :
    (builtin.apply context g call value).Consults context := by
  cases builtin with
  | number => exact consults_number _ _ _
  | date => exact consults_moment _ _ _
  | time => exact consults_moment _ _ _
  | dateTime => exact consults_moment _ _ _
  | list => exact consults_list _ _
  | duration => exact consults_duration _ _
  | relativeTime => exact consults_relativeTime _ _
  | numberRange => exact consults_numberRange _ _ _
  | dateRange => exact consults_dateRange _ _

end Format
end MessageFormat

import MessageFormat.Proofs.Locale.History

/-!
Which locale a resolver gives for data of any kind. It takes one kind after the other along the whole chain, so this
is the first locale with data of the kind that leads, and the most specific usable one only if that has this kind.
-/

set_option autoImplicit false

namespace MessageFormat.Locale

variable {backend : Backend} {requested fallback locale : String} {locales : List String}

def Usable (backend : Backend) (locale : String) : Prop := ∃ kind, backend.hasData locale kind = true

/-- The kind that is taken first of those that some locale has. -/
def Leads (backend : Backend) (locales : List String) (kind : DataKind) : Prop :=
  Reaches backend locales DataKind.all kind ∧ ¬ Lacks backend locales kind

theorem forall_lacks_iff :
    (∀ kind, Lacks backend locales kind) ↔ ∀ locale ∈ locales, ¬ Usable backend locale := by
  simp only [Lacks, Usable, not_exists, Bool.not_eq_true]
  exact ⟨fun h locale hlocale kind => h kind locale hlocale, fun h kind locale hlocale => h locale hlocale kind⟩

/-- A usable locale with nothing usable before it is the first one with each kind that it has. -/
theorem IsEarliest.firstWith_eq_iff (h : IsEarliest (Usable backend) locales locale) {kind : DataKind}
    {found : String} (hfound : backend.firstWith kind locales = some found) :
    found = locale ↔ backend.hasData locale kind = true := by
  constructor
  · rintro rfl
    obtain ⟨before, after, -, hdata, -⟩ := firstWith_eq_some_iff.mp hfound
    exact hdata
  · intro hdata
    obtain ⟨before, after, hlocales, -, hbefore⟩ := h
    have hfirst : backend.firstWith kind locales = some locale :=
      firstWith_eq_some_iff.mpr ⟨before, after, hlocales, hdata, fun l hl hk => hbefore l hl ⟨kind, hk⟩⟩
    exact Option.some.inj (hfound.symm.trans hfirst)

namespace Resolver

variable {r : Resolver}

theorem Serves.resolveAny_of_usable (h : Serves backend requested fallback r)
    (husable : IsEarliest (Usable backend) (Locale.chain requested fallback) locale) :
    ∃ kind found, Leads backend (Locale.chain requested fallback) kind ∧
      backend.firstWith kind (Locale.chain requested fallback) = some found ∧ r.resolveAny.result = .ok found := by
  rw [resolveAny, (h.resolveFirst DataKind.all).1]
  cases hfirst : DataKind.all.findSome? (backend.firstWith · (Locale.chain requested fallback)) with
  | some found =>
    obtain ⟨before, kind, after, hkinds, hkind, hbefore⟩ := List.findSome?_eq_some_iff.mp hfirst
    refine ⟨kind, found, ⟨⟨before, after, hkinds, fun k hk => firstWith_eq_none_iff.mp (hbefore k hk)⟩, ?_⟩,
      hkind, rfl⟩
    rw [← firstWith_eq_none_iff, hkind]
    exact Option.some_ne_none found
  | none =>
    obtain ⟨before, after, hlocales, ⟨kind, hdata⟩, -⟩ := husable
    have hall : kind ∈ DataKind.all := by cases kind <;> decide
    have hlacks := firstWith_eq_none_iff.mp (List.findSome?_eq_none_iff.mp hfirst kind hall) locale
    rw [hlocales] at hlacks
    rw [hlacks (by simp)] at hdata
    cases hdata

end Resolver

/-- Whatever a resolver was asked before, it finds no locale with data of any kind just if none of the chain is
usable. If one is, the first that has the leading kind is found, which is the first usable one just if that has
this kind. -/
theorem resolveAny_earliest (backend : Backend) (requested fallback : String) (queries : List Resolver.Query) :
    (∀ e, ((Resolver.build backend requested fallback).after queries).resolveAny.result = .error e ↔
      e = .unsupportedLocale requested backend.available ∧
        ∀ locale ∈ chain requested fallback, ¬ Usable backend locale) ∧
    ∀ locale, IsEarliest (Usable backend) (chain requested fallback) locale →
      ∃ kind found, Leads backend (chain requested fallback) kind ∧
        IsEarliest (backend.hasData · kind = true) (chain requested fallback) found ∧
        ((Resolver.build backend requested fallback).after queries).resolveAny.result = .ok found ∧
        (found = locale ↔ backend.hasData locale kind = true) := by
  have hserves := (Resolver.serves_build backend requested fallback).after queries
  refine ⟨fun e => ?_, fun locale hlocale => ?_⟩
  · rw [hserves.resolveAny_error_iff, forall_lacks_iff]
  · obtain ⟨kind, found, hleads, hfound, hresult⟩ := hserves.resolveAny_of_usable hlocale
    exact ⟨kind, found, hleads, firstWith_eq_some_iff.mp hfound, hresult, hlocale.firstWith_eq_iff hfound⟩

/-- Data of all kinds for `pt`, and of these kinds for `pt-BR`. -/
def brazilian (kinds : List DataKind) : Backend where
  hasData locale kind := locale == "pt" || locale == "pt-BR" && kinds.contains kind
  available := ["pt-BR", "pt"]
  answer _ _ := .error (.value "no data")

theorem chain_brazilian : chain "pt_BR" "en" = ["pt-BR", "pt", "en"] := rfl

/-- Plurals lead, and the most specific locale has them. -/
theorem resolveAny_earliest_plural :
    IsEarliest (Usable (brazilian [.plural])) (chain "pt_BR" "en") "pt-BR" ∧
    ((Resolver.build (brazilian [.plural]) "pt_BR" "en").after [.kind .currency]).resolveAny.result =
      .ok "pt-BR" := by
  have hearliest : IsEarliest (Usable (brazilian [.plural])) (chain "pt_BR" "en") "pt-BR" :=
    ⟨[], ["pt", "en"], chain_brazilian, ⟨.plural, by decide⟩, by simp⟩
  obtain ⟨kind, found, ⟨hreaches, -⟩, -, hresult, hfound⟩ :=
    (resolveAny_earliest (brazilian [.plural]) "pt_BR" "en" [.kind .currency]).2 _ hearliest
  have hplural : ¬ Lacks (brazilian [.plural]) (chain "pt_BR" "en") .plural := by
    rw [chain_brazilian]
    exact fun h => absurd (h "pt-BR" (by simp)) (by decide)
  obtain rfl : kind = .plural := (reaches_cons.mp hreaches).resolve_right fun h => hplural h.1
  exact ⟨hearliest, hfound.mpr (by decide) ▸ hresult⟩

/-- The most specific locale has data of dates alone, and a less specific one is found. -/
theorem resolveAny_passes_over :
    chain "pt_BR" "en" = ["pt-BR", "pt", "en"] ∧ Usable (brazilian [.date]) "pt-BR" ∧
    IsEarliest (Usable (brazilian [.date])) (chain "pt_BR" "en") "pt-BR" ∧
    (Resolver.build (brazilian [.date]) "pt_BR" "en").resolveAny.result = .ok "pt" := by
  have husable : Usable (brazilian [.date]) "pt-BR" := ⟨.date, by decide⟩
  refine ⟨chain_brazilian, husable, ⟨[], ["pt", "en"], chain_brazilian, husable, by simp⟩, ?_⟩
  rw [Resolver.resolveAny, ((Resolver.serves_build _ _ _).resolveFirst _).1, chain_brazilian]
  rfl

end MessageFormat.Locale

import MessageFormat.Proofs.Locale.Fallback
import MessageFormat.Proofs.Text.Words

/-!
A resolver's history. Whatever it was asked, it answers from the chain, and it warns once of each kind of data
that it found elsewhere than at the first identifier of the chain.
-/

set_option autoImplicit false

namespace MessageFormat

theorem DataKind.text_inj {k l : DataKind} (h : k.text = l.text) : k = l := by
  cases k <;> cases l <;> first | rfl | exact absurd h (by decide)

namespace Locale

variable {backend : Backend} {requested fallback : String} {kind : DataKind}

/-- These kinds are looked up in turn until the chain has data of one. -/
def Reaches (backend : Backend) (locales : List String) (kinds : List DataKind) (kind : DataKind) : Prop :=
  ∃ before after, kinds = before ++ kind :: after ∧ ∀ k ∈ before, Lacks backend locales k

theorem reaches_nil {locales : List String} : ¬ Reaches backend locales [] kind := by
  rintro ⟨before, after, h, -⟩
  cases before <;> cases h

theorem reaches_cons {locales : List String} {k : DataKind} {kinds : List DataKind} :
    Reaches backend locales (k :: kinds) kind ↔
      kind = k ∨ Lacks backend locales k ∧ Reaches backend locales kinds kind := by
  constructor
  · rintro ⟨before, after, h, hbefore⟩
    cases before with
    | nil => exact .inl (List.cons.inj h).1.symm
    | cons first before =>
      obtain ⟨rfl, hkinds⟩ := List.cons.inj h
      obtain ⟨hfirst, hbefore⟩ := List.forall_mem_cons.mp hbefore
      exact .inr ⟨hfirst, before, after, hkinds, hbefore⟩
  · rintro (rfl | ⟨hlacks, before, after, rfl, hbefore⟩)
    · exact ⟨[], kinds, rfl, by simp⟩
    · exact ⟨k :: before, after, rfl, List.forall_mem_cons.mpr ⟨hlacks, hbefore⟩⟩

namespace Resolver

/-! Warnings. -/

/-- The words that a warning about a kind of data starts with. -/
def opening (requested : String) (kind : DataKind) : String :=
  s!"Locale '{requested}' has no {kind.text} data; using '"

def warning (requested : String) (kind : DataKind) (locale : String) : String :=
  opening requested kind ++ locale ++ "'"

def isAbout (requested : String) (kind : DataKind) (text : String) : Bool :=
  (opening requested kind).toList.isPrefixOf text.toList

theorem toList_opening (requested : String) (kind : DataKind) :
    (opening requested kind).toList =
      ("Locale '".toList ++ requested.toList ++ "' has no ".toList) ++
        (kind.text.toList ++ ' ' :: "data; using '".toList) := by
  show ("Locale '" ++ requested ++ "' has no " ++ kind.text ++ " data; using '").toList = _
  simp

/-- A warning tells which kind it is about, since no kind's name has a blank. -/
theorem isAbout_warning (requested locale : String) (k l : DataKind) :
    isAbout requested k (warning requested l locale) = decide (k = l) := by
  have hname (kind : DataKind) : ' ' ∉ kind.text.toList := by cases kind <;> decide
  rw [isAbout, warning, Bool.eq_iff_iff, decide_eq_true_iff, List.isPrefixOf_iff_prefix, String.toList_append,
    String.toList_append]
  constructor
  · rintro ⟨rest, hrest⟩
    simp only [toList_opening, List.append_assoc, List.append_cancel_left_eq, List.cons_append] at hrest
    have hcut := congrArg (Text.cut ' ') hrest
    rw [Text.cut_append (hname k), Text.cut_append (hname l)] at hcut
    exact DataKind.text_inj (String.toList_inj.mp (Prod.mk.inj hcut).1)
  · rintro rfl
    rw [List.append_assoc]
    exact List.prefix_append _ _

/-- The warning that is due where a kind's data is found, but not at the first identifier. -/
def due (requested : String) (locales : List String) (kind : DataKind) (found : Option String) : List String :=
  match found with
  | none => []
  | some locale => if locales.head? = some locale then [] else [warning requested kind locale]

theorem warningsFor_eq (r : Resolver) (kind : DataKind) (found : Option String) :
    r.warningsFor kind found = due r.requested r.chain kind found := by
  cases found <;> rfl

theorem filter_due (requested : String) (locales : List String) (found : Option String) (k l : DataKind) :
    (due requested locales k found).filter (isAbout requested l) =
      if l = k then due requested locales k found else [] := by
  cases found with
  | none => simp [due]
  | some locale =>
    unfold due
    by_cases hfirst : locales.head? = some locale
    · simp [hfirst]
    · by_cases h : l = k <;> simp [hfirst, h, isAbout_warning]

theorem isAbout_of_mem_due {locales : List String} {found : Option String} {text : String}
    (h : text ∈ due requested locales kind found) : isAbout requested kind text = true := by
  have hall := filter_due requested locales found kind kind
  rw [if_pos rfl, List.filter_eq_self] at hall
  exact hall text h

/-! Looking kinds up. -/

def Knows (r : Resolver) (kind : DataKind) : Prop := r.known? kind ≠ none

/-- From one resolver to another these kinds were looked up, with these warnings: what is due for each of the kinds
that was not known, and nothing else. -/
structure LooksUp (backend : Backend) (requested fallback : String) (r : Resolver) (kinds : DataKind → Prop)
    (warnings : List String) (r' : Resolver) : Prop where
  knows_iff : ∀ kind, r'.Knows kind ↔ r.Knows kind ∨ kinds kind
  fresh : ∀ kind, kinds kind → ¬ r.Knows kind → warnings.filter (isAbout requested kind) =
    due requested (Locale.chain requested fallback) kind
      (backend.firstWith kind (Locale.chain requested fallback))
  quiet : ∀ kind, r.Knows kind ∨ ¬ kinds kind → warnings.filter (isAbout requested kind) = []
  about : ∀ text ∈ warnings, ∃ kind, isAbout requested kind text = true

namespace LooksUp

variable {r r' r'' : Resolver} {kinds kinds' : DataKind → Prop} {warnings warnings' : List String}

theorem nothing (r : Resolver) : LooksUp backend requested fallback r (fun _ => False) [] r :=
  ⟨by simp, fun _ h => h.elim, fun _ _ => rfl, by simp⟩

theorem congr (h : LooksUp backend requested fallback r kinds warnings r')
    (hkinds : ∀ kind, kinds kind ↔ kinds' kind) :
    LooksUp backend requested fallback r kinds' warnings r' := by
  rwa [← funext fun kind => propext (hkinds kind)]

/-- What is known after the first run is not warned of in the second. -/
theorem trans (h : LooksUp backend requested fallback r kinds warnings r')
    (h' : LooksUp backend requested fallback r' kinds' warnings' r'') :
    LooksUp backend requested fallback r (fun kind => kinds kind ∨ kinds' kind) (warnings ++ warnings') r'' where
  knows_iff kind := by rw [h'.knows_iff, h.knows_iff, or_assoc]
  fresh kind hkind hnew := by
    rw [List.filter_append]
    by_cases hfirst : kinds kind
    · rw [h.fresh kind hfirst hnew, h'.quiet kind (.inl ((h.knows_iff kind).mpr (.inr hfirst))), List.append_nil]
    · have hnew' : ¬ r'.Knows kind := by simp [h.knows_iff, hnew, hfirst]
      rw [h.quiet kind (.inr hfirst), h'.fresh kind (hkind.resolve_left hfirst) hnew', List.nil_append]
  quiet kind hkind := by
    rw [List.filter_append]
    rcases hkind with hknown | hnone
    · rw [h.quiet kind (.inl hknown), h'.quiet kind (.inl ((h.knows_iff kind).mpr (.inl hknown))), List.append_nil]
    · rw [not_or] at hnone
      rw [h.quiet kind (.inr hnone.1), h'.quiet kind (.inr hnone.2), List.append_nil]
  about text htext := (List.mem_append.mp htext).elim (h.about text) (h'.about text)

end LooksUp

theorem known?_append (r : Resolver) (found : Option String) (k l : DataKind) :
    ({ r with known := r.known ++ [(k, found)] } : Resolver).known? l =
      (r.known? l).or (if k = l then some found else none) := by
  simp only [known?, List.find?_append, Option.map_or]
  congr 1
  by_cases h : k = l <;> simp [h]

namespace Serves

variable {r : Resolver}

theorem looksUp_resolve (h : Serves backend requested fallback r) (kind : DataKind) :
    LooksUp backend requested fallback r (· = kind) (r.resolve kind).warnings (r.resolve kind).resolver := by
  unfold Resolver.resolve
  split
  · rename_i found hknown
    have hknows : r.Knows kind := by simp [Knows, hknown]
    refine ⟨fun k => ⟨.inl, ?_⟩, ?_, fun _ _ => rfl, by simp⟩
    · rintro (hk | rfl)
      · exact hk
      · exact hknows
    · rintro k rfl hnew
      exact absurd hknows hnew
  · rename_i hnew
    have hfound : r.backend.firstWith kind r.chain =
        backend.firstWith kind (Locale.chain requested fallback) := by
      rw [h.backend_eq, h.chain_eq]
    have hwarnings : r.warningsFor kind (r.backend.firstWith kind r.chain) =
        due requested (Locale.chain requested fallback) kind
          (backend.firstWith kind (Locale.chain requested fallback)) := by
      rw [warningsFor_eq, hfound, h.requested_eq, h.chain_eq]
    dsimp only
    rw [hwarnings]
    refine ⟨fun k => ?_, ?_, fun k hk => ?_, fun text htext => ⟨kind, isAbout_of_mem_due htext⟩⟩
    · rw [Knows, Knows, known?_append]
      by_cases hk : kind = k
      · simp [hk]
      · simp [hk, Ne.symm hk]
    · rintro k rfl -
      rw [filter_due, if_pos rfl]
    · rw [filter_due, if_neg]
      rintro rfl
      simp [Knows, hnew] at hk

theorem looksUp_resolveFirst (h : Serves backend requested fallback r) (kinds : List DataKind) :
    LooksUp backend requested fallback r (Reaches backend (Locale.chain requested fallback) kinds)
      (r.resolveFirst kinds).warnings (r.resolveFirst kinds).resolver := by
  induction kinds generalizing r with
  | nil => exact (LooksUp.nothing r).congr fun kind => iff_of_false id reaches_nil
  | cons k kinds ih =>
    obtain ⟨hresult, hserves⟩ := h.resolve k
    have hone := h.looksUp_resolve k
    cases hfound : (r.resolve k).result with
    | some locale =>
      rw [resolveFirst_of_some hfound]
      refine hone.congr fun kind => ?_
      have hdata : ¬ Lacks backend (Locale.chain requested fallback) k := by
        rw [← firstWith_eq_none_iff, ← hresult, hfound]
        exact Option.some_ne_none locale
      rw [reaches_cons, or_iff_left fun hboth => hdata hboth.1]
    | none =>
      rw [resolveFirst_of_none hfound]
      refine (hone.trans (ih hserves)).congr fun kind => ?_
      have hlacks : Lacks backend (Locale.chain requested fallback) k :=
        firstWith_eq_none_iff.mp (hresult.symm.trans hfound)
      rw [reaches_cons, and_iff_right hlacks]

end Serves

/-! Runs. -/

/-- A query looks these kinds up. -/
def Query.Asks (backend : Backend) (locales : List String) : Query → DataKind → Prop
  | .kind k, kind => kind = k
  | .any, kind => Reaches backend locales DataKind.all kind

/-- The warnings that come of all queries. -/
def warned (r : Resolver) : List Query → List String
  | [] => []
  | .kind kind :: queries => (r.resolve kind).warnings ++ (r.resolve kind).resolver.warned queries
  | .any :: queries => r.resolveAny.warnings ++ r.resolveAny.resolver.warned queries

theorem Serves.looksUp_after {r : Resolver} (h : Serves backend requested fallback r) (queries : List Query) :
    LooksUp backend requested fallback r
      (fun kind => ∃ query ∈ queries, query.Asks backend (Locale.chain requested fallback) kind)
      (r.warned queries) (r.after queries) := by
  induction queries generalizing r with
  | nil => exact (LooksUp.nothing r).congr (by simp)
  | cons query queries ih =>
    cases query with
    | kind kind =>
      exact ((h.looksUp_resolve kind).trans (ih (h.resolve kind).2)).congr fun k => by simp [Query.Asks]
    | any =>
      exact ((h.looksUp_resolveFirst DataKind.all).trans (ih (h.resolveFirst DataKind.all).2)).congr
        fun k => by simp [Query.Asks]

/-- One of the queries looked the kind up, and its data was found at this identifier, which is not the first
one. -/
def FoundElsewhere (backend : Backend) (requested fallback : String) (queries : List Query) (kind : DataKind)
    (locale : String) : Prop :=
  (∃ query ∈ queries, query.Asks backend (Locale.chain requested fallback) kind) ∧
    (Locale.chain requested fallback).find? (backend.hasData · kind) = some locale ∧
    (Locale.chain requested fallback).head? ≠ some locale

end Resolver

/-- Whatever a resolver was asked before, a kind of data is found at the first identifier of the chain that has it,
or nowhere if none has. Of all warnings one is about each kind that was looked up and found elsewhere than at the
first identifier of the chain, and none is about another kind, or about none. -/
theorem resolve_whatever_asked (backend : Backend) (requested fallback : String) (queries : List Resolver.Query) :
    (∀ kind, (((Resolver.build backend requested fallback).after queries).resolve kind).result =
      (chain requested fallback).find? (backend.hasData · kind)) ∧
    (∀ kind locale, Resolver.FoundElsewhere backend requested fallback queries kind locale →
      ((Resolver.build backend requested fallback).warned queries).filter (Resolver.isAbout requested kind) =
        [Resolver.warning requested kind locale]) ∧
    (∀ kind, (∀ locale, ¬ Resolver.FoundElsewhere backend requested fallback queries kind locale) →
      ((Resolver.build backend requested fallback).warned queries).filter (Resolver.isAbout requested kind) = []) ∧
    (∀ text ∈ (Resolver.build backend requested fallback).warned queries,
      ∃ kind, Resolver.isAbout requested kind text = true) := by
  have hserves := Resolver.serves_build backend requested fallback
  have hrun := hserves.looksUp_after queries
  have hnew (kind : DataKind) : ¬ (Resolver.build backend requested fallback).Knows kind := fun h => h rfl
  refine ⟨fun kind => ((hserves.after queries).resolve kind).1, fun kind locale hkind => ?_, fun kind hkind => ?_,
    hrun.about⟩
  · obtain ⟨hasked, hfound, hother⟩ := hkind
    rw [hrun.fresh kind hasked (hnew kind), Backend.firstWith, hfound]
    exact if_neg hother
  · by_cases hasked : ∃ query ∈ queries, query.Asks backend (chain requested fallback) kind
    · rw [hrun.fresh kind hasked (hnew kind), Backend.firstWith]
      cases hfound : (chain requested fallback).find? (backend.hasData · kind) with
      | none => rfl
      | some locale => exact if_pos (not_not.mp fun hother => hkind locale ⟨hasked, hfound, hother⟩)
    · exact hrun.quiet kind (.inr hasked)

/-- Numbers are asked for twice, and plurals, but no dates, are looked up when any data is asked for. -/
theorem resolve_whatever_asked_twice :
    Resolver.FoundElsewhere onlyEnglish "en-GB" "en" [.kind .number, .any, .kind .number] .number "en" ∧
    (∀ locale, ¬ Resolver.FoundElsewhere onlyEnglish "en-GB" "en" [.kind .number, .any, .kind .number] .date
      locale) ∧
    ((Resolver.build onlyEnglish "en-GB" "en").warned [.kind .number, .any, .kind .number]).filter
      (Resolver.isAbout "en-GB" .number) = ["Locale 'en-GB' has no number data; using 'en'"] ∧
    ((Resolver.build onlyEnglish "en-GB" "en").warned [.kind .number, .any, .kind .number]).filter
      (Resolver.isAbout "en-GB" .date) = [] := by
  have hchain : chain "en-GB" "en" = ["en-GB", "en"] := rfl
  have hnumber :
      Resolver.FoundElsewhere onlyEnglish "en-GB" "en" [.kind .number, .any, .kind .number] .number "en" := by
    rw [Resolver.FoundElsewhere, hchain]
    exact ⟨⟨.kind .number, List.mem_cons_self, rfl⟩, by decide, by decide⟩
  have hdate (locale : String) :
      ¬ Resolver.FoundElsewhere onlyEnglish "en-GB" "en" [.kind .number, .any, .kind .number] .date locale := by
    rw [Resolver.FoundElsewhere, hchain]
    rintro ⟨⟨query, hquery, hasks⟩, -⟩
    have hplural : ¬ Lacks onlyEnglish ["en-GB", "en"] .plural := fun h => absurd (h "en" (by simp)) (by decide)
    cases query with
    | kind kind =>
      obtain rfl : kind = .number := by simpa using hquery
      cases hasks
    | any =>
      rcases reaches_cons.mp hasks with h | ⟨h, -⟩
      · cases h
      · exact hplural h
  obtain ⟨-, htold, hquiet, -⟩ :=
    resolve_whatever_asked onlyEnglish "en-GB" "en" [.kind .number, .any, .kind .number]
  exact ⟨hnumber, hdate, htold .number "en" hnumber, hquiet .date hdate⟩

end Locale
end MessageFormat

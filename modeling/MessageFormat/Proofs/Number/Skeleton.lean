import MessageFormat.Proofs.Number.Token
import MessageFormat.Proofs.Text.Words

/-!
A skeleton writes its tokens into a spec one after the other, and of two tokens that write one field the later
one counts. So no field depends on tokens that do not write it.
-/

set_option autoImplicit false

namespace MessageFormat.Number

/-- The fields of a spec that tokens can write. -/
inductive Field where
  | form | sign | grouping | minInteger | maxInteger | minFraction | maxFraction | minSignificant
  | maxSignificant | scale | percent | permille | ordinal | currency | currencyDisplay | unit | unitWidth
  | pattern | precision
deriving DecidableEq, Repr

/-- What stands in a field. -/
def Field.Content : Field → Type
  | .form => Notation
  | .sign => SignDisplay
  | .grouping => Grouping
  | .minInteger => Nat
  | .maxInteger | .minFraction | .maxFraction | .minSignificant | .maxSignificant => Option Nat
  | .scale => Decimal
  | .percent | .permille | .ordinal => Bool
  | .currency | .unit | .pattern => Option String
  | .currencyDisplay => CurrencyDisplay
  | .unitWidth => UnitWidth
  | .precision => PrecisionSource

def Spec.get (s : Spec) : (field : Field) → field.Content
  | .form => s.form
  | .sign => s.sign
  | .grouping => s.grouping
  | .minInteger => s.minInteger
  | .maxInteger => s.maxInteger
  | .minFraction => s.minFraction
  | .maxFraction => s.maxFraction
  | .minSignificant => s.minSignificant
  | .maxSignificant => s.maxSignificant
  | .scale => s.scale
  | .percent => s.percent
  | .permille => s.permille
  | .ordinal => s.ordinal
  | .currency => s.currency
  | .currencyDisplay => s.currencyDisplay
  | .unit => s.unit
  | .unitWidth => s.unitWidth
  | .pattern => s.pattern
  | .precision => s.precision

/-- What a token writes into a field, if it writes it. -/
def Token.written : Token → (field : Field) → Option field.Content
  | .sign display, .sign => some display
  | .grouping policy, .grouping => some policy
  | .form kind, .form => some kind
  | .width u _, .unitWidth => some u
  | .width _ c, .currencyDisplay => some c
  | .currencyDisplay display, .currencyDisplay => some display
  | .percent, .percent => some true
  | .percent, .permille => some false
  | .percentScaled, .percent => some true
  | .percentScaled, .permille => some false
  | .percentScaled, .scale => some (Decimal.ofNat 100)
  | .permille, .percent => some false
  | .permille, .permille => some true
  | .ordinal, .ordinal => some true
  | .fraction least _, .minFraction => some (some least)
  | .fraction _ most, .maxFraction => some (some most)
  | .fraction .., .precision => some PrecisionSource.skeleton
  | .significant least _, .minSignificant => some (some least)
  | .significant _ most, .maxSignificant => some (some most)
  | .significant .., .precision => some PrecisionSource.skeleton
  | .minInteger least, .minInteger => some least
  | .integerWidth least _, .minInteger => some least
  | .integerWidth _ most, .maxInteger => some most
  | .currency code, .currency => some (some code)
  | .unit id, .unit => some (some id)
  | .scale factor, .scale => some factor
  | _, _ => none

namespace Spec

theorem eq_of_get {s t : Spec} (h : ∀ field, s.get field = t.get field)
    (hunrecognized : s.unrecognized = t.unrecognized) : s = t := by
  obtain ⟨⟩ := s
  obtain ⟨⟩ := t
  rw [mk.injEq]
  exact ⟨h .form, h .sign, h .grouping, h .minInteger, h .maxInteger, h .minFraction, h .maxFraction,
    h .minSignificant, h .maxSignificant, h .scale, h .percent, h .permille, h .ordinal, h .currency,
    h .currencyDisplay, h .unit, h .unitWidth, h .pattern, h .precision, hunrecognized⟩

theorem get_unrecognized (s : Spec) (tokens : List String) (field : Field) :
    ({ s with unrecognized := tokens } : Spec).get field = s.get field := by
  cases field <;> rfl

theorem get_write (s : Spec) (token : Token) (field : Field) :
    (token.write s).get field = (token.written field).getD (s.get field) := by
  cases token <;> cases field <;> rfl

theorem unrecognized_write (s : Spec) (token : Token) :
    (token.write s).unrecognized = s.unrecognized := by
  cases token <;> rfl

/-- What a word writes into a field, if it is a token that writes it. -/
def writtenBy (field : Field) (word : List Char) : Option field.Content :=
  (Token.read? word).bind (Token.written · field)

theorem get_readWord (s : Spec) (word : List Char) (field : Field) :
    (s.readWord word).get field = (writtenBy field word).getD (s.get field) := by
  unfold readWord writtenBy
  cases Token.read? word with
  | some token => exact get_write s token field
  | none => cases field <;> rfl

theorem unrecognized_readWord (s : Spec) (word : List Char) :
    (s.readWord word).unrecognized =
      s.unrecognized ++ if (Token.read? word).isNone then [String.ofList word] else [] := by
  unfold readWord
  cases Token.read? word with
  | some token => simpa using unrecognized_write s token
  | none => rfl

/-- The last of these words that writes a field settles it. -/
theorem get_foldl (words : List (List Char)) (s : Spec) (field : Field) :
    (words.foldl readWord s).get field =
      ((words.filterMap (writtenBy field)).getLast?).getD (s.get field) := by
  induction words generalizing s with
  | nil => rfl
  | cons word words ih =>
    rw [List.foldl_cons, ih, get_readWord, List.filterMap_cons]
    cases writtenBy field word with
    | none => rfl
    | some content => rw [List.getLast?_cons, Option.getD_some, Option.getD_some]

theorem unrecognized_foldl (words : List (List Char)) (s : Spec) :
    (words.foldl readWord s).unrecognized =
      s.unrecognized ++ (words.filter fun word => (Token.read? word).isNone).map String.ofList := by
  induction words generalizing s with
  | nil => exact (List.append_nil _).symm
  | cons word words ih =>
    rw [List.foldl_cons, ih, unrecognized_readWord, List.filter_cons]
    split <;> simp

theorem get_ofSkeleton (s : List Char) (field : Field) :
    (ofSkeleton s).get field =
      (((skeletonWords s).filterMap (writtenBy field)).getLast?).getD (({} : Spec).get field) :=
  get_foldl _ _ _

theorem unrecognized_ofSkeleton (s : List Char) :
    (ofSkeleton s).unrecognized =
      ((skeletonWords s).filter fun word => (Token.read? word).isNone).map String.ofList :=
  unrecognized_foldl _ _

/-- The words that are tokens. -/
def understood (words : List (List Char)) : List (List Char) :=
  words.filter fun word => (Token.read? word).isSome

theorem filterMap_understood (words : List (List Char)) (field : Field) :
    (understood words).filterMap (writtenBy field) = words.filterMap (writtenBy field) := by
  rw [understood, List.filterMap_filter]
  congr 1
  funext word
  rw [writtenBy]
  cases Token.read? word <;> rfl

section Changes

variable {s s' : List Char}

/-- If what is written into each field stays, all fields stay. -/
theorem ofSkeleton_congr (h : ∀ field, (skeletonWords s').filterMap (writtenBy field) =
      (skeletonWords s).filterMap (writtenBy field)) :
    ofSkeleton s' = { ofSkeleton s with unrecognized := (ofSkeleton s').unrecognized } := by
  refine eq_of_get (fun field => ?_) rfl
  refine Eq.trans ?_ (get_unrecognized (ofSkeleton s) _ field).symm
  rw [get_ofSkeleton, get_ofSkeleton, h]

/-- Words change places past words that write nothing where they do. -/
theorem filterMap_swap {α β : Type} {f : α → Option β} {a b : α} {middle : List α}
    (ha : f a = none ∨ ∀ w ∈ b :: middle, f w = none)
    (hb : f b = none ∨ ∀ w ∈ a :: middle, f w = none) (before after : List α) :
    (before ++ b :: (middle ++ a :: after)).filterMap f =
      (before ++ a :: (middle ++ b :: after)).filterMap f := by
  have hsilent (h : ∀ w ∈ middle, f w = none) : middle.filterMap f = [] :=
    List.filterMap_eq_nil_iff.mpr h
  simp only [List.forall_mem_cons] at ha hb
  rcases ha with ha | ⟨hb', hmiddle⟩
  · rcases hb with hb | ⟨-, hmiddle⟩
    · simp [ha, hb]
    · simp [List.filterMap_cons, ha, hsilent hmiddle]
  · simp [List.filterMap_cons, hb', hsilent hmiddle]

/-- No field that the first word writes is written by one of these. -/
def Apart (word : List Char) (others : List (List Char)) : Prop :=
  ∀ field, writtenBy field word = none ∨ ∀ other ∈ others, writtenBy field other = none

variable {before middle after : List (List Char)} {a b : List Char}
  (hs : skeletonWords s = before ++ a :: (middle ++ b :: after))
  (hs' : skeletonWords s' = before ++ b :: (middle ++ a :: after))
include hs hs'

theorem ofSkeleton_swap (ha : Apart a (b :: middle)) (hb : Apart b (a :: middle)) :
    ofSkeleton s' = { ofSkeleton s with unrecognized := (ofSkeleton s').unrecognized } :=
  ofSkeleton_congr fun field => by rw [hs, hs', filterMap_swap (ha field) (hb field)]

theorem unrecognized_swap (ha : Token.read? a ≠ none) (hb : Token.read? b ≠ none) :
    (ofSkeleton s').unrecognized = (ofSkeleton s).unrecognized := by
  rw [unrecognized_ofSkeleton, unrecognized_ofSkeleton, hs, hs']
  simp [List.filter_append, ha, hb]

end Changes

/-- The words are what stands between blanks after the colons in front, if there are any. -/
theorem parted_skeletonWords (s : List Char) : ∃ body,
    (Text.trim s = [':', ':'] ++ body ∨ Text.trim s = body ∧ ¬ [':', ':'] <+: body) ∧
      Text.Parted body (skeletonWords s) := by
  have hwords : skeletonWords s =
      Text.words ((Text.strip? [':', ':'] (Text.trim s)).getD (Text.trim s)) := rfl
  by_cases hcolons : [':', ':'] <+: Text.trim s
  · obtain ⟨body, hbody⟩ := hcolons
    have hprefix : [':', ':'].isPrefixOf (Text.trim s) = true :=
      List.isPrefixOf_iff_prefix.mpr ⟨body, hbody⟩
    refine ⟨body, .inl hbody.symm, ?_⟩
    rw [hwords, Text.strip?, if_pos hprefix, Option.getD_some, ← hbody]
    exact Text.parted_words body
  · have hprefix : ¬ [':', ':'].isPrefixOf (Text.trim s) = true :=
      fun h => hcolons (List.isPrefixOf_iff_prefix.mp h)
    refine ⟨Text.trim s, .inr ⟨rfl, hcolons⟩, ?_⟩
    rw [hwords, Text.strip?, if_neg hprefix, Option.getD_none]
    exact Text.parted_words _

/-- What a skeleton is read as. Its words are those of the text without colons in front, and a word is a
token just as it is spelled. The other words are recorded, in order. Each field has what the last token writes
that writes it, or else its default. So no field depends on words that are no tokens, and tokens change places
without a trace if neither writes what the other one or a word between them does. -/
theorem ofSkeleton_last_written (s : List Char) :
    (∃ body, (Text.trim s = [':', ':'] ++ body ∨ Text.trim s = body ∧ ¬ [':', ':'] <+: body) ∧
      Text.Parted body (skeletonWords s)) ∧
    (∀ word token, Token.read? word = some token ↔ Token.Spells word token) ∧
    (ofSkeleton s).unrecognized =
      ((skeletonWords s).filter fun word => (Token.read? word).isNone).map String.ofList ∧
    (∀ field, (ofSkeleton s).get field =
      (((skeletonWords s).filterMap (writtenBy field)).getLast?).getD (({} : Spec).get field)) ∧
    (∀ s', understood (skeletonWords s') = understood (skeletonWords s) →
      ofSkeleton s' = { ofSkeleton s with unrecognized := (ofSkeleton s').unrecognized }) ∧
    ∀ s' before a middle b after, skeletonWords s = before ++ a :: (middle ++ b :: after) →
      skeletonWords s' = before ++ b :: (middle ++ a :: after) →
      Apart a (b :: middle) → Apart b (a :: middle) →
      ofSkeleton s' = { ofSkeleton s with unrecognized := (ofSkeleton s').unrecognized } ∧
      (Token.read? a ≠ none → Token.read? b ≠ none → ofSkeleton s' = ofSkeleton s) := by
  refine ⟨parted_skeletonWords s, fun _ _ => Token.read?_eq_some_iff, unrecognized_ofSkeleton s,
    get_ofSkeleton s, fun s' h => ofSkeleton_congr fun field => ?_,
    fun s' before a middle b after hs hs' ha hb =>
      ⟨ofSkeleton_swap hs hs' ha hb, fun hreada hreadb => ?_⟩⟩
  · rw [← filterMap_understood, h, filterMap_understood]
  · rw [ofSkeleton_swap hs hs' ha hb, unrecognized_swap hs hs' hreada hreadb]

/-- Of two tokens for shares the later one counts. A word that is no token may go, and tokens for other
fields may be moved. -/
theorem ofSkeleton_last_written_share : ∃ (s moved : List Char),
    s = "::percent bogus .00 permille".toList ∧ moved = "percent permille .00".toList ∧
    (ofSkeleton s).unrecognized = ["bogus"] ∧
    (ofSkeleton s).percent = false ∧ (ofSkeleton s).maxFraction = some 2 ∧
    ofSkeleton moved = { ofSkeleton s with unrecognized := (ofSkeleton moved).unrecognized } := by
  let s := "::percent bogus .00 permille".toList
  let kept := "percent .00 permille".toList
  let moved := "percent permille .00".toList
  obtain ⟨-, -, hunrecognized, -, hremoved, -⟩ := ofSkeleton_last_written s
  obtain ⟨-, -, -, -, -, hswapped⟩ := ofSkeleton_last_written kept
  have hmoved : ofSkeleton moved = ofSkeleton kept :=
    (hswapped moved ["percent".toList] ".00".toList [] "permille".toList [] (by decide +kernel)
      (by decide +kernel) (fun field => by cases field <;> decide +kernel)
      (fun field => by cases field <;> decide +kernel)).2 (by decide +kernel) (by decide +kernel)
  refine ⟨s, moved, rfl, rfl, hunrecognized.trans ?_, by decide +kernel, by decide +kernel, ?_⟩
  · decide +kernel
  · rw [hmoved]
    exact hremoved kept (by decide +kernel)

end Spec
end MessageFormat.Number

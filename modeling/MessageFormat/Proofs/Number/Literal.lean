import MessageFormat.Proofs.Decimal.Value
import MessageFormat.Proofs.Number.Coherence

/-!
When nothing of a skeleton counts as understood. This is told by the fields of the spec, so it is also told of
tokens that leave every field as it is by default; each of them is of a kind that a later token can take back.
-/

set_option autoImplicit false

namespace MessageFormat.Number

open Spec (LastWrites skeletonWords ofSkeleton writtenBy)

/-- What stands in a field by default; of a scale only the value counts. -/
def Field.IsDefault : (field : Field) → field.Content → Prop
  | .scale, factor => Decimal.value factor = 1
  | field, content => content = ({} : Spec).get field

namespace Token

/-- A word that is no token. -/
def IsUnknown (word : List Char) : Prop := ∀ token, ¬ Spells word token

theorem isUnknown_iff {word : List Char} : IsUnknown word ↔ Token.read? word = none := by
  rw [Option.eq_none_iff_forall_ne_some]
  exact forall_congr' fun token => not_congr read?_eq_some_iff.symm

/-- Another token can bring back the default of each field that a token of this kind writes. -/
def isRevocable : Token → Bool
  | .sign _ | .grouping _ | .form _ | .width _ _ | .currencyDisplay _ | .minInteger _ | .integerWidth _ _
  | .scale _ | .neutral => true
  | _ => false

end Token

namespace Spec

variable {s : Spec} {text : List Char}

theorem isDefault_default (field : Field) : field.IsDefault (({} : Spec).get field) := by
  cases field with
  | scale => exact Decimal.value_one
  | _ => rfl

theorem writtenBy_of_isUnknown {word : List Char} (h : Token.IsUnknown word) (field : Field) :
    writtenBy field word = none := by
  rw [writtenBy, Token.isUnknown_iff.mp h, Option.bind_none]

theorem isPlain_iff : s.isPlain = true ↔ ∀ field : Field, field.IsDefault (s.get field) := by
  rw [isPlain, Bool.and_eq_true, Decimal.sameValue_iff, Decimal.value_one, beq_iff_eq]
  constructor
  · rintro ⟨hscale, hplain⟩ field
    have hget := congrArg (Spec.get · field) hplain
    cases field with
    | scale => exact hscale
    | _ => exact hget
  · intro h
    refine ⟨h .scale, eq_of_get (fun field => ?_) rfl⟩
    have hfield := h field
    cases field with
    | scale => rfl
    | _ => exact hfield

/-- A field has its default just if the last word that writes it, if there is one, writes the default. -/
theorem isDefault_get_iff (field : Field) : field.IsDefault ((ofSkeleton text).get field) ↔
    ∀ word, LastWrites (skeletonWords text) field word → ∀ content ∈ writtenBy field word,
      field.IsDefault content := by
  constructor
  · intro hdefault word hlast content hcontent
    obtain rfl := Option.some.inj ((get_of_lastWrites hlast).symm.trans hcontent)
    exact hdefault
  · intro hlast
    rcases lastWrites_or_none (skeletonWords text) field with ⟨word, hword⟩ | hnone
    · exact hlast word hword _ (get_of_lastWrites hword)
    · rw [get_of_none hnone]
      exact isDefault_default field

theorem isLiteralFallback_iff : (ofSkeleton text).isLiteralFallback = true ↔
    (∃ word ∈ skeletonWords text, Token.IsUnknown word) ∧
      ∀ field : Field, field.IsDefault ((ofSkeleton text).get field) := by
  have hunknown : (!(ofSkeleton text).unrecognized.isEmpty) = true ↔
      ∃ word ∈ skeletonWords text, Token.IsUnknown word := by
    simp [unrecognized_ofSkeleton, Token.isUnknown_iff]
  rw [isLiteralFallback, Bool.and_eq_true, hunknown, isPlain_iff]

/-! What cannot be taken back. -/

/-- Fields that no sequence of tokens brings back to their default, or not without leaving another one. -/
def lasting : List Field := [.percent, .ordinal, .minFraction, .minSignificant, .currency, .unit]

theorem exists_lasting {token : Token} (h : token.isRevocable = false) :
    ∃ field ∈ lasting, token.written field ≠ none := by
  cases token with
  | percent | percentScaled | permille => exact ⟨.percent, by decide, Option.some_ne_none _⟩
  | ordinal => exact ⟨.ordinal, by decide, Option.some_ne_none _⟩
  | fraction => exact ⟨.minFraction, by decide, Option.some_ne_none _⟩
  | significant => exact ⟨.minSignificant, by decide, Option.some_ne_none _⟩
  | currency => exact ⟨.currency, by decide, Option.some_ne_none _⟩
  | unit => exact ⟨.unit, by decide, Option.some_ne_none _⟩
  | _ => cases h

/-- Each token that writes a lasting field changes it, or another one that is only written with it: shares of a
hundred and of a thousand exclude each other, but there is always one of them. -/
theorem exists_changed {field : Field} (hfield : field ∈ lasting) {token : Token} (h : token.written field ≠ none) :
    ∃ (field' : Field) (content : field'.Content), (∀ {t : Token}, t.written field = none → t.written field' = none) ∧
      token.written field' = some content ∧ ¬ field'.IsDefault content := by
  have hself {content : field.Content} (hcontent : token.written field = some content)
      (hchanged : ¬ field.IsDefault content) : ∃ (field' : Field) (content : field'.Content),
        (∀ {t : Token}, t.written field = none → t.written field' = none) ∧
        token.written field' = some content ∧ ¬ field'.IsDefault content :=
    ⟨field, content, id, hcontent, hchanged⟩
  simp only [lasting, List.mem_cons, List.not_mem_nil, or_false] at hfield
  rcases hfield with rfl | rfl | rfl | rfl | rfl | rfl
  · have hshare {t : Token} (ht : t.written .percent = none) : t.written .permille = none := by
      cases t with
      | percent | percentScaled | permille => cases ht
      | _ => rfl
    cases token with
    | percent | percentScaled => exact hself rfl Bool.true_eq_false_eq_False
    | permille => exact ⟨.permille, true, hshare, rfl, Bool.true_eq_false_eq_False⟩
    | _ => exact absurd rfl h
  all_goals
    cases token <;> first | exact absurd rfl h | exact hself rfl nofun

/-- A token that is not of such a kind leaves a trace. -/
theorem isRevocable_of_isDefault (h : ∀ field : Field, field.IsDefault ((ofSkeleton text).get field))
    {word : List Char} (hword : word ∈ skeletonWords text) {token : Token} (hspells : Token.Spells word token) :
    token.isRevocable = true := by
  by_contra hlasting
  obtain ⟨field, hfield, hwrites⟩ := exists_lasting (Bool.eq_false_iff.mpr hlasting)
  have hwritten : writtenBy field word ≠ none := by
    rwa [writtenBy, Token.read?_eq_some_iff.mpr hspells, Option.bind_some]
  obtain ⟨last, hlast⟩ := (lastWrites_or_none (skeletonWords text) field).resolve_right
    fun hnone => hwritten (hnone word hword)
  obtain ⟨lastToken, -, hlastWrites, hget⟩ := token_of_lastWrites hlast
  obtain ⟨field', content, hfield', hcontent, hchanged⟩ := exists_changed hfield hlastWrites
  exact hchanged (hget field' content hfield' hcontent ▸ h field')

/-- Some of these words are tokens and some are not, and each field that tokens write is brought back to its
default by the last one. -/
structure Overlooks (words : List (List Char)) : Prop where
  unknown : ∃ word ∈ words, Token.IsUnknown word
  known : ∃ word ∈ words, ∃ token, Token.Spells word token
  default : ∀ (field : Field) (word : List Char), LastWrites words field word →
    ∀ content ∈ writtenBy field word, field.IsDefault content

/-- A skeleton counts as not understood if it has words and none of them is a token, and in one more case. The
tokens that are overlooked then are of kinds that others can take back: signs, grouping, notations, widths,
displays of currencies, integer digits, scales, and what writes nothing. -/
theorem isLiteralFallback_overlooks (text : List Char) :
    ((ofSkeleton text).isLiteralFallback = true ↔
      (skeletonWords text ≠ [] ∧ ∀ word ∈ skeletonWords text, Token.IsUnknown word) ∨
        Overlooks (skeletonWords text)) ∧
    (Overlooks (skeletonWords text) → ∀ word ∈ skeletonWords text, ∀ token, Token.Spells word token →
      token.isRevocable = true) := by
  constructor
  · rw [isLiteralFallback_iff]
    constructor
    · rintro ⟨⟨word, hword, hunknown⟩, hdefault⟩
      by_cases hknown : ∃ word ∈ skeletonWords text, ∃ token, Token.Spells word token
      · exact .inr ⟨⟨word, hword, hunknown⟩, hknown, fun field => (isDefault_get_iff field).mp (hdefault field)⟩
      · push Not at hknown
        exact .inl ⟨List.ne_nil_of_mem hword, hknown⟩
    · rintro (⟨hwords, hunknown⟩ | h)
      · obtain ⟨word, hword⟩ := List.exists_mem_of_ne_nil _ hwords
        refine ⟨⟨word, hword, hunknown word hword⟩, fun field => ?_⟩
        rw [get_of_none fun word hword => writtenBy_of_isUnknown (hunknown word hword) field]
        exact isDefault_default field
      · exact ⟨h.unknown, fun field => (isDefault_get_iff field).mpr (h.default field)⟩
  · exact fun h word hword token =>
      isRevocable_of_isDefault (fun field => (isDefault_get_iff field).mpr (h.default field)) hword

/-- A sign display that is the default is overlooked beside a word that is no token, and so is a scale that was
taken back. -/
theorem isLiteralFallback_beside_known :
    (∃ text : List Char, text = "bogus sign-auto".toList ∧ (ofSkeleton text).isLiteralFallback = true ∧
      "sign-auto".toList ∈ skeletonWords text ∧ Token.Spells "sign-auto".toList (.sign .auto)) ∧
    ∃ text : List Char, text = "scale/7 bogus scale/1.0".toList ∧
      (ofSkeleton text).isLiteralFallback = true ∧ "scale/7".toList ∈ skeletonWords text ∧
      Token.Spells "scale/7".toList (.scale ⟨false, 7, 0⟩) :=
  ⟨⟨_, rfl, by decide +kernel, by decide +kernel, Token.read?_eq_some_iff.mp (by decide +kernel)⟩,
    _, rfl, by decide +kernel, by decide +kernel, Token.read?_eq_some_iff.mp (by decide +kernel)⟩

end Spec
end MessageFormat.Number

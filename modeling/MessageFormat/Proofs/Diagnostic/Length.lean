import Mathlib.Algebra.Ring.Nat
import Mathlib.Tactic.SplitIfs
import MessageFormat.Diagnostic.Report
import MessageFormat.Diagnostic.Wording
import MessageFormat.Proofs.Decimal.Positional

/-!
How long a rendered diagnostic is when long texts are cut. One line has a limit. The other layouts cut some of their
texts only: the block its hint, the object its message and its hint.
-/

set_option autoImplicit false

namespace MessageFormat.Diagnostic

/-! Lengths of joined parts. -/

/-- What the parts take when each is followed by the separator. -/
def extent (separator : String) (parts : List String) : Nat :=
  (parts.map fun part => part.length + separator.length).sum

theorem extent_append (separator : String) (parts more : List String) :
    extent separator (parts ++ more) = extent separator parts + extent separator more := by
  simp [extent]

theorem extent_cons (separator part : String) (parts : List String) :
    extent separator (part :: parts) = part.length + separator.length + extent separator parts := by
  simp [extent]

theorem length_intercalate (separator : String) {parts : List String} (h : parts ≠ []) :
    (separator.intercalate parts).length + separator.length = extent separator parts := by
  rw [← String.length_toList, String.toList_intercalate]
  induction parts with
  | nil => exact absurd rfl h
  | cons part parts ih =>
    cases parts with
    | nil => simp [extent, List.intercalate, String.length_toList]
    | cons next parts =>
      have hrest := ih (List.cons_ne_nil next parts)
      rw [extent_cons, ← hrest]
      simp only [List.map_cons, List.intercalate_cons_cons, List.length_append, String.length_toList]
      omega

/-- The number of characters of a text that may be missing. -/
def textLength (text : Option String) : Nat := (text.map String.length).getD 0

theorem textLength_some (s : String) : textLength (some s) = s.length := rfl

theorem present_cases (text : Option String) : (present? text = none ∧ textLength text = 0) ∨
    ∃ t, present? text = some t ∧ textLength text = t.length := by
  cases text with
  | none => exact .inl ⟨rfl, rfl⟩
  | some t =>
    by_cases ht : t = ""
    · subst ht
      exact .inl ⟨rfl, rfl⟩
    · exact .inr ⟨t, by simp [present?, ht], rfl⟩

namespace Style

theorem length_cut_le (layout : Layout) (m : Nat) (s : String) :
    ((⟨layout, true, m⟩ : Style).cut s).length ≤ m + 3 := by
  unfold cut
  dsimp only
  split_ifs with h hm
  · rw [String.length_append, String.length_ofList, Int.toNat_natCast, List.length_take,
      show "...".length = 3 from rfl]
    omega
  · exact absurd (Int.natCast_nonneg m) hm
  · simp [String.length_toList] at h
    omega

end Style

/-! Texts with their labels. -/

def textsLength (texts : List (String × Option String)) : Nat := (texts.map fun p => textLength p.2).sum

theorem textsLength_cons (p : String × Option String) (texts : List (String × Option String)) :
    textsLength (p :: texts) = textLength p.2 + textsLength texts := by
  simp [textsLength]

/-- What holds for each text, that it takes its length at least, and six times that with some room at most, holds for
all together. -/
theorem extent_flatMap {separator : String} {write : String × Option String → List String}
    {room : String × Option String → Nat}
    (h : ∀ p, textLength p.2 ≤ extent separator (write p) ∧
      extent separator (write p) ≤ room p + 6 * textLength p.2) (texts : List (String × Option String)) :
    textsLength texts ≤ extent separator (texts.flatMap write) ∧
      extent separator (texts.flatMap write) ≤ (texts.map room).sum + 6 * textsLength texts := by
  induction texts with
  | nil => exact ⟨Nat.le_refl 0, Nat.le_refl 0⟩
  | cons p texts ih =>
    have hp := h p
    rw [List.flatMap_cons, extent_append, textsLength_cons, List.map_cons, List.sum_cons]
    omega

/-! Lines. -/

def placeLines (span : Option Span) : List String :=
  match span with
  | some s => [s!"  --> line {s.line}, column {s.column}"]
  | none => []

def fieldLines (p : String × Option String) : List String :=
  match present? p.2 with
  | some t => [s!"  = {p.1}: {t}"]
  | none => []

def blockTexts (style : Style) (d : Diagnostic) : List (String × Option String) :=
  [("tag", d.tagName), ("variable", d.variableName), ("construct", d.construct), ("locale", d.locale),
    ("help", (present? d.hint).map style.cut)]

theorem blockLines_eq (style : Style) (d : Diagnostic) :
    d.blockLines style =
      s!"error[{d.code.name}]: {d.message}" :: (placeLines d.span ++ (d.blockTexts style).flatMap fieldLines) := by
  simp only [blockTexts, List.flatMap_cons, List.flatMap_nil, List.append_nil, ← List.append_assoc]
  rfl

theorem extent_fieldLines (p : String × Option String) :
    textLength p.2 ≤ extent "\n" (fieldLines p) ∧
      extent "\n" (fieldLines p) ≤ (p.1.length + 7) + 6 * textLength p.2 := by
  rcases present_cases p.2 with ⟨hnone, hlength⟩ | ⟨t, hsome, hlength⟩
  · rw [fieldLines, hnone, hlength]
    simp [extent]
  · rw [fieldLines, hsome, hlength]
    show t.length ≤ extent "\n" ["  = " ++ p.1 ++ ": " ++ t] ∧ extent "\n" ["  = " ++ p.1 ++ ": " ++ t] ≤ _
    simp only [extent, List.map_cons, List.map_nil, List.sum_cons, List.sum_nil, String.length_append]
    rw [show "  = ".length = 4 from rfl, show ": ".length = 2 from rfl, show "\n".length = 1 from rfl]
    omega

/-! Fields. -/

/-- A control character is written by its number in four digits. -/
theorem length_jsonChar (c : Char) : 1 ≤ (jsonChar c).length ∧ (jsonChar c).length ≤ 6 := by
  have hnumber (hlow : c.toNat < 32) : (Text.padZeros 4 (Nat.toDigits 16 c.toNat)).length = 4 := by
    have hdigits : (Nat.toDigits 16 c.toNat).length ≤ 2 :=
      (Nat.length_toDigits_le_iff (by decide) (by decide)).mpr (by omega)
    rw [Decimal.length_padZeros]
    omega
  unfold jsonChar
  split_ifs <;> simp [*]

theorem length_jsonString (s : String) :
    s.length ≤ (jsonString s).length ∧ (jsonString s).length ≤ 6 * s.length + 2 := by
  rw [jsonString, String.length_ofList, ← String.length_toList]
  induction s.toList with
  | nil => simp
  | cons c s ih =>
    have hc := length_jsonChar c
    simp only [List.flatMap_cons, List.cons_append, List.length_cons, List.length_append, List.length_nil] at ih ⊢
    omega

def placeFields (span : Option Span) : List (String × String) :=
  match span with
  | some s => [("line", toString s.line), ("column", toString s.column), ("start", toString s.start),
      ("end", toString s.stop)]
  | none => []

def textField (p : String × Option String) : List (String × String) :=
  match present? p.2 with
  | some t => [(p.1, jsonString t)]
  | none => []

def jsonTexts (style : Style) (d : Diagnostic) : List (String × Option String) :=
  [("tag_name", d.tagName), ("variable_name", d.variableName), ("construct", d.construct), ("locale", d.locale),
    ("hint", (present? d.hint).map style.cut)]

def codeFields (code : Code) : List (String × String) :=
  [("code", jsonString code.name), ("code_value", toString code.number), ("category", jsonString code.category)]

theorem jsonFields_eq (style : Style) (d : Diagnostic) :
    d.jsonFields style = codeFields d.code ++ ("message", jsonString (style.cut d.message)) ::
      (placeFields d.span ++ (d.jsonTexts style).flatMap textField) := by
  simp only [jsonTexts, List.flatMap_cons, List.flatMap_nil, List.append_nil, ← List.append_assoc]
  rfl

/-- A field as it stands in an object. -/
def fieldText (p : String × String) : String := jsonString p.1 ++ ": " ++ p.2

theorem length_fieldText (p : String × String) :
    (fieldText p).length = (jsonString p.1).length + 2 + p.2.length := by
  rw [fieldText, String.length_append, String.length_append]
  rfl

theorem extent_textField (p : String × Option String) :
    textLength p.2 ≤ extent ", " ((textField p).map fieldText) ∧
      extent ", " ((textField p).map fieldText) ≤ ((jsonString p.1).length + 6) + 6 * textLength p.2 := by
  rcases present_cases p.2 with ⟨hnone, hlength⟩ | ⟨t, hsome, hlength⟩
  · rw [textField, hnone, hlength]
    simp [extent]
  · obtain ⟨hleast, hmost⟩ := length_jsonString t
    rw [textField, hsome, hlength]
    simp only [extent, List.map_cons, List.map_nil, List.sum_cons, List.sum_nil, length_fieldText]
    rw [show ", ".length = 2 from rfl]
    omega

theorem textLength_cut_le {style : Style} {n : Nat} (h : ∀ s, (style.cut s).length ≤ n) (text : Option String) :
    textLength ((present? text).map style.cut) ≤ n := by
  cases present? text with
  | none => exact Nat.zero_le n
  | some t => exact h t

/-! Renderings. -/

/-- The texts that a layout shows whole, however they are to be cut. -/
def uncut (d : Diagnostic) (layout : Layout) : List (Option String) :=
  let names := [d.tagName, d.variableName, d.construct, d.locale]
  match layout with
  | .block => some d.message :: names
  | .line => []
  | .json => names

def uncutLength (d : Diagnostic) (layout : Layout) : Nat := ((d.uncut layout).map textLength).sum

/-- The length of a rendering of the code and the span alone, with room for the labels of all other texts and for
two texts that are cut. -/
def lengthLimit (layout : Layout) (m : Nat) (code : Code) (span : Option Span) : Nat :=
  (({ layout } : Style).render { code, message := "", span }).length + 80 + 12 * (m + 3)

theorem length_render_block (style : Style) (d : Diagnostic) :
    ("\n".intercalate (d.blockLines style)).length + 1 =
      10 + d.code.name.length + d.message.length + extent "\n" (placeLines d.span) +
        extent "\n" ((d.blockTexts style).flatMap fieldLines) := by
  have hlines : d.blockLines style ≠ [] := by
    rw [blockLines_eq]
    exact List.cons_ne_nil _ _
  have hheader : ("error[" ++ d.code.name ++ "]: " ++ d.message).length =
      9 + d.code.name.length + d.message.length := by
    simp only [String.length_append]
    rw [show "error[".length = 6 from rfl, show "]: ".length = 3 from rfl]
    omega
  refine (length_intercalate "\n" hlines).trans ?_
  rw [blockLines_eq, extent_cons, extent_append]
  show ("error[" ++ d.code.name ++ "]: " ++ d.message).length + 1 + _ = _
  rw [hheader]
  omega

/-- The room for the labels of the block is 65. -/
theorem length_block (d : Diagnostic) (m : Nat) :
    d.uncutLength .block ≤ ((⟨.block, true, m⟩ : Style).render d).length ∧
      ((⟨.block, true, m⟩ : Style).render d).length ≤
        lengthLimit .block m d.code d.span + 6 * d.uncutLength .block := by
  have hd : ((⟨.block, true, m⟩ : Style).render d).length + 1 = _ := length_render_block ⟨.block, true, m⟩ d
  have hbare : (({ layout := .block } : Style).render { code := d.code, message := "", span := d.span }).length + 1 =
      10 + d.code.name.length + 0 + extent "\n" (placeLines d.span) + 0 :=
    length_render_block {} { code := d.code, message := "", span := d.span }
  have htexts := extent_flatMap extent_fieldLines (d.blockTexts ⟨.block, true, m⟩)
  have hroom : ((d.blockTexts ⟨.block, true, m⟩).map fun p => p.1.length + 7).sum = 65 := by
    simp only [blockTexts, List.map_cons, List.map_nil]
    rfl
  have hhint := textLength_cut_le (Style.length_cut_le .block m) d.hint
  have hlength : d.message.length + textsLength (d.blockTexts ⟨.block, true, m⟩) =
      d.uncutLength .block + textLength ((present? d.hint).map (⟨.block, true, m⟩ : Style).cut) := by
    simp only [textsLength, blockTexts, uncutLength, uncut, List.map_cons, List.map_nil, List.sum_cons, List.sum_nil,
      textLength_some]
    omega
  unfold lengthLimit
  omega

theorem length_line (d : Diagnostic) (m : Nat) :
    ((⟨.line, true, m⟩ : Style).render d).length ≤ lengthLimit .line m d.code d.span := by
  have hmessage := Style.length_cut_le .line m d.message
  have hd : ((⟨.line, true, m⟩ : Style).render d).length =
      (d.code.name ++ ": ").length + ((⟨.line, true, m⟩ : Style).cut d.message).length := String.length_append _ _
  have hbare : (({ layout := .line } : Style).render { code := d.code, message := "", span := d.span }).length =
      (d.code.name ++ ": ").length + 0 := String.length_append _ _
  unfold lengthLimit
  omega

theorem length_render_json (style : Style) (d : Diagnostic) :
    ("\x7b" ++ ", ".intercalate ((d.jsonFields style).map fieldText) ++ "\x7d").length =
      extent ", " ((codeFields d.code).map fieldText) + (jsonString (style.cut d.message)).length + 13 +
        extent ", " ((placeFields d.span).map fieldText) +
        extent ", " ((d.jsonTexts style).flatMap fun p => (textField p).map fieldText) := by
  have hfields : (d.jsonFields style).map fieldText ≠ [] := by
    rw [jsonFields_eq]
    exact List.cons_ne_nil _ _
  have hjoined := length_intercalate ", " hfields
  rw [show ", ".length = 2 from rfl] at hjoined
  have hmessage : (fieldText ("message", jsonString (style.cut d.message))).length =
      11 + (jsonString (style.cut d.message)).length := by
    rw [length_fieldText, show (jsonString "message").length = 9 from rfl]
  have hextent : extent ", " ((d.jsonFields style).map fieldText) =
      extent ", " ((codeFields d.code).map fieldText) +
        ((fieldText ("message", jsonString (style.cut d.message))).length + 2 +
          (extent ", " ((placeFields d.span).map fieldText) +
            extent ", " ((d.jsonTexts style).flatMap fun p => (textField p).map fieldText))) := by
    rw [jsonFields_eq, List.map_append, List.map_cons, List.map_append, List.map_flatMap, extent_append, extent_cons,
      extent_append, show ", ".length = 2 from rfl]
  rw [String.length_append, String.length_append, show "\x7b".length = 1 from rfl, show "\x7d".length = 1 from rfl]
  omega

/-- The room for the names of the fields is 80. -/
theorem length_json (d : Diagnostic) (m : Nat) :
    d.uncutLength .json ≤ ((⟨.json, true, m⟩ : Style).render d).length ∧
      ((⟨.json, true, m⟩ : Style).render d).length ≤
        lengthLimit .json m d.code d.span + 6 * d.uncutLength .json := by
  have hd : ((⟨.json, true, m⟩ : Style).render d).length = _ := length_render_json ⟨.json, true, m⟩ d
  have hbare : (({ layout := .json } : Style).render { code := d.code, message := "", span := d.span }).length =
      extent ", " ((codeFields d.code).map fieldText) + (jsonString (({ layout := .json } : Style).cut "")).length +
        13 + extent ", " ((placeFields d.span).map fieldText) + 0 :=
    length_render_json { layout := .json } { code := d.code, message := "", span := d.span }
  rw [show (jsonString (({ layout := .json } : Style).cut "")).length = 2 from rfl] at hbare
  have htexts := extent_flatMap extent_textField (d.jsonTexts ⟨.json, true, m⟩)
  have hroom : ((d.jsonTexts ⟨.json, true, m⟩).map fun p => (jsonString p.1).length + 6).sum = 80 := by
    simp only [jsonTexts, List.map_cons, List.map_nil]
    rfl
  have hmessage := length_jsonString ((⟨.json, true, m⟩ : Style).cut d.message)
  have hcut := Style.length_cut_le .json m d.message
  have hhint := textLength_cut_le (Style.length_cut_le .json m) d.hint
  have hlength : textsLength (d.jsonTexts ⟨.json, true, m⟩) =
      d.uncutLength .json + textLength ((present? d.hint).map (⟨.json, true, m⟩ : Style).cut) := by
    simp only [textsLength, jsonTexts, uncutLength, uncut, List.map_cons, List.map_nil, List.sum_cons, List.sum_nil]
    omega
  unfold lengthLimit
  omega

theorem uncutLength_le {d : Diagnostic} {layout : Layout} {n : Nat}
    (h : ∀ text ∈ d.uncut layout, textLength text ≤ n) : d.uncutLength layout ≤ 5 * n := by
  cases layout <;> simp only [uncutLength, uncut, List.forall_mem_cons, List.map_cons, List.map_nil, List.sum_cons,
    List.sum_nil] at h ⊢ <;> omega

theorem length_render (d : Diagnostic) (layout : Layout) (m : Nat) :
    d.uncutLength layout ≤ ((⟨layout, true, m⟩ : Style).render d).length ∧
      ((⟨layout, true, m⟩ : Style).render d).length ≤
        lengthLimit layout m d.code d.span + 6 * d.uncutLength layout := by
  cases layout with
  | block => exact length_block d m
  | line => exact ⟨Nat.zero_le _, length_line d m⟩
  | json => exact length_json d m

/-- A rendering that cuts long texts is at least as long as the texts that its layout shows whole. For all else
it has a limit that depends on the layout, the length at which texts are cut, the code and the span. So it has one
altogether where no text that is shown whole is longer than what is left of the others. A single line shows no text
whole. -/
theorem render_within (d : Diagnostic) (layout : Layout) (m : Nat) :
    d.uncutLength layout ≤ ((⟨layout, true, m⟩ : Style).render d).length ∧
    ((⟨layout, true, m⟩ : Style).render d).length ≤
      lengthLimit layout m d.code d.span + 6 * d.uncutLength layout ∧
    ((∀ text ∈ d.uncut layout, textLength text ≤ m + 3) →
      ((⟨layout, true, m⟩ : Style).render d).length ≤ lengthLimit layout m d.code d.span + 30 * (m + 3)) := by
  obtain ⟨hleast, hmost⟩ := length_render d layout m
  refine ⟨hleast, hmost, fun h => ?_⟩
  have hshort := uncutLength_le h
  omega

/-- A hint of a thousand characters where the other texts are short. -/
theorem render_within_hint : ∃ d : Diagnostic,
    d = ⟨.unclosedTag, "Unclosed tag", some ⟨4, 7, 2, 3⟩, some (String.ofList (List.replicate 1000 'x')),
      some "b", none, none, none⟩ ∧
    (∀ text ∈ d.uncut .block, textLength text ≤ 10 + 3) ∧
    ((⟨.block, true, 10⟩ : Style).render d).length < 1000 := by
  refine ⟨_, rfl, ?_⟩
  generalize hhint : some (String.ofList (List.replicate 1000 'x')) = hint
  have hshort : ∀ text ∈ (⟨.unclosedTag, "Unclosed tag", some ⟨4, 7, 2, 3⟩, hint, some "b", none, none,
      none⟩ : Diagnostic).uncut .block, textLength text ≤ 10 + 3 := by
    simp only [uncut, List.forall_mem_cons]
    decide
  have hlimit : lengthLimit .block 10 .unclosedTag (some ⟨4, 7, 2, 3⟩) + 30 * (10 + 3) < 1000 := by decide
  exact ⟨hshort, Nat.lt_of_le_of_lt ((render_within _ .block 10).2.2 hshort) hlimit⟩

/-- A diagnostic with a name of this many characters. -/
def withName (n : Nat) : Diagnostic := missingVariable (String.ofList (List.replicate n 'x'))

theorem le_uncutLength_withName (n : Nat) {layout : Layout} (h : layout ≠ .line) :
    n ≤ (withName n).uncutLength layout := by
  have hname : textLength (withName n).variableName = n := by simp [withName, missingVariable, textLength]
  cases layout with
  | line => exact absurd rfl h
  | block | json =>
    simp only [uncutLength, uncut, List.map_cons, List.sum_cons, hname]
    omega

/-- Ten characters are shown whole where three are allowed, and except for one line there is no limit to that. -/
theorem render_shows_whole :
    (⟨.block, true, 3⟩ : Style).render (missingVariable "xxxxxxxxxx") =
      "error[MISSING_VARIABLE]: Missing required variable 'xxxxxxxxxx'.\n" ++
        "  = variable: xxxxxxxxxx\n  = help: Pas..." ∧
    ∀ layout : Layout, layout ≠ .line → ∀ bound : Nat, ∃ d : Diagnostic,
      d.code = .missingVariable ∧ d.span = none ∧ bound < ((⟨layout, true, 3⟩ : Style).render d).length := by
  refine ⟨rfl, fun layout hlayout bound => ⟨withName (bound + 1), rfl, rfl, ?_⟩⟩
  exact Nat.le_trans (le_uncutLength_withName (bound + 1) hlayout) (length_render _ layout 3).1

end MessageFormat.Diagnostic

import MessageFormat.Proofs.Binary64
import MessageFormat.Proofs.Decimal.Text
import MessageFormat.Proofs.Text.Unmarked
import MessageFormat.Value.Escape

/-!
Values whose text has no angle brackets. Every escaped value is one.
-/

set_option autoImplicit false

namespace MessageFormat

open Text

/-! Numbers. -/

@[simp] theorem Decimal.unmarked_text (d : Decimal) : Unmarked d.text := by
  have h : ∀ c ∈ d.text, (!isAngle c) = true :=
    of_mem_text (fun c hc => by rw [isAngle_of_isDigit hc]; rfl) (by decide)
  simpa [Unmarked] using h

@[simp] theorem Numeral.unmarked_text (n : Numeral) : Unmarked n.text := by
  cases n with
  | finite d => exact d.unmarked_text
  | infinite negative => cases negative <;> decide
  | notANumber negative signaling payload => simp +decide [text]

namespace Binary64

@[simp] theorem unmarked_text (x : Binary64) : Unmarked x.text := by
  have h : ∀ c ∈ x.text, (!isAngle c) = true :=
    x.isNumeric_text.all (fun c hc => by rw [isAngle_of_isDigit hc]; rfl) (by decide)
  simpa [Unmarked] using h

end Binary64

/-! Dates and times. -/

theorem unmarked_callText {name : String} {parts : List (List Char)} (hname : Unmarked name.toList)
    (h : ∀ p ∈ parts, Unmarked p) : Unmarked (callText name parts) := by
  have hjoin : Unmarked (", ".toList.intercalate parts) := unmarked_intercalate (by decide) h
  rw [callText, unmarked_append, unmarked_append, unmarked_cons]
  exact ⟨⟨hname, by decide, hjoin⟩, by decide⟩

@[simp] theorem unmarked_twoDigits (n : Nat) : Unmarked (twoDigits n) := by simp [twoDigits]

namespace Duration

@[simp] theorem unmarked_text (d : Duration) : Unmarked d.text := by
  have hdays : ∀ p : Prop, ∀ _ : Decidable p,
      Unmarked (if p then " day, " else " days, ").toList := by
    intro p _
    split <;> decide
  simp +decide [text, hdays]

theorem unmarked_display (d : Duration) : Unmarked d.display := by
  unfold display
  extract_lets part parts
  have hpart : ∀ name n, Unmarked name.toList → ∀ p ∈ part name n, Unmarked p := by
    intro name n hname
    unfold part
    split
    · simp
    · simp +decide [hname]
  have hparts : ∀ p ∈ parts, Unmarked p := by
    simp only [parts, List.forall_mem_append]
    exact ⟨⟨hpart _ _ (by decide), hpart _ _ (by decide)⟩, hpart _ _ (by decide)⟩
  refine unmarked_callText (by decide) ?_
  split
  · simp +decide
  · exact hparts

end Duration

namespace Date

@[simp] theorem unmarked_iso (d : Date) : Unmarked d.iso := by simp +decide [iso]

theorem unmarked_parts (d : Date) : ∀ p ∈ d.parts, Unmarked p := by simp [parts]

end Date

namespace TimeOfDay

@[simp] theorem unmarked_offsetText (offset : Int) : Unmarked (offsetText offset) := by
  simp +decide [offsetText]

@[simp] theorem unmarked_iso (t : TimeOfDay) : Unmarked t.iso := by
  unfold iso
  cases t.offset <;> simp +decide

theorem unmarked_offsetDisplay (offset : Int) : Unmarked (offsetDisplay offset) := by
  unfold offsetDisplay
  split
  · decide
  · exact unmarked_callText (by decide) (by simp [Duration.unmarked_display])

theorem unmarked_parts (t : TimeOfDay) : ∀ p ∈ t.parts, Unmarked p := by
  simp only [parts, List.forall_mem_append]
  refine ⟨⟨⟨by simp, ?_⟩, ?_⟩, ?_⟩
  · split <;> simp
  · split <;> simp
  · split
    · simp
    · simp +decide [unmarked_offsetDisplay]

end TimeOfDay

namespace Moment

theorem unmarked_isoWith {separator : Char} (h : isAngle separator = false) (m : Moment) :
    Unmarked (m.isoWith separator) := by
  simp [isoWith, h]

@[simp] theorem unmarked_iso (m : Moment) : Unmarked m.iso := unmarked_isoWith (by decide) m

@[simp] theorem unmarked_text (m : Moment) : Unmarked m.text := unmarked_isoWith (by decide) m

end Moment

namespace Value

mutual

/-- Texts without angle brackets, and what is made of such texts and of numbers, dates and times. -/
def IsUnmarked : Value → Prop
  | .text s => Unmarked s.toList
  | .list items | .tuple items => AreUnmarked items
  | .bytes _ | .set _ | .node _ | .other _ => False
  | _ => True

def AreUnmarked : List Value → Prop
  | [] => True
  | v :: vs => IsUnmarked v ∧ AreUnmarked vs

end

theorem areUnmarked_iff {vs : List Value} : AreUnmarked vs ↔ ∀ v ∈ vs, IsUnmarked v := by
  induction vs with
  | nil => simp [AreUnmarked]
  | cons v vs ih => simp [AreUnmarked, ih]

theorem unmarked_enclosed {opening closing : Char} {parts : List (List Char)}
    (hopening : isAngle opening = false) (hclosing : isAngle closing = false)
    (h : ∀ p ∈ parts, Unmarked p) : Unmarked (opening :: commaJoin parts ++ [closing]) := by
  have hjoin : Unmarked (commaJoin parts) := unmarked_intercalate (by decide) h
  simp [hopening, hclosing, hjoin]

mutual

theorem unmarked_displayWith (ofNode : Nat → List Char) :
    ∀ {v : Value}, v.IsUnmarked → Unmarked (v.displayWith ofNode)
  | .null, _ => show Unmarked "None".toList by decide
  | .bool b, _ => show Unmarked (if b then "True" else "False").toList by cases b <;> decide
  | .int _, _ => unmarked_intText
  | .float x, _ => x.unmarked_text
  | .decimal n, _ => by
    change Unmarked ("Decimal('".toList ++ n.text ++ "')".toList)
    simp +decide
  | .text _, h => unmarked_quote h
  | .date d, _ => unmarked_callText (by decide) d.unmarked_parts
  | .time t, _ => unmarked_callText (by decide) t.unmarked_parts
  | .moment m, _ => unmarked_callText (by decide)
      (List.forall_mem_append.mpr ⟨m.date.unmarked_parts, m.time.unmarked_parts⟩)
  | .duration d, _ => d.unmarked_display
  | .list items, h => unmarked_enclosed (by decide) (by decide) (unmarked_displays ofNode h)
  | .tuple [], _ => show Unmarked ['(', ')'] by decide
  | .tuple [item], h => by
    have hitem := unmarked_displayWith ofNode (v := item) h.1
    change Unmarked ('(' :: item.displayWith ofNode ++ [',', ')'])
    simp +decide [hitem]
  | .tuple (first :: second :: items), h => by
    have hitems : ∀ p ∈ displays ofNode (first :: second :: items), Unmarked p :=
      unmarked_displays ofNode h
    exact unmarked_enclosed (by decide) (by decide) hitems

theorem unmarked_displays (ofNode : Nat → List Char) :
    ∀ {vs : List Value}, AreUnmarked vs → ∀ p ∈ displays ofNode vs, Unmarked p
  | [], _ => fun _ hp => (List.not_mem_nil hp).elim
  | _ :: _, h => List.forall_mem_cons.mpr
      ⟨unmarked_displayWith ofNode h.1, unmarked_displays ofNode h.2⟩

end

end Value

namespace Graph

variable {g : Graph} {v : Value}

theorem unmarked_display (h : v.IsUnmarked) : Unmarked (g.display v) :=
  Value.unmarked_displayWith _ h

theorem unmarked_text (h : v.IsUnmarked) : Unmarked (g.text v) := by
  cases v with
  | text s => exact h
  | decimal n => exact n.unmarked_text
  | date d => exact d.unmarked_iso
  | time t => exact t.unmarked_iso
  | moment m => exact m.unmarked_text
  | duration d => exact d.unmarked_text
  | _ => exact unmarked_display h

theorem unmarked_plainText (h : v.IsUnmarked) : Unmarked (g.plainText v).toList := by
  cases v with
  | null => exact unmarked_nil
  | bool b =>
    change Unmarked (if b then "true" else "false").toList
    cases b <;> decide
  | _ => exact String.toList_ofList ▸ unmarked_text h

/-! Escaped values. -/

/-- What the escaping is of does not matter. -/
theorem unmarked_escapeOnce (s : List Char) :
    Unmarked (String.ofList (Text.escapeOnce s)).toList := by
  rw [String.toList_ofList]
  exact Text.unmarked_escape _

mutual

theorem isUnmarked_escape (g : Graph) : ∀ v : Value, (g.escape v).IsUnmarked
  | .text s => unmarked_escapeOnce s.toList
  | .bytes bs => unmarked_escapeOnce (g.text (.bytes bs))
  | .set items => unmarked_escapeOnce (g.text (.set items))
  | .node place => unmarked_escapeOnce (g.text (.node place))
  | .other shown => unmarked_escapeOnce (g.text (.other shown))
  | .list items | .tuple items => areUnmarked_escapeAll g items
  | .null | .bool _ | .int _ | .float _ | .decimal _ | .date _ | .time _ | .moment _
  | .duration _ => trivial

theorem areUnmarked_escapeAll (g : Graph) : ∀ vs : List Value, Value.AreUnmarked (g.escapeAll vs)
  | [] => trivial
  | v :: vs => ⟨isUnmarked_escape g v, areUnmarked_escapeAll g vs⟩

end

end Graph
end MessageFormat

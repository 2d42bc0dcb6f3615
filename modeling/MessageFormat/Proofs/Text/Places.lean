import Mathlib.Data.List.TakeDrop
import MessageFormat.Text.Template

/-!
Templates with places for two items. The characters around the places stay, and each place takes its item as it is,
whatever stands in it.
-/

set_option autoImplicit false

namespace MessageFormat

namespace Text.Template

/-- A part of a template for two items: a character, or the place of one of the items. -/
inductive Part where
  | char (c : Char)
  | first
  | second

namespace Part

/-- As it is written: a brace that is not one of a place is doubled. -/
def written : Part → List Char
  | .char c => if c = '{' ∨ c = '}' then [c, c] else [c]
  | .first => ['{', '0', '}']
  | .second => ['{', '1', '}']

/-- As it is filled. -/
def filled (x y : List Char) : Part → List Char
  | .char c => [c]
  | .first => x
  | .second => y

theorem length_written_pos (part : Part) : 0 < part.written.length := by
  cases part with
  | char c =>
    simp only [written]
    split <;> simp
  | first => simp [written]
  | second => simp [written]

end Part

/-- The only fields of a template are places of the first and the second item. -/
def TwoPlaces (template : String) : Prop := ∃ parts : List Part, template.toList = parts.flatMap Part.written

/-- Fields are numbered by hand, or can be from here on. -/
def Numbering.ByHand (numbering : Numbering) : Prop := ∀ n, numbering ≠ .counted n

theorem byHand_written : Numbering.written.ByHand := nofun

section Fill

variable {inner : Fill} {items : List (List Char)} {numbering : Numbering} {fuel : Nat} {c : Char}
  {r item : List Char}

theorem fillFields_plain (hopen : c ≠ '{') (hclose : c ≠ '}') :
    fillFields inner items (fuel + 1) numbering (c :: r) =
      (fillFields inner items fuel numbering r).map (onto c) := by
  simp [fillFields, hopen, hclose]

theorem fillFields_doubled (h : c = '{' ∨ c = '}') :
    fillFields inner items (fuel + 1) numbering (c :: c :: r) =
      (fillFields inner items fuel numbering r).map (onto c) := by
  rcases h with rfl | rfl <;> simp [fillFields]

theorem place_digit {digit : Char} {n : Nat} (h : numbering.ByHand) (hnumber : number? [digit] = .ok (some n)) :
    place numbering [digit] = .ok (n, .written) := by
  cases numbering with
  | counted next => exact absurd rfl (h next)
  | «open» => simp [place, hnumber, Bind.bind, Except.bind, pure, Except.pure]
  | written => simp [place, hnumber, Bind.bind, Except.bind, pure, Except.pure]

@[simp] theorem layout_read_nil : Layout.read [] = .ok {} := rfl

@[simp] theorem apply_default (s : List Char) : ({} : Layout).apply s = .ok s := by
  simp [Layout.apply, Layout.flaw?, Layout.pad, Layout.cutTo]

/-- A place that is named by a digit takes the whole item. -/
theorem fillFields_place {digit : Char} {n : Nat} (hopen : digit ≠ '{') (hstep : startsStep digit = false)
    (hread : Field.read (digit :: '}' :: r) = .ok ({ name := [digit] }, r))
    (hplace : place numbering [digit] = .ok (n, .written)) (hitem : items[n]? = some item) :
    fillFields inner items (fuel + 1) numbering ('{' :: digit :: '}' :: r) =
      (fillFields inner items fuel .written r).map fun p => (item ++ p.1, p.2) := by
  have htext : fieldText inner items numbering { name := [digit] } = .ok (item, .written) := by
    simp [fieldText, List.span_eq_takeWhile_dropWhile, hstep, hplace, hitem, follow, convert, expand, Bind.bind,
      Except.bind, pure, Except.pure]
  simp only [fillFields, hopen, hread, htext, Bind.bind, Except.bind, if_true, if_false]
  cases fillFields inner items fuel .written r <;> rfl

/-- Characters stay, and the items take their places. -/
theorem fillFields_written (inner : Fill) (x y : List Char) (parts : List Part) :
    ∀ fuel numbering, numbering.ByHand → (parts.flatMap Part.written).length ≤ fuel →
      ∃ numbering', fillFields inner [x, y] fuel numbering (parts.flatMap Part.written) =
        .ok (parts.flatMap (Part.filled x y), numbering') := by
  induction parts with
  | nil =>
    intro fuel numbering h hfuel
    cases fuel <;> exact ⟨_, rfl⟩
  | cons part parts ih =>
    intro fuel numbering h hfuel
    rw [List.flatMap_cons, List.length_append] at hfuel
    have hpos := part.length_written_pos
    obtain ⟨fuel, rfl⟩ : ∃ n, fuel = n + 1 := ⟨fuel - 1, by omega⟩
    obtain ⟨numbering', hplace⟩ := ih fuel .written byHand_written (by omega)
    obtain ⟨numbering'', hchar⟩ := ih fuel numbering h (by omega)
    simp only [List.flatMap_cons]
    cases part with
    | char c =>
      refine ⟨numbering'', ?_⟩
      simp only [Part.written]
      split
      · rename_i hbrace
        rw [List.cons_append, List.cons_append, List.nil_append, fillFields_doubled hbrace, hchar]
        rfl
      · rename_i hplain
        rw [not_or] at hplain
        rw [List.cons_append, List.nil_append, fillFields_plain hplain.1 hplain.2, hchar]
        rfl
    | first =>
      refine ⟨numbering', ?_⟩
      simp only [Part.written, List.cons_append, List.nil_append]
      rw [fillFields_place (by decide) (by decide) rfl (place_digit h rfl) rfl, hplace]
      rfl
    | second =>
      refine ⟨numbering', ?_⟩
      simp only [Part.written, List.cons_append, List.nil_append]
      rw [fillFields_place (by decide) (by decide) rfl (place_digit h rfl) rfl, hplace]
      rfl

end Fill

theorem fill_of_parts {template : String} {parts : List Part} (h : template.toList = parts.flatMap Part.written)
    (x y : String) :
    fill template [x, y] = .ok (String.ofList (parts.flatMap (Part.filled x.toList y.toList))) := by
  obtain ⟨numbering, hfill⟩ := fillFields_written (fillLevels [x.toList, y.toList] 1) x.toList y.toList parts
    (parts.flatMap Part.written).length .open nofun (Nat.le_refl _)
  have hlevels : fillLevels ([x, y].map String.toList) levels .open template.toList =
      .ok (parts.flatMap (Part.filled x.toList y.toList), numbering) := by
    rw [h]
    exact hfill
  rw [fill, hlevels]
  rfl

end Text.Template

open Text.Template

/-! Joints. -/

/-- No braces stand in a text. -/
def Text.NoBraces (s : String) : Prop := '{' ∉ s.toList ∧ '}' ∉ s.toList

instance (s : String) : Decidable (Text.NoBraces s) := inferInstanceAs (Decidable (_ ∧ _))

/-- A pattern with one place for each of two items, the first before the second, and texts without braces around
them. -/
structure Joint where
  before : String
  between : String
  after : String
  before_plain : Text.NoBraces before := by decide
  between_plain : Text.NoBraces between := by decide
  after_plain : Text.NoBraces after := by decide

namespace Joint

/-- As it is written. -/
def pattern (j : Joint) : String := j.before ++ "\x7b0\x7d" ++ j.between ++ "\x7b1\x7d" ++ j.after

/-- Two texts in the places. -/
def put (j : Joint) (x y : String) : String := j.before ++ x ++ j.between ++ y ++ j.after

def parts (j : Joint) : List Part :=
  j.before.toList.map .char ++ .first :: j.between.toList.map .char ++ .second :: j.after.toList.map .char

theorem flatMap_written_char {s : List Char} (hopen : '{' ∉ s) (hclose : '}' ∉ s) :
    (s.map Part.char).flatMap Part.written = s := by
  induction s with
  | nil => rfl
  | cons c s ih =>
    rw [List.mem_cons, not_or] at hopen hclose
    simp [Part.written, Ne.symm hopen.1, Ne.symm hclose.1, ih hopen.2 hclose.2]

theorem flatMap_filled_char (x y s : List Char) : (s.map Part.char).flatMap (Part.filled x y) = s := by
  induction s with
  | nil => rfl
  | cons c s ih => simp [Part.filled, ih]

theorem toList_pattern (j : Joint) : j.pattern.toList = j.parts.flatMap Part.written := by
  have hbefore := flatMap_written_char j.before_plain.1 j.before_plain.2
  have hbetween := flatMap_written_char j.between_plain.1 j.between_plain.2
  have hafter := flatMap_written_char j.after_plain.1 j.after_plain.2
  simp [pattern, parts, hbefore, hbetween, hafter, Part.written]

theorem twoPlaces_pattern (j : Joint) : TwoPlaces j.pattern := ⟨j.parts, j.toList_pattern⟩

theorem fill_pattern (j : Joint) (x y : String) : fill j.pattern [x, y] = .ok (j.put x y) := by
  rw [fill_of_parts j.toList_pattern, Except.ok.injEq, ← String.toList_inj]
  simp [parts, put, flatMap_filled_char, Part.filled]

end Joint
end MessageFormat

import MessageFormat.Format.Builtin
import MessageFormat.Proofs.Outcome
import MessageFormat.Proofs.Value.Harmless

/-!
What formatters make of values in which there is nothing to escape. They see a value as a number, a moment or a
duration, as items, or as text, and it is enough that what they see is not lost in escaping.
-/

set_option autoImplicit false

namespace MessageFormat

/-- What the formatter sees of the value is seen of its escaped form. -/
def Format.Builtin.Suits (g : Graph) (v : Value) : Format.Builtin → Prop
  | .number | .numberRange => v.keepsText = true ∧ g.Unread Value.decimal? v
  | .date | .time | .dateTime | .dateRange => v.keepsText = true ∧ g.Unread Value.moment? v
  | .duration => v.keepsText = true ∧ g.Unread Value.seconds? v
  | .list => v.keepsItems = true
  | .relativeTime => g.Unread Value.decimal? v

namespace Graph

variable {g : Graph}

theorem escapeAll_eq_map (vs : List Value) : g.escapeAll vs = vs.map g.escape := by
  induction vs with
  | nil => rfl
  | cons v vs ih => rw [List.map_cons, ← ih, escapeAll]

end Graph

namespace Format

open MessageFormat.Graph
open MessageFormat.Locale (Context)
open MessageFormat.Number (Spec)

variable {g : Graph} {v w : Value} (context : Context)

/-- Numbers and moments stay as they are, and of all else the text is shown. -/
theorem plain_escape (hv : v.keepsText = true) (h : g.IsHarmless v) :
    plain context g (g.escape v) = plain context g v := by
  cases hshown : v.isShown with
  | false => rw [escape_of_isKept (Value.isKept_of_keepsText hv hshown) h]
  | true =>
    have hplain : plain context g v = pure (g.plainText v) := by
      cases v <;> first | rfl | cases hshown
    rw [hplain, ← plainText_escape hv h, escape_of_isShown hshown h]
    rfl

theorem numberWith_escape (hv : Builtin.number.Suits g v) (h : g.IsHarmless v) (spec : Spec) :
    numberWith context g spec (g.escape v) = numberWith context g spec v := by
  rw [numberWith, isReader_decimal?.read_escape h hv.2, plainText_escape hv.1 h, numberWith]

theorem moment_escape (hv : Builtin.date.Suits g v) (h : g.IsHarmless v) (kind : DateKind)
    (style : Option String) :
    moment context g kind style (g.escape v) = moment context g kind style v := by
  rw [moment, isReader_moment?.read_escape h hv.2, plainText_escape hv.1 h, moment]

theorem duration_escape (hv : Builtin.duration.Suits g v) (h : g.IsHarmless v) (style : Option String) :
    duration context g style (g.escape v) = duration context g style v := by
  rw [duration, isReader_seconds?.read_escape h hv.2, plainText_escape hv.1 h, duration]

theorem relativeTime_escape (hv : Builtin.relativeTime.Suits g v) (h : g.IsHarmless v)
    (style : Option String) :
    relativeTime context style (g.escape v) = relativeTime context style v := by
  rw [relativeTime, isReader_decimal?.read_escape h hv, relativeTime]

theorem plain_items_escape {items : List Value} (hitems : ∀ v ∈ items, v.keepsText = true)
    (h : g.AreHarmless items) :
    (g.escapeAll items).mapM (plain context g) = items.mapM (plain context g) := by
  induction items with
  | nil => rfl
  | cons v vs ih =>
    obtain ⟨hv, hvs⟩ := List.forall_mem_cons.mp hitems
    have hrest := ih hvs h.2
    rw [escapeAll_eq_map, List.map_cons, ← escapeAll_eq_map, List.mapM_cons, List.mapM_cons,
      plain_escape context hv h.1, hrest]

/-- Each item stands for itself, and what has no items is one. -/
theorem listItems_escape (hv : Builtin.list.Suits g v) (h : g.IsHarmless v) :
    listItems context g (g.escape v) = listItems context g v := by
  cases hshown : v.isShown with
  | false =>
    cases v with
    | list items | tuple items => exact plain_items_escape context (List.all_eq_true.mp hv) h
    | set | bytes | node | other => cases hshown
    | text => rw [escape_of_isKept rfl h]
    | _ => rfl
  | true =>
    have htext : v.keepsText = true := by
      cases v <;> first | rfl | cases hshown
    have hitem : listItems context g v = (do
        let text ← plain context g v
        return [text]) := by
      cases v with
      | set => cases hv
      | bytes | node | other => rfl
      | _ => cases hshown
    rw [hitem, ← plain_escape context htext h, escape_of_isShown hshown h]
    rfl

/-- A value that is no tuple is both ends of a range. -/
theorem rangeEnds_escape (hv : v.keepsText = true) :
    rangeEnds v = (v, v) ∧ rangeEnds (g.escape v) = (g.escape v, g.escape v) := by
  cases v with
  | tuple => cases hv
  | _ => exact ⟨rfl, rfl⟩

theorem numberRange_escape {value value' : Value} (hends : rangeEnds value = (v, w))
    (hends' : rangeEnds value' = (g.escape v, g.escape w)) (hv : Builtin.numberRange.Suits g v)
    (hw : Builtin.numberRange.Suits g w) (h : g.IsHarmless v) (h' : g.IsHarmless w) (skeleton : Option Spec)
    (style : Option String) :
    numberRange context g skeleton style value' = numberRange context g skeleton style value := by
  simp only [numberRange, hends, hends', numberWith_escape context hv h, numberWith_escape context hw h']

theorem dateRange_escape {value value' : Value} (hends : rangeEnds value = (v, w))
    (hends' : rangeEnds value' = (g.escape v, g.escape w)) (hv : Builtin.dateRange.Suits g v)
    (hw : Builtin.dateRange.Suits g w) (h : g.IsHarmless v) (h' : g.IsHarmless w) (style : Option String) :
    dateRange context g style value' = dateRange context g style value := by
  have hinterval : interval? context style value' = interval? context style value := by
    simp only [interval?, hends, hends', isReader_moment?.read_escape h hv.2,
      isReader_moment?.read_escape h' hw.2]
  simp only [dateRange, hinterval, hends, hends', moment_escape context hv h, moment_escape context hw h']

/-- What a formatter makes of one value. -/
theorem Builtin.apply_escape {b : Builtin} (hv : b.Suits g v) (h : g.IsHarmless v) (call : FormatterCall) :
    b.apply context g call (g.escape v) = b.apply context g call v := by
  cases b with
  | number =>
    simp only [Builtin.apply, Format.number, numberWith_escape context hv h]
  | date | time | dateTime => exact moment_escape context hv h _ _
  | list => simp only [Builtin.apply, Format.list, listItems_escape context hv h]
  | duration => exact duration_escape context hv h _
  | relativeTime => exact relativeTime_escape context hv h _
  | numberRange =>
    obtain ⟨hends, hends'⟩ := rangeEnds_escape (g := g) hv.1
    exact numberRange_escape context hends hends' hv hv h h _ _
  | dateRange =>
    obtain ⟨hends, hends'⟩ := rangeEnds_escape (g := g) hv.1
    exact dateRange_escape context hends hends' hv hv h h _

/-- What a formatter of ranges makes of two. -/
theorem Builtin.apply_escape_ends {b : Builtin} (hb : b = .numberRange ∨ b = .dateRange) (hv : b.Suits g v)
    (hw : b.Suits g w) (h : g.IsHarmless v) (h' : g.IsHarmless w) (call : FormatterCall) :
    b.apply context g call (.tuple [g.escape v, g.escape w]) = b.apply context g call (.tuple [v, w]) := by
  rcases hb with rfl | rfl
  · exact numberRange_escape context rfl rfl hv hw h h' _ _
  · exact dateRange_escape context rfl rfl hv hw h h' _

end Format
end MessageFormat

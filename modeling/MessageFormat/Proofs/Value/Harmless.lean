import MessageFormat.Format.Duration
import MessageFormat.Proofs.Text.Entity
import MessageFormat.Proofs.Text.Trim

/-!
Values in which there is nothing to escape. Escaping changes their kind at most: a tuple becomes a list, and
what is no number, date or text becomes its text.
-/

set_option autoImplicit false

namespace MessageFormat

open Text

namespace Value

mutual

/-- Escaping leaves these as they are, if there is nothing to escape in them. -/
def isKept : Value → Bool
  | .tuple _ | .set _ | .bytes _ | .node _ | .other _ => false
  | .list items => areKept items
  | _ => true

def areKept : List Value → Bool
  | [] => true
  | v :: vs => isKept v && areKept vs

end

/-- Escaping puts the text of these in their place. -/
def isShown : Value → Bool
  | .set _ | .bytes _ | .node _ | .other _ => true
  | _ => false

/-- The text of the value stays. A tuple is shown as a list, and in a list a text has quotes that a set or an
object has not. -/
def keepsText : Value → Bool
  | .tuple _ => false
  | .list items => areKept items
  | _ => true

/-- The items of the value stay, and so does the text of each. The items of a set are lost. -/
def keepsItems : Value → Bool
  | .set _ => false
  | .list items | .tuple items => items.all keepsText
  | _ => true

theorem isKept_of_keepsText {v : Value} (h : v.keepsText = true) (hv : v.isShown = false) :
    v.isKept = true := by
  cases v with
  | tuple => cases h
  | list => exact h
  | set | bytes | node | other => cases hv
  | _ => rfl

end Value

namespace Graph

mutual

/-- Nothing to escape, at any depth: in a text, or in the text of what is neither a list nor a tuple. -/
def IsHarmless (g : Graph) : Value → Prop
  | .text s => Harmless s.toList
  | .list items | .tuple items => AreHarmless g items
  | .set items => Harmless (g.text (.set items))
  | .bytes bs => Harmless (g.text (.bytes bs))
  | .node place => Harmless (g.text (.node place))
  | .other shown => Harmless (g.text (.other shown))
  | _ => True

def AreHarmless (g : Graph) : List Value → Prop
  | [] => True
  | v :: vs => IsHarmless g v ∧ AreHarmless g vs

end

variable {g : Graph} {v : Value}

theorem escapeText_of_harmless {s : String} (h : Harmless s.toList) : escapeText s = s := by
  rw [escapeText, h.escapeOnce_eq, String.ofList_toList]

mutual

theorem escape_of_isKept : ∀ {v : Value}, v.isKept = true → g.IsHarmless v → g.escape v = v
  | .text _, _, h => congrArg Value.text (escapeText_of_harmless h)
  | .list _, hv, h => congrArg Value.list (escapeAll_of_areKept hv h)
  | .null, _, _ | .bool _, _, _ | .int _, _, _ | .float _, _, _ | .decimal _, _, _ | .date _, _, _
  | .time _, _, _ | .moment _, _, _ | .duration _, _, _ => rfl

theorem escapeAll_of_areKept : ∀ {vs : List Value}, Value.areKept vs = true → g.AreHarmless vs →
    g.escapeAll vs = vs
  | [], _, _ => rfl
  | v :: vs, hv, h => by
    obtain ⟨hfirst, hrest⟩ := (Bool.and_eq_true _ _).mp hv
    have hhead : g.escape v = v := escape_of_isKept hfirst h.1
    have htail : g.escapeAll vs = vs := escapeAll_of_areKept hrest h.2
    change g.escape v :: g.escapeAll vs = v :: vs
    rw [hhead, htail]

end

theorem escape_of_isShown (hv : v.isShown = true) (h : g.IsHarmless v) :
    g.escape v = .text (String.ofList (g.text v)) := by
  have hescape : g.escape v = .text (String.ofList (escapeOnce (g.text v))) := by
    cases v <;> first | rfl | cases hv
  have hharmless : Harmless (g.text v) := by
    cases v <;> first | exact h | cases hv
  rw [hescape, hharmless.escapeOnce_eq]

/-- The text of an argument. -/
theorem plainText_escape (hv : v.keepsText = true) (h : g.IsHarmless v) :
    g.plainText (g.escape v) = g.plainText v := by
  cases hshown : v.isShown with
  | false => rw [escape_of_isKept (Value.isKept_of_keepsText hv hshown) h]
  | true =>
    have hplain : g.plainText v = String.ofList (g.text v) := by
      cases v <;> first | rfl | cases hshown
    rw [escape_of_isShown hshown h, hplain]
    exact String.ofList_toList

end Graph

/-- A reader of values tells nothing from a list, a set, a container or an object, and nothing from the text of a
set or of a map. -/
structure IsReader {α : Type} (read : Value → α) : Prop where
  items : ∀ vs, read (.list vs) = read .null ∧ read (.tuple vs) = read .null ∧
    read (.set vs) = read .null
  node : ∀ place, read (.node place) = read .null
  other : ∀ shown, read (.other shown) = read .null
  braces : ∀ s, read (.text (String.ofList ('{' :: s))) = read .null
  emptySet : read (.text "set()") = read .null
  nothing : read (.text "") = read .null

theorem isReader_decimal? : IsReader Value.decimal? where
  items _ := ⟨rfl, rfl, rfl⟩
  node _ := rfl
  other _ := rfl
  braces s := by
    obtain ⟨t, ht⟩ := exists_trim_cons (c := '{') (by decide) s
    have hread : Decimal.readFinite ('{' :: t) = none := rfl
    have htext : Value.numericText? ('{' :: s) = none := by
      simp only [Value.numericText?, ht, hread, Option.map_none, ite_self]
    rw [Value.decimal?, Value.digits?, String.toList_ofList, htext]
    rfl
  emptySet := rfl
  nothing := rfl

theorem isReader_moment? : IsReader Value.moment? where
  items _ := ⟨rfl, rfl, rfl⟩
  node _ := rfl
  other _ := rfl
  braces s := by
    obtain ⟨t, ht⟩ := exists_trim_cons (c := '{') (by decide) s
    have hdate : ∀ length, Date.readParts? (('{' :: t).take length) = none := by
      intro length
      cases length <;> rfl
    rw [Value.moment?, String.toList_ofList, ht, Moment.read?]
    cases Moment.dateLength? ('{' :: t) with
    | none => rfl
    | some length =>
      simp only [Option.bind_eq_bind, Option.bind_some, hdate, Option.bind_none]
      rfl
  emptySet := rfl
  nothing := rfl

theorem isReader_seconds? : IsReader Value.seconds? where
  items _ := ⟨rfl, rfl, rfl⟩
  node _ := rfl
  other _ := rfl
  braces s := by
    obtain ⟨t, ht⟩ := exists_trim_cons (c := '{') (by decide) s
    have hiso : isoDuration? (trim (String.ofList ('{' :: s)).toList) = none := by
      rw [String.toList_ofList, ht]
      rfl
    simp only [Value.seconds?, hiso, isReader_decimal?.braces s]
  emptySet := rfl
  nothing := rfl

namespace Graph

variable {g : Graph}

/-- Records, and objects that are all text. -/
def isObject (g : Graph) : Value → Bool
  | .other _ => true
  | .node place =>
    match g.nodes[place]? with
    | some (.record ..) | some (.object ..) => true
    | _ => false
  | _ => false

/-- The text of an object tells a reader as little as the object does. -/
def Unread {α : Type} (g : Graph) (read : Value → α) (v : Value) : Prop :=
  g.isObject v = true → read (.text (String.ofList (g.text v))) = read .null

theorem not_harmless_bytes (bs : List UInt8) : ¬ Harmless (quoteBytes bs) := by
  intro h
  have hmark : ∀ s : List Char, isInert (quoteMark s) = false := by
    intro s
    unfold quoteMark
    split_ifs <;> decide
  have hinert := (h (quoteMark (bs.map fun b => Char.ofNat b.toNat)) (by simp [quoteBytes])).2
  rw [hmark] at hinert
  cases hinert

/-- A map is shown in braces. -/
theorem text_of_map {place : Nat} {entries : List (Value × Value)}
    (h : g.nodes[place]? = some (.map entries)) : ∃ s, g.text (.node place) = '{' :: s := by
  have hplace : 0 < g.nodes.length := Nat.zero_lt_of_lt (List.getElem?_eq_some_iff.mp h).1
  obtain ⟨levels, hlevels⟩ := Nat.exists_eq_succ_of_ne_zero hplace.ne'
  have htext : g.text (.node place) = g.displayNode g.nodes.length [] place := rfl
  rw [htext, hlevels, displayNode, h]
  exact ⟨_, rfl⟩

end Graph

open MessageFormat.Graph

variable {α : Type} {read : Value → α} {g : Graph} {v : Value}

/-- Nothing is read from the text of a value that is no object. -/
theorem IsReader.read_text (hread : IsReader read) (hv : v.isShown = true) (h : g.IsHarmless v)
    (hobject : g.Unread read v) : read (.text (String.ofList (g.text v))) = read .null := by
  cases v with
  | set items =>
    cases items with
    | nil => exact hread.emptySet
    | cons item items => exact hread.braces _
  | bytes bs => exact absurd h (not_harmless_bytes bs)
  | node place =>
    cases hplace : g.nodes[place]? with
    | none =>
      have htext : g.text (.node place) = [] := by
        change g.displayNode g.nodes.length [] place = []
        rw [displayNode, hplace]
      rw [htext]
      exact hread.nothing
    | some c =>
      cases c with
      | map entries =>
        obtain ⟨s, hs⟩ := text_of_map hplace
        rw [hs]
        exact hread.braces s
      | record | object => exact hobject (by simp only [isObject, hplace])
  | other shown => exact hobject rfl
  | _ => cases hv

/-- What is read of a value. -/
theorem IsReader.read_escape (hread : IsReader read) (h : g.IsHarmless v) (hobject : g.Unread read v) :
    read (g.escape v) = read v := by
  cases hv : v.isShown with
  | true =>
    have hnull : read v = read .null := by
      cases v with
      | set items => exact (hread.items items).2.2
      | bytes bs => exact absurd h (not_harmless_bytes bs)
      | node place => exact hread.node place
      | other shown => exact hread.other shown
      | _ => cases hv
    rw [escape_of_isShown hv h, hread.read_text hv h hobject, hnull]
  | false =>
    cases v with
    | tuple items => exact (hread.items _).1.trans (hread.items items).2.1.symm
    | list items => exact (hread.items _).1.trans (hread.items items).1.symm
    | set | bytes | node | other => cases hv
    | text => rw [escape_of_isKept rfl h]
    | _ => rfl

end MessageFormat

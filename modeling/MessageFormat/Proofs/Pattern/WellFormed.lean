import MessageFormat.Proofs.Pattern.Derivation
import MessageFormat.Proofs.Text.Trim

/-!
The messages that patterns mean. Whatever the grammar derives is well-formed.
-/

set_option autoImplicit false

namespace MessageFormat.Pattern.Grammar

open Text

/-- A style that is read back whole, without blanks around it. -/
structure IsStyleText (x : String) : Prop where
  nonempty : x.toList ≠ []
  trimmed : trim x.toList = x.toList
  whole : style? (x.toList ++ ['}']) = some (x.toList, ['}'])

/-- A call of a formatter that is no selection. Ranges have a second argument, and only they. -/
structure IsCall (c : FormatterCall) : Prop where
  name : IsName c.name
  argument : IsName c.argument
  not_selection : isSelectionName c.name = false
  range : isRangeName c.name = c.endArgument.isSome
  second : ∀ x ∈ c.endArgument, IsName x
  style : ∀ x ∈ c.style, IsStyleText x
  skeleton : c.skeleton = skeletonOf c.name c.style

/-- A call with nothing but its argument. -/
theorem isCall_bare {name argument : String} (hname : IsName name) (hargument : IsName argument)
    (hkind : isSelectionName name = false ∧ isRangeName name = false) : IsCall { name, argument } where
  name := hname
  argument := hargument
  not_selection := hkind.1
  range := hkind.2
  second := by simp
  style := by simp
  skeleton := rfl

/-- An offset is the value of a literal. -/
def IsOffset (value : Decimal) : Prop := ∃ w, IsLiteral w value

structure IsAttributeText (x : String) : Prop where
  trimmed : trim x.toList = x.toList
  balanced : IsAttributes x.toList

mutual

/-- What a node can be in a scope. -/
def WellFormed (scope : Scope) : Node → Prop
  | .literal text => text.toList ≠ []
  | .argument name => IsName name
  | .hash => scope.inPlural = true
  | .call c => IsCall c
  | .plural argument offset _ cases =>
    IsName argument ∧ IsOffset offset ∧ cases ≠ [] ∧ PluralWellFormed (scope.body true) cases
  | .select argument cases =>
    IsName argument ∧ cases ≠ [] ∧ SelectWellFormed (scope.body false) cases
  | .tag name attributes selfClosing children =>
    scope.tags = true ∧ IsTagName name ∧ IsAttributeText attributes ∧
      (selfClosing = true → children = []) ∧ AllWellFormed scope children
  | .foreign _ => False

/-- Of two literals that adjoin there would be one. -/
def AllWellFormed (scope : Scope) : List Node → Prop
  | [] => True
  | n :: ns =>
    WellFormed scope n ∧ (startsWithText [n] = true → startsWithText ns = false) ∧
      AllWellFormed scope ns

def PluralWellFormed (scope : Scope) : List (Case Matcher (List Node)) → Prop
  | [] => True
  | ⟨key, body⟩ :: cs => IsMatcher key ∧ AllWellFormed scope body ∧ PluralWellFormed scope cs

def SelectWellFormed (scope : Scope) : List (Case String (List Node)) → Prop
  | [] => True
  | ⟨key, body⟩ :: cs => IsSelectKey key ∧ AllWellFormed scope body ∧ SelectWellFormed scope cs

end

/-- The messages of patterns, with tags or without, under a limit on nesting. -/
structure IsMessage (tags : Bool) (limit : Int) (m : Message) : Prop where
  nodes : AllWellFormed { tags } m.body
  depth : m.FitsWithin limit

theorem PluralWellFormed.of_mem {scope : Scope} {cases : List (Case Matcher (List Node))}
    (h : PluralWellFormed scope cases) : ∀ body ∈ cases.map Case.body, AllWellFormed scope body := by
  induction cases with
  | nil => simp
  | cons c cases ih => exact List.forall_mem_cons.mpr ⟨h.2.1, ih h.2.2⟩

theorem SelectWellFormed.of_mem {scope : Scope} {cases : List (Case String (List Node))}
    (h : SelectWellFormed scope cases) : ∀ body ∈ cases.map Case.body, AllWellFormed scope body := by
  induction cases with
  | nil => simp
  | cons c cases ih => exact List.forall_mem_cons.mpr ⟨h.2.1, ih h.2.2⟩

/-! Words. -/

theorem not_mark_of_isBlank {b : Char} (h : isBlank b = true) :
    b ≠ '\'' ∧ b ≠ '{' ∧ b ≠ '}' ∧ b ≠ '"' ∧ b ≠ '>' := by
  refine ⟨?_, ?_, ?_, ?_, ?_⟩ <;> (intro hx; subst hx; revert h; decide)

/-- The last character of a text is the mark itself or comes after it. -/
theorem mark_cases {s u v : List Char} {m b : Char} (h : s ++ [b] = u ++ m :: v) :
    (b = m ∧ s = u ∧ v = []) ∨ ∃ v', v = v' ++ [b] ∧ s = u ++ m :: v' := by
  rcases List.eq_nil_or_concat v with rfl | ⟨v', d, rfl⟩
  · obtain ⟨hs, hb⟩ := List.append_inj' h rfl
    exact .inl ⟨by simpa using hb, hs, rfl⟩
  · rw [List.concat_eq_append, ← List.cons_append, ← List.append_assoc] at h
    obtain ⟨hs, hb⟩ := List.append_inj' h rfl
    exact .inr ⟨v', by simpa using hb.symm, hs⟩

theorem IsStyle.of_append_blank {s : List Char} {b : Char} (hb : isBlank b = true)
    (h : IsStyle (s ++ [b])) : IsStyle s := by
  obtain ⟨hq, -, hr, -⟩ := not_mark_of_isBlank hb
  generalize hu : s ++ [b] = u at h
  induction h generalizing s with
  | nil => simp at hu
  | @char c v hc hl hr' hv ih =>
    rcases mark_cases (u := []) hu with ⟨-, rfl, -⟩ | ⟨v', hv', rfl⟩
    · exact .nil
    · exact .char hc hl hr' (ih hv'.symm)
  | @quoted q v hm hv ih =>
    rcases mark_cases (u := '\'' :: q) hu with ⟨h, -⟩ | ⟨v', hv', rfl⟩
    · exact absurd h hq
    · exact .quoted hm (ih hv'.symm)
  | @braces t v ht hv iht ihv =>
    rcases mark_cases (u := '{' :: t) hu with ⟨h, -⟩ | ⟨v', hv', rfl⟩
    · exact absurd h hr
    · exact .braces ht (ihv hv'.symm)

theorem IsAttributes.of_append_singleton {s : List Char} {b : Char} (hd : b ≠ '"') (hq : b ≠ '\'')
    (h : IsAttributes (s ++ [b])) : IsAttributes s := by
  generalize hu : s ++ [b] = u at h
  induction h generalizing s with
  | nil => simp at hu
  | @char c v hd' hq' hgt hv ih =>
    rcases mark_cases (u := []) hu with ⟨-, rfl, -⟩ | ⟨v', hv', rfl⟩
    · exact .nil
    · exact .char hd' hq' hgt (ih hv'.symm)
  | @quoted mark q v hm hn hv ih =>
    rcases mark_cases (u := mark :: q) hu with ⟨rfl, -⟩ | ⟨v', hv', rfl⟩
    · exact (hm.elim hd hq).elim
    · exact .quoted hm hn (ih hv'.symm)

theorem IsStyle.trim {s : List Char} (h : IsStyle s) : IsStyle (trim s) := by
  refine of_trim (fun b s hb h => ?_) (fun b s hb h => h.of_append_blank hb) h
  obtain ⟨hq, hl, -⟩ := not_mark_of_isBlank hb
  cases h with
  | char _ _ _ h => exact h
  | quoted => exact absurd rfl hq
  | braces => exact absurd rfl hl

theorem IsAttributes.trim {s : List Char} (h : IsAttributes s) : IsAttributes (trim s) := by
  refine of_trim (fun b s hb h => ?_) (fun b s hb h => ?_) h
  · obtain ⟨hq, -, -, hd, -⟩ := not_mark_of_isBlank hb
    cases h with
    | char _ _ _ h => exact h
    | quoted hm =>
      rcases hm with rfl | rfl
      · exact absurd rfl hd
      · exact absurd rfl hq
  · obtain ⟨hq, -, -, hd, -⟩ := not_mark_of_isBlank hb
    exact h.of_append_singleton hd hq

variable {scope : Scope} {s r : List Char}

theorem Style.isStyleText {style : Option String} (h : Style s r style) :
    ∀ x ∈ style, IsStyleText x := by
  intro x hx
  cases h with
  | absent => cases hx
  | present hs ht =>
    rename_i t
    by_cases he : Text.trim t = []
    · simp [styleOf, he] at hx
    · obtain rfl : String.ofList (Text.trim t) = x := by simpa [styleOf, he] using hx
      refine ⟨by simpa using he, by simp [trim_trim], ?_⟩
      exact style?_eq_some_iff.mpr ⟨by simpa using ht.trim, rfl, rfl⟩

theorem Attributes.isAttributeText {x : String} (h : Attributes s r x) : IsAttributeText x := by
  cases h with
  | absent => exact ⟨rfl, .nil⟩
  | present hs hb ha =>
    obtain ⟨hq, -, -, hd, hgt⟩ := not_mark_of_isBlank hb
    refine ⟨by simp [trim_trim], ?_⟩
    simpa using (IsAttributes.char hd hq hgt ha).trim

theorem Offset.isOffset {value : Decimal} (h : Offset s r value) : IsOffset value := by
  cases h with
  | absent => exact ⟨['0'], .whole false ⟨by simp, List.all_eq_true.mp (by decide)⟩⟩
  | present _ _ hl =>
    obtain ⟨w, -, hw, -⟩ := hl
    exact ⟨w, hw⟩

/-! Nodes. -/

variable {B : Derivation (List Node)} {node : Node}

theorem Cases.pluralWellFormed {found : List (Case Matcher (List Node))}
    (hB : ∀ {s r nodes}, B scope s r nodes → AllWellFormed scope nodes)
    (h : Cases IsMatcher Matcher.text B scope s r found) : PluralWellFormed scope found := by
  induction h with
  | close => trivial
  | case _ hk _ hb _ ih => exact ⟨hk, hB hb, ih hB⟩

theorem Cases.selectWellFormed {found : List (Case String (List Node))}
    (hB : ∀ {s r nodes}, B scope s r nodes → AllWellFormed scope nodes)
    (h : Cases IsSelectKey id B scope s r found) : SelectWellFormed scope found := by
  induction h with
  | close => trivial
  | case _ hk _ hb _ ih => exact ⟨hk, hB hb, ih hB⟩

theorem not_selection_of_range {formatter : String} (h : isRangeName formatter = true) :
    isSelectionName formatter = false := by
  simp only [isRangeName, Bool.or_eq_true, beq_iff_eq] at h
  rcases h with h | h <;> simp [isSelectionName, h]

theorem Placeholder.wellFormed
    (hB : ∀ {scope s r nodes}, B scope s r nodes → AllWellFormed scope nodes)
    (h : Placeholder B scope s r node) : WellFormed scope node := by
  cases h with
  | argument _ hx => exact hx
  | typed _ hx _ _ hf ht =>
    cases ht with
    | call hsel hrange hst =>
      exact ⟨hf, hx, hsel, hrange, by simp, hst.isStyleText, rfl⟩
    | range hrange _ _ hn hst =>
      have hsel := not_selection_of_range hrange
      exact ⟨hf, hx, hsel, hrange, by simpa using hn, hst.isStyleText, rfl⟩
    | plural o _ _ ho hc hn => exact ⟨hx, ho.isOffset, hn, hc.pluralWellFormed hB⟩
    | select _ _ hc hn => exact ⟨hx, hn, hc.selectWellFormed hB⟩

theorem Tag.wellFormed (ht : scope.tags = true)
    (hB : ∀ {scope s r nodes}, B scope s r nodes → AllWellFormed scope nodes)
    (h : Tag B scope s r node) : WellFormed scope node := by
  cases h with
  | selfClosing _ hx ha => exact ⟨ht, hx, ha.isAttributeText, fun _ => rfl, trivial⟩
  | enclosing _ hx ha hb => exact ⟨ht, hx, ha.isAttributeText, by simp, hB hb⟩

theorem allWellFormed_cons {nodes : List Node} (hn : WellFormed scope node)
    (ht : startsWithText [node] = false) (h : AllWellFormed scope nodes) :
    AllWellFormed scope (node :: nodes) := ⟨hn, by simp [ht], h⟩

theorem startsWithText_cons (node : Node) (nodes : List Node) :
    startsWithText (node :: nodes) = startsWithText [node] := by
  cases node <;> rfl

theorem Placeholder.not_text (h : Placeholder B scope s r node) :
    startsWithText [node] = false := by
  cases h with
  | argument => rfl
  | typed _ _ _ _ _ ht => cases ht <;> rfl

theorem Tag.not_text (h : Tag B scope s r node) : startsWithText [node] = false := by
  cases h <;> rfl

/-- The induction is on the levels, which the bodies have fewer of, and then on the nodes. -/
theorem Sequence.allWellFormed {k : Nat} {nodes : List Node} (h : Sequence scope s r nodes)
    (hk : Node.levelsOf nodes < k) : AllWellFormed scope nodes := by
  induction k generalizing scope s r nodes with
  | zero => omega
  | succ k ihk =>
    have hB : ∀ {scope s r nodes}, Derivation.only Sequence (Node.levelsOf · < k) scope s r nodes →
        AllWellFormed scope nodes := fun h => ihk h.1 h.2
    induction nodes generalizing s with
    | nil => trivial
    | cons node nodes ih =>
      rw [Nat.lt_succ_iff, levelsOf_cons_le_iff] at hk
      have hbodies : ∀ body ∈ node.bodies, Node.levelsOf body < k := fun body hb =>
        Nat.lt_of_lt_of_le (Node.levelsOf_lt_of_mem hb) hk.1
      have hrest : Node.levelsOf nodes < k + 1 := Nat.lt_succ_of_le hk.2
      cases h with
      | text ht hne hn hseq =>
        refine ⟨?_, fun _ => hn, ih hseq hrest⟩
        simpa [WellFormed] using hne
      | hash hp hseq => exact allWellFormed_cons hp rfl (ih hseq hrest)
      | placeholder hp hseq =>
        have hp' := placeholder_only_iff.mpr ⟨hp, hbodies⟩
        exact allWellFormed_cons (hp'.wellFormed hB) hp.not_text (ih hseq hrest)
      | tag ht hp hseq =>
        have hpos : Node.levelsOf [] < k :=
          Nat.lt_of_lt_of_le (Node.levels_pos_of_opens (tag_opens hp)) hk.1
        have hp' := (tag_only_iff hpos).mpr ⟨hp, hbodies⟩
        exact allWellFormed_cons (hp'.wellFormed ht hB) hp.not_text (ih hseq hrest)

theorem isMessage_of_parse {settings : Settings} {p : List Char} {m : Message}
    (h : settings.parse p = .ok m) : IsMessage (!settings.ignoreTags) settings.maxDepth m := by
  obtain ⟨-, hd, hf⟩ := parse_eq_ok_iff.mp h
  exact ⟨Sequence.allWellFormed hd (Nat.lt_succ_self _), hf⟩

end MessageFormat.Pattern.Grammar

import MessageFormat.Proofs.Decimal.Positional
import MessageFormat.Proofs.Pattern.WellFormed

/-!
Messages written as patterns. Every well-formed message is read back from its pattern.
-/

set_option autoImplicit false

namespace MessageFormat.Pattern.Grammar

open Text

/-- An apostrophe stands for itself only where it is doubled. -/
def doubled (t : List Char) : List Char :=
  t.flatMap fun c => if c = '\'' then ['\'', '\''] else [c]

/-- From its first quotable character on, a text is one quotation: two that adjoin would be read as one
with an apostrophe in it. -/
def printText (t : List Char) : List Char :=
  doubled (t.takeWhile fun c => !isQuotable c) ++
    match t.dropWhile fun c => !isQuotable c with
    | [] => []
    | c :: quoted => '\'' :: (c :: doubled quoted) ++ ['\'']

/-- An optional slot of a placeholder. -/
def printSlot : Option String → List Char
  | none => []
  | some x => ',' :: ' ' :: x.toList

def printCall (c : FormatterCall) : List Char :=
  '{' :: (c.argument.toList ++ printSlot (some c.name) ++ printSlot c.endArgument ++
    printSlot c.style ++ ['}'])

def printOffset (value : Decimal) : List Char :=
  if value = Decimal.zero then [] else ' ' :: (offsetKeyword ++ value.positionalText)

/-- A blank after attributes keeps a slash at their end from closing the tag. -/
def printAttributes (x : String) : List Char :=
  if x = "" then [] else ' ' :: (x.toList ++ [' '])

mutual

def print : Node → List Char
  | .literal text => printText text.toList
  | .argument name => '{' :: (name.toList ++ ['}'])
  | .hash => ['#']
  | .call c => printCall c
  | .plural argument offset ordinal cases =>
    '{' :: (argument.toList ++ printSlot (some (pluralConstruct ordinal)) ++ [','] ++
      printOffset offset ++ printPlural cases ++ ['}'])
  | .select argument cases =>
    '{' :: (argument.toList ++ printSlot (some "select") ++ [','] ++ printSelect cases ++ ['}'])
  | .tag name attributes selfClosing children =>
    '<' :: (name.toList ++ printAttributes attributes ++
      if selfClosing then ['/', '>']
      else '>' :: (printAll children ++ '<' :: '/' :: (name.toList ++ ['>'])))
  | .foreign _ => []

def printAll : List Node → List Char
  | [] => []
  | n :: ns => print n ++ printAll ns

def printPlural : List (Case Matcher (List Node)) → List Char
  | [] => []
  | ⟨key, body⟩ :: cs =>
    ' ' :: (key.text.toList ++ ' ' :: '{' :: (printAll body ++ '}' :: printPlural cs))

def printSelect : List (Case String (List Node)) → List Char
  | [] => []
  | ⟨key, body⟩ :: cs =>
    ' ' :: (key.toList ++ ' ' :: '{' :: (printAll body ++ '}' :: printSelect cs))

end

variable {scope : Scope} {s r : List Char}

/-! Text. -/

theorem quoted_doubled {r : List Char} (hr : r.head? ≠ some '\'') (t : List Char) :
    Quoted (doubled t ++ '\'' :: r) r t := by
  induction t with
  | nil => exact .close hr
  | cons c t ih =>
    by_cases hc : c = '\''
    · subst hc
      simpa [doubled] using Quoted.apostrophe ih
    · simpa [doubled, hc] using Quoted.char hc ih

theorem isPlain_of_not_quotable {c : Char} (hq : c ≠ '\'') (hc : isQuotable c = false)
    (r : List Char) : IsPlain scope c r := by
  simp only [isQuotable, Bool.or_eq_false_iff, beq_eq_false_iff_ne, ne_eq] at hc
  obtain ⟨⟨⟨ho, hcl⟩, hh⟩, ha⟩ := hc
  exact ⟨hq, ho, fun h => absurd h hcl, fun h => absurd h hh, fun h => absurd h ha⟩

theorem textRun_doubled {t u : List Char} (ht : ∀ c ∈ t, isQuotable c = false)
    (h : TextRun scope s r u) : TextRun scope (doubled t ++ s) r (t ++ u) := by
  induction t with
  | nil => exact h
  | cons c t ih =>
    have ih := ih fun c hc => ht c (List.mem_cons_of_mem _ hc)
    by_cases hc : c = '\''
    · subst hc
      simpa [doubled] using TextRun.apostrophes ih
    · have hp : IsPlain scope c (doubled t ++ s) :=
        isPlain_of_not_quotable hc (ht c (by simp)) (doubled t ++ s)
      simpa [doubled, hc] using TextRun.plain hp ih

theorem textRun_printed (hr : r.head? ≠ some '\'') (t : List Char) :
    TextRun scope (printText t ++ r) r t := by
  have hplain : ∀ c ∈ t.takeWhile (fun c => !isQuotable c), isQuotable c = false := by
    intro c hc
    simpa using List.mem_takeWhile_imp hc
  have ht := List.takeWhile_append_dropWhile (p := fun c => !isQuotable c) (l := t)
  have hd := List.head?_dropWhile_not (fun c => !isQuotable c) t
  cases hq : t.dropWhile fun c => !isQuotable c with
  | nil =>
    have hnil : TextRun scope r r [] := .nil
    have h := textRun_doubled hplain hnil
    have ht' : t.takeWhile (fun c => !isQuotable c) = t := by simpa [hq] using ht
    rw [ht', List.append_nil] at h
    simpa [printText, hq, ht'] using h
  | cons c quoted =>
    rw [hq] at ht hd
    have hc : isQuotable c = true := by simpa using hd
    have hn : c ≠ '\'' := by
      intro hx
      subst hx
      revert hc
      decide
    have hnil : TextRun scope r r [] := .nil
    have hrun := TextRun.quotation hc (Quoted.char hn (quoted_doubled hr quoted)) hnil
    have h := textRun_doubled hplain hrun
    rw [List.append_nil, ht] at h
    simpa [printText, hq] using h

/-! Words. -/

theorem blanks_space (s : List Char) : Blanks (' ' :: s) s :=
  ⟨[' '], List.all_eq_true.mp (by decide), rfl⟩

theorem isLiteral_positionalText {value : Decimal} (h : IsOffset value) :
    IsLiteral value.positionalText value := by
  have he : value.exponent ≤ 0 := by
    obtain ⟨w, hw⟩ := h
    cases hw with
    | whole => exact Int.le_refl 0
    | fraction => exact Int.neg_nonpos_of_nonneg (Int.natCast_nonneg _)
  obtain ⟨width, hd, hn, hl⟩ := Decimal.positional_eq he
  have hdigits : ∀ c ∈ value.positional.1 ++ value.positional.2, isDigit c = true := by
    rw [hd]
    exact fun c hc => Decimal.isDigit_of_ascii (Decimal.ascii_of_padZeros c hc)
  have hcoefficient : digitsValue (value.positional.1 ++ value.positional.2) = value.coefficient := by
    rw [hd, Decimal.digitsValue_padZeros]
  have hw : IsDigits value.positional.1 := ⟨hn, fun c hc => hdigits c (by simp [hc])⟩
  have hf : ∀ c ∈ value.positional.2, isDigit c = true := fun c hc => hdigits c (by simp [hc])
  obtain ⟨negative, coefficient, exponent⟩ := value
  generalize hp : Decimal.positional ⟨negative, coefficient, exponent⟩ = q at *
  obtain ⟨w, f⟩ := q
  have htext : Decimal.positionalText ⟨negative, coefficient, exponent⟩ =
      minus negative ++ w ++ (if f.isEmpty then [] else '.' :: f) := by
    rw [Decimal.positionalText, hp]
    rfl
  rw [htext]
  cases f with
  | nil =>
    obtain rfl : exponent = 0 := by simp at hl; omega
    have h := IsLiteral.whole negative hw
    simp only [List.append_nil] at hcoefficient
    rw [hcoefficient] at h
    simpa using h
  | cons c f =>
    have h := IsLiteral.fraction negative hw ⟨List.cons_ne_nil c f, hf⟩
    rw [hcoefficient, hl] at h
    obtain hexp : -(exponent.natAbs : Int) = exponent := by simp at he; omega
    simp only at h
    rw [hexp] at h
    simpa using h

theorem attributes_printed {x : String} (h : IsAttributeText x) (r : List Char) :
    Attributes (printAttributes x ++ r) r x := by
  by_cases hx : x = ""
  · subst hx
    exact .absent
  · have hs : IsAttributes [' '] := .char (by decide) (by decide) (by decide) .nil
    have ha : Attributes (' ' :: (x.toList ++ [' '] ++ r)) r
        (String.ofList (trim (' ' :: (x.toList ++ [' '])))) :=
      .present rfl (by decide) (h.balanced.append hs) (by simp)
    rw [trim_cons_blank (by decide), trim_append_blank (by decide) h.trimmed] at ha
    simpa [printAttributes, hx] using ha

theorem style_printed {style : Option String} (h : ∀ x ∈ style, IsStyleText x) (r : List Char) :
    Style (printSlot style ++ '}' :: r) r style := by
  cases style with
  | none => exact .absent (blanks_refl _)
  | some x =>
    obtain ⟨hn, ht, hw⟩ := h x rfl
    obtain ⟨hs, -, -⟩ := style?_eq_some_iff.mp hw
    have hstyle : styleOf (' ' :: x.toList) = some x := by
      rw [styleOf, trim_cons_blank (by decide), ht, if_neg hn, String.ofList_toList]
    have hp := Style.present (blanks_refl (',' :: (' ' :: x.toList ++ '}' :: r)))
      (.char (by decide) (by decide) (by decide) hs)
    rw [hstyle] at hp
    exact hp

theorem isName_selection :
    IsName "select" ∧ ∀ ordinal, IsName (pluralConstruct ordinal) := by
  refine ⟨⟨by decide, List.all_eq_true.mp (by decide)⟩, ?_⟩
  intro h
  rcases h with _ | _
  · exact ⟨by decide, List.all_eq_true.mp (by decide)⟩
  · exact ⟨by decide, List.all_eq_true.mp (by decide)⟩

theorem lowerString_selection :
    lowerString "select" = "select" ∧
      ∀ ordinal, lowerString (pluralConstruct ordinal) = pluralConstruct ordinal := by
  refine ⟨by decide +kernel, ?_⟩
  intro h
  rcases h with _ | _
  · decide +kernel
  · decide +kernel

theorem call_printed {c : FormatterCall} (h : IsCall c) (r : List Char) :
    Placeholder Sequence scope (((printCall c).drop 1) ++ r) r (.call c) := by
  obtain ⟨formatter, argument, style, skeleton, second⟩ := c
  obtain ⟨hf, ha, hsel, hrange, hsecond, hstyle, hskeleton⟩ := h
  dsimp only at *
  subst hskeleton
  have hst := style_printed hstyle r
  cases second with
  | none =>
    have ht : Typed Sequence argument formatter scope _ r _ := .call hsel hrange hst
    have hp := Placeholder.typed (blanks_refl _) ha (blanks_refl _) (blanks_space _) hf ht
    simpa [printCall, printSlot] using hp
  | some x =>
    have ht : Typed Sequence argument formatter scope _ r _ :=
      .range hrange (blanks_refl _) (blanks_space _) (hsecond x rfl) hst
    have hp := Placeholder.typed (blanks_refl _) ha (blanks_refl _) (blanks_space _) hf ht
    simpa [printCall, printSlot] using hp

theorem offset_printed {value : Decimal} (h : IsOffset value) (t : List Char) :
    Offset (printOffset value ++ ' ' :: t) (' ' :: t) value := by
  by_cases hz : value = Decimal.zero
  · subst hz
    exact .absent
  · have hl : Literal (value.positionalText ++ ' ' :: t) (' ' :: t) value :=
      ⟨_, rfl, isLiteral_positionalText h, by simp [Ends]; decide, by simp⟩
    have ho := Offset.present (blanks_space _) (blanks_refl _) hl
    simpa [printOffset, hz] using ho

/-! Nodes. -/

theorem head_print {n : Node} (hn : startsWithText [n] = false) (hw : WellFormed scope n)
    (t : List Char) : (print n ++ t).head? ≠ some '\'' := by
  cases n with
  | literal text => simp [startsWithText] at hn
  | foreign kind => exact hw.elim
  | _ => simp [print, printCall]

theorem head_printAll {ns : List Node} (hn : startsWithText ns = false)
    (hw : AllWellFormed scope ns) (hr : r.head? ≠ some '\'') :
    (printAll ns ++ r).head? ≠ some '\'' := by
  cases ns with
  | nil => exact hr
  | cons n ns =>
    have hn' : startsWithText [n] = false := by
      cases n <;> simp_all [startsWithText]
    have h := head_print hn' hw.1 (printAll ns ++ r)
    simpa [printAll] using h

theorem printPlural_head {cs : List (Case Matcher (List Node))} (h : cs ≠ []) :
    ∃ t, printPlural cs = ' ' :: t := by
  cases cs with
  | nil => exact absurd rfl h
  | cons c cs => exact ⟨_, rfl⟩

mutual

theorem print_derives {scope : Scope} {s r : List Char} {ns : List Node} :
    ∀ n : Node, WellFormed scope n →
      (startsWithText [n] = true → startsWithText ns = false ∧ s.head? ≠ some '\'') →
      Sequence scope s r ns → Sequence scope (print n ++ s) r (n :: ns)
  | .literal text, hw, ht, hs => by
    obtain ⟨hns, hhead⟩ := ht rfl
    have hrun : TextRun scope _ s text.toList := textRun_printed hhead text.toList
    have h := Sequence.text hrun hw hns hs
    rwa [String.ofList_toList] at h
  | .argument name, hw, _, hs => by
    have hp : Placeholder Sequence scope (name.toList ++ '}' :: s) s (.argument name) :=
      .argument (blanks_refl _) hw (blanks_refl _)
    have h := Sequence.placeholder hp hs
    simpa [print] using h
  | .hash, hw, _, hs => .hash hw hs
  | .call c, hw, _, hs => .placeholder (call_printed hw s) hs
  | .plural argument offset ordinal cases, hw, _, hs => by
    obtain ⟨hx, ho, hn, hcases⟩ := hw
    have hc := printPlural_derives (s := s) cases hcases
    obtain ⟨t, ht⟩ := printPlural_head hn
    have ho' := offset_printed ho (t ++ '}' :: s)
    rw [← List.cons_append, ← ht] at ho'
    have ht : Typed Sequence argument _ scope _ s (.plural argument offset ordinal cases) :=
      .plural ordinal (lowerString_selection.2 ordinal) (blanks_refl _) ho' hc hn
    have hp := Placeholder.typed (blanks_refl _) hx (blanks_refl _) (blanks_space _)
      (isName_selection.2 ordinal) ht
    have h := Sequence.placeholder hp hs
    simpa [print, printSlot] using h
  | .select argument cases, hw, _, hs => by
    obtain ⟨hx, hn, hcases⟩ := hw
    have hc := printSelect_derives (s := s) cases hcases
    have ht : Typed Sequence argument _ scope _ s (.select argument cases) :=
      .select lowerString_selection.1 (blanks_refl _) hc hn
    have hp := Placeholder.typed (blanks_refl _) hx (blanks_refl _) (blanks_space _)
      isName_selection.1 ht
    have h := Sequence.placeholder hp hs
    simpa [print, printSlot] using h
  | .tag name attributes selfClosing children, hw, _, hs => by
    obtain ⟨ht, hx, ha, hself, hchildren⟩ := hw
    cases selfClosing with
    | true =>
      obtain rfl := hself rfl
      have hp : Tag Sequence scope _ s (.tag name attributes true []) :=
        .selfClosing rfl hx (attributes_printed ha ('/' :: '>' :: s))
      have h := Sequence.tag ht hp hs
      simpa [print] using h
    | false =>
      have hb := printAll_derives (r := '<' :: '/' :: (name.toList ++ '>' :: s)) children hchildren
        (by simp)
      have hp := Tag.enclosing rfl hx (attributes_printed ha _) hb rfl hx rfl (blanks_refl _)
      have h := Sequence.tag ht hp hs
      simpa [print] using h
  | .foreign _, hw, _, _ => hw.elim

theorem printAll_derives {scope : Scope} {r : List Char} :
    ∀ ns : List Node, AllWellFormed scope ns → r.head? ≠ some '\'' →
      Sequence scope (printAll ns ++ r) r ns
  | [], _, _ => .done
  | n :: ns, hw, hr => by
    have hs := printAll_derives ns hw.2.2 hr
    have h := print_derives n hw.1
      (fun hn => ⟨hw.2.1 hn, head_printAll (hw.2.1 hn) hw.2.2 hr⟩) hs
    simpa [printAll] using h

theorem printPlural_derives {scope : Scope} {s : List Char} :
    ∀ cs : List (Case Matcher (List Node)), PluralWellFormed scope cs →
      Cases IsMatcher Matcher.text Sequence scope (printPlural cs ++ '}' :: s) s cs
  | [], _ => .close (blanks_refl _)
  | ⟨key, body⟩ :: cs, hw => by
    have hb := printAll_derives (r := '}' :: (printPlural cs ++ '}' :: s)) body hw.2.1 (by simp)
    have hc := printPlural_derives (s := s) cs hw.2.2
    have h : Cases IsMatcher Matcher.text Sequence scope _ s (⟨key, body⟩ :: cs) :=
      .case (blanks_space _) hw.1 (blanks_space _) hb hc
    simpa [printPlural] using h

theorem printSelect_derives {scope : Scope} {s : List Char} :
    ∀ cs : List (Case String (List Node)), SelectWellFormed scope cs →
      Cases IsSelectKey id Sequence scope (printSelect cs ++ '}' :: s) s cs
  | [], _ => .close (blanks_refl _)
  | ⟨key, body⟩ :: cs, hw => by
    have hb := printAll_derives (r := '}' :: (printSelect cs ++ '}' :: s)) body hw.2.1 (by simp)
    have hc := printSelect_derives (s := s) cs hw.2.2
    have h : Cases IsSelectKey id Sequence scope _ s (⟨key, body⟩ :: cs) :=
      .case (blanks_space _) hw.1 (blanks_space _) hb hc
    simpa [printSelect] using h

end

/-- A pattern for a message. -/
def printMessage (m : Message) : List Char := printAll m.body

theorem printMessage_derives {tags : Bool} {limit : Int} {m : Message} (h : IsMessage tags limit m) :
    Derives tags (printMessage m) m := by
  have hd := printAll_derives (r := []) m.body h.nodes (by simp)
  rwa [List.append_nil] at hd

theorem parse_of_printed {settings : Settings} {p : List Char} {m : Message} (hp : printMessage m = p)
    (ha : settings.Admits p) (hm : IsMessage (!settings.ignoreTags) settings.maxDepth m) :
    settings.parse p = .ok m :=
  parse_eq_ok_iff.mpr ⟨ha, hp ▸ printMessage_derives hm, hm.depth⟩

/-- Patterns mean well-formed messages, and every well-formed message is meant by the pattern that is
printed for it. Without a limit on sizes nothing else is needed to be the meaning of a pattern. -/
theorem parse_printMessage (settings : Settings) :
    (∀ p m, settings.parse p = .ok m →
      IsMessage (!settings.ignoreTags) settings.maxDepth m) ∧
    (∀ m, IsMessage (!settings.ignoreTags) settings.maxDepth m →
      settings.Admits (printMessage m) → settings.parse (printMessage m) = .ok m) ∧
    (settings.maxSize ≤ 0 → ∀ m, (∃ p, settings.parse p = .ok m) ↔
      IsMessage (!settings.ignoreTags) settings.maxDepth m) := by
  have hprint : ∀ m, IsMessage (!settings.ignoreTags) settings.maxDepth m →
      settings.Admits (printMessage m) → settings.parse (printMessage m) = .ok m :=
    fun m h ha => parse_eq_ok_iff.mpr ⟨ha, printMessage_derives h, h.depth⟩
  refine ⟨fun p m => isMessage_of_parse, hprint, fun hsize m => ?_⟩
  constructor
  · intro hx
    obtain ⟨p, h⟩ := hx
    exact isMessage_of_parse h
  · intro h
    exact ⟨printMessage m, hprint m h fun hpos => by omega⟩

set_option maxRecDepth 4000 in
/-- An apostrophe before a quotation, and a quotation before a placeholder. -/
theorem parse_printMessage_quotation :
    printMessage ⟨[.literal "'\x7b", .argument "x"]⟩ = "'''\x7b'\x7bx\x7d".toList ∧
      Settings.parse {} "'''\x7b'\x7bx\x7d".toList = .ok ⟨[.literal "'\x7b", .argument "x"]⟩ := by
  have hp : printMessage ⟨[.literal "'\x7b", .argument "x"]⟩ = "'''\x7b'\x7bx\x7d".toList := by cbv
  obtain ⟨himage, hprint, -⟩ := parse_printMessage {}
  have h := hprint _ (himage "'''\x7b'\x7bx\x7d".toList ⟨[.literal "'\x7b", .argument "x"]⟩ (by cbv))
  rw [hp] at h
  exact ⟨hp, h fun _ => by decide⟩

end MessageFormat.Pattern.Grammar

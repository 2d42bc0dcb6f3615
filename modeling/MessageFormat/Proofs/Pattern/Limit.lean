import MessageFormat.Proofs.Pattern.Derivation

/-!
A nesting limit only refuses. What it lets pass, and what is refused for another reason, is as under any
greater limit.
-/

set_option autoImplicit false

namespace MessageFormat.Pattern

open Text

variable {α β : Type}

/-- `x` is `y`, or the limit refuses. -/
def Limited (limit : Int) (x y : Except Failure α) : Prop :=
  x = y ∨ ∃ rest, x = fail (.nestingDepthExceeded limit) rest

theorem limited_refl {limit : Int} (x : Except Failure α) : Limited limit x x := .inl rfl

theorem limited_refused {limit : Int} {rest : List Char} (y : Except Failure α) :
    Limited limit (fail (.nestingDepthExceeded limit) rest) y := .inr ⟨rest, rfl⟩

/-- What follows is not run once the limit has refused. -/
theorem Limited.bind {limit : Int} {x y : Except Failure α} {f g : α → Except Failure β}
    (h : Limited limit x y) (hf : ∀ a, Limited limit (f a) (g a)) :
    Limited limit (x >>= f) (y >>= g) := by
  rcases h with rfl | ⟨rest, rfl⟩
  · cases x with
    | ok a => exact hf a
    | error e => exact limited_refl _
  · exact limited_refused _

variable {limit limit' : Int}

/-- The first reader of bodies is the second with a limit. -/
def BodyLimited (limit : Int) (body body' : Body) : Prop := ∀ s, Limited limit (body s) (body' s)

section Bodies

variable {body body' : Body} (hb : BodyLimited limit body body')

include hb

theorem limited_caseBody (key : String) (s : List Char) :
    Limited limit (caseBody key body s) (caseBody key body' s) := by
  unfold caseBody
  split
  · exact (hb _).bind fun _ => limited_refl _
  · exact limited_refl _

variable {κ : Type} (key : List Char → Except Failure (Read κ)) (keyText : κ → String)

theorem limited_oneCase (s : List Char) :
    Limited limit (oneCase key keyText body s) (oneCase key keyText body' s) := by
  refine (limited_refl _).bind fun k => ?_
  exact (limited_caseBody hb _ _).bind fun _ => limited_refl _

theorem limited_caseList (fuel : Nat) (s : List Char) :
    Limited limit (caseList key keyText body fuel s) (caseList key keyText body' fuel s) := by
  induction fuel generalizing s with
  | zero => exact limited_refl _
  | succ fuel ih =>
    by_cases he : EndsCases s
    · rw [caseList_of_end _ _ _ he, caseList_of_end _ _ _ he]
      exact limited_refl _
    · rw [caseList_of_key _ _ _ he, caseList_of_key _ _ _ he]
      refine (limited_oneCase hb key keyText s).bind fun a => ?_
      exact (ih _).bind fun _ => limited_refl _

theorem limited_cases (construct : String) (origin s : List Char) :
    Limited limit (cases construct key keyText body origin s)
      (cases construct key keyText body' origin s) :=
  (limited_caseList hb key keyText _ s).bind fun _ => limited_refl _

theorem limited_plural (ordinal : Bool) (argument : String) (origin s : List Char) :
    Limited limit (plural ordinal argument body origin s)
      (plural ordinal argument body' origin s) := by
  refine (limited_refl _).bind fun r => (limited_refl _).bind fun a => ?_
  exact (limited_cases hb _ _ _ _ _).bind fun _ => limited_refl _

theorem limited_select (argument : String) (origin s : List Char) :
    Limited limit (select argument body origin s) (select argument body' origin s) := by
  refine (limited_refl _).bind fun r => ?_
  exact (limited_cases hb _ _ _ _ _).bind fun _ => limited_refl _

end Bodies

theorem limited_typed {body body' : Bool → Body}
    (hb : ∀ plural, BodyLimited limit (body plural) (body' plural)) (argument formatter : String)
    (origin s : List Char) :
    Limited limit (typed argument formatter body origin s)
      (typed argument formatter body' origin s) := by
  unfold typed
  split
  · exact limited_plural (hb _) _ _ _ _
  · exact limited_plural (hb _) _ _ _ _
  · exact limited_select (hb _) _ _ _
  · exact limited_refl _
  · exact limited_refl _
  · exact limited_refl _

/-- The readers of the next level, of which the first may be missing. -/
def InnerLimited (limit : Int) : Option Inner → Option Inner → Prop
  | none, _ => True
  | some _, none => False
  | some inner, some inner' =>
    ∀ scope inTag, BodyLimited limit (inner scope inTag) (inner' scope inTag)

section Inner

variable {inner inner' : Option Inner} (hi : InnerLimited limit inner inner')

include hi

theorem limited_placeholder (scope : Scope) (origin : List Char) :
    Limited limit (placeholder limit inner scope origin)
      (placeholder limit' inner' scope origin) := by
  cases inner with
  | none => exact limited_refused _
  | some inner =>
    cases inner' with
    | none => exact hi.elim
    | some inner' =>
      unfold placeholder
      refine (limited_refl _).bind fun a => ?_
      dsimp only
      split
      · exact limited_refl _
      · refine (limited_refl _).bind fun b => ?_
        refine (limited_typed (fun plural => hi (scope.body plural) false) _ _ _ _).bind fun c => ?_
        exact limited_refl _
      · exact limited_refl _

theorem limited_tag (scope : Scope) (origin : List Char) :
    Limited limit (tag limit inner scope origin) (tag limit' inner' scope origin) := by
  cases inner with
  | none => exact limited_refused _
  | some inner =>
    cases inner' with
    | none => exact hi.elim
    | some inner' =>
      unfold tag
      refine (limited_refl _).bind fun a => ?_
      dsimp only
      split
      · exact limited_refl _
      · refine (hi scope true _).bind fun b => ?_
        exact limited_refl _
      · exact limited_refl _

theorem limited_sequence (scope : Scope) (inTag : Bool) (fuel : Nat) (s : List Char) :
    Limited limit (sequence limit inner scope inTag fuel s)
      (sequence limit' inner' scope inTag fuel s) := by
  induction fuel generalizing s with
  | zero => exact limited_refl _
  | succ fuel ih =>
    have hnext : ∀ a : Read Node, Limited limit (continued limit inner scope inTag fuel a)
        (continued limit' inner' scope inTag fuel a) :=
      fun a => (ih a.2).bind fun _ => limited_refl _
    cases opening scope inTag s with
    | stop h =>
      rw [sequence_of_stop h, sequence_of_stop h]
      exact limited_refl _
    | stray c r ht hin hc =>
      rw [sequence_stray r ht hin hc, sequence_stray r ht hin hc]
      exact limited_refl _
    | placeholder r =>
      rw [sequence_placeholder, sequence_placeholder]
      exact (limited_placeholder hi scope _).bind hnext
    | tag c r ht hc =>
      rw [sequence_tag r ht hc, sequence_tag r ht hc]
      exact (limited_tag hi scope _).bind hnext
    | hash r hp =>
      rw [sequence_hash r hp, sequence_hash r hp]
      exact hnext _
    | text c r h =>
      rw [sequence_text h, sequence_text h]
      exact hnext _

end Inner

theorem limited_nodesWithin (limit limit' : Int) {n n' : Nat} (h : n ≤ n') (scope : Scope)
    (inTag : Bool) :
    BodyLimited limit (nodesWithin limit n scope inTag) (nodesWithin limit' n' scope inTag) := by
  induction n generalizing n' scope inTag with
  | zero =>
    -- with no level left each placeholder and tag is refused, so nothing is said of the other reader
    intro s
    have hi : ∀ inner', InnerLimited limit none inner' := fun _ => trivial
    cases n' with
    | zero => exact limited_sequence (hi _) scope inTag _ s
    | succ n' => exact limited_sequence (hi _) scope inTag _ s
  | succ n ih =>
    intro s
    obtain ⟨n', rfl⟩ : ∃ k, n' = k + 1 := ⟨n' - 1, by omega⟩
    have hi : InnerLimited limit (some (nodesWithin limit n)) (some (nodesWithin limit' n')) :=
      fun scope inTag => ih (by omega) scope inTag
    exact limited_sequence hi scope inTag _ s

namespace Settings

variable {settings : Settings} {low high : Int} {p : List Char}

theorem parse_limited (h : low ≤ high) :
    { settings with maxDepth := low }.parse p = { settings with maxDepth := high }.parse p ∨
      ∃ span, { settings with maxDepth := low }.parse p =
        .error (.malformed (.nestingDepthExceeded low) span) := by
  by_cases ha : settings.Admits p
  · have hl : { settings with maxDepth := low }.Admits p := ha
    have hh : { settings with maxDepth := high }.Admits p := ha
    rw [parse_of_admits hl, parse_of_admits hh]
    have hn : low.toNat ≤ high.toNat := by omega
    rcases limited_nodesWithin low high hn { tags := !settings.ignoreTags } false p with he | ⟨r, he⟩
    · left
      rw [nodes, nodes, he]
    · right
      rw [nodes, he]
      exact ⟨_, rfl⟩
  · have hl : ¬ { settings with maxDepth := low }.Admits p := ha
    have hh : ¬ { settings with maxDepth := high }.Admits p := ha
    left
    rw [parse_of_not_admits hl, parse_of_not_admits hh]

theorem parse_ok_limited (h : low ≤ high) {m : Message} :
    { settings with maxDepth := low }.parse p = .ok m ↔
      { settings with maxDepth := high }.parse p = .ok m ∧ m.FitsWithin low := by
  rw [Grammar.parse_eq_ok_iff, Grammar.parse_eq_ok_iff]
  constructor
  · intro hx
    obtain ⟨ha, hd, hf⟩ := hx
    refine ⟨⟨ha, hd, ?_⟩, hf⟩
    exact fun q hq ho => Int.lt_of_lt_of_le (hf q hq ho) h
  · intro hx
    obtain ⟨⟨ha, hd, -⟩, hf⟩ := hx
    exact ⟨ha, hd, hf⟩

/-- A smaller nesting limit gives the same message or the same flaw at the same place as a greater one,
or refuses for depth; and it gives a message just where the greater one does and the message is not
too deep. -/
theorem parse_filtered_by_limit (settings : Settings) (low high : Int) (h : low ≤ high)
    (p : List Char) :
    ({ settings with maxDepth := low }.parse p = { settings with maxDepth := high }.parse p ∨
      ∃ span, { settings with maxDepth := low }.parse p =
        .error (.malformed (.nestingDepthExceeded low) span)) ∧
    ∀ m, { settings with maxDepth := low }.parse p = .ok m ↔
      { settings with maxDepth := high }.parse p = .ok m ∧ m.FitsWithin low :=
  ⟨parse_limited h, fun _ => parse_ok_limited h⟩

set_option maxRecDepth 4000 in
/-- A variable in a tag is too deep for a limit of one. -/
theorem parse_filtered_by_limit_one :
    Settings.parse { maxDepth := 1 } "<b>\x7bx\x7d</b>".toList =
      .error (.malformed (.nestingDepthExceeded 1) ⟨3, 3, 1, 4⟩) ∧
    ¬ Message.FitsWithin 1 ⟨[.tag "b" "" false [.argument "x"]]⟩ := by
  have hlow : Settings.parse { maxDepth := 1 } "<b>\x7bx\x7d</b>".toList =
    .error (.malformed (.nestingDepthExceeded 1) ⟨3, 3, 1, 4⟩) := by cbv
  have hhigh : Settings.parse { maxDepth := 2 } "<b>\x7bx\x7d</b>".toList =
    .ok ⟨[.tag "b" "" false [.argument "x"]]⟩ := by cbv
  refine ⟨hlow, fun hf => ?_⟩
  have h := ((parse_filtered_by_limit {} 1 2 (by decide) _).2 _).mpr ⟨hhigh, hf⟩
  rw [show ({ maxDepth := 1 } : Settings).parse "<b>\x7bx\x7d</b>".toList = _ from hlow] at h
  cases h

end Settings

end MessageFormat.Pattern

import MessageFormat.Proofs.Evaluation.Faults
import MessageFormat.Proofs.Evaluation.Names
import MessageFormat.Proofs.Evaluation.Trail

/-!
What it changes that all arguments are required. The evaluation is the lenient one up to the first argument
that is null, and that one it misses.
-/

set_option autoImplicit false

namespace MessageFormat

open Trail (Reading)

/-- A look-up is of one of these names and finds what the arguments hold. -/
def Event.Finds (arguments : Arguments) (names : String → Prop) : Event → Prop
  | .call _ => True
  | .lookup name value => arguments.get name = .ok value ∧ names name

def Error.MissesNothing (e : Error) : Prop := ∀ name, e ≠ .missingVariable name

namespace Evaluator

def callTrail (ev : Evaluator) (call : FormatterCall) : Trail Value := do
  let start ← Trail.lookup ev.arguments call.argument
  match call.endArgument with
  | none => return start
  | some name =>
    let stop ← Trail.lookup ev.arguments name
    return .tuple [start, stop]

mutual

/-- The trail of a node at a place. Null is a value like others. -/
def trail (ev : Evaluator) (limit : Int) : Node → Place → Trail String
  | .literal text => fun _ => pure text
  | .argument name => fun _ => do
    let v ← Trail.lookup ev.arguments name
    Trail.ofOutcome (Format.plain ev.context ev.graph v)
  | .call c => fun _ => do
    let v ← ev.callTrail c
    Trail.ofOutcome (ev.callText c v)
  | .plural argument offset ordinal cases => fun place => do
    let value ← Trail.lookup ev.arguments argument
    let number ← Trail.ofOutcome (pluralNumber value offset)
    let body ← Trail.ofOutcome (ev.pluralCase value number ordinal (pluralTrails ev limit cases))
    Trail.withNumber number (Trail.nested limit body) place
  | .select argument cases => fun place => do
    let value ← Trail.lookup ev.arguments argument
    match keyCase? (selectTrails ev limit cases) (ev.graph.selectKey value) with
    | some body => Trail.nested limit body place
    | none => Trail.ofOutcome (Outcome.fail (.missingOption "select"))
  | .hash => fun place =>
    match place.number with
    | none => pure "#"
    | some number => Trail.ofOutcome (Format.plainNumber ev.context ev.graph number)
  | .tag name attributes selfClosing children => fun place => do
    let content ← Trail.nested limit (trails ev limit children) place
    Trail.ofOutcome (ev.tagText name attributes selfClosing content)
  | .foreign kind => fun _ => Trail.ofOutcome (Outcome.fail (.foreignNode kind))

def trails (ev : Evaluator) (limit : Int) : List Node → Place → Trail String
  | [] => fun _ => pure ""
  | n :: ns => fun place => do
    let first ← trail ev limit n place
    let rest ← trails ev limit ns place
    return first ++ rest

def pluralTrails (ev : Evaluator) (limit : Int) :
    List (Case Matcher (List Node)) → List (Case Matcher (Place → Trail String))
  | [] => []
  | ⟨key, body⟩ :: cases => ⟨key, trails ev limit body⟩ :: pluralTrails ev limit cases

def selectTrails (ev : Evaluator) (limit : Int) :
    List (Case String (List Node)) → List (Case String (Place → Trail String))
  | [] => []
  | ⟨key, body⟩ :: cases => ⟨key, trails ev limit body⟩ :: selectTrails ev limit cases

end

/-- The trail of a message under a limit on nesting. -/
def messageTrail (ev : Evaluator) (limit : Int) (m : Message) : Trail String :=
  ev.trails (Depth.clamp limit).depth m.body {}

variable {ev : Evaluator} {limit : Int}

theorem pluralTrails_eq (cases : List (Case Matcher (List Node))) :
    pluralTrails ev limit cases = cases.map (Case.map (ev.trails limit)) := by
  induction cases with
  | nil => rfl
  | cons c cases ih => rw [pluralTrails, ih]; rfl

theorem selectTrails_eq (cases : List (Case String (List Node))) :
    selectTrails ev limit cases = cases.map (Case.map (ev.trails limit)) := by
  induction cases with
  | nil => rfl
  | cons c cases ih => rw [selectTrails, ih]; rfl

/-! A trail is read as what the message means, if look-ups are. -/

section Reading

variable {ρ : Reading} {required : Bool}

/-- Look-ups are read as they are made where arguments are required, or where they are not. -/
def ReadsLookups (ev : Evaluator) (ρ : Reading) (required : Bool) : Prop :=
  ∀ name, ρ.read (Trail.lookup ev.arguments name) =
    lookup { ev with requireAllVariables := required } name

theorem read_nested {t : Place → Trail String} {m : Meaning String}
    (h : ∀ place, ρ.read (t place) = m place) (place : Place) :
    ρ.read (Trail.nested limit t place) = m.nested limit place := by
  unfold Trail.nested Meaning.nested
  split
  · exact ρ.read_ofOutcome _
  · split
    · exact ρ.read_ofOutcome _
    · exact h _

variable (hl : ReadsLookups ev ρ required)

include hl

theorem read_callTrail (call : FormatterCall) : ρ.read (ev.callTrail call) =
    callLookup { ev with requireAllVariables := required } call := by
  rw [callTrail, callLookup, ρ.read_bind, hl]
  refine bind_congr fun start => ?_
  cases call.endArgument with
  | none => exact ρ.read_pure start
  | some name =>
    dsimp only
    rw [ρ.read_bind, hl]
    exact bind_congr fun stop => ρ.read_pure _

theorem read_trail {n : Node} (h : ∀ body ∈ n.bodies, ∀ place, ρ.read (ev.trails limit body place) =
      meanings { ev with requireAllVariables := required } limit (pure "#") body place)
    (place : Place) : ρ.read (ev.trail limit n place) =
      meaning { ev with requireAllVariables := required } limit (pure "#") n place := by
  cases n with
  | literal text => exact ρ.read_pure text
  | argument name =>
    rw [trail, meaning, ρ.read_bind, hl]
    exact bind_congr fun v => ρ.read_ofOutcome _
  | call c =>
    rw [trail, meaning, ρ.read_bind, read_callTrail hl]
    exact bind_congr fun v => ρ.read_ofOutcome _
  | hash =>
    simp only [trail, meaning]
    cases place.number with
    | none => exact ρ.read_pure "#"
    | some number => exact ρ.read_ofOutcome _
  | plural argument offset ordinal cases =>
    rw [trail, meaning_plural, ρ.read_bind, hl]
    refine bind_congr fun value => ?_
    rw [ρ.read_bind, ρ.read_ofOutcome]
    refine bind_congr fun number => ?_
    rw [ρ.read_bind, ρ.read_ofOutcome, pluralTrails_eq, pluralCase_map, bind_map_left]
    refine Outcome.bind_congr_of_ok fun body hbody => ?_
    exact read_nested (h body (mem_of_pluralCase hbody)) _
  | select argument cases =>
    rw [trail, meaning_select, ρ.read_bind, hl]
    refine bind_congr fun value => ?_
    rw [selectTrails_eq, keyCase?_map]
    cases hbody : keyCase? cases (ev.graph.selectKey value) with
    | none => exact ρ.read_ofOutcome _
    | some body => exact read_nested (h body (mem_of_keyCase? hbody)) place
  | tag name attributes selfClosing children =>
    rw [trail, meaning, ρ.read_bind, read_nested (h children (List.mem_singleton_self _))]
    exact bind_congr fun content => ρ.read_ofOutcome _
  | «foreign» kind => exact ρ.read_ofOutcome _

theorem read_trails (ns : List Node) : ∀ place, ρ.read (ev.trails limit ns place) =
    meanings { ev with requireAllVariables := required } limit (pure "#") ns place := by
  induction ns using Node.bodies_induction with
  | nil => exact fun place => ρ.read_pure ""
  | cons n ns hbodies hrest =>
    intro place
    rw [trails, meanings, ρ.read_bind, read_trail hl hbodies]
    refine bind_congr fun first => ?_
    rw [ρ.read_bind, hrest]
    exact bind_congr fun rest => ρ.read_pure _

end Reading

theorem readsLookups_whole : ReadsLookups ev .whole false := by
  intro name
  simp only [Reading.whole, Trail.lookup, lookup]
  cases ev.arguments.get name with
  | error fault => rfl
  | ok value => cases value <;> rfl

/-- Of a look-up of null nothing is left but the error. -/
theorem readsLookups_upToNull : ReadsLookups ev .upToNull true := by
  intro name
  simp only [Reading.upToNull, Trail.lookup, lookup]
  cases ev.arguments.get name with
  | error fault => rfl
  | ok value => cases value <;> rfl

theorem message_lenient (ev : Evaluator) (limit : Int) (m : Message) :
    message { ev with requireAllVariables := false } limit m = (ev.messageTrail limit m).outcome := by
  rw [message_eq]
  exact (read_trails readsLookups_whole m.body {}).symm

theorem message_strict (ev : Evaluator) (limit : Int) (m : Message) :
    message { ev with requireAllVariables := true } limit m = (ev.messageTrail limit m).cut := by
  rw [message_eq]
  exact (read_trails readsLookups_upToNull m.body {}).symm

/-! What is looked up, and that a lenient evaluation misses nothing. -/

section Names

variable {names : String → Prop}

/-- Look-ups are of these names only. -/
abbrev Looks (ev : Evaluator) (names : String → Prop) {α : Type} (t : Trail α) : Prop :=
  t.Obeys (Event.Finds ev.arguments names) Error.MissesNothing

theorem looks_ofOutcome {α : Type} {o : Outcome α} (h : o.FailsBy Error.MissesNothing) :
    ev.Looks names (Trail.ofOutcome o) :=
  Trail.obeys_ofOutcome (fun _ => trivial) h

theorem looks_fail {α : Type} {e : Error} (h : e.MissesNothing) :
    ev.Looks names (Trail.ofOutcome (Outcome.fail e : Outcome α)) :=
  looks_ofOutcome (Outcome.failsBy_fail h)

theorem looks_ofFaults {α : Type} {o : Outcome α} (h : o.FaultsOnly) :
    ev.Looks names (Trail.ofOutcome o) :=
  looks_ofOutcome (h.failsBy fun _ _ => Error.noConfusion)

theorem looks_lookup {name : String} (h : names name) :
    ev.Looks names (Trail.lookup ev.arguments name) := by
  unfold Trail.lookup
  split
  · rename_i value hget
    refine ⟨fun e he => ?_, fun _ he => nomatch he⟩
    rw [List.mem_singleton.mp he]
    exact ⟨hget, h⟩
  · refine ⟨fun _ he => (List.not_mem_nil he).elim, fun e he => ?_⟩
    rw [← Except.error.inj he]
    exact fun _ => Error.noConfusion

theorem looks_callTrail {call : FormatterCall} (h : ∀ x ∈ (Node.call call).ownNames, names x) :
    ev.Looks names (ev.callTrail call) := by
  refine (looks_lookup (h _ List.mem_cons_self)).bind fun start => ?_
  cases hend : call.endArgument with
  | none => exact Trail.obeys_pure _
  | some name =>
    refine (looks_lookup (h name (by simp [Node.ownNames, hend]))).bind fun stop => ?_
    exact Trail.obeys_pure _

theorem looks_nested {t : Place → Trail String} (h : ∀ place, ev.Looks names (t place))
    (place : Place) : ev.Looks names (Trail.nested limit t place) :=
  Trail.Obeys.nested (fun _ => trivial) (fun _ => Error.noConfusion) (fun _ => Error.noConfusion) h
    place

theorem looks_trail {n : Node} (hown : ∀ x ∈ n.ownNames, names x)
    (h : ∀ body ∈ n.bodies, ∀ place, ev.Looks names (ev.trails limit body place)) (place : Place) :
    ev.Looks names (ev.trail limit n place) := by
  cases n with
  | literal text => exact Trail.obeys_pure _
  | argument name =>
    refine (looks_lookup (hown name (List.mem_singleton_self _))).bind fun v => ?_
    exact looks_ofFaults (Format.consults_plain v).faultsOnly
  | call c => exact (looks_callTrail hown).bind fun v => looks_ofFaults (consults_callText c v).faultsOnly
  | hash =>
    simp only [trail]
    split
    · exact Trail.obeys_pure _
    · exact looks_ofFaults (Format.consults_plainNumber _).faultsOnly
  | plural argument offset ordinal cases =>
    refine (looks_lookup (hown argument (List.mem_singleton_self _))).bind fun value => ?_
    refine (looks_ofFaults (consults_pluralNumber ev.context value offset).faultsOnly).bind fun number => ?_
    refine (looks_ofOutcome (pluralCase_obeys ?_ ?_ _ _ _ _).error).bind_of_ok fun t ht => ?_
    · exact fun _ _ => Error.noConfusion
    · exact fun _ _ => Error.noConfusion
    · rw [pluralTrails_eq] at ht
      have hmem := mem_of_pluralCase ht
      rw [List.map_map] at hmem
      obtain ⟨c, hc, rfl⟩ := List.mem_map.mp hmem
      exact looks_nested (h c.body (List.mem_map_of_mem hc)) _
  | select argument cases =>
    refine (looks_lookup (hown argument (List.mem_singleton_self _))).bind fun value => ?_
    rw [selectTrails_eq, keyCase?_map]
    cases hbody : keyCase? cases (ev.graph.selectKey value) with
    | none => exact looks_fail fun _ => Error.noConfusion
    | some body => exact looks_nested (h body (mem_of_keyCase? hbody)) place
  | tag name attributes selfClosing children =>
    refine (looks_nested (h children (List.mem_singleton_self _)) place).bind fun content => ?_
    exact looks_ofFaults (consults_tagText _ _ _ _).faultsOnly
  | «foreign» kind => exact looks_fail fun _ => Error.noConfusion

theorem looks_trails (ns : List Node) (h : ∀ n ∈ Node.subtrees ns, ∀ x ∈ n.ownNames, names x) :
    ∀ place, ev.Looks names (ev.trails limit ns place) := by
  induction ns using Node.bodies_induction with
  | nil => exact fun _ => Trail.obeys_pure ""
  | cons n ns hbodies hrest =>
    intro place
    obtain ⟨hown, hinside, hafter⟩ := Node.forall_subtrees_cons.mp h
    have hbody : ∀ body ∈ n.bodies, ∀ place, ev.Looks names (ev.trails limit body place) :=
      fun body hb => hbodies body hb (hinside body hb)
    refine (looks_trail hown hbody place).bind fun first => ?_
    exact (hrest hafter place).bind fun rest => Trail.obeys_pure _

end Names

theorem looks_messageTrail (ev : Evaluator) (limit : Int) (m : Message) :
    ev.Looks (· ∈ m.argumentNames) (ev.messageTrail limit m) :=
  looks_trails m.body (fun n hn _ hx => Message.mem_argumentNames.mpr ⟨n, hn, hx⟩) {}

/-- Only a look-up of null is missed. -/
theorem cut_missing_iff (ev : Evaluator) (limit : Int) (m : Message) (x : String) :
    (ev.messageTrail limit m).cut.result = .error (.missingVariable x) ↔
      (ev.messageTrail limit m).firstNull? = some x := by
  cases h : (ev.messageTrail limit m).firstNull? with
  | none =>
    rw [Trail.cut_of_no_null h]
    have hx := (looks_messageTrail ev limit m).error (.missingVariable x)
    exact ⟨fun he => (hx he x rfl).elim, fun he => nomatch he⟩
  | some name =>
    rw [Trail.cut_of_null h]
    simp

/-- A message is evaluated with all arguments required as it is without, up to the first look-up of null.
The trail of the message holds what the lenient evaluation looks up, with the values that the arguments
hold; the strict evaluation is that trail, cut. A strict text is the lenient text. A name is missed if, and
only if, it is the name of the first look-up of null, and the message then names it. Where nothing is
looked up in vain there is no difference, in texts, errors and requests to locale data. -/
theorem message_strict_cuts_lenient (ev : Evaluator) (limit : Int) (m : Message) :
    (message { ev with requireAllVariables := false } limit m = (ev.messageTrail limit m).outcome ∧
      message { ev with requireAllVariables := true } limit m = (ev.messageTrail limit m).cut ∧
      ∀ name value, .lookup name value ∈ (ev.messageTrail limit m).events →
        ev.arguments.get name = .ok value) ∧
    (∀ s, (message { ev with requireAllVariables := true } limit m).result = .ok s →
      (message { ev with requireAllVariables := false } limit m).result = .ok s) ∧
    (∀ x, ((message { ev with requireAllVariables := true } limit m).result =
        .error (.missingVariable x) ↔ (ev.messageTrail limit m).firstNull? = some x) ∧
      ((ev.messageTrail limit m).firstNull? = some x → x ∈ m.argumentNames)) ∧
    ((∀ name, .lookup name .null ∉ (ev.messageTrail limit m).events) →
      message { ev with requireAllVariables := true } limit m =
        message { ev with requireAllVariables := false } limit m) := by
  have hlooks := looks_messageTrail ev limit m
  rw [message_lenient, message_strict]
  refine ⟨⟨rfl, rfl, fun name value he => (hlooks.events _ he).1⟩, fun s hs => ?_,
    fun x => ⟨cut_missing_iff ev limit m x, fun hx => ?_⟩, fun hnone => ?_⟩
  · cases h : (ev.messageTrail limit m).firstNull? with
    | none => rwa [← Trail.cut_of_no_null h]
    | some name =>
      rw [Trail.cut_of_null h] at hs
      cases hs
  · obtain ⟨e, he, hname⟩ := List.exists_of_findSome?_eq_some hx
    obtain rfl : e = .lookup x .null := Event.eq_of_nullName? hname
    exact (hlooks.events _ he).2
  · refine Trail.cut_of_no_null (List.findSome?_eq_none_iff.mpr fun e he => ?_)
    cases hname : e.nullName? with
    | none => rfl
    | some name =>
      obtain rfl : e = .lookup name .null := Event.eq_of_nullName? hname
      exact (hnone name he).elim

/-- Without `b` the lenient evaluation takes the `null` case and looks up `c` in vain as well, but the
strict one misses `b`. With `b` nothing is looked up in vain. -/
theorem message_strict_cuts_lenient_select : ∃ m : Message,
    m = ⟨[.argument "a", .select "b" [⟨"null", [.argument "c"]⟩, ⟨"other", []⟩]]⟩ ∧
    ∀ context : Locale.Context,
      (messageTrail { context, arguments := .named [(.text "a", .text "x")] } 100 m).firstNull? =
        some "b" ∧
      "b" ∈ m.argumentNames ∧
      (message { context, arguments := .named [(.text "a", .text "x"), (.text "b", .text "y")] }
        100 m).result = .ok "x" ∧
      message { context, arguments := .named [(.text "a", .text "x"), (.text "b", .text "y")],
                requireAllVariables := true } 100 m =
        message { context, arguments := .named [(.text "a", .text "x"), (.text "b", .text "y")] }
          100 m := by
  refine ⟨_, rfl, fun context => ?_⟩
  obtain ⟨-, -, hmissing, -⟩ := message_strict_cuts_lenient
    { context, arguments := .named [(.text "a", .text "x")] } 100
    ⟨[.argument "a", .select "b" [⟨"null", [.argument "c"]⟩, ⟨"other", []⟩]]⟩
  obtain ⟨-, htext, -, hsame⟩ := message_strict_cuts_lenient
    { context, arguments := .named [(.text "a", .text "x"), (.text "b", .text "y")] } 100
    ⟨[.argument "a", .select "b" [⟨"null", [.argument "c"]⟩, ⟨"other", []⟩]]⟩
  have hfirst := (hmissing "b").1.mp rfl
  refine ⟨hfirst, (hmissing "b").2 hfirst, htext "x" rfl, hsame fun name hn => ?_⟩
  have hevents : Event.lookup name .null ∈
      [Event.lookup "a" (.text "x"), Event.lookup "b" (.text "y")] := hn
  simp at hevents

end Evaluator
end MessageFormat

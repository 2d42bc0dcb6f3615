import Mathlib
import MessageFormat.Proofs.Evaluation.Lockstep
import MessageFormat.Proofs.Formatter.SharedCache

/-!
Arguments taken as parts of markup against arguments taken as they are: which cases of a message are taken
either way. Texts are escaped before the message is evaluated, so selections see them escaped.
-/

set_option autoImplicit false

namespace MessageFormat

namespace Graph

variable {g : Graph}

theorem escape_eq_null_iff {v : Value} : g.escape v = .null ↔ v = .null := by
  cases v <;> simp [escape]

/-- A name finds the escaped form of what it finds in the entries as they are. -/
theorem get_escapeEntries {entries : List (Value × Value)} {name : String} {v : Value}
    (h : (Arguments.named entries).get name = .ok v) :
    (Arguments.named (g.escapeEntries entries)).get name = .ok (g.escape v) := by
  obtain rfl : ((entries.find? fun e => e.1.sameKey (.text name)).map (·.2)).getD .null = v :=
    Except.ok.inj h
  simp only [Arguments.get, escapeEntries, List.find?_map, Function.comp_def]
  cases entries.find? fun e => e.1.sameKey (.text name) <;> rfl

/-- What names arguments is viewed as the same entries. -/
theorem view_of_ofValue {v : Value} {entries : List (Value × Value)}
    (h : Arguments.ofValue g v = .named entries) : (g.view v).getD [] = entries := by
  unfold Arguments.ofValue at h
  split at h
  · rename_i hfalsy
    obtain rfl : [] = entries := Arguments.named.inj h
    cases v with
    | node place =>
      simp only [Value.isFalsy] at hfalsy
      split at hfalsy
      · rename_i fields hplace
        simp only [view, hplace]
        exact List.isEmpty_iff.mp hfalsy
      · cases hfalsy
    | _ => rfl
  · split at h
    · split at h
      · rename_i fields hplace
        rw [view, hplace]
        exact Arguments.named.inj h
      · cases h
    · cases h

end Graph

/-- Cases of these keys, with nothing in them. -/
def bareCases (keys : List String) : List (Case String (List Node)) := keys.map fun key => ⟨key, []⟩

theorem flatten_bareCases (keys : List String) : ((bareCases keys).map Case.body).flatten = [] := by
  simp [bareCases]

theorem Node.confuses_refl (n : Node) (g : Graph) (v : Value) : n.Confuses g v v := by
  cases n <;> first | exact rfl | exact trivial

namespace Evaluator

open Decided

variable {ev : Evaluator} {limit : Int}

/-- All that is decided where the case that is taken is empty. -/
theorem messageDecided_select (limit : Int) {name : String} {cases : List (Case String (List Node))} {v : Value}
    {i : Nat} (hlookup : ev.lookup name = pure v)
    (hcase : keyCase? (placed 0 cases) (ev.graph.selectKey v) = some (i, [])) :
    (ev.messageDecided limit ⟨[.select name cases]⟩).decisions = [⟨.select name cases, i⟩] ∧
      ¬ (ev.messageDecided limit ⟨[.select name cases]⟩).Broken := by
  have hd (limit : Int) (place : Place) : ev.decided limit (.select name cases) place =
      decide ⟨.select name cases, i⟩ (Decided.nested limit (ev.decidedAll limit []) place) := by
    simp only [decided_select, hlookup, Decided.pure_bind, hcase]
  simp only [messageDecided, decidedAll, hd]
  unfold Decided.nested
  -- Too deep for either limit or not, what ends it here is no fault.
  split_ifs
  all_goals
    refine ⟨rfl, ?_⟩
    rintro ⟨f, hf⟩
    cases hf

/-- Subjects that select by different keys are told apart by a selection that has both. -/
theorem Parallel.selectKey_eq {ev ev' : Evaluator} (hpar : ev.Parallel ev') {name : String} {v w : Value}
    (hv : ev.arguments.get name = .ok v) (hw : ev'.arguments.get name = .ok w)
    (hnull : v = .null ↔ w = .null) (h : ∀ keys,
      (ev.messageDecided limit ⟨[.select name (bareCases keys)]⟩).Agrees (fun _ _ => True)
        (ev'.messageDecided limit ⟨[.select name (bareCases keys)]⟩)) :
    ev.graph.selectKey v = ev.graph.selectKey w := by
  by_contra hne
  have hvn : v ≠ .null := by
    rintro rfl
    exact hne (by rw [hnull.mp rfl])
  have hvalue : ev.lookup name = pure v := lookup_of_value hv fun _ => hvn
  have hvalue' : ev'.lookup name = pure w := lookup_of_value hw fun _ => mt hnull.mpr hvn
  let keys : List String := [ev.graph.selectKey v, ev.graph.selectKey w]
  have hfirst : keyCase? (placed 0 (bareCases keys)) (ev.graph.selectKey v) =
      some (0, []) := by
    simp [keyCase?, placed, bareCases, keys]
  have hsecond : keyCase? (placed 0 (bareCases keys)) (ev'.graph.selectKey w) =
      some (1, []) := by
    rw [← hpar.graph]
    simp [keyCase?, placed, bareCases, keys, hne]
  obtain ⟨hd, hbroken⟩ := messageDecided_select limit hvalue hfirst
  obtain ⟨hd', hbroken'⟩ := messageDecided_select limit hvalue' hsecond
  have hequal := ((h keys).result_eq_iff hbroken hbroken').1
  cases hd.symm.trans (hequal.trans hd')

end Evaluator

namespace Formatter

open Decided

/-- What evaluates messages for arguments that are taken this way. -/
def evaluator (f : Formatter) (mode : Mode) (g : Graph) (value : Value) : Evaluator := {
  context := f.context, graph := g, arguments := f.arguments mode g value,
  customFormatters := f.customFormatters, tagHandlers := f.tagHandlers,
  requireAllVariables := f.options.requireAllVariables, markup := mode == .markup }

theorem formatMessage_eq (f : Formatter) (mode : Mode) (g : Graph) (value : Value) (m : Message) :
    f.formatMessage mode g value m =
      (f.evaluator mode g value).message f.options.maxNestingDepth m := rfl

/-- The text of a message, with the decisions on the way to it. -/
def decided (f : Formatter) (mode : Mode) (g : Graph) (value : Value) (m : Message) :
    Decided String :=
  (f.evaluator mode g value).messageDecided f.options.maxNestingDepth m

/-- No selection can tell its subject from the escaped form of it. -/
def Spares (f : Formatter) (g : Graph) (value : Value) (m : Message) : Prop :=
  ∀ n ∈ m.nodes, ∀ x ∈ n.ownNames, ∀ v, (f.arguments .message g value).get x = .ok v →
    n.Confuses g v (g.escape v)

theorem outcome_decided (f : Formatter) (mode : Mode) (g : Graph) (value : Value) (m : Message) :
    (f.decided mode g value m).outcome = f.formatMessage mode g value m :=
  Evaluator.outcome_messageDecided _ _ m

theorem parallel_evaluator (f : Formatter) (mode mode' : Mode) (g : Graph) (value : Value) :
    (f.evaluator mode g value).Parallel (f.evaluator mode' g value) := ⟨rfl, rfl, rfl⟩

section

variable {f : Formatter} {g : Graph} {value : Value} {entries : List (Value × Value)}
  (hvalue : Arguments.ofValue g value = .named entries)

include hvalue

theorem arguments_markup : f.arguments .markup g value = .named (g.escapeEntries entries) := by
  rw [arguments, Graph.view_of_ofValue hvalue]

theorem get_markup {x : String} {v : Value} (h : (f.arguments .message g value).get x = .ok v) :
    (f.arguments .markup g value).get x = .ok (g.escape v) := by
  rw [arguments, hvalue] at h
  rw [arguments_markup hvalue]
  exact Graph.get_escapeEntries h

theorem exists_get (x : String) : ∃ v, (f.arguments .message g value).get x = .ok v := by
  rw [arguments, hvalue]
  exact ⟨_, rfl⟩

theorem Spares.agrees {m : Message} (h : f.Spares g value m) :
    (f.decided .message g value m).Agrees (fun _ _ => True) (f.decided .markup g value m) := by
  refine (f.parallel_evaluator .message .markup g value).messageDecided _ m fun n hn x hx => ?_
  obtain ⟨v, hv⟩ := exists_get (f := f) hvalue x
  exact ⟨v, g.escape v, hv, get_markup hvalue hv, Graph.escape_eq_null_iff.symm, h n hn x hx v hv⟩

end

/-- Formatting markup takes the cases that plain formatting takes of the escaped arguments. For arguments
as they are it takes the same cases, and it misses an option just if plain formatting does, where
escaping does not change what a selection sees of its subject: the digits of a number, or the key. A fault
of a formatter or a handler may end one of the two earlier. It cannot be done with less: a subject whose
key is changed by escaping is told from the escaped one by some selection. -/
theorem markup_agrees (f : Formatter) {g : Graph} {value : Value} {entries : List (Value × Value)}
    (hvalue : Arguments.ofValue g value = .named entries) :
    (∀ mode m, (f.decided mode g value m).outcome = f.formatMessage mode g value m) ∧
    (∀ m, (Evaluator.messageDecided { f.evaluator .message g value with
          arguments := .named (g.escapeEntries entries) } f.options.maxNestingDepth m).Agrees
        (fun _ _ => True) (f.decided .markup g value m)) ∧
    (∀ m, f.Spares g value m →
      (f.decided .message g value m).Agrees (fun _ _ => True) (f.decided .markup g value m) ∧
      (¬ (f.decided .message g value m).Broken → ¬ (f.decided .markup g value m).Broken →
        (f.decided .message g value m).decisions = (f.decided .markup g value m).decisions ∧
        ∀ construct, (f.formatMessage .message g value m).result = .error (.missingOption construct) ↔
          (f.formatMessage .markup g value m).result = .error (.missingOption construct))) ∧
    (∀ x v, (f.arguments .message g value).get x = .ok v →
      ((∀ keys, (f.decided .message g value ⟨[.select x (bareCases keys)]⟩).Agrees (fun _ _ => True)
          (f.decided .markup g value ⟨[.select x (bareCases keys)]⟩)) ↔
        g.selectKey v = g.selectKey (g.escape v))) := by
  refine ⟨fun mode m => f.outcome_decided mode g value m, fun m => ?_, fun m hm => ?_,
    fun x v hv => ⟨fun h => ?_, fun hkey keys => ?_⟩⟩
  · have hpar : Evaluator.Parallel { f.evaluator .message g value with
        arguments := .named (g.escapeEntries entries) } (f.evaluator .markup g value) := ⟨rfl, rfl, rfl⟩
    refine hpar.messageDecided _ m fun n hn x hx => ?_
    refine ⟨_, _, rfl, ?_, Iff.rfl, n.confuses_refl g _⟩
    rw [evaluator, arguments_markup hvalue]
    rfl
  · refine ⟨hm.agrees hvalue, fun hplain hmarkup => ?_⟩
    obtain ⟨hdecisions, herror⟩ := (hm.agrees hvalue).result_eq_iff hplain hmarkup
    rw [outcome_decided, outcome_decided] at herror
    exact ⟨hdecisions, fun construct => herror (.missingOption construct)⟩
  · exact (f.parallel_evaluator .message .markup g value).selectKey_eq hv (get_markup hvalue hv)
      Graph.escape_eq_null_iff.symm h
  · refine Spares.agrees hvalue fun n hn y hy w hw => ?_
    have hsubtrees : n ∈ [Node.select x (bareCases keys)] := by
      simpa [Message.nodes, Node.subtrees, Node.subtree_eq, Node.bodies, flatten_bareCases] using hn
    obtain rfl := List.mem_singleton.mp hsubtrees
    obtain rfl := List.mem_singleton.mp hy
    obtain rfl : v = w := Except.ok.inj (hv.symm.trans hw)
    exact hkey

/-- A text that is not changed, a number, and markup in what no selection is about. -/
theorem markup_agrees_nested : ∃ (g : Graph) (m : Message),
    g = ⟨[.map [(.text "kind", .text "new"), (.text "n", .int 2), (.text "name", .text "<i>")]]⟩ ∧
    m = ⟨[.select "kind" [⟨"new", [.tag "b" "" false [.argument "name"],
      .plural "n" Decimal.zero false [⟨.category "other", [.hash]⟩]]⟩]]⟩ ∧
    ∀ f : Formatter, f.Spares g (.node 0) m ∧
      (f.decided .message g (.node 0) m).Agrees (fun _ _ => True)
        (f.decided .markup g (.node 0) m) := by
  refine ⟨_, _, rfl, rfl, fun f => ?_⟩
  have hnew : escapeText "new" = "new" := by decide +kernel
  have hspares : f.Spares ⟨[.map [(.text "kind", .text "new"), (.text "n", .int 2),
        (.text "name", .text "<i>")]]⟩ (.node 0)
      ⟨[.select "kind" [⟨"new", [.tag "b" "" false [.argument "name"],
        .plural "n" Decimal.zero false [⟨.category "other", [.hash]⟩]]⟩]]⟩ := by
    intro n hn x hx v hv
    simp only [Message.nodes, Node.subtrees, Node.subtree, Node.selectSubtrees, Node.pluralSubtrees,
      List.append_nil, List.cons_append, List.nil_append, List.mem_cons, List.not_mem_nil,
      or_false] at hn
    rcases hn with rfl | rfl | rfl | rfl | rfl
    · obtain rfl := List.mem_singleton.mp hx
      obtain rfl : Value.text "new" = v := Except.ok.inj hv
      rw [Node.Confuses, Graph.escape, hnew]
    · exact trivial
    · exact trivial
    · obtain rfl := List.mem_singleton.mp hx
      obtain rfl : Value.int 2 = v := Except.ok.inj hv
      rfl
    · exact trivial
  exact ⟨hspares, ((markup_agrees f rfl).2.2.1 _ hspares).1⟩

set_option maxRecDepth 4000 in
/-- An ampersand in a key. Markup takes another case than plain formatting, and where there is no other
case it misses an option that plain formatting finds. -/
theorem markup_parts_at_ampersand : ∃ pattern strict g,
    pattern = "\x7bx, select, a&b \x7byes\x7d other \x7bno\x7d\x7d" ∧
    strict = "\x7bx, select, a&b \x7byes\x7d\x7d" ∧
    g = ⟨[.map [(.text "x", .text "a&b")]]⟩ ∧
    ∀ context : Locale.Context,
      (format { options := {}, context } none .message pattern g (.node 0)).1.result = .ok "yes" ∧
      (format { options := {}, context } none .markup pattern g (.node 0)).1.result = .ok "no" ∧
      (format { options := {}, context } none .message strict g (.node 0)).1.result = .ok "yes" ∧
      (format { options := {}, context } none .markup strict g (.node 0)).1.result =
        .error (.missingOption "select") := by
  refine ⟨_, _, _, rfl, rfl, rfl, fun context => ?_⟩
  have hparse : ({} : Options).patternSettings.parse
      "\x7bx, select, a&b \x7byes\x7d other \x7bno\x7d\x7d".toList =
        .ok ⟨[.select "x" [⟨"a&b", [.literal "yes"]⟩, ⟨"other", [.literal "no"]⟩]]⟩ := by cbv
  have hstrict : ({} : Options).patternSettings.parse "\x7bx, select, a&b \x7byes\x7d\x7d".toList =
      .ok ⟨[.select "x" [⟨"a&b", [.literal "yes"]⟩]]⟩ := by cbv
  have hescape : escapeText "a&b" = "a&amp;b" := by decide +kernel
  have hmarkup : arguments { options := {}, context } .markup
      ⟨[.map [(.text "x", .text "a&b")]]⟩ (.node 0) = .named [(.text "x", .text "a&amp;b")] := by
    rw [← hescape]
    rfl
  have hf := format_of_parse (f := { options := {}, context }) hparse
  have hf' := format_of_parse (f := { options := {}, context }) hstrict
  simp only [hf, hf', formatMessage, hmarkup]
  exact ⟨rfl, rfl, rfl, rfl⟩

end Formatter
end MessageFormat

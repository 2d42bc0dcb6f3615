import MessageFormat.Proofs.Format.Harmless
import MessageFormat.Proofs.Formatter.Injection
import MessageFormat.Proofs.Pattern.Printer
import MessageFormat.Proofs.Pattern.Tagless

/-!
Markup against plain text where there is nothing to escape. Escaping still changes the kind of some values, and
what a node makes of a value may depend on its kind.
-/

set_option autoImplicit false

namespace MessageFormat

open Pattern.Grammar

/-- Formatters that are not known show the text of the value. -/
def FormatterCall.Suits (g : Graph) (v : Value) (c : FormatterCall) : Prop :=
  match Format.Builtin.ofName? c.name with
  | some builtin => builtin.Suits g v
  | none => v.keepsText = true

/-- What the node sees of the value is seen of its escaped form. -/
def Node.Suits (g : Graph) (v : Value) : Node → Prop
  | .argument _ | .select .. => v.keepsText = true
  | .plural .. => g.Unread Value.decimal? v
  | .call c => c.Suits g v
  | _ => True

theorem Format.Builtin.ofName?_of_range {name : String} (h : isRangeName name = true) :
    ofName? name = some .numberRange ∨ ofName? name = some .dateRange := by
  unfold isRangeName at h
  unfold ofName?
  rcases (Bool.or_eq_true _ _).mp h with h | h
  · rw [beq_iff_eq.mp h]
    exact .inl rfl
  · rw [beq_iff_eq.mp h]
    exact .inr rfl

namespace Graph

open Format.Builtin

variable {g : Graph} {v : Value}

theorem selectKey_escape (hv : v.keepsText = true) (h : g.IsHarmless v) :
    g.selectKey (g.escape v) = g.selectKey v := by
  have hkey : ∀ w, w ≠ .null → g.selectKey w = g.plainText w := by
    intro w hw
    cases w with
    | null => exact absurd rfl hw
    | _ => rfl
  by_cases hnull : v = .null
  · rw [hnull]
    rfl
  · rw [hkey v hnull, hkey _ (mt escape_eq_null_iff.mp hnull), plainText_escape hv h]

/-- A number stays as it is, and of anything else nothing is left but the offset. -/
theorem pluralNumber_escape (hv : g.Unread Value.decimal? v) (h : g.IsHarmless v) (offset : Decimal) :
    Evaluator.pluralNumber (g.escape v) offset = Evaluator.pluralNumber v offset := by
  rw [Evaluator.pluralNumber, isReader_decimal?.read_escape h hv, Evaluator.pluralNumber]
  cases hnumber : v.decimal? with
  | none => rfl
  | some number =>
    have hkept : v.isKept = true := by
      cases v with
      | list | tuple | set | bytes | node | other => cases hnumber
      | _ => rfl
    rw [escape_of_isKept hkept h]

end Graph

namespace Evaluator

variable {ev ev' : Evaluator} {limit : Int} {bare : Outcome String}

theorem Parallel.lookup_bind {α : Type} {R : Value → Value → Prop} {name : String}
    (hpar : ev.Parallel ev') (h : ev.arguments.Matched ev'.arguments R name) {k k' : Value → Outcome α}
    (hk : ∀ v w, R v w → k' w = k v) : ev'.lookup name >>= k' = ev.lookup name >>= k := by
  obtain ⟨e, hl, hl'⟩ | ⟨v, w, hl, hl', hvw⟩ := hpar.lookup_cases h
  · rw [hl, hl']
    rfl
  · rw [hl, hl']
    exact hk v w hvw

/-- An evaluator of markup and one of plain text, for the same arguments. -/
structure Escaping (ev ev' : Evaluator) : Prop where
  parallel : ev.Parallel ev'
  formatters : ev.customFormatters = {} ∧ ev'.customFormatters = {}

/-- A node that makes the same of its arguments and of their escaped forms. -/
structure Indifferent (ev ev' : Evaluator) (n : Node) : Prop where
  tag : n.isTag = false
  range : ∀ c, n = .call c → isRangeName c.name = c.endArgument.isSome
  arguments : ∀ x ∈ n.ownNames, ev.arguments.Matched ev'.arguments
    (fun v w => w = ev.graph.escape v ∧ ev.graph.IsHarmless v ∧ n.Suits ev.graph v) x

variable (hev : ev.Escaping ev')

include hev

theorem Escaping.callText {c : FormatterCall} {v : Value} (hv : c.Suits ev.graph v)
    (h : ev.graph.IsHarmless v) : ev'.callText c (ev.graph.escape v) = ev.callText c v := by
  obtain ⟨⟨hcontext, hgraph, -⟩, hcustom, hcustom'⟩ := hev
  unfold Evaluator.callText
  unfold FormatterCall.Suits at hv
  rw [hcustom, hcustom', ← hcontext, ← hgraph]
  cases hname : Format.Builtin.ofName? c.name with
  | some builtin =>
    rw [hname] at hv
    exact Format.Builtin.apply_escape _ hv h c
  | none =>
    rw [hname] at hv
    exact congrArg pure (Graph.plainText_escape hv h)

theorem Escaping.callText_ends {c : FormatterCall} (hc : isRangeName c.name = true) {v w : Value}
    (hv : c.Suits ev.graph v) (hw : c.Suits ev.graph w)
    (h : ev.graph.IsHarmless v) (h' : ev.graph.IsHarmless w) :
    ev'.callText c (.tuple [ev.graph.escape v, ev.graph.escape w]) = ev.callText c (.tuple [v, w]) := by
  obtain ⟨⟨hcontext, hgraph, -⟩, -⟩ := hev
  unfold Evaluator.callText
  unfold FormatterCall.Suits at hv hw
  rw [← hcontext, ← hgraph]
  rcases Format.Builtin.ofName?_of_range hc with hname | hname
  · rw [hname] at hv hw ⊢
    exact Format.Builtin.apply_escape_ends _ (.inl rfl) hv hw h h' c
  · rw [hname] at hv hw ⊢
    exact Format.Builtin.apply_escape_ends _ (.inr rfl) hv hw h h' c

/-- The two evaluators mean the same by a node if they do by what is in it. -/
theorem Escaping.meaning {n : Node} (hn : ev.Indifferent ev' n)
    (h : ∀ body ∈ n.bodies, ev'.meanings limit bare body = ev.meanings limit bare body) :
    ev'.meaning limit bare n = ev.meaning limit bare n := by
  obtain ⟨hcontext, hgraph, -⟩ := hev.parallel
  have harguments := hn.arguments
  cases n with
  | literal text => rfl
  | argument name =>
    funext place
    simp only [Evaluator.meaning, ← hcontext, ← hgraph]
    refine hev.parallel.lookup_bind (harguments name (List.mem_singleton_self _)) ?_
    rintro v _ ⟨rfl, hharmless, hv⟩
    exact Format.plain_escape _ hv hharmless
  | call c =>
    funext place
    simp only [Evaluator.meaning, callLookup, bind_assoc]
    refine hev.parallel.lookup_bind (harguments c.argument List.mem_cons_self) ?_
    rintro v _ ⟨rfl, hharmless, hv⟩
    cases hend : c.endArgument with
    | none =>
      simp only [pure_bind]
      exact hev.callText hv hharmless
    | some stop =>
      have hrange : isRangeName c.name = true := by rw [hn.range c rfl, hend]; rfl
      simp only [bind_assoc]
      refine hev.parallel.lookup_bind (harguments stop (by simp [Node.ownNames, hend])) ?_
      rintro w _ ⟨rfl, hharmless', hw⟩
      simp only [pure_bind]
      exact hev.callText_ends hrange hv hw hharmless hharmless'
  | hash =>
    funext place
    simp only [Evaluator.meaning, ← hcontext, ← hgraph]
  | plural argument offset ordinal cases =>
    funext place
    simp only [meaning_plural]
    refine hev.parallel.lookup_bind (harguments argument (List.mem_singleton_self _)) ?_
    rintro v _ ⟨rfl, hharmless, hv⟩
    rw [Graph.pluralNumber_escape hv hharmless]
    refine bind_congr fun number => ?_
    have hcase : ev'.pluralCase (ev.graph.escape v) number ordinal cases =
        ev.pluralCase v number ordinal cases := by
      simp only [pluralCase, ← hcontext, isReader_decimal?.read_escape hharmless hv]
    rw [hcase]
    refine Outcome.bind_congr_of_ok fun body hbody => ?_
    rw [h body (mem_of_pluralCase hbody)]
  | select argument cases =>
    funext place
    simp only [meaning_select]
    refine hev.parallel.lookup_bind (harguments argument (List.mem_singleton_self _)) ?_
    rintro v _ ⟨rfl, hharmless, hv⟩
    rw [← hgraph, Graph.selectKey_escape hv hharmless]
    cases hbody : keyCase? cases (ev.graph.selectKey v) with
    | none => rfl
    | some body => simp only [h body (mem_of_keyCase? hbody)]
  | tag => cases hn.tag
  | «foreign» kind => rfl

theorem Escaping.meanings {ns : List Node} (h : ∀ n ∈ Node.subtrees ns, ev.Indifferent ev' n) :
    ev'.meanings limit bare ns = ev.meanings limit bare ns := by
  induction ns using Node.bodies_induction with
  | nil => rfl
  | cons n ns hbodies hrest =>
    obtain ⟨hnode, hinside, hafter⟩ := Node.forall_subtrees_cons.mp h
    have hfirst : ev'.meaning limit bare n = ev.meaning limit bare n :=
      hev.meaning hnode fun body hb => hbodies body hb (hinside body hb)
    simp only [Evaluator.meanings, hfirst, hrest hafter]

theorem Escaping.message (limit : Int) {m : Message} (h : ∀ n ∈ m.nodes, ev.Indifferent ev' n) :
    ev'.message limit m = ev.message limit m := by
  rw [message_eq, message_eq, hev.meanings h]

end Evaluator

namespace Pattern.Grammar

theorem AllWellFormed.exists_scope {scope : Scope} {nodes : List Node} (h : AllWellFormed scope nodes) :
    ∀ n ∈ Node.subtrees nodes, ∃ scope, WellFormed scope n := by
  induction nodes using Node.bodies_induction generalizing scope with
  | nil => simp [Node.subtrees]
  | cons node nodes hbodies ih =>
    obtain ⟨hnode, -, hrest⟩ := h
    refine Node.forall_subtrees_cons.mpr ⟨⟨scope, hnode⟩, fun body hb => ?_, ih hrest⟩
    cases node with
    | plural => exact hbodies body hb (hnode.2.2.2.of_mem body hb)
    | select => exact hbodies body hb (hnode.2.2.of_mem body hb)
    | tag => exact hbodies body hb (List.mem_singleton.mp hb ▸ hnode.2.2.2.2)
    | _ => simp [Node.bodies] at hb

end Pattern.Grammar

/-- What the nodes of the message see of their arguments is seen of the escaped forms. -/
def Message.Suits (g : Graph) (value : Value) (m : Message) : Prop :=
  ∀ n ∈ m.nodes, ∀ x ∈ n.ownNames, ∀ v, (Arguments.ofValue g value).get x = .ok v → n.Suits g v

namespace Formatter

open Node (Tagless)
open MessageFormat.Text (Harmless)

variable {f : Formatter} {calls : List (Formatter × Request)} {cache : Option Pattern.Cache}
  {g : Graph} {value : Value} {entries : List (Value × Value)}

theorem isHarmless_get (h : ∀ e ∈ entries, g.IsHarmless e.2) {x : String} {v : Value}
    (hv : (Arguments.named entries).get x = .ok v) : g.IsHarmless v := by
  obtain rfl := Except.ok.inj hv
  cases hfind : entries.find? fun e => e.1.sameKey (.text x) with
  | none => exact trivial
  | some e => exact h e (List.mem_of_find?_eq_some hfind)

theorem formatMessage_markup {m : Message} {scope : Pattern.Scope}
    (hm : Pattern.Grammar.AllWellFormed scope m.body) (htags : Tagless m.body)
    (hcustom : f.customFormatters = {}) (hvalue : Arguments.ofValue g value = .named entries)
    (hharmless : ∀ e ∈ entries, g.IsHarmless e.2) (hsuits : m.Suits g value) :
    f.formatMessage .markup g value m = f.formatMessage .message g value m := by
  have hev : (f.evaluator .message g value).Escaping (f.evaluator .markup g value) :=
    ⟨f.parallel_evaluator .message .markup g value, hcustom, hcustom⟩
  rw [formatMessage_eq, formatMessage_eq]
  refine hev.message _ fun n hn => ⟨htags n hn, ?_, fun x hx => ?_⟩
  · rintro c rfl
    obtain ⟨_, hcall⟩ := hm.exists_scope _ hn
    exact hcall.range
  · obtain ⟨v, hv⟩ := exists_get (f := f) hvalue x
    have hget : (Arguments.named entries).get x = .ok v := hvalue ▸ hv
    exact ⟨v, g.escape v, hv, get_markup hvalue hv, Graph.escape_eq_null_iff.symm, rfl,
      isHarmless_get hharmless hget, hsuits n hn x hx v hv⟩

end Formatter
end MessageFormat

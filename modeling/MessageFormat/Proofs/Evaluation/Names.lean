import MessageFormat.Proofs.Evaluation.Scoping

/-!
The arguments that a message names are all that its text depends on.
-/

set_option autoImplicit false

namespace MessageFormat

theorem mem_eraseReps_loop {x : String} (names : List String) : ∀ first found,
    x ∈ List.eraseRepsBy.loop (· == ·) first names found ↔ x ∈ first :: names ∨ x ∈ found := by
  induction names with
  | nil => simp [List.eraseRepsBy.loop, or_comm]
  | cons name names ih =>
    intro first found
    rw [List.eraseRepsBy.loop]
    split
    · rename_i h
      obtain rfl : first = name := by simpa using h
      simp [ih]
    · simp [ih, or_left_comm, or_assoc]

theorem mem_sortedSet {x : String} {names : List String} : x ∈ sortedSet names ↔ x ∈ names := by
  have h : x ∈ names.mergeSort (fun a b => decide (a ≤ b)) ↔ x ∈ names := List.mem_mergeSort
  rw [sortedSet, ← h]
  cases names.mergeSort fun a b => decide (a ≤ b) with
  | nil => rfl
  | cons first rest => simp [List.eraseReps, List.eraseRepsBy, mem_eraseReps_loop]

namespace Node

theorem mem_subtrees_reverse {n : Node} {ns : List Node} :
    n ∈ subtrees ns.reverse ↔ n ∈ subtrees ns := by
  induction ns with
  | nil => rfl
  | cons m ns ih => simp [subtrees, subtrees_append, ih, or_comm]

/-- The stack holds, at any time, just the nodes whose names are still to come. -/
theorem mem_stackNames {x : String} (stack : List Node) :
    x ∈ stackNames stack ↔ ∃ n ∈ subtrees stack, x ∈ n.ownNames := by
  fun_induction stackNames stack with
  | case1 => simp [subtrees]
  | case2 n stack ih =>
    rw [List.mem_append, ih]
    simp only [subtrees, subtree_eq, subtrees_append, List.mem_append, List.mem_cons,
      mem_subtrees_reverse]
    simp [or_and_right, exists_or, or_assoc]

end Node

theorem Message.mem_argumentNames {m : Message} {x : String} :
    x ∈ m.argumentNames ↔ ∃ n ∈ m.nodes, x ∈ n.ownNames := by
  simp only [argumentNames, mem_sortedSet, Node.mem_stackNames, Node.mem_subtrees_reverse, nodes]

namespace Evaluator

variable {ev : Evaluator} {limit : Int} {bare : Outcome String} {a b : Arguments}

theorem lookup_congr {name : String} (h : a.get name = b.get name) :
    { ev with arguments := a }.lookup name = { ev with arguments := b }.lookup name := by
  simp only [lookup, h]

theorem callLookup_congr {call : FormatterCall}
    (h : ∀ x ∈ (Node.call call).ownNames, a.get x = b.get x) :
    { ev with arguments := a }.callLookup call = { ev with arguments := b }.callLookup call := by
  unfold callLookup
  rw [lookup_congr (h _ List.mem_cons_self)]
  refine bind_congr fun start => ?_
  cases hend : call.endArgument with
  | none => rfl
  | some name =>
    dsimp only
    rw [lookup_congr (h name (by simp [Node.ownNames, hend]))]

/-- A node reads the arguments that it names itself, and its bodies. -/
theorem meaning_congr {n : Node} (hown : ∀ x ∈ n.ownNames, a.get x = b.get x)
    (h : ∀ body ∈ n.bodies, meanings { ev with arguments := a } limit bare body =
      meanings { ev with arguments := b } limit bare body) :
    meaning { ev with arguments := a } limit bare n =
      meaning { ev with arguments := b } limit bare n := by
  funext place
  cases n with
  | literal | hash | «foreign» => rfl
  | argument name =>
    simp only [meaning]
    rw [lookup_congr (hown name (List.mem_singleton_self _))]
  | call c =>
    simp only [meaning]
    rw [callLookup_congr hown]
    rfl
  | plural argument offset ordinal cases =>
    simp only [meaning_plural]
    rw [lookup_congr (hown argument (List.mem_singleton_self _))]
    refine bind_congr fun value => bind_congr fun number => ?_
    refine Outcome.bind_congr_of_ok fun body hbody => ?_
    rw [h body (mem_of_pluralCase hbody)]
  | select argument cases =>
    simp only [meaning_select]
    rw [lookup_congr (hown argument (List.mem_singleton_self _))]
    refine bind_congr fun value => ?_
    cases hbody : keyCase? cases (ev.graph.selectKey value) with
    | none => rfl
    | some body =>
      dsimp only
      rw [h body (mem_of_keyCase? hbody)]
  | tag name attributes selfClosing children =>
    simp only [meaning]
    rw [h children (List.mem_singleton_self _)]
    rfl

theorem meanings_congr (ns : List Node)
    (h : ∀ n ∈ Node.subtrees ns, ∀ x ∈ n.ownNames, a.get x = b.get x) :
    meanings { ev with arguments := a } limit bare ns =
      meanings { ev with arguments := b } limit bare ns := by
  induction ns using Node.bodies_induction with
  | nil => rfl
  | cons n ns hbodies hrest =>
    obtain ⟨hown, hinside, hafter⟩ := Node.forall_subtrees_cons.mp h
    have hmeaning : meaning { ev with arguments := a } limit bare n =
        meaning { ev with arguments := b } limit bare n :=
      meaning_congr hown fun body hb => hbodies body hb (hinside body hb)
    funext place
    simp only [meanings, hmeaning, hrest hafter]

end Evaluator

/-- The names that are collected are those that the nodes hold, at whatever depth. Two maps of arguments
that give each of them the same value, a missing one counting as null, give one text, or one error, and
one list of requests to locale data, whatever the formatters and handlers of the host are. -/
theorem Message.argumentNames_determine (m : Message) :
    (∀ x, x ∈ m.argumentNames ↔ ∃ n ∈ m.nodes, x ∈ n.ownNames) ∧
    ∀ (ev : Evaluator) (limit : Int) (a b : Arguments),
      (∀ x ∈ m.argumentNames, a.get x = b.get x) →
        Evaluator.message { ev with arguments := a } limit m =
          Evaluator.message { ev with arguments := b } limit m := by
  refine ⟨fun x => mem_argumentNames, fun ev limit a b h => ?_⟩
  have hnames : ∀ n ∈ Node.subtrees m.body, ∀ x ∈ n.ownNames, a.get x = b.get x :=
    fun n hn x hx => h x (mem_argumentNames.mpr ⟨n, hn, hx⟩)
  rw [Evaluator.message_eq, Evaluator.message_eq, Evaluator.meanings_congr m.body hnames]

/-- A range in a tag. An argument that is not named does not matter, nor a null for a missing one. -/
theorem Message.argumentNames_determine_range :
    (∀ x, x ∈ argumentNames
        ⟨[.tag "b" "" false [.call ⟨"numberRange", "x", none, none, some "y"⟩]]⟩ ↔
      x = "x" ∨ x = "y") ∧
    ∀ context : Locale.Context, ∀ limit : Int,
      Evaluator.message { context, arguments := .named [(.text "x", .int 1), (.text "z", .int 2)] }
        limit ⟨[.tag "b" "" false [.call ⟨"numberRange", "x", none, none, some "y"⟩]]⟩ =
      Evaluator.message { context, arguments := .named [(.text "y", .null), (.text "x", .int 1)] }
        limit ⟨[.tag "b" "" false [.call ⟨"numberRange", "x", none, none, some "y"⟩]]⟩ := by
  obtain ⟨hnames, hequal⟩ := argumentNames_determine
    ⟨[.tag "b" "" false [.call ⟨"numberRange", "x", none, none, some "y"⟩]]⟩
  have hmem : ∀ x, x ∈ argumentNames
      ⟨[.tag "b" "" false [.call ⟨"numberRange", "x", none, none, some "y"⟩]]⟩ ↔
        x = "x" ∨ x = "y" := by
    intro x
    rw [hnames]
    simp [nodes, Node.subtrees, Node.subtree, Node.ownNames]
  refine ⟨hmem, fun context limit => ?_⟩
  refine hequal { context } limit _ _ fun x hx => ?_
  rcases (hmem x).mp hx with rfl | rfl <;> rfl

end MessageFormat

import MessageFormat.Pattern.Basic

/-!
How deep messages nest. The depth of a node is the number of case bodies and tags around it.
-/

set_option autoImplicit false

namespace MessageFormat

def Case.map {κ β γ : Type} (f : β → γ) (c : Case κ β) : Case κ γ := ⟨c.key, f c.body⟩

theorem Case.map_id {κ β : Type} (cases : List (Case κ β)) : cases.map (Case.map id) = cases :=
  List.map_id cases

namespace Node

/-- A node with other sequences in it: `plural` makes those of a plural selection, `other` the rest. -/
def mapBodies (plural other : List Node → List Node) : Node → Node
  | .plural subject offset ordinal cases =>
    .plural subject offset ordinal (cases.map (Case.map plural))
  | .select subject cases => .select subject (cases.map (Case.map other))
  | .tag name attributes selfClosing children => .tag name attributes selfClosing (other children)
  | n => n

theorem mapBodies_id (n : Node) : n.mapBodies id id = n := by
  cases n <;> simp [mapBodies, Case.map_id]

/-- Placeholders and tags. -/
def opens : Node → Bool
  | .literal _ | .hash | .foreign _ => false
  | .argument _ | .call _ | .plural .. | .select .. | .tag .. => true

mutual

/-- A node and all nodes in it, with their depths. -/
def enclosed (depth : Nat) : Node → List (Nat × Node)
  | n@(.plural _ _ _ cases) => (depth, n) :: pluralEnclosed (depth + 1) cases
  | n@(.select _ cases) => (depth, n) :: selectEnclosed (depth + 1) cases
  | n@(.tag _ _ _ children) => (depth, n) :: enclosedOf (depth + 1) children
  | n => [(depth, n)]

def enclosedOf (depth : Nat) : List Node → List (Nat × Node)
  | [] => []
  | n :: ns => enclosed depth n ++ enclosedOf depth ns

def pluralEnclosed (depth : Nat) : List (Case Matcher (List Node)) → List (Nat × Node)
  | [] => []
  | ⟨_, body⟩ :: cs => enclosedOf depth body ++ pluralEnclosed depth cs

def selectEnclosed (depth : Nat) : List (Case String (List Node)) → List (Nat × Node)
  | [] => []
  | ⟨_, body⟩ :: cs => enclosedOf depth body ++ selectEnclosed depth cs

end

/-- Every placeholder and tag stands in fewer case bodies and tags than the limit. -/
def FitsWithin (limit : Int) (nodes : List Node) : Prop :=
  ∀ p ∈ enclosedOf 0 nodes, p.2.opens = true → (p.1 : Int) < limit

mutual

theorem enclosed_nodes (depth : Nat) : ∀ n : Node, (enclosed depth n).map Prod.snd = subtree n
  | .literal _ | .argument _ | .hash | .call _ | .foreign _ => rfl
  | .plural _ _ _ cases => by simp [enclosed, subtree, pluralEnclosed_nodes]
  | .select _ cases => by simp [enclosed, subtree, selectEnclosed_nodes]
  | .tag _ _ _ children => by simp [enclosed, subtree, enclosedOf_nodes]

/-- The depths change nothing about which nodes there are. -/
theorem enclosedOf_nodes (depth : Nat) :
    ∀ ns : List Node, (enclosedOf depth ns).map Prod.snd = subtrees ns
  | [] => rfl
  | n :: ns => by simp [enclosedOf, subtrees, enclosed_nodes, enclosedOf_nodes]

theorem pluralEnclosed_nodes (depth : Nat) : ∀ cs : List (Case Matcher (List Node)),
    (pluralEnclosed depth cs).map Prod.snd = pluralSubtrees cs
  | [] => rfl
  | ⟨_, body⟩ :: cs => by
    simp [pluralEnclosed, pluralSubtrees, enclosedOf_nodes, pluralEnclosed_nodes]

theorem selectEnclosed_nodes (depth : Nat) : ∀ cs : List (Case String (List Node)),
    (selectEnclosed depth cs).map Prod.snd = selectSubtrees cs
  | [] => rfl
  | ⟨_, body⟩ :: cs => by
    simp [selectEnclosed, selectSubtrees, enclosedOf_nodes, selectEnclosed_nodes]

end

/-! Levels. -/

mutual

/-- How many limits a node would have to stay below. -/
def levels : Node → Nat
  | .literal _ | .hash | .foreign _ => 0
  | .argument _ | .call _ => 1
  | .plural _ _ _ cases => pluralLevels cases + 1
  | .select _ cases => selectLevels cases + 1
  | .tag _ _ _ children => levelsOf children + 1

def levelsOf : List Node → Nat
  | [] => 0
  | n :: ns => max (levels n) (levelsOf ns)

def pluralLevels : List (Case Matcher (List Node)) → Nat
  | [] => 0
  | ⟨_, body⟩ :: cs => max (levelsOf body) (pluralLevels cs)

def selectLevels : List (Case String (List Node)) → Nat
  | [] => 0
  | ⟨_, body⟩ :: cs => max (levelsOf body) (selectLevels cs)

end

/-- The placeholders and tags among nodes with depths are less deep than `limit`. -/
def Below (limit : Nat) (l : List (Nat × Node)) : Prop :=
  ∀ p ∈ l, p.2.opens = true → p.1 < limit

theorem below_nil (limit : Nat) : Below limit [] := by simp [Below]

theorem below_cons {limit depth : Nat} {n : Node} {l : List (Nat × Node)} :
    Below limit ((depth, n) :: l) ↔ (n.opens = true → depth < limit) ∧ Below limit l := by
  simp [Below]

theorem below_append {limit : Nat} {l l' : List (Nat × Node)} :
    Below limit (l ++ l') ↔ Below limit l ∧ Below limit l' := by
  simp only [Below, List.mem_append]
  constructor
  · intro h
    exact ⟨fun p hp => h p (.inl hp), fun p hp => h p (.inr hp)⟩
  · intro h p hp
    rcases hp with hp | hp
    · exact h.1 p hp
    · exact h.2 p hp

/-- A node that opens takes a level more than what is in it. -/
theorem below_opens_iff {depth k m : Nat} {n : Node} {l : List (Nat × Node)} (ho : n.opens = true)
    (h : ∀ k, Below (depth + 1 + k) l ↔ m ≤ k) :
    Below (depth + k) ((depth, n) :: l) ↔ m + 1 ≤ k := by
  rw [below_cons]
  cases k with
  | zero => simp [ho]
  | succ k =>
    rw [Nat.add_le_add_iff_right, ← h k, show depth + 1 + k = depth + (k + 1) by omega]
    simp

mutual

theorem below_enclosed_iff (depth k : Nat) : ∀ n : Node,
    Below (depth + k) (enclosed depth n) ↔ levels n ≤ k
  | .literal _ | .hash | .foreign _ => by simp [enclosed, below_cons, below_nil, opens, levels]
  | .argument _ | .call _ => by simp [enclosed, below_cons, below_nil, opens, levels]; omega
  | .plural _ _ _ cases =>
    below_opens_iff rfl fun k => below_pluralEnclosed_iff (depth + 1) k cases
  | .select _ cases => below_opens_iff rfl fun k => below_selectEnclosed_iff (depth + 1) k cases
  | .tag _ _ _ children => below_opens_iff rfl fun k => below_enclosedOf_iff (depth + 1) k children

/-- Levels count the depths that are taken. -/
theorem below_enclosedOf_iff (depth k : Nat) : ∀ ns : List Node,
    Below (depth + k) (enclosedOf depth ns) ↔ levelsOf ns ≤ k
  | [] => by simp [enclosedOf, below_nil, levelsOf]
  | n :: ns => by
    rw [enclosedOf, below_append, levelsOf, below_enclosed_iff, below_enclosedOf_iff, Nat.max_le]

theorem below_pluralEnclosed_iff (depth k : Nat) : ∀ cs : List (Case Matcher (List Node)),
    Below (depth + k) (pluralEnclosed depth cs) ↔ pluralLevels cs ≤ k
  | [] => by simp [pluralEnclosed, below_nil, pluralLevels]
  | ⟨_, body⟩ :: cs => by
    rw [pluralEnclosed, below_append, pluralLevels, below_enclosedOf_iff,
      below_pluralEnclosed_iff, Nat.max_le]

theorem below_selectEnclosed_iff (depth k : Nat) : ∀ cs : List (Case String (List Node)),
    Below (depth + k) (selectEnclosed depth cs) ↔ selectLevels cs ≤ k
  | [] => by simp [selectEnclosed, below_nil, selectLevels]
  | ⟨_, body⟩ :: cs => by
    rw [selectEnclosed, below_append, selectLevels, below_enclosedOf_iff,
      below_selectEnclosed_iff, Nat.max_le]

end

theorem fitsWithin_iff {limit : Int} {nodes : List Node} :
    FitsWithin limit nodes ↔ levelsOf nodes ≤ limit.toNat := by
  rw [← below_enclosedOf_iff 0 limit.toNat nodes]
  constructor
  · intro h p hp ho
    have := h p hp ho
    omega
  · intro h p hp ho
    have := h p hp ho
    omega

/-! Bodies. -/

theorem subtrees_sublist_of_mem {body : List Node} {bodies : List (List Node)}
    (h : body ∈ bodies) : List.Sublist (subtrees body) (subtrees bodies.flatten) := by
  obtain ⟨before, after, rfl⟩ := List.append_of_mem h
  simp only [List.flatten_append, List.flatten_cons, subtrees_append]
  exact (List.sublist_append_left _ _).trans (List.sublist_append_right _ _)

theorem forall_subtrees_flatten {P : Node → Prop} {bodies : List (List Node)} :
    (∀ n ∈ subtrees bodies.flatten, P n) ↔ ∀ body ∈ bodies, ∀ n ∈ subtrees body, P n := by
  induction bodies with
  | nil => simp [subtrees]
  | cons body bodies ih =>
    rw [List.flatten_cons, subtrees_append, List.forall_mem_append, ih, List.forall_mem_cons]

/-- The nodes of a sequence are the first one, those in it, and those of the nodes after it. -/
theorem forall_subtrees_cons {P : Node → Prop} {n : Node} {ns : List Node} :
    (∀ m ∈ subtrees (n :: ns), P m) ↔
      P n ∧ (∀ body ∈ n.bodies, ∀ m ∈ subtrees body, P m) ∧ ∀ m ∈ subtrees ns, P m := by
  rw [← forall_subtrees_flatten, subtrees, subtree_eq, List.forall_mem_append, List.forall_mem_cons,
    and_assoc]

/-- What holds of a sequence if it holds of the bodies of its first node and of the nodes after it holds
of all. -/
theorem bodies_induction {P : List Node → Prop} (nil : P [])
    (cons : ∀ n ns, (∀ body ∈ n.bodies, P body) → P ns → P (n :: ns)) : ∀ ns, P ns
  | [] => nil
  | n :: ns =>
    cons n ns (fun body _ => bodies_induction nil cons body) (bodies_induction nil cons ns)
termination_by ns => (subtrees ns).length
decreasing_by
  · rename_i hbody
    have h := (subtrees_sublist_of_mem hbody).length_le
    simp only [subtrees, subtree_eq, List.length_append, List.length_cons]
    omega
  · simp only [subtrees, subtree_eq, List.length_append, List.length_cons]
    omega

theorem pluralLevels_le_iff {k : Nat} {cs : List (Case Matcher (List Node))} :
    pluralLevels cs ≤ k ↔ ∀ c ∈ cs, levelsOf c.body ≤ k := by
  induction cs with
  | nil => simp [pluralLevels]
  | cons c cs ih => simp [pluralLevels, Nat.max_le, ih]

theorem selectLevels_le_iff {k : Nat} {cs : List (Case String (List Node))} :
    selectLevels cs ≤ k ↔ ∀ c ∈ cs, levelsOf c.body ≤ k := by
  induction cs with
  | nil => simp [selectLevels]
  | cons c cs ih => simp [selectLevels, Nat.max_le, ih]

theorem levels_le_succ_iff {k : Nat} {n : Node} :
    levels n ≤ k + 1 ↔ ∀ body ∈ bodies n, levelsOf body ≤ k := by
  cases n with
  | plural => simp [levels, bodies, pluralLevels_le_iff]
  | select => simp [levels, bodies, selectLevels_le_iff]
  | tag => simp [levels, bodies]
  | _ => simp [levels, bodies]

theorem levelsOf_lt_of_mem {n : Node} {body : List Node} (h : body ∈ bodies n) :
    levelsOf body < levels n := by
  obtain ⟨k, hk⟩ : ∃ k, levels n = k + 1 := by
    cases n with
    | plural | select | tag => exact ⟨_, rfl⟩
    | _ => simp [bodies] at h
  have hb := levels_le_succ_iff.mp (Nat.le_of_eq hk) body h
  omega

theorem levels_pos_of_opens {n : Node} (h : opens n = true) : 0 < levels n := by
  cases n <;> simp_all [levels, opens]

end Node

/-- Every placeholder and tag of the message stands in fewer case bodies and tags than the limit. -/
def Message.FitsWithin (limit : Int) (m : Message) : Prop := Node.FitsWithin limit m.body

end MessageFormat

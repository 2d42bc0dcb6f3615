import MessageFormat.Proofs.Format.Unmarked
import MessageFormat.Proofs.Pattern.Continuation

/-!
Messages of patterns without angle brackets. Their texts have none either, and there is no tag in them.
-/

set_option autoImplicit false

namespace MessageFormat

open Text

namespace Node

/-- A node that writes no angle brackets itself. -/
def IsUnmarked : Node → Prop
  | .literal text => Unmarked text.toList
  | .call c => Format.StyleUnmarked c.style ∧ Format.SkeletonUnmarked c.skeleton
  | .tag .. => False
  | .argument _ | .hash | .plural .. | .select .. | .foreign _ => True

/-- Nodes that write no angle brackets, and neither do those in them. -/
def AreUnmarked (ns : List Node) : Prop := ∀ n ∈ subtrees ns, n.IsUnmarked

variable {n : Node} {ns : List Node}

theorem areUnmarked_nil : AreUnmarked [] := fun _ h => (List.not_mem_nil h).elim

theorem areUnmarked_cons : AreUnmarked (n :: ns) ↔
    n.IsUnmarked ∧ (∀ body ∈ n.bodies, AreUnmarked body) ∧ AreUnmarked ns :=
  forall_subtrees_cons

end Node

namespace Pattern.Grammar

variable {s r : List Char}

theorem Quoted.subset {q : List Char} (h : Quoted s r q) : q ⊆ s := by
  induction h with
  | char _ _ ih => exact List.cons_subset_cons _ ih
  | apostrophe _ ih => exact List.cons_subset_cons _ (List.subset_cons_of_subset _ ih)
  | close => exact List.nil_subset _
  | endOfText => exact List.nil_subset _

/-- Text stands for characters of its own. -/
theorem TextRun.subset {scope : Scope} {t : List Char} (h : TextRun scope s r t) : t ⊆ s := by
  induction h with
  | nil => exact List.nil_subset _
  | apostrophes _ ih => exact List.cons_subset_cons _ (List.subset_cons_of_subset _ ih)
  | quotation _ hq _ ih =>
    refine List.append_subset.mpr ⟨List.subset_cons_of_subset _ hq.subset, ?_⟩
    exact List.subset_cons_of_subset _ (List.Subset.trans ih hq.suffix.subset)
  | apostrophe _ _ ih => exact List.cons_subset_cons _ ih
  | plain _ _ ih => exact List.cons_subset_cons _ ih

theorem Style.unmarked {style : Option String} (h : Style s r style) (hs : Unmarked s) :
    Format.StyleUnmarked style := by
  cases h with
  | absent => exact nofun
  | @present t _ hslot =>
    have ht : Unmarked t := (unmarked_append.mp (hs.subset hslot.suffix_mark.subset)).1
    intro x hx
    unfold styleOf at hx
    split at hx
    · cases hx
    · obtain rfl := Option.some.inj hx
      rw [String.toList_ofList]
      exact unmarked_trim ht

theorem skeletonUnmarked_skeletonOf {formatter : String} {style : Option String}
    (h : Format.StyleUnmarked style) : Format.SkeletonUnmarked (skeletonOf formatter style) := by
  intro spec hspec
  unfold skeletonOf at hspec
  split at hspec
  · exact (Option.not_mem_none _ hspec).elim
  · rename_i style
    dsimp only at hspec
    split at hspec
    · rw [← Option.mem_some.mp hspec]
      exact Number.Spec.allUnmarked_ofSkeleton (h style rfl)
    · exact (Option.not_mem_none _ hspec).elim

/-! What is read off a text without angle brackets. -/

/-- Derivations that read nodes without angle brackets off texts without any. -/
def ReadsUnmarked (B : Derivation (List Node)) : Prop :=
  ∀ scope s r nodes, B scope s r nodes → Unmarked s → Unmarked r ∧ Node.AreUnmarked nodes

section

variable {B : Derivation (List Node)} {scope : Scope} {node : Node} (hB : ReadsUnmarked B)

include hB

theorem Cases.unmarked {κ : Type} {IsKey : κ → Prop} {text : κ → String}
    {found : List (Case κ (List Node))} (h : Cases IsKey text B scope s r found) (hs : Unmarked s) :
    Unmarked r ∧ ∀ body ∈ found.map Case.body, Node.AreUnmarked body := by
  induction h with
  | close hclose => exact ⟨hs.subset hclose.suffix_mark.subset, by simp⟩
  | case hkey _ hopen hbody _ ih =>
    have hs₂ := hs.subset (hopen.suffix_mark.trans hkey.suffix_word).subset
    obtain ⟨hclose, hnodes⟩ := hB _ _ _ _ hbody hs₂
    obtain ⟨hr, hrest⟩ := ih (unmarked_cons.mp hclose).2
    exact ⟨hr, List.forall_mem_cons.mpr ⟨hnodes, hrest⟩⟩

theorem Typed.unmarked {argument formatter : String} (h : Typed B argument formatter scope s r node)
    (hs : Unmarked s) :
    Unmarked r ∧ node.IsUnmarked ∧ ∀ body ∈ node.bodies, Node.AreUnmarked body := by
  cases h with
  | call _ _ hstyle =>
    have hplain := hstyle.unmarked hs
    refine ⟨hs.subset hstyle.suffix.subset, ⟨hplain, skeletonUnmarked_skeletonOf hplain⟩, ?_⟩
    simp [Node.bodies]
  | range _ hcomma hsecond _ hstyle =>
    have hs₂ := hs.subset (hsecond.suffix_word.trans hcomma.suffix_mark).subset
    have hplain := hstyle.unmarked hs₂
    refine ⟨hs₂.subset hstyle.suffix.subset, ⟨hplain, skeletonUnmarked_skeletonOf hplain⟩, ?_⟩
    simp [Node.bodies]
  | plural _ _ hcomma hoffset hcases =>
    have hs₂ := hs.subset (hoffset.suffix.trans hcomma.suffix_mark).subset
    obtain ⟨hr, hbodies⟩ := hcases.unmarked hB hs₂
    exact ⟨hr, trivial, hbodies⟩
  | select _ hcomma hcases =>
    obtain ⟨hr, hbodies⟩ := hcases.unmarked hB (hs.subset hcomma.suffix_mark.subset)
    exact ⟨hr, trivial, hbodies⟩

theorem Placeholder.unmarked (h : Placeholder B scope s r node) (hs : Unmarked s) :
    Unmarked r ∧ node.IsUnmarked ∧ ∀ body ∈ node.bodies, Node.AreUnmarked body := by
  cases h with
  | argument hname _ hclose =>
    refine ⟨hs.subset (hclose.suffix_mark.trans hname.suffix_word).subset, trivial, ?_⟩
    simp [Node.bodies]
  | typed hname _ hcomma hformatter _ ht =>
    have hs₃ := hformatter.suffix_word.trans (hcomma.suffix_mark.trans hname.suffix_word)
    exact ht.unmarked hB (hs.subset hs₃.subset)

end

/-- The induction is on the levels, which the bodies have fewer of, and then on the nodes. -/
theorem Sequence.unmarked {scope : Scope} {k : Nat} {nodes : List Node} (h : Sequence scope s r nodes)
    (hk : Node.levelsOf nodes < k) (hs : Unmarked s) : Unmarked r ∧ Node.AreUnmarked nodes := by
  induction k generalizing scope s r nodes with
  | zero => omega
  | succ k ihk =>
    have hB : ReadsUnmarked (Derivation.only Sequence (Node.levelsOf · < k)) :=
      fun _ _ _ _ h => ihk h.1 h.2
    induction nodes generalizing s with
    | nil =>
      cases h
      exact ⟨hs, Node.areUnmarked_nil⟩
    | cons node nodes ih =>
      rw [Nat.lt_succ_iff, levelsOf_cons_le_iff] at hk
      have hrest : Node.levelsOf nodes < k + 1 := Nat.lt_succ_of_le hk.2
      cases h with
      | text ht _ _ hseq =>
        obtain ⟨hr, hnodes⟩ := ih hseq hrest (hs.subset ht.suffix.subset)
        refine ⟨hr, Node.areUnmarked_cons.mpr ⟨?_, by simp [Node.bodies], hnodes⟩⟩
        rw [Node.IsUnmarked, String.toList_ofList]
        exact hs.subset ht.subset
      | hash _ hseq =>
        obtain ⟨hr, hnodes⟩ := ih hseq hrest (unmarked_cons.mp hs).2
        exact ⟨hr, Node.areUnmarked_cons.mpr ⟨trivial, by simp [Node.bodies], hnodes⟩⟩
      | placeholder hp hseq =>
        have hp' := placeholder_only_iff.mpr ⟨hp, fun body hb =>
          Nat.lt_of_lt_of_le (Node.levelsOf_lt_of_mem hb) hk.1⟩
        obtain ⟨hs₁, hnode, hbodies⟩ := hp'.unmarked hB (unmarked_cons.mp hs).2
        obtain ⟨hr, hnodes⟩ := ih hseq hrest hs₁
        exact ⟨hr, Node.areUnmarked_cons.mpr ⟨hnode, hbodies, hnodes⟩⟩
      | tag =>
        have hangle : isAngle '<' = false := (unmarked_cons.mp hs).1
        exact absurd hangle (by decide)

theorem areUnmarked_of_parse {settings : Settings} {p : List Char} {m : Message}
    (h : settings.parse p = .ok m) (hp : Unmarked p) : Node.AreUnmarked m.body :=
  (Sequence.unmarked (parse_eq_ok_iff.mp h).2.1 (Nat.lt_succ_self _) hp).2

end Pattern.Grammar
end MessageFormat

import MessageFormat.Proofs.Text.Unmarked
import MessageFormat.Text.Case

/-!
Upper and lower case bring no angle brackets: neither bracket is the image of another character.
-/

set_option autoImplicit false

namespace MessageFormat.Text

variable {c : Char} {s : List Char}

theorem isAngle_eq_false_iff : isAngle c = false ↔ c.toNat ≠ 60 ∧ c.toNat ≠ 62 := by
  rw [isAngle, Bool.or_eq_false_iff, beq_eq_false_iff_ne, beq_eq_false_iff_ne, Ne, Ne, ← Char.toNat_inj,
    ← Char.toNat_inj]
  rfl

theorem toNat_ofNat_ne {n k : Nat} (hk : k ≠ 0) (h : n ≠ k) : (Char.ofNat n).toNat ≠ k := by
  by_cases hvalid : n.isValidChar
  · have hchar : Char.ofNat n = Char.ofNatAux n hvalid := dif_pos hvalid
    rw [hchar]
    exact h
  · have hchar : Char.ofNat n = Char.ofNat 0 := dif_neg hvalid
    rw [hchar]
    exact hk.symm

theorem CaseRun.image_bounds {run : CaseRun} {n m : Nat} (h : run.image? n = some m) :
    (run.first : Int) + run.shift ≤ m ∧ m ≤ ((run.last : Int) + run.shift).toNat := by
  unfold image? at h
  split at h
  · rename_i hin
    simp only [Bool.and_eq_true, decide_eq_true_iff] at hin
    obtain rfl := Option.some.inj h
    omega
  · cases h

/-- A character that is not among the images of the runs is the image of itself at most. -/
theorem toNat_ne_of_image {runs : List CaseRun} {k : Nat} (hk : k ≠ 0)
    (hruns : ∀ run ∈ runs, (k : Int) < run.first + run.shift ∨ run.last + run.shift < (k : Int))
    (hc : c.toNat ≠ k) :
    (((runs.findSome? (·.image? c.toNat)).map Char.ofNat).getD c).toNat ≠ k := by
  cases himage : runs.findSome? (·.image? c.toNat) with
  | none => exact hc
  | some m =>
    obtain ⟨run, hrun, hm⟩ := List.exists_of_findSome?_eq_some himage
    have hapart := hruns run hrun
    have hbounds := CaseRun.image_bounds hm
    exact toNat_ofNat_ne hk (by omega)

/-- A character below the images of all runs, and in no expansion, is the image of itself at most. -/
theorem toNat_ne_of_mem_mapCase {runs : List CaseRun} {expansions : List (Nat × List Nat)} {k : Nat}
    (hk : k ≠ 0) (hruns : ∀ run ∈ runs, (k : Int) < run.first + run.shift)
    (hexpansions : ∀ e ∈ expansions, k ∉ e.2) (hc : c.toNat ≠ k) :
    ∀ d ∈ mapCase runs expansions c, d.toNat ≠ k := by
  intro d hd
  unfold mapCase at hd
  split at hd
  · rename_i e he
    obtain ⟨n, hn, rfl⟩ := List.mem_map.mp hd
    refine toNat_ofNat_ne hk ?_
    rintro rfl
    exact hexpansions e (List.mem_of_find?_eq_some he) hn
  · rw [List.mem_singleton] at hd
    subst hd
    exact toNat_ne_of_image hk (fun run hrun => .inl (hruns run hrun)) hc

/-- No image of a run is as small as a bracket. -/
def CaseRun.isHigh (run : CaseRun) : Bool := decide (62 < (run.first : Int) + run.shift)

theorem unmarked_mapCase {runs : List CaseRun} {expansions : List (Nat × List Nat)}
    (hruns : runs.all CaseRun.isHigh = true)
    (hexpansions : expansions.all (fun e => e.2.all fun n => n != 60 && n != 62) = true)
    (h : isAngle c = false) : Unmarked (mapCase runs expansions c) := by
  have hhigh (run : CaseRun) (hrun : run ∈ runs) : (62 : Int) < run.first + run.shift :=
    of_decide_eq_true (List.all_eq_true.mp hruns run hrun)
  have hothers (e : Nat × List Nat) (he : e ∈ expansions) : 60 ∉ e.2 ∧ 62 ∉ e.2 := by
    have hall := List.all_eq_true.mp (List.all_eq_true.mp hexpansions e he)
    exact ⟨fun hmem => by simpa using hall 60 hmem, fun hmem => by simpa using hall 62 hmem⟩
  obtain ⟨hless, hgreater⟩ := isAngle_eq_false_iff.mp h
  refine fun d hd => isAngle_eq_false_iff.mpr ⟨?_, ?_⟩
  · refine toNat_ne_of_mem_mapCase (by decide) (fun run hrun => ?_) (fun e he => (hothers e he).1) hless d hd
    have hlow := hhigh run hrun
    omega
  · exact toNat_ne_of_mem_mapCase (by decide) hhigh (fun e he => (hothers e he).2) hgreater d hd

theorem isAngle_toLower_toUpper (h : isAngle c = false) (hc : c.toNat < 128) :
    isAngle c.toLower = false ∧ isAngle c.toUpper = false := by
  have hall : ∀ n < 128, isAngle (Char.ofNat n) = false →
      isAngle (Char.ofNat n).toLower = false ∧ isAngle (Char.ofNat n).toUpper = false := by decide
  have hself := hall c.toNat hc
  rw [Char.ofNat_toNat] at hself
  exact hself h

theorem unmarked_upper (h : Unmarked s) : Unmarked (upper s) := by
  refine h.flatMap fun c hc => ?_
  split_ifs with hlow
  · simp [isAngle_toLower_toUpper hc hlow]
  · exact unmarked_mapCase (by decide +kernel) (by decide +kernel) hc

theorem unmarked_lowerFrom (h : Unmarked s) : ∀ before, Unmarked (lowerFrom before s) := by
  induction s with
  | nil => exact fun _ => unmarked_nil
  | cons c s ih =>
    obtain ⟨hc, hs⟩ := unmarked_cons.mp h
    intro before
    refine unmarked_append.mpr ⟨?_, ih hs (c :: before)⟩
    split_ifs with hlow
    · simp [isAngle_toLower_toUpper hc hlow]
    · decide
    · decide
    · exact unmarked_mapCase (by decide +kernel) (by decide +kernel) hc

theorem unmarked_lower (h : Unmarked s) : Unmarked (lower s) := unmarked_lowerFrom h []

theorem unmarked_lowerString {x : String} (h : Unmarked x.toList) :
    Unmarked (lowerString x).toList := by
  rw [lowerString, String.toList_ofList]
  exact unmarked_lower h

/-! Lengths. -/

/-- The dot that a capital i with a dot above leaves beside a small i. -/
def dotAbove : Nat := 0x307

theorem length_filter_mapCase (hc : c.toNat ≠ dotAbove) :
    ((mapCase lowerRuns lowerExpansions c).filter (·.toNat ≠ dotAbove)).length = 1 := by
  have hruns : ∀ run ∈ lowerRuns,
      (dotAbove : Int) < run.first + run.shift ∨ run.last + run.shift < (dotAbove : Int) := by
    have hall : lowerRuns.all (fun run => decide ((dotAbove : Int) < run.first + run.shift ∨
        run.last + run.shift < (dotAbove : Int))) = true := by decide +kernel
    exact fun run hrun => of_decide_eq_true (List.all_eq_true.mp hall run hrun)
  unfold mapCase
  split
  · rename_i e he
    obtain rfl := List.mem_singleton.mp (List.mem_of_find?_eq_some he)
    decide
  · have himage := toNat_ne_of_image (by decide) hruns hc
    rw [List.filter_cons_of_pos (by simpa using himage)]
    rfl

/-- Apart from that dot, lower case has as many characters as there were. -/
theorem length_filter_lowerFrom (h : ∀ c ∈ s, c.toNat ≠ dotAbove) : ∀ before,
    ((lowerFrom before s).filter (·.toNat ≠ dotAbove)).length = s.length := by
  induction s with
  | nil => exact fun _ => rfl
  | cons c s ih =>
    obtain ⟨hc, hs⟩ := List.forall_mem_cons.mp h
    intro before
    rw [lowerFrom, List.filter_append, List.length_append, ih hs, List.length_cons, Nat.add_comm]
    congr 1
    split_ifs with hlow
    · have hall : ∀ n < 128, (Char.ofNat n).toLower.toNat ≠ dotAbove := by decide
      have hself := hall c.toNat hlow
      rw [Char.ofNat_toNat] at hself
      simp [hself]
    · decide
    · decide
    · exact length_filter_mapCase hc

theorem length_eq_of_lower_eq {t : List Char} (hs : ∀ c ∈ s, c.toNat ≠ dotAbove)
    (ht : ∀ c ∈ t, c.toNat ≠ dotAbove) (h : lower s = lower t) : s.length = t.length := by
  rw [← length_filter_lowerFrom hs [], ← length_filter_lowerFrom ht []]
  unfold lower at h
  rw [h]

end MessageFormat.Text

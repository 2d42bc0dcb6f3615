import MessageFormat.Pattern.Cache

/-!
What a cache holds. An entry was there before or was computed for its key, and what was returned for a key is
found by it.
-/

set_option autoImplicit false

namespace MessageFormat.Pattern.Cache

variable {c : Cache} {key : Key} {message : Message} {e : Key × Message} {ε : Type}

theorem mem_of_find? (h : c.find? key = some message) : (key, message) ∈ c.entries := by
  obtain ⟨⟨key', message'⟩, he, rfl⟩ := Option.map_eq_some_iff.mp h
  obtain rfl : key' = key := by simpa using List.find?_some he
  exact List.mem_of_find?_eq_some he

theorem mem_touch (h : e ∈ (c.touch key message).entries) : e ∈ c.entries ∨ e = (key, message) := by
  rcases List.mem_append.mp h with h | h
  · exact .inl (List.mem_filter.mp h).1
  · exact .inr (List.mem_singleton.mp h)

theorem mem_evict (h : e ∈ c.evict.entries) : e ∈ c.entries := by
  unfold evict at h
  split at h
  · exact List.mem_of_mem_drop h
  · exact h

theorem get_fst (c : Cache) (key : Key) : (c.get key).1 = c.find? key := by
  unfold get
  split <;> simp [*]

theorem mem_get (h : e ∈ (c.get key).2.entries) : e ∈ c.entries := by
  unfold get at h
  split at h
  · rename_i message hf
    rcases mem_touch h with h | rfl
    · exact h
    · exact mem_of_find? hf
  · exact h

theorem mem_store (h : e ∈ (c.store key message).2.entries) : e ∈ c.entries ∨ e = (key, message) := by
  unfold store at h
  split at h
  · rename_i kept hf
    rcases mem_touch h with h | rfl
    · exact .inl h
    · exact .inl (mem_of_find? hf)
  · rcases List.mem_append.mp h with h | h
    · exact .inl (mem_evict h)
    · exact .inr (List.mem_singleton.mp h)

/-- The message kept for a key that is stored just now, or was before. -/
theorem store_fst (c : Cache) (key : Key) (message : Message) :
    (c.store key message).1 = message ∨ (key, (c.store key message).1) ∈ c.entries := by
  unfold store
  split
  · rename_i kept hf
    exact .inr (mem_of_find? hf)
  · exact .inl rfl

/-- A computation that leaves the cache alone. -/
theorem getOrCompute_spec (c : Cache) (key : Key) (computed : Except ε Message) :
    ((c.getOrCompute key fun c => (computed, c)).1 = computed ∨
      ∃ message, (key, message) ∈ c.entries ∧
        (c.getOrCompute key fun c => (computed, c)).1 = .ok message) ∧
    ∀ e ∈ (c.getOrCompute key fun c => (computed, c)).2.entries,
      e ∈ c.entries ∨ e.1 = key ∧ computed = .ok e.2 := by
  have hget : ∀ e ∈ (c.get key).2.entries, e ∈ c.entries := fun e he => mem_get he
  unfold getOrCompute
  split
  · rename_i message c' hhit
    rw [hhit] at hget
    have hfound : c.find? key = some message := by rw [← get_fst, hhit]
    exact ⟨.inr ⟨message, mem_of_find? hfound, rfl⟩, fun e he => .inl (hget e he)⟩
  · rename_i c' hmiss
    rw [hmiss] at hget
    cases computed with
    | error error => exact ⟨.inl rfl, fun e he => .inl (hget e he)⟩
    | ok message =>
      constructor
      · rcases store_fst c' key message with h | h
        · exact .inl (congrArg Except.ok h)
        · exact .inr ⟨_, hget _ h, rfl⟩
      · intro e he
        rcases mem_store he with h | rfl
        · exact .inl (hget e h)
        · exact .inr ⟨rfl, rfl⟩

/-- Each entry is what its key parses to. -/
def Holds (parse : Key → Except ε Message) (c : Cache) : Prop :=
  ∀ e ∈ c.entries, parse e.1 = .ok e.2

/-- A cache that holds what is computed is not seen in what is returned. -/
theorem Holds.getOrCompute {parse : Key → Except ε Message} (h : Holds parse c) (key : Key) :
    (c.getOrCompute key fun c => (parse key, c)).1 = parse key ∧
      Holds parse (c.getOrCompute key fun c => (parse key, c)).2 := by
  obtain ⟨hreturned, hentries⟩ := getOrCompute_spec c key (parse key)
  constructor
  · rcases hreturned with hcomputed | ⟨message, hmem, hkept⟩
    · exact hcomputed
    · exact hkept.trans (h _ hmem).symm
  · intro e he
    rcases hentries e he with hold | ⟨rfl, hnew⟩
    · exact h e hold
    · exact hnew

theorem find?_append_self {entries : List (Key × Message)} (h : ∀ e ∈ entries, e.1 ≠ key) :
    Cache.find? { c with entries := entries ++ [(key, message)] } key = some message := by
  have hnone : entries.find? (fun e => e.1 == key) = none :=
    List.find?_eq_none.mpr fun e he => by simpa using h e he
  simp [find?, List.find?_append, hnone]

@[simp] theorem find?_touch : (c.touch key message).find? key = some message :=
  find?_append_self fun e he => by simpa using (List.mem_filter.mp he).2

@[simp] theorem find?_store : (c.store key message).2.find? key = some (c.store key message).1 := by
  unfold store
  split
  · exact find?_touch
  · rename_i hf
    refine find?_append_self fun e he hkey => ?_
    simp only [find?, Option.map_eq_none_iff, List.find?_eq_none] at hf
    exact hf e (mem_evict he) (by simpa using hkey)

theorem getOrCompute_of_find? (h : c.find? key = some message)
    (compute : Cache → Except ε Message × Cache) : (c.getOrCompute key compute).1 = .ok message := by
  unfold getOrCompute get
  rw [h]

/-- What has been returned is what is found from now on. -/
theorem find?_getOrCompute {computed : Except ε Message}
    (h : (c.getOrCompute key fun c => (computed, c)).1 = .ok message) :
    (c.getOrCompute key fun c => (computed, c)).2.find? key = some message := by
  cases hf : c.find? key with
  | some kept =>
    obtain rfl : kept = message := Except.ok.inj ((getOrCompute_of_find? hf _).symm.trans h)
    unfold getOrCompute get
    rw [hf]
    exact find?_touch
  | none =>
    unfold getOrCompute get at h ⊢
    rw [hf] at h ⊢
    cases computed with
    | error e => cases h
    | ok computed => exact find?_store.trans (congrArg some (Except.ok.inj h))

end MessageFormat.Pattern.Cache

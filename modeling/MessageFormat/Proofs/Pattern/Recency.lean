import Mathlib.Data.List.Dedup
import Mathlib.Data.List.DropRight
import MessageFormat.Proofs.Pattern.Cache

/-!
Which entries a cache holds: those of the keys that were used last, in the order of their last uses, each
with the message that was stored for it last. So a larger cache holds what a smaller one does.
-/

set_option autoImplicit false

namespace MessageFormat.Pattern.Cache

section Latest

variable {α : Type} {n : Nat} {l : List α} {a : α}

theorem rtake_append_of_le {m : List α} (h : n ≤ m.length) : (l ++ m).rtake n = m.rtake n := by
  rw [List.rtake, List.rtake, List.length_append, List.drop_append, List.drop_eq_nil_of_le (by omega),
    List.nil_append]
  congr 1
  omega

theorem rtake_of_length_le (h : l.length ≤ n) : l.rtake n = l := by
  rw [List.rtake, Nat.sub_eq_zero_of_le h, List.drop_zero]

variable [DecidableEq α]

/-- The last of these, each of them once and where it comes last, and no more than `n`. -/
def latest (n : Nat) (l : List α) : List α := l.dedup.rtake n

theorem nodup_latest (n : Nat) (l : List α) : (latest n l).Nodup :=
  (List.drop_sublist _ _).nodup l.nodup_dedup

theorem length_latest_le (n : Nat) (l : List α) : (latest n l).length ≤ n := by
  rw [latest, List.rtake, List.length_drop]
  omega

theorem latest_subset {n' : Nat} (h : n ≤ n') (l : List α) : latest n l ⊆ latest n' l :=
  List.drop_subset_drop_left _ (Nat.sub_le_sub_left h _)

theorem dedup_concat (l : List α) (a : α) : (l ++ [a]).dedup = l.dedup.filter (· != a) ++ [a] := by
  induction l with
  | nil => simp
  | cons b l ih =>
    by_cases hb : b ∈ l
    · rw [List.cons_append, List.dedup_cons_of_mem (List.mem_append_left _ hb), ih,
        List.dedup_cons_of_mem hb]
    · by_cases hab : b = a
      · subst hab
        rw [List.cons_append, List.dedup_cons_of_mem (by simp), ih, List.dedup_cons_of_notMem hb]
        simp
      · rw [List.cons_append, List.dedup_cons_of_notMem (by simp [hb, hab]), ih,
          List.dedup_cons_of_notMem hb]
        simp [hab]

theorem latest_concat (n : Nat) (l : List α) (a : α) :
    latest (n + 1) (l ++ [a]) = (l.dedup.filter (· != a)).rtake n ++ [a] := by
  rw [latest, dedup_concat, List.rtake_concat_succ]

theorem filter_ne_of_not_mem (h : a ∉ l) : l.filter (· != a) = l :=
  List.filter_eq_self.mpr fun b hb => by
    rw [bne_iff_ne]
    rintro rfl
    exact h hb

theorem dedup_eq_append_latest (n : Nat) (l : List α) :
    ∃ older, l.dedup = older ++ latest n l ∧ (older = [] ∨ (latest n l).length = n) := by
  refine ⟨l.dedup.take (l.dedup.length - n), (List.take_append_drop _ _).symm, ?_⟩
  rcases Nat.le_total l.dedup.length n with h | h
  · left
    rw [Nat.sub_eq_zero_of_le h, List.take_zero]
  · right
    rw [latest, List.rtake, List.length_drop]
    omega

/-- One that is among the latest moves to the end. -/
theorem latest_concat_of_mem (h : a ∈ latest (n + 1) l) :
    latest (n + 1) (l ++ [a]) = (latest (n + 1) l).filter (· != a) ++ [a] := by
  obtain ⟨older, hdedup, hroom⟩ := dedup_eq_append_latest (n + 1) l
  have hnodup := List.nodup_append.mp (hdedup ▸ l.nodup_dedup)
  have hold : a ∉ older := fun hmem => hnodup.2.2 a hmem a h rfl
  have hlength : ((latest (n + 1) l).filter (· != a)).length + 1 = (latest (n + 1) l).length := by
    rw [← hnodup.2.1.erase_eq_filter, List.length_erase_add_one h]
  have hle := length_latest_le (n + 1) l
  rw [latest_concat, hdedup, List.filter_append, filter_ne_of_not_mem hold]
  rcases hroom with rfl | hfull
  · rw [List.nil_append, rtake_of_length_le (by omega)]
  · rw [rtake_append_of_le (by omega), rtake_of_length_le (by omega)]

/-- One that is not takes the place of the oldest if there is no room. -/
theorem latest_concat_of_not_mem (h : a ∉ latest (n + 1) l) :
    latest (n + 1) (l ++ [a]) =
      (if n + 1 ≤ (latest (n + 1) l).length then (latest (n + 1) l).drop 1 else latest (n + 1) l) ++
        [a] := by
  obtain ⟨older, hdedup, hroom⟩ := dedup_eq_append_latest (n + 1) l
  have hle := length_latest_le (n + 1) l
  rw [latest_concat, hdedup, List.filter_append, filter_ne_of_not_mem h]
  congr 1
  split
  · rename_i hfull
    rw [rtake_append_of_le (by omega), List.rtake]
    congr 1
    omega
  · rename_i hspare
    obtain rfl : older = [] := hroom.resolve_right (by omega)
    rw [List.filter_nil, List.nil_append, rtake_of_length_le (by omega)]

end Latest

/-- What is done with a cache. What is computed here is computed without it. -/
inductive Operation (ε : Type) where
  | get (key : Key)
  | getOrCompute (key : Key) (computed : Except ε Message)
  | clear

/-- An operation uses an entry that it finds, or one that it stores. -/
inductive Use where
  | hit (key : Key)
  | stored (key : Key) (message : Message)

def Use.key : Use → Key
  | .hit key | .stored key _ => key

def Use.isHit : Use → Bool
  | .hit _ => true
  | .stored .. => false

def Use.stored? (key : Key) : Use → Option Message
  | .hit _ => none
  | .stored k message => if k = key then some message else none

/-- The message that was stored last for a key. -/
def lastStored (uses : List Use) (key : Key) : Option Message := (uses.filterMap (Use.stored? key)).getLast?

variable {ε : Type}

def Operation.isClear : Operation ε → Bool
  | .clear => true
  | _ => false

def perform (c : Cache) : Operation ε → Cache
  | .get key => (c.get key).2
  | .getOrCompute key computed => (c.getOrCompute key fun c => (computed, c)).2
  | .clear => c.clear

/-- What an operation returns, if it returns anything: a message, or the error of a computation. -/
def answer (c : Cache) : Operation ε → Option (Except ε Message)
  | .get key => (c.get key).1.map .ok
  | .getOrCompute key computed => some (c.getOrCompute key fun c => (computed, c)).1
  | .clear => none

def use? (c : Cache) : Operation ε → Option Use
  | .get key => if c.contains key then some (.hit key) else none
  | .getOrCompute key computed =>
    if c.contains key then some (.hit key) else computed.toOption.map (.stored key)
  | .clear => none

def after (c : Cache) (operations : List (Operation ε)) : Cache := operations.foldl perform c

def uses (c : Cache) : List (Operation ε) → List Use
  | [] => []
  | operation :: operations => (c.use? operation).toList ++ (c.perform operation).uses operations

def sinceClear (operations : List (Operation ε)) : List (Operation ε) :=
  operations.rtakeWhile fun operation => !operation.isClear

def keys (c : Cache) : List Key := c.entries.map (·.1)

section Steps

variable {c : Cache} {key : Key} {message : Message}

theorem contains_iff : c.contains key = true ↔ key ∈ c.keys := by
  simp [contains, find?, keys, List.find?_isSome]

theorem contains_of_find? (h : c.find? key = some message) : c.contains key = true := by
  rw [contains, h, Option.isSome_some]

theorem contains_of_missing (h : c.find? key = none) : c.contains key = false := by
  rw [contains, h, Option.isSome_none]

theorem get_of_find? (h : c.find? key = some message) :
    c.get key = (some message, { c.touch key message with hits := c.hits + 1 }) := by
  rw [get, h]

theorem get_of_missing (h : c.find? key = none) :
    c.get key = (none, { c with misses := c.misses + 1 }) := by
  rw [get, h]

theorem getOrCompute_hit (h : c.find? key = some message)
    (compute : Cache → Except ε Message × Cache) :
    c.getOrCompute key compute = (.ok message, { c.touch key message with hits := c.hits + 1 }) := by
  rw [getOrCompute, get_of_find? h]

theorem getOrCompute_failed (h : c.find? key = none) (e : ε) :
    c.getOrCompute key (fun c => (.error e, c)) = (.error e, { c with misses := c.misses + 1 }) := by
  rw [getOrCompute, get_of_missing h]

theorem evict_eq (c : Cache) :
    c.evict = { c with entries := if c.capacity ≤ c.size then c.entries.drop 1 else c.entries } := by
  unfold evict
  split <;> rfl

theorem store_of_missing (h : c.find? key = none) (message : Message) :
    c.store key message =
      (message, { c with entries := c.evict.entries ++ [(key, message)] }) := by
  rw [store, h, evict_eq]

theorem getOrCompute_stored (h : c.find? key = none) (message : Message) :
    c.getOrCompute key (fun c => ((.ok message : Except ε Message), c)) =
      (.ok message, { c with
        entries := c.evict.entries ++ [(key, message)], misses := c.misses + 1 }) := by
  have hmissed : find? { c with misses := c.misses + 1 } key = none := h
  rw [getOrCompute, get_of_missing h]
  simp only [store_of_missing hmissed, evict_eq]
  rfl

theorem keys_touch (c : Cache) (key : Key) (message : Message) :
    (c.touch key message).keys = c.keys.filter (· != key) ++ [key] := by
  simp [keys, touch, List.filter_map, Function.comp_def]

theorem keys_evict (c : Cache) :
    c.evict.keys = if c.capacity ≤ c.keys.length then c.keys.drop 1 else c.keys := by
  rw [evict_eq, keys, keys, List.length_map, apply_ite (List.map _), List.map_drop, size]

theorem lastStored_hit (uses : List Use) (k key : Key) :
    lastStored (uses ++ [.hit k]) key = lastStored uses key := by
  simp [lastStored, Use.stored?]

theorem lastStored_stored (uses : List Use) (k : Key) (message : Message) (key : Key) :
    lastStored (uses ++ [.stored k message]) key =
      if k = key then some message else lastStored uses key := by
  by_cases h : k = key <;> simp [lastStored, Use.stored?, h]

/-- An operation finds an entry and moves it to the end, or stores one for a key that is missing, or leaves
the entries alone and gives no message. -/
theorem perform_cases (c : Cache) {operation : Operation ε} (hkept : operation.isClear = false) :
    (∃ key message, c.find? key = some message ∧ c.use? operation = some (.hit key) ∧
      c.perform operation = { c.touch key message with hits := c.hits + 1 } ∧
      c.answer operation = some (.ok message)) ∨
    (∃ key message, c.find? key = none ∧ c.use? operation = some (.stored key message) ∧
      c.perform operation =
        { c with entries := c.evict.entries ++ [(key, message)], misses := c.misses + 1 } ∧
      c.answer operation = some (.ok message)) ∨
    (c.use? operation = none ∧ c.perform operation = { c with misses := c.misses + 1 } ∧
      ∀ message, c.answer operation ≠ some (.ok message)) := by
  cases operation with
  | clear => cases hkept
  | get key =>
    rw [use?, perform, answer]
    cases hf : c.find? key with
    | none => simp [contains_of_missing hf, get_of_missing hf]
    | some message =>
      refine .inl ⟨key, message, hf, ?_⟩
      simp [contains_of_find? hf, get_of_find? hf]
  | getOrCompute key computed =>
    rw [use?, perform, answer]
    cases hf : c.find? key with
    | some message =>
      refine .inl ⟨key, message, hf, ?_⟩
      simp [contains_of_find? hf, getOrCompute_hit hf]
    | none =>
      cases computed with
      | error e => simp [contains_of_missing hf, getOrCompute_failed hf, Except.toOption]
      | ok message =>
        refine .inr (.inl ⟨key, message, hf, ?_⟩)
        simp [contains_of_missing hf, getOrCompute_stored hf, Except.toOption]

theorem getOrCompute_fst (c : Cache) (key : Key) (computed : Except ε Message) :
    (c.getOrCompute key fun c => (computed, c)).1 = ((c.find? key).map .ok).getD computed := by
  cases hf : c.find? key with
  | some message => rw [getOrCompute_hit hf, Option.map_some, Option.getD_some]
  | none =>
    cases computed with
    | error e => rw [getOrCompute_failed hf, Option.map_none, Option.getD_none]
    | ok message => rw [getOrCompute_stored hf, Option.map_none, Option.getD_none]

theorem entries_perform {operation : Operation ε} (hkept : operation.isClear = false)
    (hnone : ∀ message, c.answer operation ≠ some (.ok message)) :
    (c.perform operation).entries = c.entries := by
  rcases perform_cases c hkept with ⟨_, message, -, -, -, hmessage⟩ |
    ⟨_, message, -, -, -, hmessage⟩ | ⟨-, hafter, -⟩
  · exact absurd hmessage (hnone message)
  · exact absurd hmessage (hnone message)
  · rw [hafter]

end Steps

/-- The cache has room for `n` entries and holds what these uses leave. -/
structure Recent (n : Nat) (uses : List Use) (c : Cache) : Prop where
  capacity : c.capacity = n
  keys : c.keys = latest n (uses.map Use.key)
  messages : ∀ e ∈ c.entries, lastStored uses e.1 = some e.2

namespace Recent

variable {n : Nat} {uses : List Use} {c : Cache} {key : Key} {message : Message}

theorem empty (n : Nat) : Recent n [] { capacity := n } := by
  refine ⟨rfl, ?_, fun e he => (List.not_mem_nil he).elim⟩
  simp [Cache.keys, latest]

theorem of_entries {c' : Cache} (h : Recent n uses c) (hcapacity : c'.capacity = c.capacity)
    (hentries : c'.entries = c.entries) : Recent n uses c' :=
  ⟨hcapacity.trans h.capacity, by rw [Cache.keys, hentries, ← Cache.keys, h.keys],
    hentries ▸ h.messages⟩

theorem touch (h : Recent (n + 1) uses c) (hf : c.find? key = some message) :
    Recent (n + 1) (uses ++ [.hit key]) (c.touch key message) := by
  have hmem : key ∈ latest (n + 1) (uses.map Use.key) :=
    h.keys ▸ contains_iff.mp (contains_of_find? hf)
  refine ⟨h.capacity, ?_, fun e he => ?_⟩
  · rw [keys_touch, h.keys, List.map_append, List.map_singleton]
    exact (latest_concat_of_mem hmem).symm
  · rw [lastStored_hit]
    rcases mem_touch he with he | rfl
    · exact h.messages e he
    · exact h.messages _ (mem_of_find? hf)

theorem store (h : Recent (n + 1) uses c) (hf : c.find? key = none) (message : Message) :
    Recent (n + 1) (uses ++ [.stored key message])
      { c with entries := c.evict.entries ++ [(key, message)] } := by
  have hmissing : key ∉ c.keys := by
    rw [← contains_iff, contains_of_missing hf]
    exact Bool.false_ne_true
  refine ⟨h.capacity, ?_, fun e he => ?_⟩
  · have hkeys : Cache.keys { c with entries := c.evict.entries ++ [(key, message)] } =
        c.evict.keys ++ [key] := by simp [Cache.keys]
    rw [hkeys, keys_evict, h.capacity, h.keys, List.map_append, List.map_singleton,
      Use.key, latest_concat_of_not_mem (h.keys ▸ hmissing)]
    simp only [Int.ofNat_le]
  · rw [lastStored_stored]
    rcases List.mem_append.mp he with he | he
    · have hold : e ∈ c.entries := mem_evict he
      have hne : key ≠ e.1 := fun hkey => hmissing (hkey ▸ List.mem_map_of_mem hold)
      rw [if_neg hne]
      exact h.messages e hold
    · rw [List.mem_singleton.mp he, if_pos rfl]

theorem find?_eq (h : Recent n uses c) (key : Key) :
    c.find? key = if key ∈ c.keys then lastStored uses key else none := by
  cases hf : c.find? key with
  | none =>
    have hmissing : key ∉ c.keys := by simp [← contains_iff, contains_of_missing hf]
    rw [if_neg hmissing]
  | some message =>
    rw [if_pos (contains_iff.mp (contains_of_find? hf))]
    exact (h.messages _ (mem_of_find? hf)).symm

/-- What an operation uses is what it adds. -/
theorem perform (h : Recent (n + 1) uses c) {operation : Operation ε}
    (hkept : operation.isClear = false) :
    Recent (n + 1) (uses ++ (c.use? operation).toList) (c.perform operation) := by
  rcases perform_cases c hkept with ⟨key, message, hf, huse, hafter, -⟩ |
    ⟨key, message, hf, huse, hafter, -⟩ | ⟨huse, hafter, -⟩
  · rw [huse, hafter]
    exact (h.touch hf).of_entries rfl rfl
  · rw [huse, hafter]
    exact (h.store hf message).of_entries rfl rfl
  · rw [huse, hafter, Option.toList_none, List.append_nil]
    exact h.of_entries rfl rfl

end Recent

section Runs

variable {n : Nat} {c : Cache}

theorem after_concat (c : Cache) (operations : List (Operation ε)) (operation : Operation ε) :
    c.after (operations ++ [operation]) = (c.after operations).perform operation := by
  simp [after]

theorem uses_concat (c : Cache) (operations : List (Operation ε)) (operation : Operation ε) :
    c.uses (operations ++ [operation]) =
      c.uses operations ++ ((c.after operations).use? operation).toList := by
  induction operations generalizing c with
  | nil => simp [uses, after]
  | cons first operations ih => simp [uses, after, ih (c.perform first)]

theorem lookups_perform (c : Cache) {operation : Operation ε} (hkept : operation.isClear = false) :
    (c.perform operation).hits + (c.perform operation).misses = c.hits + c.misses + 1 := by
  rcases perform_cases c hkept with ⟨_, _, -, -, hafter, -⟩ | ⟨_, _, -, -, hafter, -⟩ | ⟨-, hafter, -⟩ <;>
    rw [hafter] <;> simp only [touch] <;> omega

/-- A cache that was cleared is a new one. -/
theorem after_sinceClear (n : Nat) (operations : List (Operation ε)) :
    Recent (n + 1) (uses { capacity := (n + 1 : Nat) } (sinceClear operations))
        (after { capacity := (n + 1 : Nat) } operations) ∧
      after { capacity := (n + 1 : Nat) } operations =
        after { capacity := (n + 1 : Nat) } (sinceClear operations) ∧
      (after { capacity := (n + 1 : Nat) } operations).hits +
          (after { capacity := (n + 1 : Nat) } operations).misses =
        (sinceClear operations).length := by
  induction operations using List.reverseRecOn with
  | nil => exact ⟨.empty _, rfl, rfl⟩
  | append_singleton operations operation ih =>
    obtain ⟨hrecent, hsame, hlookups⟩ := ih
    cases hclear : operation.isClear with
    | true =>
      have hsince : sinceClear (operations ++ [operation]) = [] :=
        List.rtakeWhile_concat_neg _ _ _ (by simp [hclear])
      cases operation with
      | get | getOrCompute => cases hclear
      | clear =>
        have hnew : perform (after { capacity := (n + 1 : Nat) } operations) (.clear : Operation ε) =
            { capacity := (n + 1 : Nat) } := by rw [perform, clear, hrecent.capacity]
        rw [hsince, after_concat, hnew]
        exact ⟨.empty _, rfl, rfl⟩
    | false =>
      have hsince : sinceClear (operations ++ [operation]) = sinceClear operations ++ [operation] :=
        List.rtakeWhile_concat_pos _ _ _ (by simp [hclear])
      rw [hsince, after_concat, after_concat, uses_concat, ← hsame, lookups_perform _ hclear, hlookups,
        List.length_append, List.length_singleton]
      exact ⟨hrecent.perform hclear, rfl, rfl⟩

/-- Each of these operations returns a message, as one does that computes one. -/
def Answered (c : Cache) : List (Operation ε) → Prop
  | [] => True
  | operation :: operations =>
    (∃ message, c.answer operation = some (.ok message)) ∧ (c.perform operation).Answered operations

/-- What a cache finds or stores, one that holds more finds or stores as well. -/
theorem use?_of_subset {c c' : Cache} (hkeys : c.keys ⊆ c'.keys) {operation : Operation ε} {use : Use}
    (h : c.use? operation = some use) :
    ∃ use', c'.use? operation = some use' ∧ use'.key = use.key ∧
      (use.isHit = true → use'.isHit = true) := by
  have hmore (key : Key) (hc : c.contains key = true) : c'.contains key = true :=
    contains_iff.mpr (hkeys (contains_iff.mp hc))
  cases operation with
  | clear => cases h
  | get key =>
    by_cases hc : c.contains key = true
    · simp only [use?, hc, if_true, Option.some.injEq] at h
      subst h
      exact ⟨.hit key, by simp [use?, hmore key hc], rfl, id⟩
    · simp [use?, hc] at h
  | getOrCompute key computed =>
    by_cases hc : c.contains key = true
    · simp only [use?, hc, if_true, Option.some.injEq] at h
      subst h
      exact ⟨.hit key, by simp [use?, hmore key hc], rfl, id⟩
    · simp only [use?, hc, Bool.false_eq_true, if_false, Option.map_eq_some_iff] at h
      obtain ⟨message, hmessage, rfl⟩ := h
      by_cases hc' : c'.contains key = true
      · exact ⟨.hit key, by simp [use?, hc'], rfl, fun _ => rfl⟩
      · exact ⟨.stored key message, by simp [use?, hc', hmessage], rfl, id⟩

theorem hits_perform (c : Cache) {operation : Operation ε} (hkept : operation.isClear = false) :
    (c.perform operation).hits = c.hits + ((c.use? operation).elim 0 fun u => u.isHit.toNat) := by
  rcases perform_cases c hkept with ⟨_, _, -, huse, hafter, -⟩ | ⟨_, _, -, huse, hafter, -⟩ |
    ⟨huse, hafter, -⟩ <;> rw [huse, hafter] <;> rfl

/-- Two caches that have seen uses of the same keys are asked for more. -/
theorem keys_after_subset {n' : Nat} (hn : n ≤ n') {c c' : Cache} {uses uses' : List Use}
    (h : Recent (n + 1) uses c) (h' : Recent (n' + 1) uses' c')
    (hkeys : uses.map Use.key = uses'.map Use.key) (hhits : c.hits ≤ c'.hits)
    {operations : List (Operation ε)} (hanswered : c.Answered operations) :
    (c.after operations).keys ⊆ (c'.after operations).keys ∧
      (c.after operations).hits ≤ (c'.after operations).hits := by
  induction operations generalizing c c' uses uses' with
  | nil =>
    refine ⟨?_, hhits⟩
    rw [after, after, List.foldl_nil, List.foldl_nil, h.keys, h'.keys, hkeys]
    exact latest_subset (Nat.succ_le_succ hn) _
  | cons operation operations ih =>
    obtain ⟨⟨message, hmessage⟩, hrest⟩ := hanswered
    have hkept : operation.isClear = false := by
      cases operation with
      | clear => cases hmessage
      | get | getOrCompute => rfl
    have hsub : c.keys ⊆ c'.keys := by
      rw [h.keys, h'.keys, hkeys]
      exact latest_subset (Nat.succ_le_succ hn) _
    obtain ⟨use, huse⟩ : ∃ use, c.use? operation = some use := by
      rcases perform_cases c hkept with ⟨_, _, -, huse, -⟩ | ⟨_, _, -, huse, -⟩ | ⟨-, -, hnone⟩
      · exact ⟨_, huse⟩
      · exact ⟨_, huse⟩
      · exact absurd hmessage (hnone message)
    obtain ⟨use', huse', hkey, hhit⟩ := use?_of_subset hsub huse
    have hnext := h.perform hkept
    have hnext' := h'.perform hkept
    rw [huse] at hnext
    rw [huse'] at hnext'
    refine ih hnext hnext' (by simp [hkeys, hkey]) ?_ hrest
    rw [hits_perform c hkept, hits_perform c' hkept, huse, huse']
    refine Nat.add_le_add hhits ?_
    cases hu : use.isHit with
    | true => simp [hu, hhit hu]
    | false => simp [hu]

/-- A bounded cache of what was used last. Its entries are those that the uses since it was last cleared
leave, each key once and with the message stored for it last. It returns the message of a key that it holds
and what was computed for one that it does not. An operation that returns no message leaves the entries as
they are. Each look-up since it was last cleared is counted as a hit or as a miss. With room for more, it
holds no less and hits no less often, as long as every operation returns a message. -/
theorem recent_after (n : Nat) (hn : 0 < n) (operations : List (Operation ε)) :
    (∀ c uses, c = after { capacity := n } operations →
      uses = Cache.uses { capacity := n } (sinceClear operations) →
      Recent n uses c ∧ c.keys.Nodup ∧ c.keys.length ≤ n ∧
      c.hits + c.misses = (sinceClear operations).length ∧
      (∀ key, (c.get key).1 = if key ∈ c.keys then lastStored uses key else none) ∧
      (∀ key (computed : Except ε Message), (c.getOrCompute key fun c => (computed, c)).1 =
        ((c.get key).1.map .ok).getD computed) ∧
      ∀ operation : Operation ε, operation.isClear = false →
        (∀ message, c.answer operation ≠ some (.ok message)) →
        (c.perform operation).entries = c.entries) ∧
    ∀ n', n ≤ n' → Answered { capacity := n } operations →
      (after { capacity := n } operations).keys ⊆ (after { capacity := n' } operations).keys ∧
      (after { capacity := n } operations).hits ≤ (after { capacity := n' } operations).hits := by
  obtain ⟨n, rfl⟩ := Nat.exists_eq_succ_of_ne_zero hn.ne'
  constructor
  · rintro c uses rfl rfl
    obtain ⟨hrecent, -, hlookups⟩ := after_sinceClear n operations
    refine ⟨hrecent, ?_, ?_, hlookups, fun key => ?_, fun key computed => ?_,
      fun operation hkept hnone => ?_⟩
    · rw [hrecent.keys]
      exact nodup_latest _ _
    · rw [hrecent.keys]
      exact length_latest_le _ _
    · rw [get_fst]
      exact hrecent.find?_eq key
    · rw [get_fst]
      exact getOrCompute_fst _ key computed
    · exact entries_perform hkept hnone
  · intro n' hn' hanswered
    obtain ⟨n', rfl⟩ := Nat.exists_eq_succ_of_ne_zero (hn.trans_le hn').ne'
    exact keys_after_subset (Nat.le_of_succ_le_succ hn') (.empty _) (.empty _) rfl le_rfl hanswered

/-- A cache of two after it was cleared: a key that is used again outlasts one that was stored after it, which
a cache of three still holds. -/
theorem recent_after_two : ∃ (a b c : Key) (m : Message) (operations : List (Operation Unit)),
    operations = [.getOrCompute a (.ok m), .getOrCompute b (.ok m), .getOrCompute a (.error ()),
      .getOrCompute c (.ok m)] ∧
    (after { capacity := 2 } (.getOrCompute b (.ok m) :: .clear :: operations)).keys = [a, c] ∧
    (after { capacity := 2 } operations).keys ⊆ (after { capacity := 3 } operations).keys ∧
    b ∈ (after { capacity := 3 } operations).keys := by
  refine ⟨⟨"a", false⟩, ⟨"b", false⟩, ⟨"c", false⟩, ⟨[]⟩, _, rfl, ?_, ?_, ?_⟩
  · refine ((recent_after 2 (by decide) (.getOrCompute _ _ :: .clear :: _)).1 _ _ rfl rfl).1.keys.trans ?_
    decide +kernel
  · refine ((recent_after 2 (by decide) _).2 3 (by decide) ?_).1
    exact ⟨⟨_, rfl⟩, ⟨_, rfl⟩, ⟨_, rfl⟩, ⟨_, rfl⟩, trivial⟩
  · decide +kernel

end Runs

end MessageFormat.Pattern.Cache

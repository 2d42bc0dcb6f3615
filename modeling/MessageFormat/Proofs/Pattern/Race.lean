import MessageFormat.Proofs.Pattern.Recency

/-!
Calls that use one cache side by side. A call looks its key up, computes the message if it is missing, and
stores what it has computed unless another call came first; between these two steps anything may happen to
the cache. Whatever the order, the calls for a key agree on one message as long as its entry stays. Two
computations for one key may give different messages here, so a message tells which of them it is from.
-/

set_option autoImplicit false

namespace MessageFormat.Pattern.Cache

/-- A call, which is told from other calls for the same key. -/
structure Caller where
  id : Nat
  key : Key
deriving DecidableEq, Repr

/-- A cache, and the calls that have found nothing in it and are computing. -/
structure Shared where
  cache : Cache
  computing : List Caller := []

/-- One step of a call, or another use of the cache. No two of them overlap. -/
inductive Event (ε : Type) where
  | lookUp (caller : Caller)
  | store (caller : Caller) (computed : Except ε Message)
  | get (key : Key)
  | clear

variable {ε : Type} {c : Cache} {key k : Key} {message kept : Message}

/-- Moving an entry to the end changes nothing of what is found. -/
theorem find?_touch_of_find? (h : c.find? k = some kept) (key : Key) :
    (c.touch k kept).find? key = c.find? key := by
  by_cases hk : k = key
  · rw [hk] at h ⊢
    rw [find?_touch, h]
  · have hpast : (c.entries.filter fun e => e.1 != k).find? (fun e => e.1 == key) =
        c.entries.find? fun e => e.1 == key := by
      rw [List.find?_filter]
      congr 1
      funext e
      by_cases he : e.1 = key
      · simp [he, Ne.symm hk]
      · simp [he]
    simp [find?, touch, List.find?_append, hpast, hk]

theorem find?_get (c : Cache) (k key : Key) : (c.get k).2.find? key = c.find? key := by
  cases hf : c.find? k with
  | none => rw [get_of_missing hf]; rfl
  | some kept => rw [get_of_find? hf]; exact find?_touch_of_find? hf key

/-- What is stored leaves an entry as it is, or takes its room. -/
theorem find?_store_of_find? (hkeys : c.keys.Nodup) (h : c.find? key = some message) (k : Key)
    (stored : Message) :
    (c.store k stored).2.find? key = some message ∨
      (c.store k stored).2.find? key = none ∧ k ≠ key ∧ c.capacity ≤ c.size ∧
        c.keys.head? = some key := by
  cases hf : c.find? k with
  | some kept =>
    left
    rw [store, hf]
    exact (find?_touch_of_find? hf key).trans h
  | none =>
    have hne : k ≠ key := by
      rintro rfl
      cases hf.symm.trans h
    have hpast : (c.store k stored).2.find? key =
        (c.evict.entries.find? fun e => e.1 == key).map (·.2) := by
      rw [store_of_missing hf]
      simp [find?, List.find?_append, hne]
    rw [hpast, evict_eq]
    split
    · rename_i hfull
      cases hentries : c.entries with
      | nil =>
        rw [find?, hentries] at h
        cases h
      | cons oldest rest =>
        rw [keys, hentries, List.map_cons, List.nodup_cons] at hkeys
        by_cases holdest : oldest.1 = key
        · right
          rw [holdest] at hkeys
          have hgone : rest.find? (fun e => e.1 == key) = none :=
            List.find?_eq_none.mpr fun e he hkey =>
              hkeys.1 (by simpa [beq_iff_eq.mp hkey] using List.mem_map_of_mem (f := (·.1)) he)
          refine ⟨by simp [hgone], hne, hfull, ?_⟩
          rw [keys, hentries, List.map_cons, List.head?_cons, holdest]
        · left
          rw [find?, hentries, List.find?_cons_of_neg (by simpa using holdest)] at h
          exact h
    · exact .inl h

namespace Shared

def serve (s : Shared) : Event ε → Shared
  | .lookUp caller => {
      cache := (s.cache.get caller.key).2,
      computing := if s.cache.contains caller.key then s.computing else caller :: s.computing }
  | .store caller (.ok message) =>
    if caller ∈ s.computing then
      ⟨(s.cache.store caller.key message).2, s.computing.erase caller⟩
    else s
  | .store caller (.error _) => { s with computing := s.computing.erase caller }
  | .get key => { s with cache := (s.cache.get key).2 }
  | .clear => { s with cache := s.cache.clear }

/-- The call that ends with a step, and what it returns or fails with. -/
def reply? (s : Shared) : Event ε → Option (Caller × Except ε Message)
  | .lookUp caller => (s.cache.get caller.key).1.map fun message => (caller, .ok message)
  | .store caller computed =>
    if caller ∈ s.computing then
      some (caller, computed.map fun message => (s.cache.store caller.key message).1)
    else none
  | .get _ | .clear => none

def after (s : Shared) (events : List (Event ε)) : Shared := events.foldl serve s

def replies (s : Shared) : List (Event ε) → List (Caller × Except ε Message)
  | [] => []
  | event :: events => (s.reply? event).toList ++ (s.serve event).replies events

/-- An event that takes the entry of a key away: all are cleared, or another key needs the room and the
entry is the one that was not used for the longest time. -/
def Drops (s : Shared) (key : Key) : Event ε → Prop
  | .clear => True
  | .store caller _ =>
    caller.key ≠ key ∧ s.cache.capacity ≤ s.cache.size ∧ s.cache.keys.head? = some key
  | .lookUp _ | .get _ => False

/-- There is an entry of the key after each of these events. -/
def Keeps (s : Shared) (key : Key) : List (Event ε) → Prop
  | [] => True
  | event :: events => key ∈ (s.serve event).cache.keys ∧ (s.serve event).Keeps key events

variable {s : Shared} {n : Nat}

/-- Whatever happens, the cache holds what was used last. -/
theorem recent_serve {uses : List Use} (h : Recent (n + 1) uses s.cache) (event : Event ε) :
    ∃ uses', Recent (n + 1) uses' (s.serve event).cache := by
  have hget (key : Key) : Operation.isClear (.get key : Operation ε) = false := rfl
  cases event with
  | lookUp caller => exact ⟨_, h.perform (hget caller.key)⟩
  | get key => exact ⟨_, h.perform (hget key)⟩
  | clear =>
    refine ⟨[], ?_⟩
    rw [serve, Cache.clear, h.capacity]
    exact .empty _
  | store caller computed =>
    cases computed with
    | error e => exact ⟨uses, h⟩
    | ok message =>
      rw [serve]
      split
      · cases hf : s.cache.find? caller.key with
        | some kept =>
          rw [Cache.store, hf]
          exact ⟨_, h.touch hf⟩
        | none =>
          rw [store_of_missing hf]
          exact ⟨_, h.store hf message⟩
      · exact ⟨uses, h⟩

theorem recent_run {uses : List Use} (h : Recent (n + 1) uses s.cache) (events : List (Event ε)) :
    ∃ uses', Recent (n + 1) uses' (s.after events).cache := by
  induction events generalizing s uses with
  | nil => exact ⟨uses, h⟩
  | cons event events ih =>
    obtain ⟨_, hnext⟩ := recent_serve h event
    exact ih hnext

/-- An entry stays as it is until it is dropped. -/
theorem find?_serve (hkeys : s.cache.keys.Nodup) (h : s.cache.find? key = some message)
    (event : Event ε) :
    (s.serve event).cache.find? key = some message ∨
      (s.serve event).cache.find? key = none ∧ s.Drops key event := by
  cases event with
  | lookUp caller => exact .inl ((find?_get s.cache caller.key key).trans h)
  | get k => exact .inl ((find?_get s.cache k key).trans h)
  | clear => exact .inr ⟨rfl, trivial⟩
  | store caller computed =>
    cases computed with
    | error e => exact .inl h
    | ok stored =>
      rw [serve]
      split
      · exact find?_store_of_find? hkeys h caller.key stored
      · exact .inl h

/-- What a call returns is what is found from then on. -/
theorem find?_of_reply {event : Event ε} {caller : Caller}
    (h : s.reply? event = some (caller, .ok message)) :
    (s.serve event).cache.find? caller.key = some message := by
  cases event with
  | get | clear => cases h
  | lookUp other =>
    obtain ⟨found, hfound, heq⟩ := Option.map_eq_some_iff.mp h
    obtain ⟨rfl, hmessage⟩ := Prod.mk.inj heq
    rw [serve, find?_get, ← get_fst, hfound, Except.ok.inj hmessage]
  | store other computed =>
    simp only [reply?, Option.ite_none_right_eq_some, Option.some.injEq, Prod.mk.injEq] at h
    obtain ⟨hcomputing, rfl, hmessage⟩ := h
    cases computed with
    | error e => cases hmessage
    | ok stored =>
      rw [serve, if_pos hcomputing, find?_store]
      exact congrArg some (Except.ok.inj hmessage)

/-- Calls for a key that end while its entry stays return the message of this entry. -/
theorem eq_of_keeps {uses : List Use} (hrecent : Recent (n + 1) uses s.cache)
    {events : List (Event ε)} (h : s.Keeps key events) :
    (∀ m, s.cache.find? key = some m → (s.after events).cache.find? key = some m) ∧
      ∀ caller m, (caller, .ok m) ∈ s.replies events → caller.key = key →
        (s.after events).cache.find? key = some m := by
  induction events generalizing s uses with
  | nil => exact ⟨fun m hm => hm, fun caller m hreply => (List.not_mem_nil hreply).elim⟩
  | cons event events ih =>
    obtain ⟨hkept, hlater⟩ := h
    obtain ⟨uses', hnext⟩ := recent_serve hrecent event
    obtain ⟨hstays, hreplies⟩ := ih hnext hlater
    refine ⟨fun m hm => ?_, fun caller m hreply hkey => ?_⟩
    · have hnodup : s.cache.keys.Nodup := hrecent.keys ▸ nodup_latest _ _
      rcases find?_serve hnodup hm event with hsame | ⟨hgone, -⟩
      · exact hstays m hsame
      · rw [← contains_iff, contains_of_missing hgone] at hkept
        cases hkept
    · rcases List.mem_append.mp hreply with hnow | hthen
      · rw [Option.mem_toList] at hnow
        subst hkey
        exact hstays m (find?_of_reply hnow)
      · exact hreplies caller m hthen hkey

/-- What is computed is what the key parses to. -/
def Faithful (parse : Key → Except ε Message) : Event ε → Prop
  | .store caller computed => computed = parse caller.key
  | .lookUp _ | .get _ | .clear => True

section Faithful

variable {parse : Key → Except ε Message} {event : Event ε}

theorem holds_serve (h : Holds parse s.cache) (hfaithful : Faithful parse event) :
    Holds parse (s.serve event).cache := by
  intro e he
  cases event with
  | lookUp caller => exact h e (mem_get he)
  | get k => exact h e (mem_get he)
  | clear => exact (List.not_mem_nil he).elim
  | store caller computed =>
    cases computed with
    | error error => exact h e he
    | ok stored =>
      rw [serve] at he
      split at he
      · rcases mem_store he with hold | rfl
        · exact h e hold
        · exact hfaithful.symm
      · exact h e he

theorem reply_eq_parse (h : Holds parse s.cache) (hfaithful : Faithful parse event)
    {caller : Caller} {result : Except ε Message} (hreply : s.reply? event = some (caller, result)) :
    result = parse caller.key := by
  cases event with
  | get | clear => cases hreply
  | lookUp other =>
    obtain ⟨found, hfound, heq⟩ := Option.map_eq_some_iff.mp hreply
    obtain ⟨rfl, rfl⟩ := Prod.mk.inj heq
    rw [get_fst] at hfound
    exact (h _ (mem_of_find? hfound)).symm
  | store other computed =>
    simp only [reply?, Option.ite_none_right_eq_some, Option.some.injEq, Prod.mk.injEq] at hreply
    obtain ⟨-, rfl, rfl⟩ := hreply
    cases computed with
    | error e => exact hfaithful
    | ok stored =>
      rcases store_fst s.cache other.key stored with hstored | hold
      · exact (congrArg Except.ok hstored).trans hfaithful
      · exact (h _ hold).symm

theorem replies_eq_parse (h : Holds parse s.cache) {events : List (Event ε)}
    (hfaithful : ∀ event ∈ events, Faithful parse event) {caller : Caller}
    {result : Except ε Message} (hreply : (caller, result) ∈ s.replies events) :
    result = parse caller.key := by
  induction events generalizing s with
  | nil => exact (List.not_mem_nil hreply).elim
  | cons event events ih =>
    obtain ⟨hnow, hthen⟩ := List.forall_mem_cons.mp hfaithful
    rcases List.mem_append.mp hreply with hreply | hreply
    · exact reply_eq_parse h hnow (Option.mem_toList.mp hreply)
    · exact ih (holds_serve h hnow) hthen hreply

end Faithful

def looksUp (caller : Caller) : Event ε → Bool
  | .lookUp other => other == caller
  | _ => false

theorem count_serve (s : Shared) (caller : Caller) (event : Event ε) :
    (looksUp caller event).toNat + s.computing.count caller =
      (s.reply? event).toList.countP (·.1 == caller) + (s.serve event).computing.count caller := by
  cases event with
  | get | clear => simp [looksUp, reply?, serve]
  | lookUp other =>
    cases hf : s.cache.find? other.key with
    | none =>
      simp only [looksUp, reply?, serve, get_fst, hf, contains_of_missing hf]
      by_cases hother : other = caller
      · subst hother
        simp [Nat.add_comm]
      · simp [hother]
    | some message =>
      simp only [looksUp, reply?, serve, get_fst, hf, contains_of_find? hf]
      cases hother : other == caller <;> simp [hother]
  | store other computed =>
    by_cases hcomputing : other ∈ s.computing
    · have herased : (s.serve (.store other computed)).computing = s.computing.erase other := by
        cases computed with
        | error e => rfl
        | ok stored => rw [serve, if_pos hcomputing]
      rw [herased, reply?, if_pos hcomputing, List.count_erase]
      by_cases hother : other = caller
      · subst hother
        have hpos := List.count_pos_iff.mpr hcomputing
        simp only [looksUp, Bool.toNat_false, beq_self_eq_true, if_true, Option.toList_some,
          List.countP_singleton]
        omega
      · simp [looksUp, hother]
    · have hsame : (s.serve (.store other computed)).computing = s.computing := by
        cases computed with
        | error e => rw [serve, List.erase_of_not_mem hcomputing]
        | ok stored => rw [serve, if_neg hcomputing]
      simp [looksUp, reply?, hsame, hcomputing]

/-- A call that has looked its key up has ended once, or is computing. -/
theorem count_after (s : Shared) (caller : Caller) (events : List (Event ε)) :
    events.countP (looksUp caller) + s.computing.count caller =
      (s.replies events).countP (·.1 == caller) + (s.after events).computing.count caller := by
  induction events generalizing s with
  | nil => rfl
  | cons event events ih =>
    have hnow := count_serve s caller event
    have hthen := ih (s.serve event)
    have hlooks : (event :: events).countP (looksUp caller) =
        (looksUp caller event).toNat + events.countP (looksUp caller) := by
      rw [List.countP_cons]
      cases looksUp caller event <;> simp [Nat.add_comm]
    rw [hlooks, replies, List.countP_append]
    change _ = _ + ((s.serve event).after events).computing.count caller
    omega

/-- All of a call: a look-up and, if that finds nothing, what the computation does and the storing. -/
def call (s : Shared) (caller : Caller) (inner : List (Event ε)) (computed : Except ε Message) :
    List (Event ε) :=
  .lookUp caller ::
    if s.cache.contains caller.key then [] else inner ++ [.store caller computed]

theorem mem_computing_after {caller : Caller} (h : caller ∈ s.computing) {events : List (Event ε)}
    (hevents : ∀ computed, .store caller computed ∉ events) : caller ∈ (s.after events).computing := by
  induction events generalizing s with
  | nil => exact h
  | cons event events ih =>
    refine ih ?_ fun computed hmem => hevents computed (List.mem_cons_of_mem _ hmem)
    cases event with
    | get | clear => exact h
    | lookUp other =>
      rw [serve]
      split
      · exact h
      · exact List.mem_cons_of_mem _ h
    | store other computed =>
      have hne : caller ≠ other := by
        rintro rfl
        exact hevents computed List.mem_cons_self
      cases computed with
      | error e => exact (List.mem_erase_of_ne hne).mpr h
      | ok stored =>
        rw [serve]
        split
        · exact (List.mem_erase_of_ne hne).mpr h
        · exact h

theorem after_append (s : Shared) (events more : List (Event ε)) :
    s.after (events ++ more) = (s.after events).after more := List.foldl_append

theorem replies_append (s : Shared) (events more : List (Event ε)) :
    s.replies (events ++ more) = s.replies events ++ (s.after events).replies more := by
  induction events generalizing s with
  | nil => rfl
  | cons event events ih =>
    rw [List.cons_append, replies, ih, replies, List.append_assoc]
    rfl

/-- A call made at one go, whose computation uses the cache in its turn, is a run of such steps. -/
theorem getOrCompute_eq_call (s : Shared) (caller : Caller) {inner : List (Event ε)}
    (hinner : ∀ computed, .store caller computed ∉ inner) (computed : Except ε Message)
    {compute : Cache → Except ε Message × Cache}
    (hcompute : s.cache.contains caller.key = false →
      compute (s.cache.get caller.key).2 = (computed, (s.after (.lookUp caller :: inner)).cache)) :
    (s.cache.getOrCompute caller.key compute).2 = (s.after (s.call caller inner computed)).cache ∧
      (caller, (s.cache.getOrCompute caller.key compute).1) ∈
        s.replies (s.call caller inner computed) := by
  cases hf : s.cache.find? caller.key with
  | some message =>
    have hcall : s.call caller inner computed = [.lookUp caller] := by
      rw [call, contains_of_find? hf, if_pos rfl]
    rw [getOrCompute_hit hf, hcall]
    refine ⟨?_, ?_⟩
    · change _ = (s.cache.get caller.key).2
      rw [get_of_find? hf]
    · simp [replies, reply?, get_fst, hf]
  | none =>
    have hcall : s.call caller inner computed = .lookUp caller :: inner ++ [.store caller computed] := by
      rw [call, contains_of_missing hf]
      rfl
    have hlookUp : s.serve (.lookUp caller : Event ε) =
        ⟨(s.cache.get caller.key).2, caller :: s.computing⟩ := by
      rw [serve, contains_of_missing hf]
      rfl
    have hcomputing : caller ∈ (s.after (.lookUp caller :: inner)).computing := by
      refine mem_computing_after (s := s.serve (.lookUp caller)) ?_ hinner
      rw [hlookUp]
      exact List.mem_cons_self
    have hmiddle := hcompute (contains_of_missing hf)
    have hget : s.cache.get caller.key = (none, (s.cache.get caller.key).2) := by
      rw [get_of_missing hf]
    rw [hcall, after_append, replies_append, getOrCompute, hget]
    simp only [hmiddle]
    cases computed with
    | error e =>
      refine ⟨rfl, List.mem_append_right _ ?_⟩
      simp [replies, reply?, hcomputing, Except.map]
    | ok message =>
      refine ⟨?_, List.mem_append_right _ ?_⟩
      · change _ = ((s.after (.lookUp caller :: inner)).serve
          (.store caller (.ok message : Except ε Message))).cache
        rw [serve, if_pos hcomputing]
      · simp [replies, reply?, hcomputing, Except.map]

/-- A new cache and no calls. -/
def start (n : Nat) : Shared := ⟨{ capacity := n }, []⟩

/-- Calls that use one cache side by side, whatever they compute and in whatever order their steps come.
There is always room for the entries and one entry for a key. Each call that has looked its key up has ended
once or is computing. An entry stays as it is until it is dropped. What calls for a key return while its
entry stays is the message of this entry, even if they have computed others. If computations give what their
keys parse to, every call ends with just this. A call whose computation uses the cache in its turn is a run
of such steps. -/
theorem calls_converge (n : Nat) (hn : 0 < n) (events : List (Event ε)) (s : Shared)
    (hs : s = (start n).after events) :
    (s.cache.size ≤ n ∧ s.cache.keys.Nodup) ∧
    (∀ caller, events.countP (looksUp caller) =
      ((start n).replies events).countP (·.1 == caller) + s.computing.count caller) ∧
    (∀ key message (event : Event ε), s.cache.find? key = some message →
      (s.serve event).cache.find? key = some message ∨
        (s.serve event).cache.find? key = none ∧ s.Drops key event) ∧
    (∀ key (more : List (Event ε)), s.Keeps key more → ∀ caller message,
      (caller, .ok message) ∈ s.replies more → caller.key = key →
        (s.after more).cache.find? key = some message) ∧
    (∀ parse, (∀ event ∈ events, Faithful parse event) →
      ∀ caller result, (caller, result) ∈ (start n).replies events → result = parse caller.key) ∧
    ∀ caller (inner : List (Event ε)), (∀ computed, .store caller computed ∉ inner) →
      ∀ computed compute,
        (s.cache.contains caller.key = false →
          compute (s.cache.get caller.key).2 = (computed, (s.after (.lookUp caller :: inner)).cache)) →
        (s.cache.getOrCompute caller.key compute).2 = (s.after (s.call caller inner computed)).cache ∧
        (caller, (s.cache.getOrCompute caller.key compute).1) ∈
          s.replies (s.call caller inner computed) := by
  obtain ⟨n, rfl⟩ := Nat.exists_eq_succ_of_ne_zero hn.ne'
  obtain ⟨uses, hrecent⟩ := recent_run (s := start (n + 1)) (.empty (n + 1)) events
  rw [← hs] at hrecent
  have hnodup : s.cache.keys.Nodup := hrecent.keys ▸ nodup_latest _ _
  refine ⟨⟨?_, hnodup⟩, fun caller => ?_, fun key message event h => find?_serve hnodup h event,
    fun key more hkeeps => (eq_of_keeps hrecent hkeeps).2, fun parse hfaithful caller result hreply => ?_,
    fun caller inner hinner computed compute hcompute =>
      getOrCompute_eq_call s caller hinner computed hcompute⟩
  · have hsize : s.cache.size = s.cache.keys.length := (List.length_map _).symm
    rw [hsize, hrecent.keys]
    exact length_latest_le _ _
  · have hcount := count_after (start (n + 1)) caller events
    rw [← hs] at hcount
    simpa [start] using hcount
  · exact replies_eq_parse (fun e he => (List.not_mem_nil he).elim) hfaithful hreply

/-- Two calls that find nothing and compute different messages: both return the one that is stored first,
also when another key was stored in between. -/
theorem calls_converge_two : ∃ (p q other : Caller) (first second : Message) (s : Shared)
    (earlier more : List (Event Unit)),
    p.key = q.key ∧ other.key ≠ q.key ∧ first ≠ second ∧
    s = (start 2).after earlier ∧ earlier = [.lookUp p, .lookUp other, .lookUp q] ∧
    more = [.store q (.ok first), .store other (.ok second), .store p (.ok second)] ∧
    (p, .ok first) ∈ s.replies more ∧
    (∀ caller message, (caller, .ok message) ∈ s.replies more → caller.key = q.key →
      (s.after more).cache.find? q.key = some message) ∧
    (s.after more).cache.size ≤ 2 := by
  let p : Caller := ⟨0, ⟨"a", false⟩⟩
  let q : Caller := ⟨1, ⟨"a", false⟩⟩
  let other : Caller := ⟨2, ⟨"b", false⟩⟩
  let earlier : List (Event Unit) := [.lookUp p, .lookUp other, .lookUp q]
  let more : List (Event Unit) :=
    [.store q (.ok ⟨[.hash]⟩), .store other (.ok ⟨[]⟩), .store p (.ok ⟨[]⟩)]
  have hkeep := (calls_converge 2 (by decide) earlier _ rfl).2.2.2.1
  have hroom := (calls_converge 2 (by decide) (earlier ++ more) _ rfl).1.1
  rw [after_append] at hroom
  refine ⟨p, q, other, ⟨[.hash]⟩, ⟨[]⟩, _, earlier, more, rfl, by decide, by simp, rfl, rfl, rfl, ?_, ?_,
    hroom⟩
  · exact List.mem_cons_of_mem _ (List.mem_cons_of_mem _ List.mem_cons_self)
  · exact hkeep q.key _ ⟨by decide, by decide, by decide, trivial⟩

end Shared

end MessageFormat.Pattern.Cache

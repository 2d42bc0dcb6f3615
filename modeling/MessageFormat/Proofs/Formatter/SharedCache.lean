import Mathlib
import MessageFormat.Formatter
import MessageFormat.Proofs.Pattern.Cache
import MessageFormat.Proofs.Pattern.Limit

/-!
Formatters that share a cache. Entries go by text and by whether tags are read, not by limits: what one
formatter has read another is given, even if its own limits would refuse it.
-/

set_option autoImplicit false

namespace MessageFormat

open Pattern (Cache Settings)

/-- The text is too long or nests too deep. -/
def Error.RefusedByLimit : Error → Prop
  | .oversized .. => True
  | .malformed (.nestingDepthExceeded _) _ => True
  | _ => False

namespace Message

theorem parse_of_ofPattern {settings : Pattern.Settings} {pattern : String} {m : Message}
    (h : ofPattern settings pattern = .ok m) : settings.parse pattern.toList = .ok m := by
  unfold ofPattern at h
  cases hparse : settings.parse pattern.toList with
  | error r => rw [hparse] at h; cases h
  | ok m' =>
    rw [hparse] at h
    rw [Except.ok.inj h]

/-- Settings that read tags alike disagree about a pattern only where a limit refuses it. -/
theorem ofPattern_of_ofPattern {s t : Settings} (htags : s.ignoreTags = t.ignoreTags)
    {pattern : String} {m : Message} (h : ofPattern t pattern = .ok m) :
    ofPattern s pattern = .ok m ∨ ∃ e, ofPattern s pattern = .error e ∧ e.RefusedByLimit := by
  obtain ⟨-, hderives, hfits⟩ := Pattern.Grammar.parse_eq_ok_iff.mp (parse_of_ofPattern h)
  unfold ofPattern
  by_cases ha : s.Admits pattern.toList
  · have hwide : { s with maxDepth := max s.maxDepth t.maxDepth }.parse pattern.toList = .ok m := by
      refine Pattern.Grammar.parse_eq_ok_iff.mpr ⟨ha, htags ▸ hderives, fun q hq ho => ?_⟩
      exact (hfits q hq ho).trans_le (le_max_right _ _)
    rcases @Settings.parse_limited s _ _ pattern.toList (le_max_left s.maxDepth t.maxDepth) with
      hs | ⟨span, hs⟩
    · left
      rw [show s.parse pattern.toList = .ok m from hs.trans hwide]
      rfl
    · right
      rw [show s.parse pattern.toList = _ from hs]
      exact ⟨_, rfl, trivial⟩
  · right
    rw [Settings.parse_of_not_admits ha]
    exact ⟨_, rfl, trivial⟩

end Message

namespace Formatter

/-- What a formatter is asked for: the message of a pattern, or its text. -/
inductive Request where
  | parse (pattern : String)
  | format (mode : Mode) (pattern : String) (g : Graph) (value : Value)

def Request.pattern : Request → String
  | .parse pattern => pattern
  | .format _ pattern .. => pattern

inductive Reply where
  | message (parsed : Except Error Message)
  | text (outcome : Outcome String)

theorem format_of_parse {f : Formatter} {pattern : String} {m : Message}
    (h : f.options.patternSettings.parse pattern.toList = .ok m) (mode : Mode) (g : Graph)
    (value : Value) : (f.format none mode pattern g value).1 = f.formatMessage mode g value m := by
  simp only [format, parse, Message.ofPattern, h, Except.mapError]

/-- The reply to a request, and the cache afterwards. -/
def serve (f : Formatter) (cache : Option Cache) : Request → Reply × Option Cache
  | .parse pattern =>
    let (parsed, cache) := f.parse cache pattern
    (.message parsed, cache)
  | .format mode pattern g value =>
    let (outcome, cache) := f.format cache mode pattern g value
    (.text outcome, cache)

/-- The reply of a formatter that keeps nothing. -/
def alone (f : Formatter) (request : Request) : Reply := (f.serve none request).1

/-- A formatter with a cache at hand, which it uses if its options say so. -/
def serveSharing (f : Formatter) (cache : Cache) (request : Request) : Reply × Cache :=
  if f.options.enableCache then
    let (reply, cache') := f.serve (some cache) request
    (reply, cache'.getD cache)
  else (f.alone request, cache)

/-- The replies to requests, one after the other, of formatters that share a cache. -/
def replies (cache : Cache) : List (Formatter × Request) → List Reply
  | [] => []
  | (f, request) :: calls =>
    let (reply, cache) := f.serveSharing cache request
    reply :: replies cache calls

/-- What a formatter replies once it has a message, or knows why there is none. -/
def reply (f : Formatter) (parsed : Except Error Message) : Request → Reply
  | .parse _ => .message parsed
  | .format mode _ g value =>
    match parsed with
    | .ok message => .text (f.formatMessage mode g value message)
    | .error e => .text (Outcome.fail e)

/-- What a formatter reads a pattern as by itself. -/
def own (f : Formatter) (pattern : String) : Except Error Message :=
  Message.ofPattern f.options.patternSettings pattern

theorem serve_eq (f : Formatter) (cache : Option Cache) (request : Request) :
    f.serve cache request =
      (f.reply (f.parse cache request.pattern).1 request, (f.parse cache request.pattern).2) := by
  cases request with
  | parse pattern => rfl
  | format mode pattern g value =>
    simp only [serve, format, Request.pattern]
    rcases f.parse cache pattern with ⟨parsed | message, cache'⟩ <;> rfl

theorem alone_eq (f : Formatter) (request : Request) :
    f.alone request = f.reply (f.own request.pattern) request := by
  rw [alone, serve_eq]
  rfl

theorem serveSharing_caching {f : Formatter} (h : f.options.enableCache) (cache : Cache)
    (request : Request) :
    f.serveSharing cache request =
      (f.reply (cache.getOrCompute ⟨request.pattern, f.options.ignoreTags⟩
        fun cache => (f.own request.pattern, cache)).1 request,
       (cache.getOrCompute ⟨request.pattern, f.options.ignoreTags⟩
        fun cache => (f.own request.pattern, cache)).2) := by
  unfold serveSharing
  rw [if_pos h, serve_eq]
  rfl

/-- A formatter replies from its own message, or from one that is in the cache; what is in the cache
afterwards was there, or is its own message. -/
theorem serveSharing_spec (f : Formatter) (cache : Cache) (request : Request) :
    ((f.serveSharing cache request).1 = f.reply (f.own request.pattern) request ∨
      ∃ m, f.options.enableCache ∧ (⟨request.pattern, f.options.ignoreTags⟩, m) ∈ cache.entries ∧
        (f.serveSharing cache request).1 = f.reply (.ok m) request) ∧
    ∀ e ∈ (f.serveSharing cache request).2.entries, e ∈ cache.entries ∨ f.options.enableCache ∧
      e.1 = ⟨request.pattern, f.options.ignoreTags⟩ ∧ f.own request.pattern = .ok e.2 := by
  by_cases hcache : f.options.enableCache
  · obtain ⟨hreply, hentries⟩ := Cache.getOrCompute_spec cache
      ⟨request.pattern, f.options.ignoreTags⟩ (f.own request.pattern)
    rw [serveSharing_caching hcache]
    constructor
    · rcases hreply with h | ⟨m, hm, h⟩
      · exact .inl (congrArg (f.reply · request) h)
      · exact .inr ⟨m, hcache, hm, congrArg (f.reply · request) h⟩
    · intro e he
      rcases hentries e he with h | h
      · exact .inl h
      · exact .inr ⟨hcache, h⟩
  · unfold serveSharing
    rw [if_neg hcache]
    exact ⟨.inl (alone_eq f request), fun e he => .inl he⟩

/-- One of these calls is by a formatter that caches, reads tags as it says, and accepts the pattern as
this message. -/
def Accepted (calls : List (Formatter × Request)) (key : Cache.Key) (m : Message) : Prop :=
  ∃ g request, (g, request) ∈ calls ∧ g.options.enableCache ∧
    key = ⟨request.pattern, g.options.ignoreTags⟩ ∧ g.own request.pattern = .ok m

/-- The entries of a cache after these calls. -/
def Filled (calls : List (Formatter × Request)) (cache : Cache) : Prop :=
  ∀ e ∈ cache.entries, Accepted calls e.1 e.2

theorem Accepted.append {calls : List (Formatter × Request)} {key : Cache.Key} {m : Message}
    (h : Accepted calls key m) (more : List (Formatter × Request)) :
    Accepted (calls ++ more) key m := by
  obtain ⟨g, request, hmem, hrest⟩ := h
  exact ⟨g, request, List.mem_append_left more hmem, hrest⟩

theorem Filled.serveSharing {before : List (Formatter × Request)} {cache : Cache}
    (h : Filled before cache) (f : Formatter) (request : Request) :
    Filled (before ++ [(f, request)]) (f.serveSharing cache request).2 := by
  intro e he
  rcases (serveSharing_spec f cache request).2 e he with hold | ⟨hcache, hkey, hown⟩
  · exact (h e hold).append _
  · exact ⟨f, request, List.mem_append_right before (List.mem_singleton.mpr rfl), hcache, hkey, hown⟩

/-- The reply to a call is the formatter's own, unless a call before it has accepted what it refuses. -/
def Excused (before : List (Formatter × Request)) (f : Formatter) (request : Request)
    (reply : Reply) : Prop :=
  reply = f.alone request ∨
    (∃ e, f.own request.pattern = .error e ∧ e.RefusedByLimit) ∧ f.options.enableCache ∧
      ∃ m, Accepted before ⟨request.pattern, f.options.ignoreTags⟩ m ∧
        reply = f.reply (.ok m) request

theorem excused_serveSharing {before : List (Formatter × Request)} {cache : Cache}
    (h : Filled before cache) (f : Formatter) (request : Request) :
    Excused before f request (f.serveSharing cache request).1 := by
  rw [Excused, alone_eq]
  rcases (serveSharing_spec f cache request).1 with hown | ⟨m, hcache, hmem, hreply⟩
  · exact .inl hown
  · obtain ⟨g, request', -, -, hkey, hg⟩ := h _ hmem
    obtain ⟨hpattern, htags⟩ := Cache.Key.mk.inj hkey
    rw [← hpattern] at hg
    rcases Message.ofPattern_of_ofPattern (s := f.options.patternSettings)
        (t := g.options.patternSettings) htags hg with hf | he
    · exact .inl (hreply.trans (congrArg (f.reply · request) hf.symm))
    · exact .inr ⟨he, hcache, m, h _ hmem, hreply⟩

theorem replies_cons (cache : Cache) (f : Formatter) (request : Request)
    (calls : List (Formatter × Request)) :
    replies cache ((f, request) :: calls) = (f.serveSharing cache request).1 ::
      replies (f.serveSharing cache request).2 calls := rfl

/-- Each reply of a run is excused by the calls before it. -/
theorem replies_excused {before : List (Formatter × Request)} {cache : Cache}
    (h : Filled before cache) (calls : List (Formatter × Request)) :
    (replies cache calls).length = calls.length ∧
    ∀ i f request, calls[i]? = some (f, request) →
      ∃ reply, (replies cache calls)[i]? = some reply ∧
        Excused (before ++ calls.take i) f request reply := by
  -- The call at hand joins those before it, which the entries of the cache come from.
  induction calls generalizing before cache with
  | nil => simp [replies]
  | cons call calls ih =>
    obtain ⟨g, first⟩ := call
    obtain ⟨hlength, hrest⟩ := ih (h.serveSharing g first)
    refine ⟨congrArg (· + 1) hlength, fun i f request hi => ?_⟩
    cases i with
    | zero =>
      obtain ⟨rfl, rfl⟩ := Prod.mk.inj (Option.some.inj hi)
      rw [replies_cons, List.take_zero, List.append_nil]
      exact ⟨_, rfl, excused_serveSharing h g first⟩
    | succ i =>
      obtain ⟨reply, hreply, hexcused⟩ := hrest i f request hi
      rw [replies_cons, List.take_succ_cons, List.append_cons]
      exact ⟨reply, hreply, hexcused⟩

/-- What one formatter has accepted, the next one is given. -/
theorem replies_accepted (capacity : Int) {f g : Formatter} {pattern : String} {m : Message}
    (hf : f.options.enableCache) (hg : g.options.enableCache)
    (htags : g.options.ignoreTags = f.options.ignoreTags) (hown : g.own pattern = .ok m) :
    replies { capacity } [(g, .parse pattern), (f, .parse pattern)] =
      [.message (.ok m), .message (.ok m)] := by
  have hfirst : (Cache.getOrCompute { capacity } ⟨pattern, g.options.ignoreTags⟩
      fun cache => (g.own pattern, cache)).1 = .ok m := by
    rcases (Cache.getOrCompute_spec { capacity } ⟨pattern, g.options.ignoreTags⟩
      (g.own pattern)).1 with h | ⟨_, hmem, -⟩
    · exact h.trans hown
    · exact nomatch hmem
  have hsecond := Cache.getOrCompute_of_find? (Cache.find?_getOrCompute hfirst)
    fun cache => (f.own pattern, cache)
  simp only [replies, serveSharing_caching hg, serveSharing_caching hf, Request.pattern, ← htags,
    hfirst, hsecond, reply]

/-- None of these formatters refuses what another one accepts, if both cache and read tags alike. -/
def Agreeing (formatters : Set Formatter) : Prop :=
  ∀ f ∈ formatters, ∀ g ∈ formatters, f.options.enableCache → g.options.enableCache →
    g.options.ignoreTags = f.options.ignoreTags →
    ∀ pattern m, g.own pattern = .ok m → f.own pattern = .ok m

theorem Excused.eq_alone {formatters : Set Formatter} {before : List (Formatter × Request)}
    {f : Formatter} {request : Request} {reply : Reply} (h : Excused before f request reply)
    (hagree : Agreeing formatters) (hf : f ∈ formatters)
    (hbefore : ∀ call ∈ before, call.1 ∈ formatters) : reply = f.alone request := by
  rcases h with halone | ⟨⟨e, hrefused, -⟩, hfc, m, haccepted, -⟩
  · exact halone
  · obtain ⟨g, request', hmem, hgc, hkey, hown⟩ := haccepted
    obtain ⟨hpattern, htags⟩ := Cache.Key.mk.inj hkey
    rw [← hpattern] at hown
    rw [hagree f hf g (hbefore _ hmem) hfc hgc htags.symm _ m hown] at hrefused
    cases hrefused

/-- Formatters that share a cache. Each reply is what the formatter says alone, unless its own limits
refuse the pattern and a call before, by a formatter that reads tags alike, has accepted it. All replies
are what the formatters say alone, whatever the calls, just if the formatters agree. -/
theorem replies_sharing (formatters : Set Formatter) :
    (∀ (capacity : Int) (calls : List (Formatter × Request)),
      (replies { capacity } calls).length = calls.length ∧
      ∀ i f request, calls[i]? = some (f, request) →
        ∃ reply, (replies { capacity } calls)[i]? = some reply ∧
          Excused (calls.take i) f request reply) ∧
    ((∀ (capacity : Int) (calls : List (Formatter × Request)),
        (∀ call ∈ calls, call.1 ∈ formatters) →
        replies { capacity } calls = calls.map fun call => call.1.alone call.2) ↔
      Agreeing formatters) := by
  have hempty (capacity : Int) : Filled [] { capacity } := fun e he => nomatch he
  refine ⟨fun capacity => replies_excused (hempty capacity), fun h f hf g hg hfc hgc htags pattern m hown => ?_,
    fun hagree capacity calls hcalls => ?_⟩
  · -- `g` reads the pattern first, then `f` does
    have hboth := h 1 [(g, .parse pattern), (f, .parse pattern)] (by simp [hf, hg])
    rw [replies_accepted 1 hfc hgc htags hown] at hboth
    have hsecond : Reply.message (.ok m) = f.alone (.parse pattern) :=
      (List.cons.inj (List.cons.inj hboth).2).1
    rw [alone_eq] at hsecond
    exact (Reply.message.inj hsecond).symm
  · obtain ⟨hlength, hreplies⟩ := replies_excused (hempty capacity) calls
    refine List.ext_getElem? fun i => ?_
    rw [List.getElem?_map]
    cases hi : calls[i]? with
    | none =>
      rw [List.getElem?_eq_none_iff] at hi
      exact List.getElem?_eq_none (hlength.trans_le hi)
    | some call =>
      obtain ⟨reply, hreply, hexcused⟩ := hreplies i call.1 call.2 hi
      rw [hreply, hexcused.eq_alone hagree (hcalls _ (List.mem_of_getElem? hi))
        fun c hc => hcalls c (List.mem_of_mem_take hc)]
      rfl

set_option maxRecDepth 4000 in
/-- A formatter that allows no nesting gives a nested message, since another one has read it. -/
theorem replies_beyond_limit : ∃ pattern m,
    pattern = "<b>\x7bx\x7d</b>" ∧ m = ⟨[.tag "b" "" false [.argument "x"]]⟩ ∧
    ∀ context : Locale.Context,
      alone { options := { maxNestingDepth := 1 }, context } (.parse pattern) =
        .message (.error (.malformed (.nestingDepthExceeded 1) ⟨3, 3, 1, 4⟩)) ∧
      replies { capacity := 10 } [({ options := {}, context }, .parse pattern),
          ({ options := { maxNestingDepth := 1 }, context }, .parse pattern)] =
        [.message (.ok m), .message (.ok m)] := by
  refine ⟨_, _, rfl, rfl, fun context => ?_⟩
  have hlow : Settings.parse { maxDepth := 1 } "<b>\x7bx\x7d</b>".toList =
    .error (.malformed (.nestingDepthExceeded 1) ⟨3, 3, 1, 4⟩) := by cbv
  have hhigh : Settings.parse {} "<b>\x7bx\x7d</b>".toList =
    .ok ⟨[.tag "b" "" false [.argument "x"]]⟩ := by cbv
  constructor
  · have hown : own { options := { maxNestingDepth := 1 }, context } "<b>\x7bx\x7d</b>" =
        .error (.malformed (.nestingDepthExceeded 1) ⟨3, 3, 1, 4⟩) := by
      rw [own, Message.ofPattern]
      exact congrArg (Except.mapError Error.ofRejection) hlow
    rw [alone_eq, Request.pattern, hown, reply]
  · refine replies_accepted 10 rfl rfl rfl ?_
    rw [own, Message.ofPattern]
    exact congrArg (Except.mapError Error.ofRejection) hhigh

end Formatter
end MessageFormat

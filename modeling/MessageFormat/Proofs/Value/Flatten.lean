import Mathlib.Data.Finset.Card
import Mathlib.Data.Finset.Range
import Mathlib.Data.List.Nodup
import Mathlib.Logic.Relation
import MessageFormat.Value.Flatten

/-!
Flattened arguments against the routes through them: each route from the root that opens no container twice
gives one name and keeps what it ends in. A worklist that takes up one container at a time comes to the same.
-/

set_option autoImplicit false

namespace MessageFormat

section Entries

variable {κ α : Type} [BEq κ] [LawfulBEq κ]

theorem keys_putEntry (key : κ) (value : α) (es : List (κ × α)) :
    (putEntry (· == ·) key value es).map Prod.fst =
      if key ∈ es.map Prod.fst then es.map Prod.fst else es.map Prod.fst ++ [key] := by
  induction es with
  | nil => simp [putEntry]
  | cons e es ih =>
    by_cases h : e.1 = key
    · simp [putEntry, h]
    · have hne : key ≠ e.1 := Ne.symm h
      simp only [putEntry, beq_iff_eq, h, if_false, List.map_cons, ih, List.mem_cons, hne, false_or]
      split_ifs <;> simp

theorem mem_of_putEntry {key : κ} {value : α} {es : List (κ × α)} {e : κ × α}
    (h : e ∈ putEntry (· == ·) key value es) : e = (key, value) ∨ e ∈ es := by
  induction es with
  | nil => simpa [putEntry] using h
  | cons e' es ih =>
    by_cases hkey : e'.1 = key
    · simp only [putEntry, hkey, beq_self_eq_true, if_true, List.mem_cons] at h
      exact h.imp_right (List.mem_cons_of_mem _)
    · simp only [putEntry, beq_iff_eq, hkey, if_false, List.mem_cons] at h ⊢
      rcases h with h | h
      · exact .inr (.inl h)
      · exact (ih h).imp_right .inr

omit [LawfulBEq κ] in
theorem mergeEntries_concat (es : List (κ × α)) (e : κ × α) :
    mergeEntries (· == ·) (es ++ [e]) = putEntry (· == ·) e.1 e.2 (mergeEntries (· == ·) es) := by
  simp [mergeEntries, List.foldl_append]

/-- Every key stays, once. -/
theorem mem_keys_mergeEntries {es : List (κ × α)} {key : κ} :
    key ∈ (mergeEntries (· == ·) es).map Prod.fst ↔ key ∈ es.map Prod.fst := by
  induction es using List.reverseRecOn with
  | nil => simp [mergeEntries]
  | append_singleton es e ih =>
    rw [mergeEntries_concat, keys_putEntry, List.map_append, List.mem_append, ← ih]
    split_ifs with h
    · refine ⟨.inl, ?_⟩
      rintro (hkey | hkey)
      · exact hkey
      · obtain rfl : key = e.1 := by simpa using hkey
        exact h
    · simp

theorem nodup_keys_mergeEntries (es : List (κ × α)) :
    ((mergeEntries (· == ·) es).map Prod.fst).Nodup := by
  induction es using List.reverseRecOn with
  | nil => simp [mergeEntries]
  | append_singleton es e ih =>
    rw [mergeEntries_concat, keys_putEntry]
    split_ifs with h
    · exact ih
    · exact List.nodup_append.mpr ⟨ih, List.nodup_singleton _, by
        rintro a ha b hb rfl
        exact h (List.mem_singleton.mp hb ▸ ha)⟩

theorem mem_of_mergeEntries {es : List (κ × α)} {e : κ × α}
    (h : e ∈ mergeEntries (· == ·) es) : e ∈ es := by
  induction es using List.reverseRecOn with
  | nil => simp [mergeEntries] at h
  | append_singleton es e' ih =>
    rw [mergeEntries_concat] at h
    rcases mem_of_putEntry h with rfl | h
    · simp
    · exact List.mem_append_left _ (ih h)

end Entries

namespace Graph

variable {g : Graph}

/-- A value that holds others by name. -/
def IsContainer (g : Graph) (v : Value) : Prop := ∃ place < g.nodes.length, v = .node place

/-- A container holds an entry. What an object keeps to itself has a low line in front of its name. -/
inductive Holds (g : Graph) : Value → Value × Value → Prop
  | entry {place : Nat} {entries : List (Value × Value)} {e : Value × Value}
      (container : g.nodes[place]? = some (.map entries)) (mem : e ∈ entries) : Holds g (.node place) e
  | field {place : Nat} {name : String} {fields : List (String × Value)} {f : String × Value}
      (container : g.nodes[place]? = some (.record name fields)) (mem : f ∈ fields) :
      Holds g (.node place) (.text f.1, f.2)
  | shown {place : Nat} {name : String} {attributes : List (String × Value)} {a : String × Value}
      (container : g.nodes[place]? = some (.object name attributes)) (mem : a ∈ attributes)
      (shown : a.1.startsWith "_" = false) : Holds g (.node place) (.text a.1, a.2)

theorem isSome_view_iff {v : Value} : (g.view v).isSome ↔ g.IsContainer v := by
  cases v with
  | node place =>
    simp only [view, IsContainer, Value.node.injEq]
    constructor
    · intro h
      refine ⟨place, ?_, rfl⟩
      by_contra hge
      rw [List.getElem?_eq_none (by omega)] at h
      simp at h
    · rintro ⟨_, hlt, rfl⟩
      rw [List.getElem?_eq_getElem hlt]
      cases g.nodes[place] <;> rfl
  | _ => simp [view, IsContainer]

theorem mem_view_iff {v : Value} {e : Value × Value} :
    e ∈ (g.view v).getD [] ↔ g.Holds v e := by
  constructor
  · intro h
    cases v with
    | node place =>
      simp only [view] at h
      split at h
      · rename_i hplace
        exact .entry hplace h
      · rename_i hplace
        obtain ⟨f, hf, rfl⟩ := List.mem_map.mp h
        exact .field hplace hf
      · rename_i hplace
        obtain ⟨a, ha, rfl⟩ := List.mem_map.mp h
        obtain ⟨hmem, hshown⟩ := List.mem_filter.mp ha
        exact .shown hplace hmem (by simpa using hshown)
      · simp at h
    | _ => simp [view] at h
  · intro h
    cases h with
    | entry hplace hmem => simpa [view, hplace] using hmem
    | field hplace hmem =>
      simp only [view, hplace, Option.getD_some]
      exact List.mem_map_of_mem hmem
    | shown hplace hmem hshown =>
      simp only [view, hplace, Option.getD_some]
      exact List.mem_map_of_mem (List.mem_filter.mpr ⟨hmem, by simp [hshown]⟩)

/-- Each entry is held by the value of the one before it, and the first one by `v`. -/
def IsWalk (g : Graph) : Value → List (Value × Value) → Prop
  | _, [] => True
  | v, e :: es => g.Holds v e ∧ g.IsWalk e.2 es

/-- Entries that are opened, and the one at the end that is not. -/
structure Route where
  inner : List (Value × Value)
  last : Value × Value
deriving Inhabited

namespace Route

/-- The containers that a route from `root` opens. -/
def opened (root : Value) (r : Route) : List Value := root :: r.inner.map Prod.snd

def keys (r : Route) : List Value := r.inner.map Prod.fst ++ [r.last.1]

/-- The keys as texts, with the separator between them. -/
def name (g : Graph) (separator : String) (r : Route) : String :=
  separator.intercalate (r.keys.map fun key => String.ofList (g.text key))

/-- What flattening makes of a route. -/
def entry (g : Graph) (separator : String) (r : Route) : String × Value :=
  (r.name g separator, r.last.2)

/-- A route through containers that are all different, to a value that is none or is one of them. -/
structure IsSimple (g : Graph) (root : Value) (r : Route) : Prop where
  walk : g.IsWalk root (r.inner ++ [r.last])
  distinct : (r.opened root).Nodup
  ends : ¬ g.IsContainer r.last.2 ∨ r.last.2 ∈ r.opened root

/-- A route after the entry that is opened first. -/
def after (e : Value × Value) (r : Route) : Route := { r with inner := e :: r.inner }

@[simp] theorem last_after (e : Value × Value) (r : Route) : (r.after e).last = r.last := rfl

end Route

/-- Routes through entries inside the containers of `path`, in the order in which they are flattened. -/
def routesFrom (g : Graph) : Nat → List Nat → List (Value × Value) → List Route
  | levels, path, entries =>
    let closed := entries.filter fun e => g.isLeaf path e.2
    let opened := entries.filter fun e => !g.isLeaf path e.2
    match levels with
    | 0 => closed.map (Route.mk [])
    | levels + 1 =>
      closed.map (Route.mk []) ++ opened.reverse.flatMap fun e =>
        (routesFrom g levels ((place? e.2).toList ++ path) ((g.view e.2).getD [])).map (Route.after e)

/-- A name below the one that leads to it. -/
def nameBelow (separator : String) (above : Option String) (name : String) : String :=
  match above with
  | none => name
  | some a => a ++ separator ++ name

theorem name_after {separator : String} (e : Value × Value) (r : Route) :
    (r.after e).name g separator = String.ofList (g.text e.1) ++ separator ++ r.name g separator := by
  obtain ⟨inner, last⟩ := r
  rw [← String.toList_inj]
  cases inner <;> simp [Route.name, Route.keys, Route.after, String.toList_intercalate]

theorem nameBelow_after {separator : String} (above : Option String) (e : Value × Value) (r : Route) :
    nameBelow separator above ((r.after e).name g separator) =
      nameBelow separator (some (g.joinName separator above e.1)) (r.name g separator) := by
  cases above <;> simp [nameBelow, joinName, name_after, String.append_assoc]

theorem nameBelow_single {separator : String} (above : Option String) (e : Value × Value) :
    nameBelow separator above ((Route.mk [] e).name g separator) = g.joinName separator above e.1 := by
  have hname : (Route.mk [] e).name g separator = String.ofList (g.text e.1) := by
    simp [Route.name, Route.keys]
  rw [hname]
  cases above <;> rfl

theorem flattenFrom_eq (separator : String) (levels : Nat) : ∀ above path entries,
    g.flattenFrom separator levels above path entries =
      (g.routesFrom levels path entries).map fun r =>
        (nameBelow separator above (r.name g separator), r.last.2) := by
  induction levels with
  | zero =>
    intro above path entries
    simp only [flattenFrom, routesFrom, List.filter_map, List.map_map]
    simp [Function.comp_def, nameBelow_single]
  | succ levels ih =>
    intro above path entries
    simp only [flattenFrom, routesFrom, List.filter_map, List.map_map, List.map_append, ih,
      ← List.map_reverse, List.flatMap_map, List.map_flatMap]
    simp [Function.comp_def, nameBelow_single, nameBelow_after]

/-- Containers that are open already, with room for all others inside them. -/
structure IsPath (g : Graph) (levels : Nat) (path : List Nat) : Prop where
  distinct : path.Nodup
  lt : ∀ place ∈ path, place < g.nodes.length
  room : g.nodes.length ≤ levels + path.length

theorem Holds.isContainer {v : Value} {e : Value × Value} (h : g.Holds v e) : g.IsContainer v := by
  cases h with
  | entry hplace | field hplace | shown hplace => exact ⟨_, (List.getElem?_eq_some_iff.mp hplace).1, rfl⟩

theorem isLeaf_iff {path : List Nat} {v : Value} :
    g.isLeaf path v = true ↔ ¬ g.IsContainer v ∨ v ∈ path.map Value.node := by
  rw [isLeaf, Bool.or_eq_true, ← isSome_view_iff, Option.isNone_iff_eq_none, Option.not_isSome_iff_eq_none]
  refine or_congr Iff.rfl ?_
  cases v <;> simp [place?]

theorem not_isLeaf_iff {path : List Nat} {v : Value} :
    g.isLeaf path v = false ↔ g.IsContainer v ∧ v ∉ path.map Value.node := by
  rw [← Bool.not_eq_true, isLeaf_iff, not_or, not_not]

/-- What is opened is another container than those around it, and there is room for it. -/
theorem IsPath.opens {levels : Nat} {path : List Nat} (h : g.IsPath levels path) {v : Value}
    (hv : g.isLeaf path v = false) :
    ∃ place room, v = .node place ∧ levels = room + 1 ∧ g.IsPath room (place :: path) := by
  obtain ⟨⟨place, hlt, rfl⟩, hnew⟩ := not_isLeaf_iff.mp hv
  have hfresh : place ∉ path := fun hmem => hnew (List.mem_map_of_mem hmem)
  have hdistinct : (place :: path).Nodup := List.nodup_cons.mpr ⟨hfresh, h.distinct⟩
  have hall : ∀ q ∈ place :: path, q < g.nodes.length := List.forall_mem_cons.mpr ⟨hlt, h.lt⟩
  have hsubset : (place :: path).toFinset ⊆ Finset.range g.nodes.length := by
    intro q hq
    exact Finset.mem_range.mpr (hall q (List.mem_toFinset.mp hq))
  have hcard := Finset.card_le_card hsubset
  rw [List.toFinset_card_of_nodup hdistinct, Finset.card_range, List.length_cons] at hcard
  have hroom := h.room
  exact ⟨place, levels - 1, rfl, by omega, hdistinct, hall, by simp only [List.length_cons]; omega⟩

/-- A route from `v` inside the containers of `path`. -/
structure Route.Continues (g : Graph) (path : List Nat) (v : Value) (r : Route) : Prop where
  walk : g.IsWalk v (r.inner ++ [r.last])
  distinct : (path.map Value.node ++ r.inner.map Prod.snd).Nodup
  ends : ¬ g.IsContainer r.last.2 ∨ r.last.2 ∈ path.map Value.node ++ r.inner.map Prod.snd

theorem continues_single {path : List Nat} (hpath : path.Nodup) {v : Value} {e : Value × Value} :
    Route.Continues g path v ⟨[], e⟩ ↔ g.Holds v e ∧ g.isLeaf path e.2 = true := by
  have hnodes : (path.map Value.node).Nodup := hpath.map (fun _ _ h => Value.node.inj h)
  rw [isLeaf_iff]
  constructor
  · rintro ⟨hwalk, -, hends⟩
    exact ⟨hwalk.1, by simpa using hends⟩
  · rintro ⟨hholds, hends⟩
    exact ⟨⟨hholds, trivial⟩, by simpa using hnodes, by simpa using hends⟩

theorem IsWalk.isContainer {v : Value} {es : List (Value × Value)} (h : g.IsWalk v es) (hes : es ≠ []) :
    g.IsContainer v := by
  cases es with
  | nil => exact (hes rfl).elim
  | cons e es => exact h.1.isContainer

theorem continues_after {path : List Nat} {v : Value} {e : Value × Value} {r : Route} :
    Route.Continues g path v (r.after e) ↔ g.Holds v e ∧ g.isLeaf path e.2 = false ∧
      Route.Continues g ((place? e.2).toList ++ path) e.2 r := by
  have hsplit : ∀ place, e.2 = .node place →
      (path.map Value.node ++ (r.after e).inner.map Prod.snd).Perm
        (((place? e.2).toList ++ path).map Value.node ++ r.inner.map Prod.snd) := by
    intro place hplace
    simp [Route.after, hplace, place?, List.perm_middle]
  constructor
  · rintro ⟨⟨hholds, hwalk⟩, hdistinct, hends⟩
    obtain ⟨place, hlt, hplace⟩ := hwalk.isContainer (by simp)
    have hperm := hsplit place hplace
    refine ⟨hholds, not_isLeaf_iff.mpr ⟨⟨place, hlt, hplace⟩, ?_⟩,
      ⟨hwalk, hperm.nodup_iff.mp hdistinct, hends.imp_right hperm.mem_iff.mp⟩⟩
    intro hmem
    exact (List.nodup_append.mp hdistinct).2.2 e.2 hmem e.2 (by simp [Route.after]) rfl
  · rintro ⟨hholds, hopen, hwalk, hdistinct, hends⟩
    obtain ⟨⟨place, -, hplace⟩, -⟩ := not_isLeaf_iff.mp hopen
    have hperm := hsplit place hplace
    exact ⟨⟨hholds, hwalk⟩, hperm.nodup_iff.mpr hdistinct, hends.imp_right hperm.mem_iff.mpr⟩

theorem single_mem_routesFrom {levels : Nat} {path : List Nat} {entries : List (Value × Value)}
    {e : Value × Value} : ⟨[], e⟩ ∈ g.routesFrom levels path entries ↔
      e ∈ entries ∧ g.isLeaf path e.2 = true := by
  cases levels <;> simp [routesFrom, Route.after]

theorem after_mem_routesFrom {levels : Nat} {path : List Nat} {entries : List (Value × Value)}
    {e : Value × Value} {r : Route} : r.after e ∈ g.routesFrom (levels + 1) path entries ↔
      (e ∈ entries ∧ g.isLeaf path e.2 = false) ∧
        r ∈ g.routesFrom levels ((place? e.2).toList ++ path) ((g.view e.2).getD []) := by
  simp only [routesFrom, List.mem_append, List.mem_map, List.mem_flatMap, List.mem_reverse,
    List.mem_filter, Bool.not_eq_true']
  constructor
  · rintro (⟨e', -, h⟩ | ⟨e', he', r', hr', h⟩)
    · cases h
    · obtain ⟨inner, last⟩ := r
      obtain ⟨inner', last'⟩ := r'
      obtain ⟨⟨rfl, rfl⟩, rfl⟩ : (e' = e ∧ inner' = inner) ∧ last' = last := by
        simpa [Route.after] using h
      exact ⟨he', hr'⟩
  · rintro ⟨he, hr⟩
    exact .inr ⟨e, he, r, hr, rfl⟩

/-- Flattening takes every route, and nothing but routes. -/
theorem mem_routesFrom_iff {inner : List (Value × Value)} {last : Value × Value} :
    ∀ {levels : Nat} {path : List Nat}, g.IsPath levels path → ∀ v,
      (⟨inner, last⟩ ∈ g.routesFrom levels path ((g.view v).getD []) ↔
        Route.Continues g path v ⟨inner, last⟩) := by
  induction inner with
  | nil =>
    intro levels path hpath v
    rw [single_mem_routesFrom, continues_single hpath.distinct, mem_view_iff]
  | cons e inner ih =>
    intro levels path hpath v
    have hcontinues : Route.Continues g path v ⟨e :: inner, last⟩ ↔ _ :=
      continues_after (r := ⟨inner, last⟩)
    rw [hcontinues, ← mem_view_iff]
    by_cases hopen : g.isLeaf path e.2 = false
    · obtain ⟨place, room, hplace, rfl, hpath'⟩ := hpath.opens hopen
      have hnext : g.IsPath room ((place? e.2).toList ++ path) := by simpa [hplace, place?] using hpath'
      rw [← ih hnext e.2, ← and_assoc]
      exact after_mem_routesFrom (r := ⟨inner, last⟩)
    · refine iff_of_false (fun h => ?_) (fun h => hopen h.2.1)
      cases levels with
      | zero => simp [routesFrom] at h
      | succ levels => exact hopen (after_mem_routesFrom (r := ⟨inner, last⟩).mp h).1.2

theorem isPath_root {root : Value} {entries : List (Value × Value)} (h : g.view root = some entries) :
    g.IsPath g.nodes.length (place? root).toList := by
  obtain ⟨place, hlt, rfl⟩ := isSome_view_iff.mp (Option.isSome_of_eq_some h)
  exact ⟨List.nodup_singleton _, by simpa [place?] using hlt, by simp⟩

/-- All routes from a root, in the order in which they are flattened. -/
def routes (g : Graph) (root : Value) : List Route :=
  g.routesFrom g.nodes.length (place? root).toList ((g.view root).getD [])

theorem flatten_eq (separator : String) (root : Value) :
    g.flatten separator root = mergeEntries (· == ·)
      ((g.routes root).map (Route.entry g separator)) := by
  unfold flatten routes
  cases h : g.view root with
  | none => cases g.nodes.length <;> rfl
  | some entries =>
    simp only [flattenFrom_eq, nameBelow, Option.getD_some]
    rfl

theorem mem_routes_iff {root : Value} {r : Route} : r ∈ g.routes root ↔ r.IsSimple g root := by
  obtain ⟨inner, last⟩ := r
  cases hroot : g.view root with
  | none =>
    have hleaf : ¬ g.IsContainer root := by simp [← isSome_view_iff, hroot]
    refine iff_of_false (fun h => ?_) (fun h => hleaf (h.walk.isContainer (by simp)))
    rw [routes, hroot] at h
    cases hn : g.nodes.length <;> rw [hn] at h <;> simp [routesFrom] at h
  | some entries =>
    have hpath := isPath_root hroot
    obtain ⟨place, hlt, rfl⟩ := isSome_view_iff.mp (Option.isSome_of_eq_some hroot)
    calc ⟨inner, last⟩ ∈ g.routes (.node place)
        ↔ Route.Continues g [place] (.node place) ⟨inner, last⟩ := mem_routesFrom_iff hpath _
      _ ↔ Route.IsSimple g (.node place) ⟨inner, last⟩ :=
          ⟨fun h => ⟨h.walk, h.distinct, h.ends⟩, fun h => ⟨h.walk, h.distinct, h.ends⟩⟩

/-- A container that is still to be taken up: the name that leads to it, the containers around it and itself,
and its entries. -/
structure Pending where
  above : Option String
  path : List Nat
  entries : List (Value × Value)

/-- The containers that are to be taken up, the next one first, and the entries found so far. -/
structure Worklist where
  pending : List Pending
  found : List (String × Value)

namespace Pending

/-- The entries that are kept, by their joined names. -/
def kept (g : Graph) (separator : String) (p : Pending) : List (String × Value) :=
  (p.entries.filter fun e => g.isLeaf p.path e.2).map fun e =>
    (g.joinName separator p.above e.1, e.2)

/-- The container that an entry opens. -/
def inside (g : Graph) (separator : String) (p : Pending) (e : Value × Value) : Pending :=
  ⟨some (g.joinName separator p.above e.1), (place? e.2).toList ++ p.path, (g.view e.2).getD []⟩

/-- The containers that are opened, the last one first. -/
def opened (g : Graph) (separator : String) (p : Pending) : List Pending :=
  (p.entries.filter fun e => !g.isLeaf p.path e.2).reverse.map (p.inside g separator)

/-- What flattening makes of a container. -/
def flat (g : Graph) (separator : String) (levels : Nat) (p : Pending) : List (String × Value) :=
  g.flattenFrom separator levels p.above p.path p.entries

theorem flat_zero (separator : String) (p : Pending) : p.flat g separator 0 = p.kept g separator := by
  simp [flat, flattenFrom, kept, List.filter_map, Function.comp_def]

theorem flat_succ (separator : String) (levels : Nat) (p : Pending) :
    p.flat g separator (levels + 1) =
      p.kept g separator ++ (p.opened g separator).flatMap (flat g separator levels) := by
  simp [flat, flattenFrom, kept, opened, inside, List.filter_map, ← List.map_reverse, List.flatMap_map,
    Function.comp_def]

end Pending

namespace Worklist

/-- An entry is kept, or its container is put in front of those that wait. -/
def enter (g : Graph) (separator : String) (p : Pending) (w : Worklist) (e : Value × Value) : Worklist :=
  if g.isLeaf p.path e.2 then
    { w with found := putEntry (· == ·) (g.joinName separator p.above e.1) e.2 w.found }
  else { w with pending := p.inside g separator e :: w.pending }

/-- All entries of the next container; there is no round where none waits. -/
def round (g : Graph) (separator : String) : Worklist → Option Worklist
  | ⟨[], _⟩ => none
  | ⟨p :: waiting, found⟩ => some (p.entries.foldl (enter g separator p) ⟨waiting, found⟩)

/-- The root alone, if it is a container. -/
def start (g : Graph) (root : Value) : Worklist :=
  ⟨((g.view root).map fun entries => ⟨none, (place? root).toList, entries⟩).toList, []⟩

/-- Any number of rounds. -/
def Leads (g : Graph) (separator : String) : Worklist → Worklist → Prop :=
  Relation.ReflTransGen fun w w' => w.round g separator = some w'

end Worklist

/-- Entries put one after the other into those that are there. -/
def putAll (found entries : List (String × Value)) : List (String × Value) :=
  entries.foldl (fun found e => putEntry (· == ·) e.1 e.2 found) found

theorem putAll_append (found entries more : List (String × Value)) :
    putAll found (entries ++ more) = putAll (putAll found entries) more :=
  List.foldl_append

theorem foldl_enter (separator : String) (p : Pending) (entries : List (Value × Value)) :
    ∀ waiting found, entries.foldl (Worklist.enter g separator p) ⟨waiting, found⟩ =
      ⟨Pending.opened g separator { p with entries } ++ waiting,
        putAll found (Pending.kept g separator { p with entries })⟩ := by
  induction entries with
  | nil => exact fun _ _ => rfl
  | cons e entries ih =>
    intro waiting found
    rw [List.foldl_cons]
    cases h : g.isLeaf p.path e.2 with
    | true => simp [Worklist.enter, h, ih, putAll, Pending.kept, Pending.opened, Pending.inside]
    | false => simp [Worklist.enter, h, ih, Pending.kept, Pending.opened, Pending.inside]

/-- A round keeps what can be kept, and what is opened comes before what waits. -/
theorem round_eq (separator : String) (p : Pending) (waiting : List Pending)
    (found : List (String × Value)) :
    Worklist.round g separator ⟨p :: waiting, found⟩ =
      some ⟨p.opened g separator ++ waiting, putAll found (p.kept g separator)⟩ := by
  rw [Worklist.round, foldl_enter]

/-- Containers are taken up one after the other, and each adds what is flattened from it. -/
theorem leads_append {separator : String} {flat : Pending → List (String × Value)}
    (ps waiting : List Pending) (h : ∀ p ∈ ps, ∀ waiting found,
      Worklist.Leads g separator ⟨p :: waiting, found⟩ ⟨waiting, putAll found (flat p)⟩) :
    ∀ found, Worklist.Leads g separator ⟨ps ++ waiting, found⟩
      ⟨waiting, putAll found (ps.flatMap flat)⟩ := by
  induction ps with
  | nil => exact fun _ => .refl
  | cons p ps ih =>
    intro found
    obtain ⟨hp, hps⟩ := List.forall_mem_cons.mp h
    rw [List.flatMap_cons, putAll_append]
    exact (hp (ps ++ waiting) found).trans (ih hps _)

/-- What is opened on a path stands on a longer one. -/
theorem IsPath.of_opened {levels : Nat} {separator : String} {p q : Pending}
    (h : g.IsPath levels p.path) (hq : q ∈ p.opened g separator) :
    ∃ room, levels = room + 1 ∧ g.IsPath room q.path := by
  obtain ⟨e, he, rfl⟩ := List.mem_map.mp hq
  obtain ⟨-, hopen⟩ := List.mem_filter.mp (List.mem_reverse.mp he)
  obtain ⟨place, room, hplace, hlevels, hpath⟩ := h.opens (by simpa using hopen)
  have hinside : (p.inside g separator e).path = place :: p.path := by
    rw [Pending.inside, hplace]
    rfl
  exact ⟨room, hlevels, hinside ▸ hpath⟩

/-- The number of containers that are not on the path yet bounds how deep this goes. -/
theorem leads_flat (separator : String) {levels : Nat} : ∀ {p : Pending}, g.IsPath levels p.path →
    ∀ waiting found, Worklist.Leads g separator ⟨p :: waiting, found⟩
      ⟨waiting, putAll found (p.flat g separator levels)⟩ := by
  induction levels with
  | zero =>
    intro p hp waiting found
    have hnone : p.opened g separator = [] := by
      rw [List.eq_nil_iff_forall_not_mem]
      intro q hq
      obtain ⟨room, hroom, -⟩ := hp.of_opened hq
      omega
    refine .single ?_
    rw [round_eq, hnone, Pending.flat_zero, List.nil_append]
  | succ levels ih =>
    intro p hp waiting found
    rw [Pending.flat_succ, putAll_append]
    refine .head (round_eq separator p waiting found) (leads_append _ waiting ?_ _)
    intro q hq
    obtain ⟨room, hroom, hpath⟩ := hp.of_opened hq
    obtain rfl : levels = room := by omega
    exact ih hpath

/-- The worklist runs empty, and what is found by then is the flattened form. -/
theorem leads_flatten (separator : String) (root : Value) :
    (Worklist.start g root).Leads g separator ⟨[], g.flatten separator root⟩ := by
  unfold Worklist.start flatten
  cases h : g.view root with
  | none => exact .refl
  | some entries => exact leads_flat separator (p := ⟨none, _, entries⟩) (isPath_root h) [] []

end Graph
end MessageFormat

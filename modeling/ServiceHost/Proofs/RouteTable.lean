import Mathlib.Data.List.Infix
import ServiceHost.Http.Router

/-!
# Route tables

A table answers a path from a list of subtrees that it keeps longest first. The order is that of
the bytes, while a reader thinks of characters; both agree on what a path begins with, since of
two beginnings of one text the one with more bytes is the one with more characters, and one with
as many bytes is the same (`length_le_of_beginsWith`).

* `RouteTable.WellFormed` is the invariant of the list: it holds the registered subtrees, longest
  first. `RouteTable.WellFormed.insert` carries it over a registration.
* `RouteTable.WellFormed.find?_subtrees` says that the first subtree of the list that a path lies
  in is the longest.
* `Router.mem_routes` and `Router.routes_listed` say what a router lists: every pair that has a
  handler, once and in order.
-/

namespace ServiceHost

/-! ### Beginnings of a text -/

theorem beginsWith_iff {s start : String} :
    beginsWith s start = true ↔ start.toList <+: s.toList := List.isPrefixOf_iff_prefix

/-- A beginning has no more bytes than its text, and as many only if it is the text. -/
theorem eq_of_prefix_of_utf8ByteSize_le {a b : String} (h : a.toList <+: b.toList)
    (size : b.utf8ByteSize ≤ a.utf8ByteSize) : a = b := by
  obtain ⟨rest, hrest⟩ := h
  have hb : b = a ++ String.ofList rest := by
    rw [← String.toList_inj, String.toList_append, String.toList_ofList, hrest]
  rw [hb, String.utf8ByteSize_append] at size
  have hempty : String.ofList rest = "" := String.utf8ByteSize_eq_zero_iff.mp (by omega)
  rw [hb, hempty, String.append_empty]

/-- Of two beginnings of one text, the one with more bytes has more characters. -/
theorem length_le_of_beginsWith {path a b : String} (ha : beginsWith path a = true)
    (hb : beginsWith path b = true) (size : a.utf8ByteSize ≤ b.utf8ByteSize) :
    a.length ≤ b.length := by
  rw [beginsWith_iff] at ha hb
  rw [← String.length_toList, ← String.length_toList]
  -- of two beginnings one begins with the other, and the bytes tell which one
  rcases List.prefix_or_prefix_of_prefix ha hb with h | h
  · exact h.length_le
  · rw [eq_of_prefix_of_utf8ByteSize_le h size]

/-- Two beginnings of one text that are equally long are the same. -/
theorem eq_of_beginsWith_of_length_eq {path a b : String} (ha : beginsWith path a = true)
    (hb : beginsWith path b = true) (h : a.length = b.length) : a = b := by
  rw [beginsWith_iff] at ha hb
  rw [← String.length_toList, ← String.length_toList] at h
  rw [← String.toList_inj]
  rcases List.prefix_or_prefix_of_prefix ha hb with hp | hp
  · exact hp.eq_of_length h
  · exact (hp.eq_of_length h.symm).symm

/-! ### The list of subtrees -/

namespace RouteTable

variable {H : Type}

/-- One list entry stands before another if it is at least as long. -/
def NoLonger (a b : String) : Prop := b.utf8ByteSize ≤ a.utf8ByteSize

theorem mem_placeSubtree {pattern p : String} {subtrees : List String} :
    p ∈ placeSubtree pattern subtrees ↔ p = pattern ∨ p ∈ subtrees := by
  induction subtrees with
  | nil => simp [placeSubtree]
  | cons other rest ih =>
    unfold placeSubtree
    split
    · simp
    · rw [List.mem_cons, ih, List.mem_cons, or_left_comm]

/-- A subtree that is put in its place keeps the list longest first. -/
theorem placeSubtree_pairwise (pattern : String) {subtrees : List String}
    (h : subtrees.Pairwise NoLonger) : (placeSubtree pattern subtrees).Pairwise NoLonger := by
  induction subtrees with
  | nil => exact List.pairwise_singleton _ _
  | cons other rest ih =>
    obtain ⟨below, tail⟩ := List.pairwise_cons.mp h
    unfold placeSubtree
    split
    · next shorter =>
      -- it stands before the first entry that has fewer bytes, and so before all that follow
      refine List.pairwise_cons.mpr ⟨fun p hp => ?_, h⟩
      rcases List.mem_cons.mp hp with rfl | hp
      · exact Nat.le_of_lt shorter
      · exact Nat.le_trans (below p hp) (Nat.le_of_lt shorter)
    · next longer =>
      refine List.pairwise_cons.mpr ⟨fun p hp => ?_, ih tail⟩
      rcases mem_placeSubtree.mp hp with rfl | hp
      · exact Nat.not_lt.mp longer
      · exact below p hp

/-- The invariant of the list of subtrees: it holds the registered patterns that end in a slash,
longest first. -/
structure WellFormed (t : RouteTable H) : Prop where
  /-- The list holds the registered subtrees and nothing else. -/
  mem_subtrees : ∀ p, p ∈ t.subtrees ↔ endsInSlash p = true ∧ t.nodes.contains p = true
  /-- No subtree stands before a longer one. -/
  longest_first : t.subtrees.Pairwise NoLonger

theorem WellFormed.empty : WellFormed ({} : RouteTable H) where
  mem_subtrees := by simp [KeyMap.contains]
  longest_first := List.Pairwise.nil

/-- The patterns after a registration are the patterns before it and the new one. -/
theorem contains_insert {t : RouteTable H} {method : Method} {pattern p : String} {handler : H} :
    (t.insert method pattern handler).nodes.contains p = true ↔
      p = pattern ∨ t.nodes.contains p = true := by
  rw [KeyMap.contains_iff_mem_keys, KeyMap.contains_iff_mem_keys]
  exact KeyMap.mem_keys_insert

/-- A registration adds one handler and changes no other. -/
theorem find?_verbsAt_insert (t : RouteTable H) (method m : Method) (pattern p : String)
    (handler : H) :
    ((t.insert method pattern handler).verbsAt p).find? m =
      if p = pattern ∧ m = method then some handler else (t.verbsAt p).find? m := by
  -- only the methods of the pattern itself are another map
  have hnode : (t.insert method pattern handler).verbsAt p =
      if p = pattern then (t.verbsAt pattern).insert method handler else t.verbsAt p := by
    unfold verbsAt insert
    rw [KeyMap.find?_insert]
    split <;> rfl
  rw [hnode]
  by_cases hp : p = pattern
  · subst hp
    rw [if_pos rfl, KeyMap.find?_insert]
    simp
  · simp [hp]

/-- **The invariant is kept.** A subtree enters the list at its first registration, and a second
method on a pattern leaves the list alone. -/
theorem WellFormed.insert {t : RouteTable H} (h : t.WellFormed) (method : Method)
    (pattern : String) (handler : H) : (t.insert method pattern handler).WellFormed := by
  have hsub : (t.insert method pattern handler).subtrees =
      if endsInSlash pattern && !t.nodes.contains pattern then placeSubtree pattern t.subtrees
      else t.subtrees := rfl
  constructor
  · intro p
    rw [contains_insert, hsub]
    split
    · next hnew =>
      -- a new subtree is put into the list
      rw [mem_placeSubtree, h.mem_subtrees]
      simp only [Bool.and_eq_true] at hnew
      constructor
      · rintro (rfl | ⟨hslash, hp⟩)
        · exact ⟨hnew.1, Or.inl rfl⟩
        · exact ⟨hslash, Or.inr hp⟩
      · rintro ⟨hslash, rfl | hp⟩
        · exact Or.inl rfl
        · exact Or.inr ⟨hslash, hp⟩
    · next hold =>
      -- the pattern is no subtree, or the list has it already
      rw [h.mem_subtrees]
      constructor
      · rintro ⟨hslash, hp⟩
        exact ⟨hslash, Or.inr hp⟩
      · rintro ⟨hslash, rfl | hp⟩
        · refine ⟨hslash, ?_⟩
          rw [hslash, Bool.true_and, Bool.not_eq_true, Bool.not_eq_false'] at hold
          exact hold
        · exact ⟨hslash, hp⟩
  · rw [hsub]
    split
    · exact placeSubtree_pairwise pattern h.longest_first
    · exact h.longest_first

/-- **The first is the longest.** The first subtree of the list that a path begins with is
registered, and no registered subtree that the path begins with has more characters. -/
theorem WellFormed.find?_subtrees {t : RouteTable H} (h : t.WellFormed) {path pattern : String}
    (hfind : t.subtrees.find? (beginsWith path) = some pattern) :
    endsInSlash pattern = true ∧ t.nodes.contains pattern = true ∧
      beginsWith path pattern = true ∧
      ∀ p, endsInSlash p = true → t.nodes.contains p = true → beginsWith path p = true →
        p.length ≤ pattern.length := by
  obtain ⟨hbegins, before, after, hsplit, hnone⟩ := List.find?_eq_some_iff_append.mp hfind
  have hmem : pattern ∈ t.subtrees := by rw [hsplit]; simp
  obtain ⟨hslash, hnode⟩ := (h.mem_subtrees pattern).mp hmem
  refine ⟨hslash, hnode, hbegins, fun p hp hreg hpath => ?_⟩
  have hpmem : p ∈ before ++ pattern :: after := hsplit ▸ (h.mem_subtrees p).mpr ⟨hp, hreg⟩
  have hsorted : (before ++ pattern :: after).Pairwise NoLonger := hsplit ▸ h.longest_first
  rcases List.mem_append.mp hpmem with hpmem | hpmem
  · -- what stands before the first match is no beginning of the path
    have := hnone p hpmem
    simp [hpath] at this
  · rcases List.mem_cons.mp hpmem with rfl | hpmem
    · exact Nat.le_refl _
    · -- what stands behind it has no more bytes, and so no more characters
      have hshort := (List.pairwise_cons.mp (List.pairwise_append.mp hsorted).2.1).1 p hpmem
      exact length_le_of_beginsWith hpath hbegins hshort

end RouteTable

/-! ### What a router does with a table -/

namespace Router

variable {H : Type}

/-- **Registration.** A route without a pattern is refused, then a route whose pair of method and
full pattern has a handler; any other enters the table. -/
theorem register_cases (r : Router H) (route : Route H) :
    (route.pattern = "" ∧ r.register route = (r, .error (.invalidPattern ""))) ∨
    (route.pattern ≠ "" ∧
      r.table.contains route.method (r.contextPath ++ route.pattern) = true ∧
      r.register route =
        (r, .error (.duplicate route.method (r.contextPath ++ route.pattern)))) ∨
    (route.pattern ≠ "" ∧
      r.table.contains route.method (r.contextPath ++ route.pattern) = false ∧
      r.register route =
        ({ r with
          table := r.table.insert route.method (r.contextPath ++ route.pattern) route.handler },
        .ok ())) := by
  unfold register handle
  by_cases hempty : route.pattern = ""
  · simp [hempty]
  · cases hold : r.table.contains route.method (r.contextPath ++ route.pattern) <;>
      simp [hempty, hold]

/-! ### What a router lists -/

/-- One pair is listed before another: by the pattern, and on one pattern by the method. -/
def Listed (a b : Method × String) : Prop := a.2 < b.2 ∨ a.2 = b.2 ∧ a.1 < b.1

/-- A pair is listed exactly when it has a handler. -/
theorem mem_routes {r : Router H} {method : Method} {pattern : String} :
    (method, pattern) ∈ r.routes ↔
      ((r.table.verbsAt pattern).find? method).isSome = true := by
  -- the list goes through the patterns, and on each of them through its methods
  have hentry : (method, pattern) ∈ r.routes ↔
      ∃ verbs, (pattern, verbs) ∈ r.table.nodes.entries ∧ method ∈ verbs.keys := by
    constructor
    · intro h
      obtain ⟨⟨p, verbs⟩, hmem, hpair⟩ := List.mem_flatMap.mp h
      obtain ⟨m, hm, heq⟩ := List.mem_map.mp hpair
      obtain ⟨rfl, rfl⟩ := Prod.mk.inj heq
      exact ⟨verbs, hmem, hm⟩
    · rintro ⟨verbs, hmem, hm⟩
      exact List.mem_flatMap.mpr ⟨(pattern, verbs), hmem, List.mem_map.mpr ⟨method, hm, rfl⟩⟩
  rw [hentry, RouteTable.verbsAt]
  -- in a map there is one entry for a key, which is the one that is found
  cases hfind : r.table.nodes.find? pattern with
  | none =>
    refine ⟨fun ⟨verbs, hmem, _⟩ => ?_, fun h => nomatch h⟩
    rw [← KeyMap.find?_eq_some_iff, hfind] at hmem
    cases hmem
  | some held =>
    rw [Option.getD_some]
    constructor
    · rintro ⟨verbs, hmem, hm⟩
      rw [← KeyMap.find?_eq_some_iff, hfind] at hmem
      obtain rfl := Option.some.inj hmem
      exact KeyMap.contains_iff_mem_keys.mpr hm
    · intro h
      exact ⟨held, KeyMap.find?_eq_some_iff.mp hfind, KeyMap.contains_iff_mem_keys.mp h⟩

/-- Routes are listed in order, each pair once. -/
theorem routes_listed (r : Router H) : r.routes.Pairwise Listed := by
  refine List.pairwise_flatMap.mpr ⟨fun entry _ => ?_, ?_⟩
  · exact List.pairwise_map.mpr (entry.2.keys_ascending.imp fun h => Or.inr ⟨rfl, h⟩)
  · -- pairs of two patterns stand in the order of the patterns
    refine r.table.nodes.ascending.imp fun {a b} hab x hx y hy => Or.inl ?_
    obtain ⟨m, -, rfl⟩ := List.mem_map.mp hx
    obtain ⟨m', -, rfl⟩ := List.mem_map.mp hy
    exact hab

theorem nodup_routes (r : Router H) : r.routes.Nodup := by
  refine r.routes_listed.imp fun {a b} h hab => ?_
  subst hab
  rcases h with h | ⟨-, h⟩
  · exact Std.lt_irrefl h
  · exact Std.lt_irrefl h

/-! ### Answers -/

variable {σ : Type} {r : Router (Handler σ)} {request : Request}

/-- On a pattern, the handler of the method is run; without one the method is refused. -/
theorem serve_of_find_node {pattern : String} {verbs : Verbs (Handler σ)}
    (h : r.table.find request.target.path = .node pattern verbs) (s : σ) :
    r.serve request s = match verbs.find? request.method with
      | some handler => handler request s
      | none => (.methodNotAllowed verbs.keys, s) := by
  unfold serve resolve
  rw [h]
  simp only
  cases verbs.find? request.method <;> rfl

/-- A redirect is answered by the location, if that can be sent. -/
theorem serve_of_find_redirect {path : String}
    (h : r.table.find request.target.path = .redirect path)
    (sendable : isHeaderValue (locationText path request.target.query) = true) (s : σ) :
    r.serve request s = (.movedPermanently (locationText path request.target.query), s) := by
  unfold serve resolve
  rw [h]
  simp only [sendable, if_true]
  rfl

/-- Where nothing matches, nothing is found. -/
theorem serve_of_find_none (h : r.table.find request.target.path = .none) (s : σ) :
    r.serve request s = (.notFound, s) := by
  unfold serve resolve
  rw [h]
  rfl

end Router

end ServiceHost

import Mathlib.Data.List.Nodup
import ServiceHost.Proofs.RouteScan

/-!
# The order of routes

A table keeps its subtrees in a list, and among subtrees of one length those stand first that were
registered first. The order of the registrations is in the table, then; but no path meets it, since
of two subtrees of one length a path lies in one at most.

* `Route.handler?_perm` says that a scan of routes with different pairs finds the same handlers in
  any order, and `Route.longestSubtree?_congr` that the longest subtree depends on the patterns
  alone.
* `RouteTable.Reflects.find_eq_of_perm` says that two tables that hold the same routes, registered
  in different orders, are met alike by every path.
* `Router.Reflects.serve_eq_of_perm`: neither the answers of a router nor its list of routes tell
  the order.
* `Router.Reflects.handle_of_fresh`: a route with a pattern whose pair is new is accepted.
-/

namespace ServiceHost

/-! ### Scans in any order -/

namespace Route

variable {H : Type} {routes routes' : List (Route H)}

/-- What a route is registered under. -/
def pair (r : Route H) : Method × String := (r.method, r.pattern)

/-- In routes with different pairs a handler is found exactly where its route stands. -/
theorem handler?_eq_some_iff (distinct : (routes.map pair).Nodup) {method : Method}
    {pattern : String} {handler : H} :
    handler? routes method pattern = some handler ↔ ⟨method, pattern, handler⟩ ∈ routes := by
  -- the scan compares method and pattern, which together are the pair
  have hmatches : ∀ r : Route H,
      (r.method == method && r.pattern == pattern) = true ↔ r.pair = (method, pattern) := by
    intro r
    rw [Bool.and_eq_true, beq_iff_eq, beq_iff_eq, pair, Prod.mk.injEq]
  rw [handler?, Option.map_eq_some_iff]
  constructor
  · rintro ⟨r, hfind, rfl⟩
    have hfound := List.find?_some hfind
    obtain ⟨rfl, rfl⟩ := Prod.mk.inj ((hmatches r).mp hfound)
    exact List.mem_of_find?_eq_some hfind
  · intro hmem
    have hsome : (routes.find? fun r => r.method == method && r.pattern == pattern).isSome = true :=
      List.find?_isSome.mpr ⟨_, hmem, (hmatches _).mpr rfl⟩
    obtain ⟨r, hfind⟩ := Option.isSome_iff_exists.mp hsome
    -- the route that is found has the same pair, and no other route has it
    have hfound := List.find?_some hfind
    have hpair : r.pair = (method, pattern) := (hmatches r).mp hfound
    have hr : r = ⟨method, pattern, handler⟩ :=
      List.inj_on_of_nodup_map distinct (List.mem_of_find?_eq_some hfind) hmem hpair
    exact ⟨r, hfind, congrArg Route.handler hr⟩

/-- **Handlers** are found alike in any order of the routes. -/
theorem handler?_perm (hperm : routes.Perm routes') (distinct : (routes.map pair).Nodup)
    (method : Method) (pattern : String) :
    handler? routes method pattern = handler? routes' method pattern := by
  have distinct' : (routes'.map pair).Nodup := (hperm.map pair).nodup_iff.mp distinct
  refine Option.ext fun handler => ?_
  rw [handler?_eq_some_iff distinct, handler?_eq_some_iff distinct', hperm.mem_iff]

theorem isPattern_perm (hperm : routes.Perm routes') (path : String) :
    isPattern routes path = isPattern routes' path := hperm.any_eq

theorem IsLongestSubtree.congr (h : ∀ p, Route.isPattern routes p = Route.isPattern routes' p)
    {path pattern : String} (hlongest : IsLongestSubtree routes path pattern) :
    IsLongestSubtree routes' path pattern where
  isPattern := (h pattern).symm.trans hlongest.isPattern
  endsInSlash := hlongest.endsInSlash
  beginsWith := hlongest.beginsWith
  longest p hp := hlongest.longest p ((h p).trans hp)

/-- **The longest subtree** that a path lies in depends on the patterns alone. -/
theorem longestSubtree?_congr (h : ∀ p, isPattern routes p = isPattern routes' p)
    (path : String) : longestSubtree? routes path = longestSubtree? routes' path := by
  refine Option.ext fun pattern => ?_
  -- the longest subtree is told by what is a pattern, and not by the place of a route
  rw [longestSubtree?_eq_some_iff, longestSubtree?_eq_some_iff]
  exact ⟨.congr h, .congr fun p => (h p).symm⟩

end Route

/-! ### Tables of the same routes -/

namespace RouteTable.Reflects

variable {H : Type} {t t' : RouteTable H} {routes routes' : List (Route H)}

/-- The handlers of a pattern are held alike, whatever the order of the registrations. -/
theorem verbsAt_eq_of_perm (h : t.Reflects routes) (h' : t'.Reflects routes')
    (hperm : routes.Perm routes') (pattern : String) : t.verbsAt pattern = t'.verbsAt pattern := by
  -- maps that find the same are the same, as they keep their keys in order
  refine KeyMap.eq_of_find?_eq fun method => ?_
  rw [h.handler, h'.handler]
  exact Route.handler?_perm hperm h.nodup method pattern

/-- **Patterns with their handlers** are held alike, whatever the order of the registrations. -/
theorem nodes_eq_of_perm (h : t.Reflects routes) (h' : t'.Reflects routes')
    (hperm : routes.Perm routes') : t.nodes = t'.nodes := by
  refine KeyMap.eq_of_find?_eq fun pattern => ?_
  have hverbs := h.verbsAt_eq_of_perm h' hperm pattern
  have hcontains : t.nodes.contains pattern = t'.nodes.contains pattern := by
    rw [h.pattern, h'.pattern]
    exact Route.isPattern_perm hperm pattern
  unfold verbsAt at hverbs
  unfold KeyMap.contains at hcontains
  -- a pattern is held by both tables or by none, and with the same methods
  cases hnode : t.nodes.find? pattern with
  | none =>
    rw [hnode, Option.isSome_none] at hcontains
    exact (Option.not_isSome_iff_eq_none.mp (hcontains ▸ Bool.false_ne_true)).symm
  | some verbs =>
    rw [hnode, Option.isSome_some] at hcontains
    obtain ⟨verbs', hnode'⟩ := Option.isSome_iff_exists.mp hcontains.symm
    rw [hnode, hnode', Option.getD_some, Option.getD_some] at hverbs
    rw [hnode', hverbs]

/-- **Every path meets the same** in tables of the same routes. Their lists of subtrees may differ
in order. -/
theorem find_eq_of_perm (h : t.Reflects routes) (h' : t'.Reflects routes')
    (hperm : routes.Perm routes') (path : String) : t.find path = t'.find path := by
  -- the lists of subtrees may differ, but not the first subtree that the path begins with
  have hsubtrees : t.subtrees.find? (beginsWith path) = t'.subtrees.find? (beginsWith path) := by
    rw [h.find?_subtrees_eq, h'.find?_subtrees_eq]
    exact Route.longestSubtree?_congr (Route.isPattern_perm hperm) path
  unfold find
  simp only [h.nodes_eq_of_perm h' hperm, hsubtrees, h.verbsAt_eq_of_perm h' hperm]

end RouteTable.Reflects

/-! ### Routers of the same routes -/

namespace Router.Reflects

variable {contextPath : String}

section Handlers

variable {H : Type} {r r' : Router H} {routes routes' : List (Route H)}

/-- A route with a pattern is accepted if none of the routes has its pair. -/
theorem handle_of_fresh (h : r.Reflects contextPath routes) {route : Route H}
    (hpattern : route.pattern ≠ "")
    (fresh : (route.below contextPath).pair ∉ routes.map Route.pair) :
    ∃ after, r.handle route.method route.pattern route.handler = .ok after ∧
      after.Reflects contextPath (routes ++ [route.below contextPath]) := by
  have hfull : r.contextPath ++ route.pattern = (route.below contextPath).pattern := by
    rw [h.contextPath_eq]
    rfl
  have hnew : r.table.contains route.method (r.contextPath ++ route.pattern) = false := by
    rw [RouteTable.contains, KeyMap.contains, h.table.handler, Route.handler?, Option.isSome_map,
      Bool.eq_false_iff]
    -- a handler for the pair would be that of a route with the pair
    intro hsome
    obtain ⟨old, hmem, hmatches⟩ := List.find?_isSome.mp hsome
    rw [Bool.and_eq_true, beq_iff_eq, beq_iff_eq, hfull] at hmatches
    exact fresh (List.mem_map.mpr ⟨old, hmem, Prod.ext hmatches.1 hmatches.2⟩)
  refine ⟨{ r with
      table := r.table.insert route.method (r.contextPath ++ route.pattern) route.handler },
    ?_, h.contextPath_eq, ?_⟩
  · simp only [handle, hpattern, hnew, if_false, Bool.false_eq_true]
  · rw [hfull] at hnew ⊢
    exact h.table.insert (route.below contextPath) hnew

/-- **A request meets the same** in routers of the same routes. -/
theorem resolve_eq_of_perm (h : r.Reflects contextPath routes)
    (h' : r'.Reflects contextPath routes') (hperm : routes.Perm routes') (method : Method)
    (target : Target) :
    r.resolve method target = r'.resolve method target := by
  unfold resolve
  rw [h.table.find_eq_of_perm h'.table hperm]

/-- Routers of the same routes list the same. -/
theorem routes_eq_of_perm (h : r.Reflects contextPath routes)
    (h' : r'.Reflects contextPath routes') (hperm : routes.Perm routes') :
    r.routes = r'.routes := by
  unfold Router.routes
  rw [h.table.nodes_eq_of_perm h'.table hperm]

end Handlers

/-- **Every request is answered alike** by routers of the same routes. -/
theorem serve_eq_of_perm {σ : Type} {r r' : Router (Handler σ)}
    {routes routes' : List (Route (Handler σ))} (h : r.Reflects contextPath routes)
    (h' : r'.Reflects contextPath routes') (hperm : routes.Perm routes') (request : Request)
    (s : σ) : r.serve request s = r'.serve request s := by
  unfold serve
  rw [h.resolve_eq_of_perm h' hperm]

end Router.Reflects

end ServiceHost
